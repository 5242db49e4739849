import Hexwire.Proofs.Line.Candid
import Hexwire.Proofs.Line.Faults
import Hexwire.Proofs.Transaction.Served

/-! # Candid exchanges and transactions

Exchanges and operations are candid on every device: an operation fails because it is refused,
because of the echo that it has received, or because of the last call that it has made. So is work
between two toggles of chip select, on a device that fails as the host's system does, up to the
toggle that releases chip select after a failure: by then the failure of the work is certain, and
that of the release does not take its place (`Hexwire.Transaction.candid_bracketed`).
-/

namespace Hexwire

open Hexwire.Action

namespace Frame

/-- Octets that are no digits are a fault of the transport. -/
theorem isTransport_of_decodePair_error {high low : UInt8} {fault : Fault}
    (failed : decodePair high low = .error fault) : fault.raised.IsTransport := by
  unfold decodePair at failed
  split at failed
  · cases failed
  · split at failed
    · cases failed
      exact Failure.isTransport_raisedFrom (by decide) _ _
    · cases failed
      exact Failure.isTransport_raised (by decide) _

/-- Octets that are not all digits are a fault of the transport. -/
theorem isTransport_of_decodePairs_error {digits : Bytes} {fault : Fault}
    (failed : decodePairs digits = .error fault) : fault.raised.IsTransport := by
  induction digits using decodePairs.induct with
  | case1 high low rest other pair =>
      simp only [decodePairs, pair, Except.error.injEq] at failed
      exact failed ▸ isTransport_of_decodePair_error pair
  | case2 high low rest octet pair other later ih =>
      simp only [decodePairs, pair, later, Except.error.injEq] at failed
      subst failed
      exact ih later
  | case3 high low rest octet pair data later =>
      simp [decodePairs, pair, later] at failed
  | case4 digits short =>
      rw [decodePairs] at failed
      · cases failed
      · exact short

/-- A frame that cannot be read is a failure of the transport. -/
theorem isTransport_of_decode_error {octets : Bytes} {size : Nat} {fault : Fault}
    (failed : decode octets size = .error fault) : fault.raised.IsTransport := by
  unfold decode at failed
  dsimp only at failed
  split at failed
  · cases failed
    exact Failure.isTransport_raised (by decide) _
  · cases pairs : decodePairs (octets.take (2 * size)) with
    | error other =>
        rw [pairs] at failed
        cases failed
        exact isTransport_of_decodePairs_error pairs
    | ok payload =>
        rw [pairs] at failed
        dsimp only [make] at failed
        split at failed
        · cases failed
        · cases failed
          exact Failure.isTransport_raised (by decide) _

end Frame

namespace Exchange

variable {own : Raised → Prop}

/-- An echo that is none is a fault of the transport. -/
theorem isTransport_of_ofEcho_error {echo : Bytes} {size : Nat} {raised : Raised}
    (failed : ofEcho echo size = .error raised) : raised.IsTransport := by
  unfold ofEcho at failed
  split at failed
  · cases read : Frame.decode echo size with
    | error fault =>
        rw [read] at failed
        cases failed
        exact Frame.isTransport_of_decode_error read
    | ok frame =>
        rw [read] at failed
        cases failed
  · cases failed
    exact Failure.isTransport_raised (by decide) _

/-- Awaiting an echo tells of the call that failed, or finds a fault in the echo. -/
theorem candid_awaitEcho (data : Bytes) (world : World) :
    (awaitEcho data).Candid (.talking own) world := by
  refine (Candid.sleep _).bind fun _ rested _ =>
    (Line.candid_receive _ rested).bind fun echo heard _ => ?_
  cases read : ofEcho echo data.length with
  | error raised => exact .stops rfl (.inl (isTransport_of_ofEcho_error read)) rfl
  | ok received => exact (Candid.note _).bind fun _ _ _ => .pure _

/-- An exchange tells of the call that failed, or is at fault by itself. -/
theorem candid_payload (data : Bytes) (world : World) :
    (payload data).Candid (.talking own) world := by
  by_cases empty : data = []
  · rw [empty, payload_nil]
    exact .pure _
  · by_cases long : Frame.maxPayload < data.length
    · rw [payload_of_long long]
      exact .stops rfl (.inl (Failure.isTransport_raised (by decide) _)) rfl
    · rw [payload_of_fits empty (Nat.not_lt.mp long)]
      exact (Line.candid_send _ world).bind fun _ sent _ => candid_awaitEcho data sent

/-- An exchange through a view tells of the call that failed, or is at fault by itself. -/
theorem candid_through (view : View) (world : World) :
    (through view).Candid (.talking own) world :=
  Candid.get.bind fun _ same _ => (candid_payload _ same).bind fun _ _ _ => .rewrite _

end Exchange

namespace Operation

variable {own : Raised → Prop}

/-- An operation is candid. Only a value that is no operation fails otherwise than the transport. -/
theorem candid_run {operation : Operation View}
    (refuses : ∀ value, operation = .unsupported value → own (unknown value).raised)
    (world : World) : operation.run.Candid (.talking own) world := by
  cases operation with
  | write source =>
      exact Candid.get.bind fun _ same _ =>
        (Exchange.candid_payload _ same).bind fun _ _ _ => .pure _
  | read target =>
      exact (Candid.rewrite _).bind fun _ zeroed _ => Exchange.candid_through target zeroed
  | transfer target source =>
      rw [run]
      split
      · exact Candid.get.bind fun _ _ _ => (Candid.rewrite _).bind fun _ copied _ =>
          Exchange.candid_through target copied
      · exact .stops rfl (.inl (Failure.isTransport_raised (by decide) _)) rfl
  | inPlace target => exact Exchange.candid_through target world
  | delay nanoseconds => exact .sleep pause
  | unsupported value => exact .stops rfl (.inr (refuses value rfl)) rfl

/-- Operations are candid, one after the other. -/
theorem candid_runAll {operations : List (Operation View)}
    (refuses : ∀ value, .unsupported value ∈ operations → own (unknown value).raised)
    (world : World) : (runAll operations).Candid (.talking own) world := by
  induction operations generalizing world with
  | nil => exact .pure _
  | cons first rest ih =>
      refine (candid_run (fun value same => ?_) world).bind fun _ later _ => ?_
      · exact refuses value (same ▸ List.mem_cons_self)
      · exact ih (fun value member => refuses value (List.mem_cons_of_mem _ member)) later

end Operation

/-- No call of a script fails but with a failure of the host's system. -/
structure Script.FailsAsHost (script : Script) : Prop where
  onOpen : ∀ failure, script.onOpen = some failure → failure.isHost .os
  onWrite : ∀ call failure, script.onWrite call = some failure → failure.isHost .os
  onRead : ∀ call failure, script.onRead call = .fail failure → failure.isHost .os
  onFlush : ∀ call failure, script.onFlush call = some failure → failure.isHost .os
  onClose : ∀ call failure, script.onClose call = some failure → failure.isHost .os

/-- A scripted device no call of which fails but with a failure of the host's system. -/
def Device.FailsAsHost : Device → Prop
  | scripted d => d.script.FailsAsHost
  | emulated _ => False

namespace Device.FailsAsHost

variable {before after device : Device} {call : Device.Call} {fault : Raised}

/-- Toggles fail as the host's system does if all calls do. -/
theorem toggles (host : device.FailsAsHost) : device.TogglesAsHost := by
  cases device with
  | scripted d => exact ⟨host.onWrite, host.onRead, host.onFlush⟩
  | emulated e => exact host.elim

/-- A device goes on failing as the host's system does when octets arrive. -/
theorem feed (host : device.FailsAsHost) (data : Bytes) : (device.feed data).FailsAsHost := by
  cases device with
  | scripted d => exact host
  | emulated e => exact host.elim

/-- A device that is opened again goes on failing as the host's system does. -/
theorem reopen (host : device.FailsAsHost) : device.reopen.FailsAsHost := by
  cases device with
  | scripted d => exact host
  | emulated e => exact host.elim

/-- A device goes on failing as the host's system does after any call. -/
theorem perform (host : device.FailsAsHost) (call : Device.Call) :
    (device.perform call).2.FailsAsHost := by
  cases device with
  | scripted d =>
      obtain ⟨after, made, script, -⟩ := perform_scripted d call
      rw [made, FailsAsHost, script]
      exact host
  | emulated e => exact host.elim

/-- A device goes on failing as the host's system does along any way. -/
theorem leads (host : before.FailsAsHost) (leads : before.Leads after) : after.FailsAsHost := by
  induction leads with
  | refl => exact host
  | tail _ step ih =>
      obtain ⟨call, rfl⟩ := step
      exact ih.perform call

/-- What a call fails with is a failure of the host's system. -/
theorem isHost_of_perform_error (host : before.FailsAsHost)
    (failed : before.perform call = (.error fault, after)) :
    fault.failure.isHost .os := by
  cases before with
  | emulated e => exact host.elim
  | scripted d =>
      have only : d.script.FailsOnly fun failure => failure.isHost .os :=
        ⟨host.onOpen, host.onWrite, host.onRead, host.onFlush, host.onClose⟩
      exact only.perform failed

end Device.FailsAsHost

/-- The terms of work after a failure of which chip select may be toggled back. -/
def Action.Terms.releasing (release : Bool) (own : Raised → Prop) : Terms :=
  { talking own with
    rest := fun reached after =>
      after = reached ∨ release ∧ after = (Transaction.release.result reached).2 }

namespace Transaction

variable {own : Raised → Prop} {release : Bool} {world : World}

/-- The failure of a release is reported, on a device that fails as the host's system does. -/
theorem release_of_host (host : world.device.FailsAsHost) :
    (Transaction.release.result world).1 = .ok () := by
  rw [result_release]
  rcases toggled : ChipSelect.toggle.result world with ⟨raised | ⟨⟩, after⟩
  · dsimp only
    rw [if_pos (ChipSelect.isBridge_of_toggle_error host.toggles toggled)]
  · rfl

/-- All calls of work between two toggles have succeeded if that work has. -/
theorem calm_bracketed {α : Type} {work : Action α} {value : α} {after : World}
    (candid : ∀ selected, work.Candid (.talking own) selected)
    (ran : (bracketed release work).result world = (.ok value, after)) :
    world.device.Untroubled after.device := by
  obtain ⟨selected, finished, toggled, worked, closed⟩ := result_bracketed_eq_ok_iff.mp ran
  have toggle (start : World) : ChipSelect.toggle.Candid (.talking own) start :=
    ChipSelect.candid_toggle start
  exact (((toggle world).calm toggled).trans ((candid selected).calm worked)).trans
    ((toggle finished).calm closed)

/-- Once work between two toggles has failed, its failure stands, and chip select may be
released. -/
theorem bracketed_of_error {α : Type} {work : Action α} {selected reached : World} {raised : Raised}
    (host : reached.device.FailsAsHost)
    (toggled : ChipSelect.toggle.result world = (.ok (), selected))
    (worked : work.result selected = (.error raised, reached)) :
    ∃ after, (bracketed release work).result world = (.error raised, after) ∧
      (after = reached ∨ release ∧ after = (Transaction.release.result reached).2) := by
  have freed := release_of_host host
  rw [result_bracketed_of_error toggled worked]
  by_cases released : (release && raised.failure.isOrdinary) = true
  · rw [if_pos released]
    rcases again : Transaction.release.result reached with ⟨other | ⟨⟩, after⟩
    · rw [again] at freed
      cases freed
    · exact ⟨after, rfl, .inr ⟨(Bool.and_eq_true_iff.mp released).1, rfl⟩⟩
  · rw [if_neg released]
    exact ⟨reached, rfl, .inl rfl⟩

/-- **Work between two toggles is candid,** on a device that fails as the host's system does. -/
theorem candid_bracketed {α : Type} {work : Action α} (host : world.device.FailsAsHost)
    (candid : ∀ selected, work.Candid (.talking own) selected) :
    (bracketed release work).Candid (.releasing release own) world := by
  have opening : ChipSelect.toggle.Candid (.talking own) world := ChipSelect.candid_toggle world
  rcases toggled : ChipSelect.toggle.result world with ⟨raised | ⟨⟩, selected⟩
  · obtain ⟨reached, explained, rfl⟩ := opening.explains toggled
    exact .fails (result_bracketed_of_unselected toggled) explained (.inl rfl)
  · have calm := opening.calm toggled
    rcases worked : work.result selected with ⟨raised | value, finished⟩
    · obtain ⟨reached, explained, rfl⟩ := (candid selected).explains worked
      have still := host.leads (calm.leads.trans explained.leads)
      obtain ⟨after, ran, rested⟩ := bracketed_of_error still toggled worked
      exact .fails ran (explained.later calm) rested
    · have before := calm.trans ((candid selected).calm worked)
      have closing : ChipSelect.toggle.Candid (.talking own) finished :=
        ChipSelect.candid_toggle finished
      have ran : (bracketed release work).result world = _ := result_bracketed_of_ok toggled worked
      rcases closed : ChipSelect.toggle.result finished with ⟨raised | ⟨⟩, after⟩
      · obtain ⟨reached, explained, rfl⟩ := closing.explains closed
        rw [closed] at ran
        exact .fails ran (explained.later before) (.inl rfl)
      · rw [closed] at ran
        exact .succeeds ran (before.trans (closing.calm closed))

/-- A transaction tells of the call that failed, or refuses what is no operation. -/
theorem candid_run {operations : List (Operation View)} (host : world.device.FailsAsHost)
    (refuses : ∀ value, .unsupported value ∈ operations → own (Operation.unknown value).raised) :
    (run release operations).Candid (.releasing release own) world :=
  candid_bracketed host (Operation.candid_runAll refuses)

/-- Exchanges of pieces tell of the call that failed, or are at fault by themselves. -/
theorem candid_exchangeAll (pieces : List Bytes) (world : World) :
    (exchangeAll pieces).Candid (.talking own) world := by
  induction pieces generalizing world with
  | nil => exact .pure _
  | cons first rest ih =>
      exact (Exchange.candid_payload first world).bind fun _ middle _ =>
        (ih middle).bind fun _ _ _ => .pure _

/-- An exchange of any size is candid. Only a size that no frame has fails otherwise than the
transport. -/
theorem candid_exchange {pieceSize : Int} (host : world.device.FailsAsHost)
    (refuses : ¬ (0 < pieceSize ∧ pieceSize ≤ Frame.maxPayload) → own (unfit pieceSize).raised)
    (data : Bytes) :
    (exchange release data pieceSize).Candid (.releasing release own) world := by
  unfold exchange
  by_cases fits : 0 < pieceSize ∧ pieceSize ≤ Frame.maxPayload
  · rw [if_pos fits]
    refine (Candid.note _).bind fun _ noted ran => ?_
    have still : noted.device.FailsAsHost := by
      cases ran
      exact host
    exact (candid_bracketed still (candid_exchangeAll _)).bind fun _ _ _ => .pure _
  · rw [if_neg fits]
    exact .fails (Action.result_fail _ world) (.inl ⟨.inr (refuses fits), .refl⟩) (.inl rfl)

end Transaction

end Hexwire
