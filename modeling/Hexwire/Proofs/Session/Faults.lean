import Hexwire.Proofs.Session.Account
import Hexwire.Proofs.Transaction.Candid

/-! # Sessions on a device that fails as the host's system does

On a scripted device whose calls fail with failures of the host's system only, a session fails as
the transport does: nothing that the host raises comes through. A step that fails either was refused
or has found a fault in what it received, and then no call had failed, or it tells of the first call
that failed, which is its cause (`Hexwire.Step.Fails`). Access is denied on opening only, and only
octets that are sent can run out of time (`Hexwire.Device.Call.Tells`).
-/

namespace Hexwire

open Hexwire.Action

/-- Whether the failure of the host to open a port means that access is denied. -/
def Line.denies (fault : Failure) : Bool :=
  fault.isHost .permission || Text.mentions fault.message "PermissionError" ||
    Text.mentions fault.message "Permission denied"

/-- A line is started with its report and a flush. -/
theorem Line.result_start {world : World} (line : Line) (opened : world.device.isOpen) :
    line.start.result world =
      (world.device.flush.1.mapError ofHost,
        { world with
          device := world.device.flush.2
          events := world.events ++ [.opened line.port line.baudRate] }) := by
  have still : { world with
      events := world.events ++ [Event.opened line.port line.baudRate] }.device.isOpen := opened
  exact (Action.result_bind_of_ok (Action.result_note _ _) _).trans (Line.result_flush still)

/-- A port that is not opened is told of with the failure of the host as its cause. -/
theorem Line.tells_ofHostOpen {fault : Failure} (host : fault.isHost .os) (port : String) :
    (ofHostOpen port fault).cause = some fault ∧ ∃ description,
      (ofHostOpen port fault).failure =
        .bridge (if denies fault then .permission else .io) description := by
  have known : (fault.isHost .os || fault.isHost .value) = true := by rw [host, Bool.true_or]
  unfold ofHostOpen
  rw [if_pos known]
  dsimp only
  rw [← denies]
  split
  · exact ⟨rfl, Failure.shown_raisedFrom .permission _ _⟩
  · exact ⟨rfl, Failure.shown_raisedFrom .io _ _⟩

namespace Operation

variable {value : Value} {store : Store}

/-- Only a value that is no operation becomes one. -/
theorem bind_eq_unsupported {operation : Operation Operand}
    (same : (operation.bind store).1 = .unsupported value) : operation = .unsupported value := by
  cases operation with
  | unsupported other =>
      cases same
      rfl
  | _ => cases same

/-- Operands become views; a value that is no operation remains what it is. -/
theorem unsupported_mem_of_bindAll {operations : List (Operation Operand)}
    (member : .unsupported value ∈ (bindAll store operations).1) :
    .unsupported value ∈ operations := by
  induction operations generalizing store with
  | nil => cases member
  | cons first rest ih =>
      rcases List.mem_cons.mp member with same | later
      · exact List.mem_cons.mpr (.inl (bind_eq_unsupported same.symm).symm)
      · exact List.mem_cons_of_mem _ (ih later)

end Operation

namespace Step

/-- The operations that a step runs. -/
def operations : Step → List (Operation Operand)
  | single operation => [operation]
  | transaction operations => operations
  | closingTransaction operations => operations
  | _ => []

/-- What a step is refused with: one of its operations is none, or it asks for pieces of a size that
no frame has. -/
inductive Refuses : Step → Raised → Prop where
  | operation {next : Step} {value : Value} (unsupported : .unsupported value ∈ next.operations) :
    Refuses next (Operation.unknown value).raised
  | pieceSize {source : Operand} {pieceSize : Int}
    (unfit : ¬ (0 < pieceSize ∧ pieceSize ≤ Frame.maxPayload)) :
    Refuses (exchange source pieceSize) (Transaction.unfit pieceSize).raised

/-- The calls that the work of a step makes. -/
def makes : Step → Device.Call → Prop
  | flush, call => call = .flush
  | close, call => call = .close
  | _, call => call.isTalk

/-- Whether the work of a step stands between two toggles. -/
def isBracketed : Step → Bool
  | single _ | transaction _ | closingTransaction _ | exchange _ _ => true
  | _ => false

/-- Whether a step closes the line after its work. -/
def closes : Step → Bool
  | closingTransaction _ | closingCall _ _ => true
  | _ => false

/-- The terms of the work of a step. -/
def terms (release : Bool) (next : Step) : Terms where
  own raised := raised.IsTransport ∨ next.Refuses raised
  calls := next.makes
  rest reached rested := rested = reached ∨
    (release ∧ next.isBracketed) ∧ rested = (Transaction.release.result reached).2

/-- What is left of a step once the failure of its work is certain: chip select is released where
that is asked for, and the line is closed. -/
def Subsides (release : Bool) (next : Step) (reached after : World) : Prop :=
  ∃ rested, (next.terms release).rest reached rested ∧
    if next.closes then Line.close.result rested = (.ok (), after) else rested = after

/-- **How a step fails** that starts with a device. -/
inductive Fails (release : Bool) (before : Device) (next : Step) (raised : Raised)
    (after : World) : Prop where
  /-- No call had failed when the step was refused or what it had received was not in order. -/
  | found (reached : World) (own : raised.IsTransport ∨ next.Refuses raised)
    (calm : before.Untroubled reached.device) (rest : next.Subsides release reached after)
  /-- A call failed, and none before it. -/
  | struck (reached : World) (call : Device.Call) (fault : Raised) (made : next.makes call)
    (struck : before.Struck call fault reached.device) (tells : call.Tells fault raised)
    (rest : next.Subsides release reached after)
  /-- The line could not be closed after the work. -/
  | unclosed (rested : Device) (fault : Raised) (closes : next.closes) (leads : before.Leads rested)
    (failed : rested.perform .close = (.error fault, after.device))
    (tells : Device.Call.close.Tells fault raised)

variable {next : Step} {release : Bool} {before : Device} {raised : Raised} {after : World}

/-- A step that fails does so as the transport does, unless it was refused. -/
theorem Fails.isTransport_or_refuses (fails : next.Fails release before raised after) :
    raised.IsTransport ∨ next.Refuses raised := by
  cases fails with
  | found _ own _ _ => exact own
  | struck _ _ _ _ _ tells _ => exact .inl tells.isTransport
  | unclosed _ _ _ _ _ tells => exact .inl tells.isTransport

/-- A release leads on from the device that is there. -/
theorem leads_release (world : World) :
    world.device.Leads (Transaction.release.result world).2.device := by
  have candid : ChipSelect.toggle.Candid (.talking fun _ => False) world :=
    ChipSelect.candid_toggle world
  have toggled : world.device.Leads (ChipSelect.toggle.result world).2.device :=
    candid.leads fun same => same ▸ .refl
  rw [Transaction.result_release]
  rcases ran : ChipSelect.toggle.result world with ⟨other | ⟨⟩, later⟩
  · rw [ran] at toggled
    dsimp only
    split <;> exact toggled
  · rw [ran] at toggled
    exact toggled

/-- What comes after the failure leads on from the device that is there. -/
theorem leads_of_rest {reached rested : World} (rest : (next.terms release).rest reached rested) :
    reached.device.Leads rested.device := by
  obtain rfl | ⟨-, rfl⟩ := rest
  · exact .refl
  · exact leads_release reached

/-- Where the failure of the work of a step is explained, the step fails as it should. -/
theorem fails_of_explains {reached : World} (host : before.FailsAsHost)
    (explains : (next.terms release).Explains before raised reached.device)
    (rest : next.Subsides release reached after) : next.Fails release before raised after := by
  obtain ⟨own, calm⟩ | ⟨call, fault, made, struck, rfl⟩ := explains
  · exact .found reached own calm rest
  · obtain ⟨middle, calm, failed⟩ := struck
    have tells := call.tells_raise ((host.leads calm.leads).isHost_of_perform_error failed)
    exact .struck reached call fault made ⟨middle, calm, failed⟩ tells rest

/-- How a step ends that starts with a device: the device goes on failing as the host's system does,
and a failure is one of those that a step has. -/
structure Ends {α : Type} (release : Bool) (before : Device) (next : Step)
    (outcome : Except Raised α) (after : World) : Prop where
  host : after.device.FailsAsHost
  fails : ∀ raised, outcome = .error raised → next.Fails release before raised after

variable {α β : Type} {outcome : Except Raised α} {work : Action α} {world : World}

/-- A change of the value leaves the end of a step as it is. -/
theorem Ends.map (ends : next.Ends release before outcome after) (change : α → β) :
    next.Ends release before (outcome.map change) after where
  host := ends.host
  fails raised failed := by
    cases outcome with
    | error other =>
        cases failed
        exact ends.fails raised rfl
    | ok value => cases failed

/-- A success needs nothing but a device that goes on failing as the host's system does. -/
theorem ends_of_ok (value : α) (host : after.device.FailsAsHost) :
    next.Ends release before (.ok value : Except Raised α) after :=
  ⟨host, by rintro _ ⟨⟩⟩

/-- A step of candid work ends as its terms say. -/
theorem ends_of_candid (host : world.device.FailsAsHost) (stays : next.closes = false)
    (candid : work.Candid (next.terms release) world) :
    next.Ends release world.device (work.result world).1 (work.result world).2 where
  host := host.leads (candid.leads leads_of_rest)
  fails raised failed := by
    obtain ⟨reached, explained, rest⟩ := candid.explains (Prod.ext failed rfl)
    refine fails_of_explains host explained ⟨_, rest, ?_⟩
    simp only [stays, Bool.false_eq_true, ↓reduceIte]

/-- A block of candid work ends as its terms say once the line is closed. -/
theorem ends_of_closing (host : world.device.FailsAsHost) (closes : next.closes)
    (candid : work.Candid (next.terms release) world) :
    next.Ends release world.device ((Line.closing work).result world).1
      ((Line.closing work).result world).2 where
  host := host.leads (Line.leads_closing candid leads_of_rest)
  fails raised failed := by
    obtain ⟨reached, rested, explained, rest, closed⟩ | ⟨rested, fault, leads, unclosed, rfl⟩ :=
      Line.closing_fails candid leads_of_rest (Prod.ext failed rfl)
    · refine fails_of_explains host explained ⟨rested, rest, ?_⟩
      rw [if_pos closes]
      exact closed
    · have tells := Device.Call.tells_raise .close
        ((host.leads leads).isHost_of_perform_error unclosed)
      exact .unclosed rested fault closes leads unclosed tells

/-- Work that talks is candid for a step that may talk. -/
theorem candid_of_talking (talks : ∀ call, call.isTalk → next.makes call)
    (candid : work.Candid (.talking next.Refuses) world) : work.Candid (next.terms release) world :=
  candid.mono (fun _ => id) talks fun _ _ same => .inl same.symm

/-- Work that makes a call is candid for a step that may make it. -/
theorem candid_of_making {call : Device.Call} (made : next.makes call)
    (candid : work.Candid (.making call) world) : work.Candid (next.terms release) world :=
  candid.mono (fun _ => .inl) (fun _ same => same ▸ made) fun _ _ same => .inl same.symm

/-- Work that releases chip select is candid for a step between toggles. -/
theorem candid_of_releasing (bracketed : next.isBracketed)
    (talks : ∀ call, call.isTalk → next.makes call)
    (candid : work.Candid (.releasing release next.Refuses) world) :
    work.Candid (next.terms release) world :=
  candid.mono (fun _ => id) talks fun _ _ =>
    .imp_right fun ⟨released, same⟩ => ⟨⟨released, bracketed⟩, same⟩

end Step

namespace Session

/-- Candid work is so too when it is done silently. -/
theorem candid_silently {terms : Terms} {work : Action Unit} {world : World}
    (candid : work.Candid terms world) : (silently work).Candid terms world :=
  candid.bind fun _ _ _ => .pure _

/-- The transaction of a step is candid once its operands are views. -/
theorem candid_prepared {release : Bool} {world : World} (host : world.device.FailsAsHost)
    (next : Step) (bracketed : next.isBracketed) (talks : ∀ call, call.isTalk → next.makes call) :
    (Transaction.run release (prepare world next.operations).1).Candid (next.terms release)
      (prepare world next.operations).2 := by
  have ready : (prepare world next.operations).2.device.FailsAsHost := host
  refine Step.candid_of_releasing bracketed talks (Transaction.candid_run ready ?_)
  intro value member
  exact .operation (Operation.unsupported_mem_of_bindAll member)

/-- **Every step fails as it should,** on a device that fails as the host's system does. -/
theorem step_ends {world : World} (host : world.device.FailsAsHost) (bridge : Bridge)
    (next : Step) :
    let taken := step bridge world next
    next.Ends bridge.releaseOnError world.device taken.1.1 taken.2.2 := by
  cases next with
  | toggle =>
      exact Step.ends_of_candid host rfl (candid_silently
        (Step.candid_of_talking (fun _ => id) (ChipSelect.candid_toggle world)))
  | command request expected =>
      exact Step.ends_of_candid host rfl (candid_silently
        (Step.candid_of_talking (fun _ => id) (Line.candid_command request expected world)))
  | exchangeFrame target =>
      rcases bound : target.bind world.store world.store.length with ⟨view, buffers⟩
      have ready : { world with store := buffers }.device.FailsAsHost := host
      simp only [step, bound]
      exact Step.ends_of_candid ready rfl (candid_silently
        (Step.candid_of_talking (fun _ => id) (Exchange.candid_through _ _)))
  | single operation =>
      have ready : (prepare world [operation]).2.device.FailsAsHost := host
      exact Step.ends_of_candid ready rfl
        (candid_silently (candid_prepared host (.single operation) rfl fun _ => id))
  | transaction operations =>
      have ready : (prepare world operations).2.device.FailsAsHost := host
      exact Step.ends_of_candid ready rfl
        (candid_silently (candid_prepared host (.transaction operations) rfl fun _ => id))
  | closingTransaction operations =>
      have ready : (prepare world operations).2.device.FailsAsHost := host
      simp only [step, step.many, result_silently]
      exact (Step.ends_of_closing ready rfl
        (candid_prepared host (.closingTransaction operations) rfl fun _ => id)).map _
  | closingCall data count =>
      exact Step.ends_of_closing host rfl (Step.candid_of_talking (fun _ => id)
        ((Line.candid_send data world).bind fun _ sent _ => (Line.candid_receive count sent).map))
  | exchange source pieceSize =>
      rcases bound : source.bind world.store world.store.length with ⟨view, buffers⟩
      have ready : { world with store := buffers }.device.FailsAsHost := host
      let data := buffers.load view
      have candid : (Transaction.exchange bridge.releaseOnError data pieceSize).Candid
          ((Step.exchange source pieceSize).terms bridge.releaseOnError)
          { world with store := buffers } :=
        Step.candid_of_releasing rfl (fun _ => id) (Transaction.candid_exchange ready .pieceSize _)
      simp only [step, bound, step.plain]
      rw [Action.result_bind_of_ok (Action.result_get _)]
      exact Step.ends_of_candid ready rfl candid.map
  | send data =>
      exact Step.ends_of_candid host rfl (candid_silently
        (Step.candid_of_talking (fun _ => id) (Line.candid_send data world)))
  | receive count =>
      exact Step.ends_of_candid host rfl
        (Step.candid_of_talking (fun _ => id) (Line.candid_receive count world)).map
  | flush =>
      have candid : Line.flush.Candid (Step.flush.terms bridge.releaseOnError) world :=
        Step.candid_of_making rfl (Line.candid_flush world)
      exact Step.ends_of_candid host rfl (candid_silently candid)
  | close =>
      have candid : Line.close.Candid (Step.close.terms bridge.releaseOnError) world :=
        Step.candid_of_making rfl (Line.candid_close world)
      exact Step.ends_of_candid host rfl (candid_silently candid)
  | isOpen => exact Step.ends_of_ok _ host
  | describe => exact Step.ends_of_ok _ host
  | feed data => exact Step.ends_of_ok _ (host.feed data)
  | reopen => exact Step.ends_of_ok _ host.reopen
  | setRelease release => exact Step.ends_of_ok _ host

/-- The steps of a session leave a device that goes on failing as the host's system does. -/
theorem reach_host {world : World} (host : world.device.FailsAsHost) (bridge : Bridge)
    (steps : List Step) : (reach bridge world steps).2.device.FailsAsHost := by
  induction steps generalizing bridge world with
  | nil => exact host
  | cons first rest ih =>
      have ready : (fresh world).device.FailsAsHost := host
      exact ih (step_ends ready bridge first).host _

section Start

variable {script : Script} (line : Line) (incoming : Bytes) (store : Store)

/-- A port that the host does not open is refused. -/
theorem start_of_refused {fault : Failure} (planned : script.onOpen = some fault) :
    start line (.scripted script incoming) store =
      .refused (Line.ofHostOpen line.port fault) := by
  rw [start, Line.connect, Peer.connect, planned]
  rfl

/-- A port that the host opens is connected as its first flush ends. -/
theorem start_of_opened (planned : script.onOpen = none) :
    let device : Device := .scripted { script := script, queue := incoming }
    start line (.scripted script incoming) store =
      .connected (device.flush.1.mapError Line.ofHost)
        { device := device.flush.2, store := store
          events := [.opened line.port line.baudRate] } := by
  intro device
  have opened : ({ device := device, store := store } : World).device.isOpen := rfl
  rw [start, Line.connect, Peer.connect, planned]
  exact congrArg (fun ended => Opening.connected ended.1 ended.2) (Line.result_start line opened)

end Start

/-- A port is refused because of the host's failure to open it, and an open port fails because of
its first flush. -/
theorem start_scripted (line : Line) (script : Script) (incoming : Bytes) (store : Store)
    (host : script.FailsAsHost) :
    match start line (.scripted script incoming) store with
    | .refused raised => ∃ fault, script.onOpen = some fault ∧ raised.cause = some fault ∧
        ∃ description, raised.failure =
          .bridge (if Line.denies fault then .permission else .io) description
    | .connected (.error raised) _ => ∃ fault, script.onFlush 0 = some fault ∧
        Device.Call.flush.Tells fault.raised raised
    | .connected (.ok _) world => world.device.FailsAsHost := by
  cases planned : script.onOpen with
  | some fault =>
      obtain ⟨caused, shown⟩ := Line.tells_ofHostOpen (host.onOpen fault planned) line.port
      rw [start_of_refused line incoming store planned]
      exact ⟨fault, rfl, caused, shown⟩
  | none =>
      rw [start_of_opened line incoming store planned]
      simp only [Device.flush, ScriptedDevice.flush]
      cases first : script.onFlush 0 with
      | some fault =>
          exact ⟨fault, rfl, Device.Call.tells_raise .flush (host.onFlush 0 fault first)⟩
      | none => exact host

/-- **A session fails as the transport does.** Let all calls of a scripted device that fail do so
with failures of the host's system. A port that is not opened is told of as such a failure; once it
is open, every step of every session succeeds, is refused, or fails with a failure of the transport,
which tells of the call that failed if there is one. -/
theorem fails_as_transport (line : Line) (script : Script) (incoming : Bytes) (store : Store)
    (bridge : Bridge) (host : script.FailsAsHost) :
    match start line (.scripted script incoming) store with
    | .refused raised => ∃ fault, script.onOpen = some fault ∧ raised.cause = some fault ∧
        ∃ description, raised.failure =
          .bridge (if Line.denies fault then .permission else .io) description
    | .connected (.error raised) _ => ∃ fault, script.onFlush 0 = some fault ∧
        Device.Call.flush.Tells fault.raised raised
    | .connected (.ok _) world => ∀ (earlier : List Step) (next : Step), ∃ told,
        run bridge world (earlier ++ [next]) = run bridge world earlier ++ [told] ∧
          ∀ raised, told.outcome = .error raised →
            (raised.IsTransport ∨ next.Refuses raised) ∧
              let before := reach bridge world earlier
              let after := (step before.1 (fresh before.2) next).2.2
              next.Fails before.1.releaseOnError before.2.device raised after := by
  have opened := start_scripted line script incoming store host
  rcases started : start line (.scripted script incoming) store with
    raised | ⟨raised | ⟨⟩, world⟩
  · rw [started] at opened
    exact opened
  · rw [started] at opened
    exact opened
  · rw [started] at opened
    intro earlier next
    refine ⟨_, run_concat bridge world earlier next, fun raised failed => ?_⟩
    have reached := reach_host opened bridge earlier
    have ready : (fresh (reach bridge world earlier).2).device.FailsAsHost := reached
    have fails := (step_ends ready (reach bridge world earlier).1 next).fails raised failed
    exact ⟨fails.isTransport_or_refuses, fails⟩

/-- A device whose second write runs out of time. -/
def stalling : Script where
  onOpen := none
  onWrite call := if call = 1 then some (.host .serialTimeout []) else none
  onRead _ := .give none
  onFlush _ := none
  onClose _ := none

/-- The stalling device fails as the host's system does. -/
theorem failsAsHost_stalling : stalling.FailsAsHost := by
  refine ⟨by rintro _ ⟨⟩, ?_, by rintro _ _ ⟨⟩, by rintro _ _ ⟨⟩, by rintro _ _ ⟨⟩⟩
  intro call failure planned
  by_cases second : call = 1
  · simp only [stalling, second, ↓reduceIte, Option.some.injEq] at planned
    subst planned
    rfl
  · simp only [stalling, second, ↓reduceIte, reduceCtorEq] at planned

/-- The second step fails because time has run out, which is what it tells. -/
theorem fails_stalling :
    let line : Line := ⟨"COM1", Line.defaultBaudRate⟩
    ∃ world, start line (.scripted stalling []) [] = .connected (.ok ()) world ∧ ∃ told,
      run ⟨line, false⟩ world ([.send [1]] ++ [.send [2]]) =
          run ⟨line, false⟩ world [.send [1]] ++ [told] ∧
        ∃ raised, told.outcome = .error raised ∧ raised.IsTransport ∧
          (Device.Call.write [2]).Tells (Failure.host .serialTimeout []).raised raised := by
  intro line
  refine ⟨_, rfl, ?_⟩
  obtain ⟨told, grown, fails⟩ := fails_as_transport line stalling [] [] ⟨line, false⟩
    failsAsHost_stalling [.send [1]] (.send [2])
  refine ⟨told, grown, ?_⟩
  have same := List.append_cancel_left (grown.symm.trans (run_concat _ _ _ _))
  have failed : told.outcome =
      .error (Line.ofHostWrite (Failure.host .serialTimeout []).raised) := by
    rw [List.singleton_inj.mp same]
    rfl
  have tells := (Device.Call.write [2]).tells_raise
    (by rfl : (Failure.host .serialTimeout []).raised.failure.isHost .os)
  obtain ⟨own, -⟩ := fails _ failed
  refine ⟨_, failed, ?_, tells⟩
  obtain transport | refused := own
  · exact transport
  · cases refused

end Session

end Hexwire
