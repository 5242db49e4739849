import Hexwire.Proofs.Transaction.Candid
import Hexwire.Session

/-! # Whose failure an exchange ends with

Work between two toggles is candid only on a device that fails as the host's system does: elsewhere
the failure of the release may take the place of what the work has failed with. Even so a failure is
one of the transport or one of a call that the device was led to (`Hexwire.Device.Blamed`), for an
exchange of any size and with the line closed afterwards (`Hexwire.Line.traced_closing`). What holds
of all that the calls of a device fail with (`Hexwire.Device.FailsOnly`) holds of it too.
-/

namespace Hexwire

open Hexwire.Action

namespace Device

/-- A failure is one of the transport, or of a call that the device was led to. -/
def Blamed (before : Device) (raised : Raised) : Prop :=
  raised.IsTransport ∨ ∃ reached call fault after, before.Leads reached ∧
    reached.perform call = (.error fault, after) ∧ raised = call.raise fault

/-- No call that a device is led to fails but with what satisfies a condition. -/
def FailsOnly (wanted : Failure → Prop) (device : Device) : Prop :=
  ∀ reached, device.Leads reached → ∀ call fault after,
    reached.perform call = (.error fault, after) → wanted fault.failure

variable {before middle after : Device} {raised fault : Raised}

/-- What is blamed on a call is so from before the way to it as well. -/
theorem Blamed.later (blamed : middle.Blamed raised) (leads : before.Leads middle) :
    before.Blamed raised := by
  obtain transport | ⟨reached, call, fault, after, further, failed, same⟩ := blamed
  · exact .inl transport
  · exact .inr ⟨reached, call, fault, after, leads.trans further, failed, same⟩

/-- A failed call is blamed for the failure that it raises. -/
theorem Struck.blamed {call : Call} (struck : before.Struck call fault after) :
    before.Blamed (call.raise fault) := by
  obtain ⟨reached, calm, failed⟩ := struck
  exact .inr ⟨reached, call, fault, after, calm.leads, failed, rfl⟩

/-- A failed call comes out as a failure of the transport, or as it is. -/
theorem ofHost_cases (fault : Raised) :
    (Line.ofHost fault).IsTransport ∨ Line.ofHost fault = fault := by
  unfold Line.ofHost
  split
  · exact .inl (Failure.isTransport_raisedFrom (by decide) _ _)
  · exact .inr rfl

/-- What the failure of a call is raised as is a failure of the transport or that failure itself. -/
theorem Call.raise_cases (call : Call) (fault : Raised) :
    (call.raise fault).IsTransport ∨ call.raise fault = fault := by
  have written : (Line.ofHostWrite fault).IsTransport ∨ Line.ofHostWrite fault = fault := by
    unfold Line.ofHostWrite
    split
    · exact .inl (Failure.isTransport_raisedFrom (by decide) _ _)
    · exact ofHost_cases fault
  cases call with
  | write _ | settle => exact written
  | read _ | flush | close => exact ofHost_cases fault

/-- What a device is blamed for is a failure of the transport or one that its calls may have. -/
theorem Blamed.isTransport_or {wanted : Failure → Prop} (blamed : before.Blamed raised)
    (only : before.FailsOnly wanted) : raised.IsTransport ∨ wanted raised.failure := by
  obtain transport | ⟨reached, call, fault, after, leads, failed, rfl⟩ := blamed
  · exact .inl transport
  · rcases call.raise_cases fault with transport | same
    · exact .inl transport
    · rw [same]
      exact .inr (only reached leads call fault after failed)

/-- Calls keep the script of a device, so what holds of it holds of every call. -/
theorem failsOnly_scripted {wanted : Failure → Prop} {d : ScriptedDevice}
    (only : d.script.FailsOnly wanted) : (scripted d).FailsOnly wanted := by
  intro reached leads call fault after failed
  obtain ⟨later, rfl, script⟩ := leads.script
  rw [← script] at only
  exact only.perform failed

end Device

/-- What stands at a port fails to be opened, or fails later, only with what satisfies a
condition. -/
def Peer.FailsOnly (wanted : Failure → Prop) (peer : Peer) : Prop :=
  (∀ failure, peer.connect = .error failure → wanted failure) ∧
    ∀ device, peer.connect = .ok device → device.FailsOnly wanted

/-- A peer with such a script fails as wanted only. -/
theorem Peer.failsOnly_scripted {wanted : Failure → Prop} {script : Script}
    (only : script.FailsOnly wanted) (incoming : Bytes) :
    (Peer.scripted script incoming).FailsOnly wanted := by
  unfold FailsOnly
  cases planned : script.onOpen with
  | some failure =>
      have refused : (Peer.scripted script incoming).connect = .error failure := by
        simp only [connect, planned]
      rw [refused]
      refine ⟨?_, by rintro _ ⟨⟩⟩
      rintro _ ⟨⟩
      exact only.onOpen failure planned
  | none =>
      have opened : (Peer.scripted script incoming).connect =
          .ok (.scripted { script := script, queue := incoming }) := by
        simp only [connect, planned]
      rw [opened]
      refine ⟨by rintro _ ⟨⟩, ?_⟩
      rintro _ ⟨⟩
      exact Device.failsOnly_scripted only

namespace Action

variable {α β : Type} {action : Action α} {world : World}

/-- Work that has started with a device has led it on, and if it has failed the device is blamed. -/
structure Traced (before : Device) (ended : Except Raised α × World) : Prop where
  leads : before.Leads ended.2.device
  blamed : ∀ raised, ended.1 = .error raised → before.Blamed raised

variable {before : Device} {ended : Except Raised α × World}

/-- A trace may start before a way that leads to it. -/
theorem Traced.later {middle : Device} (traced : Traced middle ended)
    (leads : before.Leads middle) : Traced before ended where
  leads := leads.trans traced.leads
  blamed raised failed := (traced.blamed raised failed).later leads

/-- A change of the value leaves a trace as it is. -/
theorem Traced.map (traced : Traced before ended) (change : α → β) :
    Traced before (ended.1.map change, ended.2) where
  leads := traced.leads
  blamed raised failed := by
    obtain ⟨raised' | value, after⟩ := ended
    · cases failed
      exact traced.blamed raised rfl
    · cases failed

/-- A failure that ends more than the work it came from is traced as it was there. -/
theorem Traced.stop {raised : Raised} {after : World}
    (traced : Traced before ((.error raised, after) : Except Raised α × World)) :
    Traced before ((.error raised, after) : Except Raised β × World) where
  leads := traced.leads
  blamed other failed := by
    cases failed
    exact traced.blamed raised rfl

/-- Candid work that does nothing once it has failed is traced. -/
theorem Candid.traced {terms : Terms} (candid : action.Candid terms world)
    (own : ∀ raised, terms.own raised → raised.IsTransport)
    (rest : ∀ reached after, terms.rest reached after → reached = after) :
    Traced world.device (action.result world) where
  leads := candid.leads fun settled => rest _ _ settled ▸ .refl
  blamed raised failed := by
    obtain ⟨reached, explains, -⟩ := candid.explains (Prod.ext failed rfl)
    obtain ⟨reason, -⟩ | ⟨call, fault, -, struck, rfl⟩ := explains
    · exact .inl (own raised reason)
    · exact struck.blamed

/-- Work that only sends and receives is traced. -/
theorem Candid.traced_talking (candid : action.Candid (.talking fun _ => False) world) :
    Traced world.device (action.result world) := by
  apply candid.traced
  · rintro raised (transport | ⟨⟨⟩⟩)
    exact transport
  · intro reached after same
    exact same

end Action

/-- The failures of a toggle are traced to calls. -/
theorem ChipSelect.traced_toggle (world : World) :
    Traced world.device (toggle.result world) := (candid_toggle world).traced_talking

namespace Transaction

variable {α : Type} {work : Action α} {world : World}

/-- The failures of a release are traced to calls. -/
theorem traced_release (world : World) :
    Traced world.device (Transaction.release.result world) := by
  have toggle := ChipSelect.traced_toggle world
  rw [result_release]
  rcases toggled : ChipSelect.toggle.result world with ⟨raised | ⟨⟩, after⟩ <;>
    rw [toggled] at toggle
  · dsimp only
    split
    · exact ⟨toggle.leads, by rintro _ ⟨⟩⟩
    · exact ⟨toggle.leads, toggle.blamed⟩
  · exact ⟨toggle.leads, by rintro _ ⟨⟩⟩

/-- **Work between two toggles is traced,** on every device and whatever the release does. -/
theorem traced_bracketed (release : Bool)
    (traced : ∀ selected, Traced selected.device (work.result selected)) (world : World) :
    Traced world.device ((bracketed release work).result world) := by
  have opening := ChipSelect.traced_toggle world
  rcases toggled : ChipSelect.toggle.result world with ⟨raised | ⟨⟩, selected⟩ <;>
    rw [toggled] at opening
  · rw [result_bracketed_of_unselected toggled]
    exact opening.stop
  · have inner := (traced selected).later opening.leads
    rcases worked : work.result selected with ⟨raised | value, finished⟩ <;> rw [worked] at inner
    · have freed := (traced_release finished).later inner.leads
      rw [result_bracketed_of_error toggled worked]
      split
      · rcases ended : Transaction.release.result finished with ⟨other | ⟨⟩, after⟩ <;>
          rw [ended] at freed
        · exact freed.stop
        · exact ⟨freed.leads, inner.blamed⟩
      · exact inner
    · rw [result_bracketed_of_ok toggled worked]
      exact ((ChipSelect.traced_toggle finished).later inner.leads).map fun _ => value

/-- **An exchange in pieces that fit is traced.** -/
theorem traced_exchange {pieceSize : Int} (fits : 0 < pieceSize ∧ pieceSize ≤ Frame.maxPayload)
    (release : Bool) (data : Bytes) (world : World) :
    Traced world.device ((exchange release data pieceSize).result world) := by
  let pieces := chunks pieceSize.toNat data
  let noted := { world with
    events := world.events ++ [Event.exchanging data.length pieces.length] }
  have bracket : Traced noted.device ((bracketed release (exchangeAll pieces)).result noted) := by
    apply traced_bracketed
    intro selected
    exact (candid_exchangeAll pieces selected).traced_talking
  rw [result_exchange_of_fits fits]
  exact bracket.map List.flatten

end Transaction

namespace Line

variable {α : Type} {work : Action α} {world : World}

/-- The failures of a flush are traced to its call. -/
theorem traced_flush (world : World) : Traced world.device (flush.result world) :=
  (candid_flush world).traced (fun _ transport => transport) fun _ _ same => same

/-- The failures of a start are traced to its flush. -/
theorem traced_start (line : Line) (world : World) :
    Traced world.device (line.start.result world) := by
  let noted := { world with events := world.events ++ [Event.opened line.port line.baudRate] }
  have flushed : Traced noted.device (flush.result noted) := traced_flush noted
  rw [start, Action.result_bind_of_ok (Action.result_note _ _)]
  exact flushed

/-- The failures of closing are traced to its call. -/
theorem traced_close (world : World) : Traced world.device (close.result world) :=
  (candid_close world).traced (fun _ transport => transport) fun _ _ same => same

/-- **Traced work is traced with the line closed afterwards.** -/
theorem traced_closing (traced : Traced world.device (work.result world)) :
    Traced world.device ((closing work).result world) := by
  have closed := (traced_close (work.result world).2).later traced.leads
  rw [result_closing]
  rcases ended : close.result (work.result world).2 with ⟨raised | ⟨⟩, after⟩ <;>
    rw [ended] at closed
  · exact closed.stop
  · exact ⟨closed.leads, traced.blamed⟩

/-- A port that is not opened is told of by a failure of the bridge or by that of the host. -/
theorem ofHostOpen_cases (port : String) (failure : Failure) :
    (∃ kind description, (ofHostOpen port failure).failure = .bridge kind description) ∨
      ofHostOpen port failure = failure.raised := by
  unfold ofHostOpen
  split
  · dsimp only
    split
    · exact .inl ⟨_, Failure.shown_raisedFrom _ _ _⟩
    · exact .inl ⟨_, Failure.shown_raisedFrom _ _ _⟩
  · exact .inr rfl

end Line

/-- A session is refused with what the peer fails to connect with. -/
theorem Session.refused_start {line : Line} {peer : Peer} {store : Store} {raised : Raised}
    (refused : start line peer store = .refused raised) :
    ∃ failure, peer.connect = .error failure ∧ raised = Line.ofHostOpen line.port failure := by
  unfold start Line.connect at refused
  cases connected : peer.connect with
  | error failure =>
      rw [connected] at refused
      cases refused
      exact ⟨failure, rfl, rfl⟩
  | ok device =>
      rw [connected] at refused
      cases refused

/-- **Opening is traced** from the device that stands at the port. -/
theorem Session.traced_start {line : Line} {peer : Peer} {store : Store}
    {outcome : Except Raised Unit} {world : World}
    (started : start line peer store = .connected outcome world) :
    ∃ device, peer.connect = .ok device ∧ Traced device (outcome, world) := by
  unfold start Line.connect at started
  cases connected : peer.connect with
  | error failure =>
      rw [connected] at started
      cases started
  | ok device =>
      have opening := line.traced_start { device := device, store := store }
      rw [connected] at started
      change Opening.connected _ _ = _ at started
      obtain ⟨rfl, rfl⟩ := Opening.connected.inj started
      exact ⟨device, rfl, opening⟩

end Hexwire
