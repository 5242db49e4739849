import Hexwire.Proofs.Device.Calls
import Hexwire.Proofs.Line.Closed

/-! # Work that names what has ended it

Work is candid when its end tells what became of the calls of the device
(`Hexwire.Action.Candid`). If it succeeds, so have all its calls. If it fails, then either no call
has failed and the failure is one of its own, or a call has failed, no call has failed before, and
the failure is the one that the failed call is raised as. Sending, receiving, commands and toggles
of chip select are candid on every device; whether a later attempt to clean up fails as well is of
no account.
-/

namespace Hexwire

/-- What the failure of a call is raised as. -/
def Device.Call.raise : Device.Call → Raised → Raised
  | write _ | settle => Line.ofHostWrite
  | read _ | flush | close => Line.ofHost

/-- The kind of what the failure of a call is raised as. Only what is sent can run out of time. -/
def Device.Call.kind (fault : Failure) : Device.Call → BridgeKind
  | write _ | settle => if fault.isHost .serialTimeout then .timeout else .io
  | read _ | flush | close => .io

/-- What is raised tells of a call that failed: it has the failure of the call as its cause, and is
a failure of the transport of the kind that the call decides. -/
structure Device.Call.Tells (call : Device.Call) (fault raised : Raised) : Prop where
  caused : raised.cause = some fault.failure
  shown : ∃ description, raised.failure = .bridge (call.kind fault.failure) description

/-- A failure of the transport. That access is denied is none that an open line fails with. -/
def Raised.IsTransport (raised : Raised) : Prop :=
  ∃ kind description, kind ≠ .permission ∧ raised.failure = .bridge kind description

namespace Failure

variable {kind : BridgeKind}

/-- A failure of the transport is one of its own, unless access is denied. -/
theorem isTransport_raised (other : kind ≠ .permission) (description : Option String) :
    (ofBridge kind description).raised.IsTransport := by
  obtain ⟨shown, bridge⟩ := ofBridge_eq kind description
  exact ⟨kind, shown, other, bridge⟩

/-- A failure of the transport that has a cause shows some description of its kind. -/
theorem shown_raisedFrom (kind : BridgeKind) (description : Option String) (cause : Failure) :
    ∃ shown, ((ofBridge kind description).raisedFrom cause).failure = .bridge kind shown :=
  ofBridge_eq kind description

/-- A failure of the transport with a cause is one of its own, unless access is denied. -/
theorem isTransport_raisedFrom (other : kind ≠ .permission) (description : Option String)
    (cause : Failure) : ((ofBridge kind description).raisedFrom cause).IsTransport := by
  obtain ⟨shown, bridge⟩ := shown_raisedFrom kind description cause
  exact ⟨kind, shown, other, bridge⟩

end Failure

namespace Device.Call

variable {call : Device.Call} {fault raised : Raised}

/-- No call on an open device tells that access is denied. -/
theorem kind_ne_permission (call : Device.Call) (fault : Failure) :
    call.kind fault ≠ .permission := by
  cases call with
  | write _ | settle =>
      by_cases late : fault.isHost .serialTimeout = true <;> simp [kind, late]
  | read _ | flush | close => exact BridgeKind.noConfusion

/-- What tells of a failed call is a failure of the transport. -/
theorem Tells.isTransport (tells : call.Tells fault raised) : raised.IsTransport := by
  obtain ⟨description, bridge⟩ := tells.shown
  exact ⟨_, description, call.kind_ne_permission _, bridge⟩

/-- A failed call comes out as an I/O failure that has it as its cause. -/
theorem tells_ofHost (host : fault.failure.isHost .os) :
    (Line.ofHost fault).cause = some fault.failure ∧
      ∃ description, (Line.ofHost fault).failure = .bridge .io description := by
  rw [Line.ofHost, if_pos host]
  exact ⟨rfl, Failure.shown_raisedFrom .io _ _⟩

/-- A failed write comes out with its cause, and may tell that time ran out. -/
theorem tells_ofHostWrite (host : fault.failure.isHost .os) :
    (Line.ofHostWrite fault).cause = some fault.failure ∧
      ∃ description, (Line.ofHostWrite fault).failure =
        .bridge (if fault.failure.isHost .serialTimeout then .timeout else .io) description := by
  unfold Line.ofHostWrite
  split
  · exact ⟨rfl, Failure.shown_raisedFrom .timeout _ _⟩
  · exact tells_ofHost host

/-- What the failure of a call is raised as tells of it, if it is a failure of the host's system. -/
theorem tells_raise (call : Device.Call) (host : fault.failure.isHost .os) :
    call.Tells fault (call.raise fault) := by
  cases call with
  | write _ | settle =>
      obtain ⟨caused, shown⟩ := tells_ofHostWrite host
      exact ⟨caused, shown⟩
  | read _ | flush | close =>
      obtain ⟨caused, shown⟩ := tells_ofHost host
      exact ⟨caused, shown⟩

end Device.Call

namespace Action

/-- The failures that work has of its own, the calls that it makes, and what it may still do to the
world once its failure is certain. -/
structure Terms where
  own : Raised → Prop
  calls : Device.Call → Prop
  rest : World → World → Prop

namespace Terms

/-- The terms of work that sends and receives and does nothing once it has failed. Beyond failures
of the transport it may have others of its own. -/
def talking (own : Raised → Prop) : Terms where
  own raised := raised.IsTransport ∨ own raised
  calls call := call.isTalk
  rest := Eq

/-- The terms of work that makes one call and does nothing once it has failed. -/
def making (call : Device.Call) : Terms where
  own := Raised.IsTransport
  calls := Eq call
  rest := Eq

/-- Why work fails: for a reason of its own although every call has succeeded, or because of the
last call. -/
def Explains (terms : Terms) (before : Device) (raised : Raised) (after : Device) : Prop :=
  (terms.own raised ∧ before.Untroubled after) ∨
    ∃ call fault, terms.calls call ∧ before.Struck call fault after ∧ raised = call.raise fault

variable {terms : Terms} {before middle after : Device} {raised : Raised}

/-- What explains a failure does so from before a calm way as well. -/
theorem Explains.later (explains : terms.Explains middle raised after)
    (calm : before.Untroubled middle) : terms.Explains before raised after := by
  obtain ⟨own, further⟩ | ⟨call, fault, made, struck, same⟩ := explains
  · exact .inl ⟨own, calm.trans further⟩
  · exact .inr ⟨call, fault, made, struck.later calm, same⟩

/-- A way that ends with an explained failure leads where it ends. -/
theorem Explains.leads (explains : terms.Explains before raised after) : before.Leads after := by
  obtain ⟨-, calm⟩ | ⟨call, fault, -, struck, -⟩ := explains
  · exact calm.leads
  · exact struck.leads

end Terms

/-- Work that starts in a world is candid. -/
structure Candid {α : Type} (terms : Terms) (action : Action α) (world : World) : Prop where
  calm : ∀ {value after}, action.result world = (.ok value, after) →
    world.device.Untroubled after.device
  explains : ∀ {raised after}, action.result world = (.error raised, after) →
    ∃ reached, terms.Explains world.device raised reached.device ∧ terms.rest reached after

namespace Candid

variable {α β : Type} {terms : Terms} {action : Action α} {next : α → Action β}
  {change : α → β} {world after : World} {raised : Raised}

/-- Work that succeeds is candid if its calls have succeeded. -/
theorem succeeds {value : α} (ran : action.result world = (.ok value, after))
    (calm : world.device.Untroubled after.device) : action.Candid terms world where
  calm succeeded := by
    rw [ran] at succeeded
    cases succeeded
    exact calm
  explains failed := by
    rw [ran] at failed
    cases failed

/-- Work that fails is candid if its failure is explained where it became certain. -/
theorem fails {reached : World} (ran : action.result world = (.error raised, after))
    (explains : terms.Explains world.device raised reached.device)
    (rest : terms.rest reached after) : action.Candid terms world where
  calm succeeded := by
    rw [ran] at succeeded
    cases succeeded
  explains failed := by
    rw [ran] at failed
    cases failed
    exact ⟨reached, explains, rest⟩

/-- Candid work is so on terms that allow more. -/
theorem mono {other : Terms} (candid : action.Candid terms world)
    (own : ∀ raised, terms.own raised → other.own raised)
    (calls : ∀ call, terms.calls call → other.calls call)
    (rest : ∀ reached after, terms.rest reached after → other.rest reached after) :
    action.Candid other world where
  calm := candid.calm
  explains failed := by
    obtain ⟨reached, explained, rested⟩ := candid.explains failed
    refine ⟨reached, ?_, rest _ _ rested⟩
    obtain ⟨reason, calm⟩ | ⟨call, fault, made, struck, same⟩ := explained
    · exact .inl ⟨own _ reason, calm⟩
    · exact .inr ⟨call, fault, calls _ made, struck, same⟩

/-- Work that succeeds without a call of the device. -/
theorem silent {value : α} (ran : action.result world = (.ok value, after))
    (same : after.device = world.device) : action.Candid terms world :=
  succeeds ran (same ▸ .refl)

/-- Work that fails without a call of the device. -/
theorem stops (ran : action.result world = (.error raised, world)) (reason : terms.own raised)
    (rest : terms.rest world world) : action.Candid terms world :=
  fails ran (.inl ⟨reason, .refl⟩) rest

theorem pure (value : α) : Candid terms (Pure.pure value : Action α) world := silent rfl rfl

theorem note (event : Event) : (Action.note event).Candid terms world := silent rfl rfl

theorem sleep (nanoseconds : Nat) : (Action.sleep nanoseconds).Candid terms world :=
  silent rfl rfl

theorem get : Candid terms (MonadState.get : Action World) world := silent rfl rfl

/-- A change of the buffers is candid. -/
theorem rewrite (change : World → Store) :
    Candid terms (modify fun world => { world with store := change world } : Action Unit) world :=
  silent rfl rfl

/-- Candid work may go on with candid work wherever it succeeds. -/
theorem bind (first : action.Candid terms world)
    (rest : ∀ value middle, action.result world = (.ok value, middle) →
      (next value).Candid terms middle) : (action >>= next).Candid terms world where
  calm succeeded := by
    rcases ran : action.result world with ⟨raised | value, middle⟩
    · rw [result_bind_of_error ran] at succeeded
      cases succeeded
    · rw [result_bind_of_ok ran] at succeeded
      exact (first.calm ran).trans ((rest value middle ran).calm succeeded)
  explains failed := by
    rcases ran : action.result world with ⟨raised | value, middle⟩
    · rw [result_bind_of_error ran] at failed
      cases failed
      exact first.explains ran
    · rw [result_bind_of_ok ran] at failed
      obtain ⟨reached, explained, rest⟩ := (rest value middle ran).explains failed
      exact ⟨reached, explained.later (first.calm ran), rest⟩

/-- A change of the value leaves work candid. -/
theorem map (candid : action.Candid terms world) :
    Candid terms (change <$> action : Action β) world := by
  rw [map_eq_pure_bind]
  exact candid.bind fun value middle _ => pure _

/-- What calls of candid work lead to, whether it succeeds or fails. -/
theorem leads (candid : action.Candid terms world)
    (settled : ∀ {reached after : World}, terms.rest reached after →
      reached.device.Leads after.device) :
    world.device.Leads (action.result world).2.device := by
  rcases ran : action.result world with ⟨raised | value, after⟩
  · obtain ⟨reached, explained, rest⟩ := candid.explains ran
    exact explained.leads.trans (settled rest)
  · exact (candid.calm ran).leads

end Candid

end Action

open Hexwire.Action

namespace Line

variable {world : World} {own : Raised → Prop}

/-- Work on a closed line fails before it makes a call. -/
theorem candid_of_closed {α : Type} {action : Action α} {text : String}
    (ran : action.result world = (.error (ioFailure text).raised, world)) :
    action.Candid (.talking own) world :=
  .stops ran (.inl (Failure.isTransport_raised (by decide) _)) rfl

/-- Sending tells of the call that failed. -/
theorem candid_send (data : Bytes) (world : World) : (send data).Candid (.talking own) world := by
  by_cases opened : world.device.isOpen
  · have ran := result_send opened data
    dsimp only at ran
    rcases wrote : world.device.write data with ⟨fault | ⟨⟩, written⟩
    · rw [wrote] at ran
      refine .fails ran ?_ rfl
      exact .inr ⟨.write data, fault, rfl, .one _ wrote, rfl⟩
    · rw [wrote] at ran
      have calm : world.device.Untroubled written := .one (.write data) wrote
      rcases flushed : written.flush with ⟨fault | ⟨⟩, settled⟩
      · rw [flushed] at ran
        have struck : written.Struck .settle fault settled := .one _ flushed
        refine .fails ran ?_ rfl
        exact .inr ⟨.settle, fault, rfl, struck.later calm, rfl⟩
      · rw [flushed] at ran
        exact .succeeds ran (calm.trans (Device.Untroubled.one .settle flushed))
  · exact candid_of_closed (result_send_of_closed opened data)

/-- Collecting makes reads only. It fails with what the first of them that fails does. The induction
is on the count that is still missing. -/
theorem collect_course (count : Nat) (world : World) :
    match (collect count).result world with
    | (.ok _, after) => world.device.Untroubled after.device
    | (.error raised, after) =>
      ∃ wanted, world.device.Struck (.read wanted) raised after.device := by
  induction count using Nat.strongRecOn generalizing world with
  | ind count ih =>
      rw [collect]
      by_cases done : count = 0
      · rw [if_pos done]
        exact .refl
      · rw [if_neg done]
        have ran := Action.result_read count world
        rcases read : world.device.read count with ⟨fault | segment, middle⟩
        · rw [read] at ran
          rw [Action.result_bind_of_error ran]
          have performed : world.device.perform (.read count) = (.error fault, middle) := by
            rw [Device.perform, read]
            rfl
          exact ⟨count, .one _ performed⟩
        · rw [read] at ran
          have performed : world.device.perform (.read count) = (.ok (), middle) := by
            rw [Device.perform, read]
            rfl
          have calm : world.device.Untroubled middle := .one _ performed
          rw [Action.result_bind_of_ok ran]
          by_cases empty : segment.length = 0
          · rw [if_pos empty]
            exact calm
          · rw [if_neg empty]
            have later := ih (count - segment.length) (by omega)
              { world with
                device := middle
                events := world.events ++ told middle (.emulatorGave segment) }
            rcases more : (collect (count - segment.length)).result
              { world with
                device := middle
                events := world.events ++ told middle (.emulatorGave segment) } with
              ⟨fault | rest, after⟩
            · rw [more] at later
              obtain ⟨wanted, struck⟩ := later
              rw [Action.result_bind_of_error more]
              exact ⟨wanted, struck.later calm⟩
            · rw [more] at later
              rw [Action.result_bind_of_ok more]
              exact calm.trans later

/-- Receiving tells of the call that failed, or is at fault by itself. -/
theorem candid_receive (count : Int) (world : World) :
    (receive count).Candid (.talking own) world := by
  by_cases opened : world.device.isOpen
  · have ran := result_receive opened count
    have course := collect_course count.toNat world
    rcases collected : (collect count.toNat).result world with ⟨fault | data, middle⟩
    · rw [collected] at ran course
      obtain ⟨wanted, struck⟩ := course
      refine .fails ran ?_ rfl
      exact .inr ⟨.read wanted, fault, rfl, struck, rfl⟩
    · rw [collected] at ran course
      dsimp only at ran course
      by_cases short : (data.length : Int) < count
      · rw [if_pos short] at ran
        refine .fails ran ?_ rfl
        exact .inl ⟨.inl (Failure.isTransport_raised (by decide) _), course⟩
      · rw [if_neg short] at ran
        exact .succeeds ran course
  · exact candid_of_closed
      (Action.result_bind_of_error (result_requireOpen_of_closed opened _) _)

/-- A command tells of the call that failed, or is at fault by itself. -/
theorem candid_command (request expected : Bytes) (world : World) :
    (command request expected).Candid (.talking own) world := by
  refine (candid_send request world).bind fun _ middle _ =>
    (candid_receive _ middle).bind fun answer later _ => ?_
  by_cases right : answer = expected
  · rw [if_pos right]
    exact .pure _
  · rw [if_neg right]
    exact .stops rfl (.inl (Failure.isTransport_raised (by decide) _)) rfl

/-- Flushing an open line is a flush of the device. -/
theorem result_flush (opened : world.device.isOpen) :
    flush.result world =
      (world.device.flush.1.mapError ofHost, { world with device := world.device.flush.2 }) := by
  unfold flush
  rw [Action.result_bind_of_ok (result_requireOpen opened _), Action.result_adapt,
    Action.result_onDevice]

/-- A flush of the line tells of the flush of the device. -/
theorem candid_flush (world : World) : flush.Candid (.making .flush) world := by
  by_cases opened : world.device.isOpen
  · have ran := result_flush opened
    rcases flushed : world.device.flush with ⟨fault | ⟨⟩, after⟩
    · rw [flushed] at ran
      refine .fails ran ?_ rfl
      exact .inr ⟨.flush, fault, rfl, .one _ flushed, rfl⟩
    · rw [flushed] at ran
      exact .succeeds ran (Device.Untroubled.one .flush flushed)
  · exact .stops (Action.result_bind_of_error (result_requireOpen_of_closed opened _) _)
      (Failure.isTransport_raised (by decide) _) rfl

/-- Closing the line tells of the closing of the device. -/
theorem candid_close (world : World) : close.Candid (.making .close) world := by
  have ran := result_close world
  by_cases opened : world.device.isOpen
  · rw [if_pos opened] at ran
    rcases closed : world.device.close with ⟨fault | ⟨⟩, after⟩
    · rw [closed] at ran
      refine .fails ran ?_ rfl
      exact .inr ⟨.close, fault, rfl, .one _ closed, rfl⟩
    · rw [closed] at ran
      exact .succeeds ran (Device.Untroubled.one .close closed)
  · rw [if_neg opened] at ran
    exact .silent ran rfl

/-- Closing takes place whatever becomes of the work before it. -/
theorem result_closing {α : Type} (work : Action α) (world : World) :
    (closing work).result world =
      match close.result (work.result world).2 with
      | (.ok _, after) => ((work.result world).1, after)
      | (.error raised, after) => (.error raised, after) := by
  unfold closing
  rw [Action.result_bind_of_ok (Action.result_attempt _ _), Action.result_bind]
  rcases close.result (work.result world).2 with ⟨raised | ⟨⟩, after⟩
  · rfl
  · rcases (work.result world).1 with raised | value <;> rfl

/-- Work on a line that then closes ends as it did. -/
theorem result_closing_of_closed {α : Type} {work : Action α} {outcome : Except Raised α}
    {reached after : World} (worked : work.result world = (outcome, reached))
    (closed : close.result reached = (.ok (), after)) :
    (closing work).result world = (outcome, after) := by
  rw [result_closing, worked, closed]

/-- A failure to close takes the place of how the work ended. -/
theorem result_closing_of_unclosed {α : Type} {work : Action α} {outcome : Except Raised α}
    {raised : Raised} {reached after : World} (worked : work.result world = (outcome, reached))
    (unclosed : close.result reached = (.error raised, after)) :
    (closing work).result world = (.error raised, after) := by
  rw [result_closing, worked, unclosed]

variable {after : World} {raised : Raised} {terms : Terms}

/-- Work on a line that is closed afterwards fails as the work does, and the line is closed, or it
fails because closing does. -/
theorem closing_fails {α : Type} {work : Action α} (candid : work.Candid terms world)
    (settled : ∀ {reached rested : World}, terms.rest reached rested →
      reached.device.Leads rested.device)
    (failed : (closing work).result world = (.error raised, after)) :
    (∃ reached rested, terms.Explains world.device raised reached.device ∧
      terms.rest reached rested ∧ close.result rested = (.ok (), after)) ∨
    ∃ rested fault, world.device.Leads rested ∧
      rested.perform .close = (.error fault, after.device) ∧
        raised = Device.Call.close.raise fault := by
  rw [result_closing] at failed
  rcases worked : work.result world with ⟨outcome, rested⟩
  rw [worked] at failed
  rcases closed : close.result rested with ⟨other | ⟨⟩, closed'⟩
  · rw [closed] at failed
    cases failed
    have leads := candid.leads settled
    rw [worked] at leads
    obtain ⟨-, fault, close, told⟩ := close_error closed
    exact .inr ⟨rested.device, fault, leads, close, told⟩
  · rw [closed] at failed
    cases failed
    obtain ⟨reached, explained, rest⟩ := candid.explains worked
    exact .inl ⟨reached, rested, explained, rest, closed⟩

/-- Closing leads on from the device that is there. -/
theorem leads_close (world : World) : world.device.Leads (close.result world).2.device :=
  (candid_close world).leads fun same => same ▸ .refl

/-- Candid work on a line that then closes leads on from the device that is there. -/
theorem leads_closing {α : Type} {work : Action α} (candid : work.Candid terms world)
    (settled : ∀ {reached rested : World}, terms.rest reached rested →
      reached.device.Leads rested.device) :
    world.device.Leads ((closing work).result world).2.device := by
  have closed := (candid.leads settled).trans (leads_close (work.result world).2)
  rw [result_closing]
  rcases ended : close.result (work.result world).2 with ⟨other | ⟨⟩, after⟩
  · rw [ended] at closed
    exact closed
  · rw [ended] at closed
    exact closed

end Line

/-- A toggle tells of the call that failed, or is at fault by itself. -/
theorem ChipSelect.candid_toggle {own : Raised → Prop} (world : World) :
    toggle.Candid (.talking own) world :=
  (Candid.note _).bind fun _ middle _ => Line.candid_command _ _ middle

end Hexwire
