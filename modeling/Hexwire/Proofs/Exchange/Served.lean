import Hexwire.Proofs.Device.Emulation
import Hexwire.Proofs.Exchange.Progress

/-! # Exchanges with an idle bridge

An emulated bridge is idle when nothing is queued (`Hexwire.Device.Idle`). A toggle of chip select
succeeds on an open idle bridge that conforms, is counted, and leaves it idle. An exchange is what
the peripheral alone makes of the payload (`Hexwire.Exchange.serve`) and leaves the bridge idle even
if it fails (`Hexwire.Exchange.payload_served`).
-/

namespace Hexwire

/-- How often chip select of an emulated bridge was toggled. -/
def Device.toggles : Device → Nat
  | scripted _ => 0
  | emulated e => e.toggles

/-- An emulated bridge of the given behaviour, as open as given and toggled as often as given, that
has nothing queued. -/
def Device.Idle (behaviour : Emulator.Behaviour) (isOpen : Bool) (toggles : Nat)
    (device : Device) : Prop :=
  ∃ e, device = .emulated e ∧ e.behaviour = behaviour ∧ e.isOpen = isOpen ∧
    e.toggles = toggles ∧ e.queue = []

namespace Device.Idle

variable {behaviour : Emulator.Behaviour} {isOpen : Bool} {toggles : Nat} {device after : Device}
  {sent : List Bytes}

/-- An idle device is as open as said. -/
theorem isOpen_eq (idle : device.Idle behaviour isOpen toggles) : device.isOpen = isOpen := by
  obtain ⟨e, rfl, -, opened, -⟩ := idle
  exact opened

/-- An idle device has toggled as often as said. -/
theorem toggles_eq (idle : device.Idle behaviour isOpen toggles) : device.toggles = toggles := by
  obtain ⟨e, rfl, -, -, counted, -⟩ := idle
  exact counted

/-- An idle device has nothing queued. -/
theorem queue (idle : device.Idle behaviour isOpen toggles) : device.queue = [] := by
  obtain ⟨e, rfl, -, -, -, empty⟩ := idle
  exact empty

/-- An idle device answers reads at once. -/
theorem prompt (idle : device.Idle behaviour isOpen toggles) : device.Prompt := by
  obtain ⟨e, rfl, -⟩ := idle
  trivial

/-- An idle device closes and stays idle. -/
theorem close (idle : device.Idle behaviour isOpen toggles) :
    device.close.1 = .ok () ∧ device.close.2.Idle behaviour false toggles := by
  obtain ⟨e, rfl, rfl, -, rfl, empty⟩ := idle
  exact ⟨rfl, _, rfl, rfl, rfl, rfl, empty⟩

/-- An idle device opens again and stays idle. -/
theorem reopen (idle : device.Idle behaviour isOpen toggles) :
    device.reopen.Idle behaviour true toggles := by
  obtain ⟨e, rfl, rfl, -, rfl, empty⟩ := idle
  exact ⟨_, rfl, rfl, rfl, rfl, empty⟩

/-- A bridge that has taken writes and has nothing queued is idle, and has counted the toggles. -/
theorem took (idle : device.Idle behaviour isOpen toggles) (took : device.Took sent after)
    (empty : after.queue = []) :
    after.Idle behaviour isOpen (toggles + sent.count chipSelectCommand) := by
  obtain ⟨e, rfl, rfl, rfl, rfl, -⟩ := idle
  cases took with
  | emulated behaviour opened _ counted => exact ⟨_, rfl, behaviour, opened, counted, empty⟩

/-- No frame toggles chip select. -/
theorem took_frame (idle : device.Idle behaviour isOpen toggles) {data : Bytes}
    (took : device.Took [Frame.encode data] after) (empty : after.queue = []) :
    after.Idle behaviour isOpen toggles := by
  have kept := idle.took took empty
  rw [List.count_singleton,
    beq_eq_false_iff_ne.mpr (Emulator.encode_ne_chipSelectCommand data)] at kept
  exact kept

/-- The bridge takes the chip-select command and acknowledges it. -/
theorem acknowledges (idle : device.Idle behaviour isOpen toggles)
    (conforms : behaviour.Conforms) :
    device.Accepts chipSelectCommand ∧
      device.answers [chipSelectCommand] = ChipSelect.acknowledgement := by
  obtain ⟨e, rfl, rfl, -⟩ := idle
  refine ⟨⟨_, Emulator.answer_chipSelectCommand _⟩, ?_⟩
  simp only [answers, List.flatMap_cons, List.flatMap_nil, List.append_nil,
    conforms.queued_chipSelectCommand]

/-- The bridge takes the frame of a payload that fits, if there is one, and answers the payload with
what the peripheral clocks in. -/
theorem exchanges (idle : device.Idle behaviour isOpen toggles) (conforms : behaviour.Conforms)
    {data response : Bytes} (filled : data ≠ []) (fits : data.length ≤ Frame.maxPayload)
    (clocked : behaviour.clocks data = .ok response) :
    (∀ frame ∈ Exchange.frames data, device.Accepts frame) ∧
      Exchange.Answers data.length (device.answers (Exchange.frames data)) response := by
  obtain ⟨e, rfl, rfl, -⟩ := idle
  have present : data.length ≠ 0 := fun zero => filled (List.eq_nil_of_length_eq_zero zero)
  rw [Exchange.frames_of_fits filled fits]
  have answered : Emulator.answer e.behaviour (Frame.encode data) =
      .ok (Hex.encodeUpper response ++ e.behaviour.echoTerminator, false) := by
    rw [Emulator.answer_encode, clocked]
  refine ⟨List.forall_mem_singleton.mpr ⟨_, answered⟩, ?_⟩
  simp only [Exchange.Answers, present, ↓reduceIte, answers, List.flatMap_cons,
    List.flatMap_nil, List.append_nil]
  exact ⟨conforms.length data response clocked, conforms.echoes clocked⟩

end Device.Idle

/-- Work ends with an outcome, with buffers and with a bridge that is idle and open. -/
def Action.Leaves {α : Type} (behaviour : Emulator.Behaviour) (action : Action α) (world : World)
    (outcome : Except Raised α) (store : Store) (toggles : Nat) : Prop :=
  ∃ after, action.result world = (outcome, after) ∧ after.store = store ∧
    after.device.Idle behaviour true toggles

/-- **A toggle is answered at once** by an idle bridge that conforms, and nothing is left behind. -/
theorem ChipSelect.toggle_idle {behaviour : Emulator.Behaviour} {world : World} {toggles : Nat}
    (conforms : behaviour.Conforms) (idle : world.device.Idle behaviour true toggles) :
    toggle.Leaves behaviour world (.ok ()) world.store (toggles + 1) := by
  obtain ⟨accepts, acknowledged⟩ := idle.acknowledges conforms
  have queued : world.device.queue ++ world.device.answers [chipSelectCommand] =
      acknowledgement ++ [] := by
    rw [idle.queue, acknowledged, List.nil_append, List.append_nil]
  obtain ⟨after, toggled, store, queue, took⟩ :=
    toggle_succeeds idle.isOpen_eq accepts idle.prompt queued
  exact ⟨after, toggled, store, idle.took took queue⟩

namespace Exchange

/-- **An exchange without a line.** Nothing comes in for an empty payload, and a payload that does
not fit into a frame is refused. For any other the peripheral clocks in what it does; a failure of
it is the failure of a write. -/
def serve (peripheral : Peripheral) (data : Bytes) : Except Raised Bytes :=
  if data = [] then .ok []
  else if Frame.maxPayload < data.length then .error (Frame.Fault.long data.length).raised
  else (peripheral data).mapError fun failure => Line.ofHostWrite failure.raised

variable {behaviour : Emulator.Behaviour} {world : World} {toggles : Nat} {data : Bytes}

/-- Data that fits is served by the peripheral. -/
theorem serve_of_fits {peripheral : Peripheral} (filled : data ≠ [])
    (fits : data.length ≤ Frame.maxPayload) :
    serve peripheral data =
      (peripheral data).mapError fun failure => Line.ofHostWrite failure.raised := by
  rw [serve, if_neg filled, if_neg (Nat.not_lt.mpr fits)]

/-- What a bridge that conforms fails to serve fails with an ordinary failure. -/
theorem isOrdinary_of_serve_error (conforms : behaviour.Conforms) {raised : Raised}
    (failed : serve behaviour.clocks data = .error raised) : raised.failure.isOrdinary := by
  unfold serve at failed
  split at failed
  · cases failed
  · split at failed
    · cases failed
      exact Frame.Fault.isOrdinary_raised _
    · cases clocked : behaviour.clocks data with
      | ok response =>
          rw [clocked] at failed
          cases failed
      | error failure =>
          rw [clocked] at failed
          cases failed
          exact Line.isOrdinary_ofHostWrite (conforms.ordinary data failure clocked)

/-- A frame whose payload makes the peripheral fail is not answered, and the failure is that of the
write. -/
theorem send_failed (idle : world.device.Idle behaviour true toggles) {failure : Failure}
    (failed : behaviour.clocks data = .error failure) :
    (Line.send (Frame.encode data)).Leaves behaviour world
      (.error (Line.ofHostWrite failure.raised)) world.store toggles := by
  have opened := idle.isOpen_eq
  obtain ⟨outcome, after, sent, talk, store⟩ := Line.send_dialogue opened (Frame.encode data)
  have wrote : (world.device.write (Frame.encode data)).1 = .error failure.raised := by
    obtain ⟨e, emulated, rfl, -⟩ := idle
    simp only [emulated, Device.write, Emulator.write, Emulator.answer_encode, failed]
    rfl
  have outcomeEq : outcome = .error (Line.ofHostWrite failure.raised) := by
    rw [Line.result_send opened] at sent
    dsimp only at sent
    rw [wrote] at sent
    exact (congrArg Prod.fst sent).symm
  -- The write is taken although it fails, but nothing is queued for it.
  have unanswered : world.device.answers [Frame.encode data] = [] := by
    obtain ⟨e, emulated, rfl, -⟩ := idle
    simp only [emulated, Device.answers, List.flatMap_cons, List.flatMap_nil, List.append_nil,
      Emulator.Behaviour.queued, Emulator.answer_encode, failed]
  have empty := talk.talked.gave
  rw [idle.queue, unanswered] at empty
  exact ⟨after, outcomeEq ▸ sent, store, idle.took_frame talk.talked.took empty.symm⟩

/-- **An exchange on an idle bridge is the exchange without a line,** and the bridge is idle again
whether it fails or not. -/
theorem payload_served (conforms : behaviour.Conforms)
    (idle : world.device.Idle behaviour true toggles) (data : Bytes) :
    (payload data).Leaves behaviour world (serve behaviour.clocks data) world.store toggles := by
  by_cases empty : data = []
  · subst empty
    exact ⟨world, rfl, rfl, idle⟩
  · by_cases long : Frame.maxPayload < data.length
    · rw [payload_of_long long, serve, if_neg empty, if_pos long]
      exact ⟨world, rfl, rfl, idle⟩
    · have fits : data.length ≤ Frame.maxPayload := Nat.not_lt.mp long
      rw [serve_of_fits empty fits]
      cases clocked : behaviour.clocks data with
      | error failure =>
          obtain ⟨after, sent, left⟩ := send_failed idle clocked
          rw [payload_of_fits empty fits]
          exact ⟨after, Action.result_bind_of_error sent _, left⟩
      | ok response =>
          obtain ⟨accepts, answers⟩ := idle.exchanges conforms empty fits clocked
          have queued : world.device.queue ++ world.device.answers (frames data) =
              world.device.answers (frames data) ++ [] := by
            rw [idle.queue, List.nil_append, List.append_nil]
          obtain ⟨after, ran, store, left, took⟩ :=
            payload_succeeds idle.isOpen_eq fits accepts idle.prompt answers queued
          rw [frames_of_fits empty fits] at took
          exact ⟨after, ran, store, idle.took_frame took left⟩

end Exchange

end Hexwire
