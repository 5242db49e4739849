import Hexwire.Proofs.Frame.Echo
import Hexwire.Proofs.Line.Closed

/-! # The dialogue of an exchange

An exchange hands over one frame, or nothing where the payload is empty or does not fit
(`Hexwire.Exchange.frames`), and succeeds only with the payload of the echo that it received
(`Hexwire.Exchange.payload_dialogue`).
-/

namespace Hexwire.Exchange

/-- What is handed over for a payload: one frame, if the payload is not empty and fits. -/
def frames (data : Bytes) : List Bytes :=
  if data = [] ∨ Frame.maxPayload < data.length then [] else [Frame.encode data]

/-- Data that fits goes out in one frame. -/
theorem frames_of_fits {data : Bytes} (filled : data ≠ [])
    (fits : data.length ≤ Frame.maxPayload) : frames data = [Frame.encode data] := by
  have short : ¬ Frame.maxPayload < data.length := by omega
  simp only [frames, filled, short, or_self, ↓reduceIte]

/-- What was received answers a payload of the given size with another: an empty one with nothing,
any other with the echo that carries the answer. -/
def Answers (size : Nat) (received answer : Bytes) : Prop :=
  if size = 0 then received = [] ∧ answer = []
  else answer.length = size ∧ Frame.Echoes answer received

/-- An answer has the size that was asked for. -/
theorem Answers.length {size : Nat} {received answer : Bytes}
    (answers : Answers size received answer) : answer.length = size := by
  unfold Answers at answers
  by_cases empty : size = 0
  · simp only [empty, ↓reduceIte] at answers
    rw [answers.2, empty, List.length_nil]
  · simp only [empty, ↓reduceIte] at answers
    exact answers.1

/-- What answers a payload of some size always has the same length. -/
theorem Answers.length_received {size : Nat} {received answer : Bytes}
    (answers : Answers size received answer) :
    received.length = if size = 0 then 0 else 2 * size + 2 := by
  unfold Answers at answers
  by_cases empty : size = 0
  · simp only [empty, ↓reduceIte] at answers ⊢
    rw [answers.1, List.length_nil]
  · simp only [empty, ↓reduceIte] at answers ⊢
    rw [answers.2.length, answers.1]

variable {world : World}

/-- What is left of an exchange once its frame is on its way. -/
def awaitEcho (data : Bytes) : Action Bytes := do
  Action.sleep settleTime
  let echo ← Line.receive (Frame.encode data).length
  match ofEcho echo data.length with
  | .error raised => throw raised
  | .ok received => do
    Action.note (.transferred data.length)
    pure received

/-- Nothing is exchanged for no data. -/
theorem payload_nil : payload [] = pure [] := rfl

/-- Data that does not fit is refused before anything is sent. -/
theorem payload_of_long {data : Bytes} (long : Frame.maxPayload < data.length) :
    payload data = throw (Frame.Fault.long data.length).raised := by
  have present : data.isEmpty = false := by
    rw [List.isEmpty_eq_false_iff_exists_mem]
    exact List.exists_mem_of_length_pos (by omega)
  have unfit : ¬ data.length ≤ Frame.maxPayload := by omega
  simp only [payload, present, Bool.false_eq_true, ↓reduceIte, Frame.make, unfit, ↓reduceDIte]

/-- Data that fits is sent in a frame, and its echo is awaited. -/
theorem payload_of_fits {data : Bytes} (filled : data ≠ [])
    (fits : data.length ≤ Frame.maxPayload) :
    payload data = (do
      Line.send (Frame.encode data)
      awaitEcho data) := by
  have present : data.isEmpty = false := by simpa using filled
  simp only [payload, present, Bool.false_eq_true, ↓reduceIte, Frame.make, fits, ↓reduceDIte]
  rfl

/-- A payload is not handed over on a closed line. -/
theorem world_payload_of_closed (closed : ¬ world.device.isOpen) (data : Bytes) :
    ((payload data).result world).2 = world := by
  by_cases empty : data = []
  · rw [empty, payload_nil]
    rfl
  · by_cases long : Frame.maxPayload < data.length
    · rw [payload_of_long long]
      rfl
    · rw [payload_of_fits empty (Nat.not_lt.mp long),
        Action.result_bind_of_error (Line.result_send_of_closed closed _)]

/-- The failure of an echo is an ordinary one. -/
theorem isOrdinary_ofEcho {echo : Bytes} {size : Nat} {raised : Raised}
    (failed : ofEcho echo size = .error raised) : raised.failure.isOrdinary := by
  unfold ofEcho at failed
  split at failed
  · cases read : Frame.decode echo size with
    | error fault =>
        simp only [read, Except.error.injEq] at failed
        subst failed
        exact Frame.Fault.isOrdinary_raised fault
    | ok frame => simp [read] at failed
  · cases failed
    exact Failure.isOrdinary_raised_ofBridge _ _

/-- Awaiting an echo hands nothing over, and succeeds only with the payload of the echo. -/
theorem awaitEcho_dialogue (opened : world.device.isOpen) {data : Bytes}
    (fits : data.length ≤ Frame.maxPayload) :
    ∃ received outcome after, (awaitEcho data).result world = (outcome, after) ∧
      Dialogue world [] received outcome after ∧ after.store = world.store ∧
        ∀ answer, outcome = .ok answer →
          answer.length = data.length ∧ Frame.Echoes answer received := by
  have size := Frame.length_encode data
  have resting : { world with sleeps := world.sleeps ++ [settleTime] }.device.isOpen := opened
  obtain ⟨received, outcome, middle, ran, talk, store, returned⟩ :=
    Line.receive_dialogue resting (Frame.encode data).length
  have heard : Dialogue world [] received outcome middle :=
    ⟨talk.talked, talk.handed, talk.ordinary⟩
  unfold awaitEcho
  rw [Action.result_bind_of_ok (Action.result_sleep _ _)]
  cases outcome with
  | error raised =>
      exact ⟨received, _, _, Action.result_bind_of_error ran _, heard.stop, store, by rintro _ ⟨⟩⟩
  | ok echo =>
      obtain ⟨rfl, sized⟩ := returned echo rfl
      rw [Action.result_bind_of_ok ran]
      cases read : ofEcho echo data.length with
      | error raised =>
          refine ⟨echo, _, _, rfl, heard.congr rfl rfl ?_, store, by rintro _ ⟨⟩⟩
          rintro - _ ⟨⟩
          exact isOrdinary_ofEcho read
      | ok answer =>
          refine ⟨echo, _, _, rfl, heard.congr rfl ?_ (by rintro - _ ⟨⟩), store, ?_⟩
          · simp [World.handed, Event.handed?]
          · rintro _ ⟨⟩
            exact (ofEcho_eq_ok_iff (sized.trans size) fits).mp read

/-- **The dialogue of an exchange.** One frame is handed over, if any, and an exchange that succeeds
returns what answered it. -/
theorem payload_dialogue (opened : world.device.isOpen) (data : Bytes) :
    ∃ received outcome after, (payload data).result world = (outcome, after) ∧
      Dialogue world (frames data) received outcome after ∧ after.store = world.store ∧
        ∀ answer, outcome = .ok answer →
          data.length ≤ Frame.maxPayload ∧ Answers data.length received answer := by
  by_cases empty : data = []
  · subst empty
    rw [payload_nil]
    refine ⟨[], _, _, rfl, Dialogue.silent _ _, rfl, ?_⟩
    rintro _ ⟨⟩
    exact ⟨Nat.zero_le _, rfl, rfl⟩
  · by_cases long : Frame.maxPayload < data.length
    · rw [payload_of_long long]
      refine ⟨[], _, _, rfl, ?_, rfl, by rintro _ ⟨⟩⟩
      simp only [frames, long, or_true, ↓reduceIte]
      exact Dialogue.refused _ (Frame.Fault.isOrdinary_raised _)
    · have fits : data.length ≤ Frame.maxPayload := by omega
      have sized : data.length ≠ 0 := fun zero => empty (List.eq_nil_of_length_eq_zero zero)
      rw [frames_of_fits empty fits, payload_of_fits empty fits]
      obtain ⟨outcome, middle, ran, talk, store⟩ := Line.send_dialogue opened (Frame.encode data)
      cases outcome with
      | error raised =>
          exact ⟨[], _, _, Action.result_bind_of_error ran _, talk.stop, store, by rintro _ ⟨⟩⟩
      | ok _ =>
          rw [Action.result_bind_of_ok ran]
          obtain ⟨received, outcome, after, awaited, more, same, returned⟩ :=
            awaitEcho_dialogue (talk.isOpen opened) fits
          refine ⟨received, outcome, after, awaited, talk.trans more, same.trans store, ?_⟩
          intro answer succeeded
          simp only [Answers, sized, ↓reduceIte]
          exact ⟨fits, returned answer succeeded⟩

end Hexwire.Exchange
