import Hexwire.Proofs.Device.Dialogue
import Hexwire.Proofs.Frame.Echo

/-! # What an emulated bridge answers

The chip-select command is answered by the acknowledgement, and a frame by an echo of what the
peripheral clocks in for its payload, unless the peripheral fails
(`Hexwire.Emulator.answer_encode`). A bridge conforms when it acknowledges and echoes as the line
expects, in front of a peripheral that fails ordinarily or keeps the length of a payload
(`Hexwire.Emulator.Behaviour.Conforms`). If the peripheral never fails, the bridge serves the
function of the peripheral (`Hexwire.Emulator.Behaviour.Serves`).
-/

namespace Hexwire

namespace Emulator

variable {behaviour : Behaviour} {answer : Bytes → Bytes}

/-- What a bridge clocks in for a payload; no peripheral stands for the identity. -/
def Behaviour.clocks (behaviour : Behaviour) : Peripheral :=
  match behaviour.peripheral with
  | some peripheral => peripheral
  | none => .ok

/-- A bridge acknowledges and echoes as the line expects, and its peripheral fails with ordinary
failures or clocks in as many octets as it is given. -/
structure Behaviour.Conforms (behaviour : Behaviour) : Prop where
  acknowledges : behaviour.acknowledgement = ChipSelect.acknowledgement
  ends : Frame.IsEnding behaviour.echoTerminator
  length : ∀ payload response, behaviour.clocks payload = .ok response →
    response.length = payload.length
  ordinary : ∀ payload failure, behaviour.clocks payload = .error failure → failure.isOrdinary

/-- A bridge acknowledges and echoes as the line expects, and its peripheral clocks in the given
function of each payload, which keeps the length; no peripheral stands for the identity. -/
structure Behaviour.Serves (behaviour : Behaviour) (answer : Bytes → Bytes) : Prop where
  acknowledges : behaviour.acknowledgement = ChipSelect.acknowledgement
  ends : Frame.IsEnding behaviour.echoTerminator
  responds : behaviour.peripheral = some (Peripheral.ofFunction answer) ∨
    behaviour.peripheral = none ∧ answer = id
  length : ∀ payload, (answer payload).length = payload.length

/-- Nothing is found among octets that are all ASCII. -/
theorem nonAscii?_eq_none {data : Bytes} (ascii : ∀ octet ∈ data, octet < 0x80) (position : Nat) :
    nonAscii? position data = none := by
  induction data generalizing position with
  | nil => rfl
  | cons octet rest ih =>
      obtain ⟨low, others⟩ := List.forall_mem_cons.mp ascii
      simp only [nonAscii?, low, ↓reduceIte, ih others]

/-- The digits of a frame are read as its payload. -/
theorem payloadOf_encodeUpper (data : Bytes) : payloadOf (Hex.encodeUpper data) = .ok data := by
  have denotes := Hex.denotes_encodeUpper data
  simp only [payloadOf, nonAscii?_eq_none denotes.ascii, Hex.parse,
    Hex.parseFrom_of_denotes denotes]

/-- The command of chip select is acknowledged and toggles it. -/
theorem answer_chipSelectCommand (behaviour : Behaviour) :
    Emulator.answer behaviour chipSelectCommand = .ok (behaviour.acknowledgement, true) := rfl

/-- A frame is not the command of chip select, as that has no terminator. -/
theorem terminated_ne_chipSelectCommand (digits : Bytes) :
    digits ++ Frame.terminator ≠ chipSelectCommand := by
  intro same
  have terminated : Frame.terminator <:+ chipSelectCommand := ⟨digits, same⟩
  exact absurd terminated (by decide)

/-- Octets in front of a terminator are read, and the peripheral clocks in an answer to them. -/
theorem answer_terminated (behaviour : Behaviour) (digits : Bytes) :
    Emulator.answer behaviour (digits ++ Frame.terminator) =
      ((payloadOf digits).bind behaviour.clocks).map fun response =>
        (Hex.encodeUpper response ++ behaviour.echoTerminator, false) := by
  have suffix : Frame.terminator <:+ digits ++ Frame.terminator := List.suffix_append _ _
  unfold Emulator.answer
  rw [if_neg (terminated_ne_chipSelectCommand digits),
    if_pos (List.isSuffixOf_iff_suffix.mpr suffix), List.length_append, Nat.add_sub_cancel,
    List.take_left]
  cases payloadOf digits with
  | error failure => rfl
  | ok payload =>
      rw [Except.bind, Behaviour.clocks]
      cases behaviour.peripheral with
      | none => rfl
      | some peripheral =>
          dsimp only
          cases peripheral payload <;> rfl

/-- No frame is the chip-select command. -/
theorem encode_ne_chipSelectCommand (data : Bytes) : Frame.encode data ≠ chipSelectCommand :=
  terminated_ne_chipSelectCommand _

/-- An encoded frame ends with the terminator. -/
theorem isSuffixOf_encode (data : Bytes) : Frame.terminator.isSuffixOf (Frame.encode data) :=
  List.isSuffixOf_iff_suffix.mpr (List.suffix_append _ _)

/-- The octets of a frame before its terminator are its digits. -/
theorem take_encode (data : Bytes) :
    (Frame.encode data).take ((Frame.encode data).length - Frame.terminator.length) =
      Hex.encodeUpper data := by
  rw [Frame.encode, List.length_append, Nat.add_sub_cancel, List.take_left]

/-- **Frames are echoed.** A frame is answered by an echo that carries what the peripheral clocks
in, unless the peripheral fails. -/
theorem answer_encode (behaviour : Behaviour) (data : Bytes) :
    Emulator.answer behaviour (Frame.encode data) =
      match behaviour.clocks data with
      | .ok response => .ok (Hex.encodeUpper response ++ behaviour.echoTerminator, false)
      | .error failure => .error failure := by
  rw [Frame.encode, answer_terminated, payloadOf_encodeUpper, Except.bind]
  cases behaviour.clocks data <;> rfl

namespace Behaviour

/-- A bridge that conforms queues the acknowledgement for a toggle. -/
theorem Conforms.queued_chipSelectCommand (conforms : behaviour.Conforms) :
    behaviour.queued chipSelectCommand = ChipSelect.acknowledgement := by
  rw [queued, answer_chipSelectCommand, ← conforms.acknowledges]

/-- What is queued for a frame is an echo that carries what the peripheral clocks in. -/
theorem Conforms.echoes (conforms : behaviour.Conforms) {data response : Bytes}
    (clocked : behaviour.clocks data = .ok response) :
    Frame.Echoes response (behaviour.queued (Frame.encode data)) := by
  rw [queued, answer_encode, clocked]
  exact ⟨_, _, rfl, Hex.denotes_encodeUpper _, conforms.ends⟩

/-- The peripheral of a bridge that serves is clocked as the function that it serves. -/
theorem Serves.clocks (serves : behaviour.Serves answer) :
    behaviour.clocks = Peripheral.ofFunction answer := by
  rw [Behaviour.clocks]
  rcases serves.responds with responds | ⟨absent, rfl⟩
  · rw [responds]
  · rw [absent]
    rfl

/-- A bridge that serves a function conforms. -/
theorem Serves.conforms (serves : behaviour.Serves answer) : behaviour.Conforms := by
  refine ⟨serves.acknowledges, serves.ends, ?_, ?_⟩
  · intro payload response clocked
    rw [serves.clocks] at clocked
    cases clocked
    exact serves.length payload
  · intro payload failure failed
    rw [serves.clocks] at failed
    cases failed

end Behaviour

end Emulator

end Hexwire
