import Hexwire.Proofs.Failure.Ordinary
import Hexwire.Proofs.Frame.Echo

/-! # Frames written and read

A frame is written with the digits of a format and read pair by pair, and the two are inverse to
each other (`Hexwire.Frame.codec_inverts`). Reading takes digits of either case and ignores what
follows them, so a frame that was read is written as the digits it was read from, in capitals.
-/

namespace Hexwire

/-- Frames are told apart by their payloads, and from all else. -/
theorem Frame.equals_iff {frame : Frame} {other : Option Frame} :
    frame.equals other ↔ other = some frame := by
  rw [equals, Option.any_eq_true]
  constructor
  · rintro ⟨⟨payload, fits⟩, rfl, same⟩
    obtain rfl := beq_iff_eq.mp same
    rfl
  · rintro rfl
    exact ⟨frame, rfl, beq_self_eq_true _⟩

namespace Hex

/-- The capital of a small letter; any other octet as it is. -/
def capital (octet : UInt8) : UInt8 :=
  if 0x61 ≤ octet ∧ octet ≤ 0x7A then octet - 0x20 else octet

/-- Octets that are decimal digits or the capitals from `A` to `F`. -/
def IsUpperDigit (octet : UInt8) : Prop :=
  0x30 ≤ octet ∧ octet ≤ 0x39 ∨ 0x41 ≤ octet ∧ octet ≤ 0x46

instance (octet : UInt8) : Decidable (IsUpperDigit octet) :=
  inferInstanceAs (Decidable (_ ∨ _))

/-- A digit of either case has a value below sixteen, for which its capital is written. -/
theorem octetOfChar_upperDigit {octet : UInt8} {value : Nat}
    (digit : digitValue? (charOfOctet octet) = some value) :
    value < 16 ∧ octetOfChar (upperDigit value) = capital octet := by
  have every : ∀ code : Fin 256, ∀ value ∈ digitValue? (charOfOctet (UInt8.ofNat code)),
      value < 16 ∧ octetOfChar (upperDigit value) = capital (UInt8.ofNat code) := by
    decide +kernel
  have found := every ⟨octet.toNat, octet.toNat_lt⟩ value
  rw [UInt8.ofNat_toNat] at found
  exact found digit

/-- Capital digits are what frames are made of. -/
theorem isUpperDigit_upperDigit : ∀ value : Fin 16,
    IsUpperDigit (octetOfChar (upperDigit value)) := by
  decide

/-- Encoded octets are made of capital digits. -/
theorem isUpperDigit_of_mem_encodeUpper {data : Bytes} {digit : UInt8}
    (member : digit ∈ encodeUpper data) : IsUpperDigit digit := by
  unfold encodeUpper at member
  obtain ⟨octet, -, pair⟩ := List.mem_flatMap.mp member
  have bound : octet.toNat < 256 := octet.toNat_lt
  simp only [upperPair, List.map_cons, List.map_nil, List.mem_cons, List.not_mem_nil, or_false]
    at pair
  rcases pair with rfl | rfl
  · exact isUpperDigit_upperDigit ⟨octet.toNat / 16, by omega⟩
  · exact isUpperDigit_upperDigit ⟨octet.toNat % 16, by omega⟩

/-- What digits denote is written as the same digits in capitals. -/
theorem Denotes.encodeUpper_eq {digits payload : Bytes} (denotes : Denotes digits payload) :
    encodeUpper payload = digits.map capital := by
  induction denotes with
  | nil => rfl
  | @pair high low upper lower digits payload first second _ ih =>
      obtain ⟨upperBound, highCapital⟩ := octetOfChar_upperDigit first
      obtain ⟨lowerBound, lowCapital⟩ := octetOfChar_upperDigit second
      have whole : (UInt8.ofNat (16 * upper + lower)).toNat = 16 * upper + lower :=
        UInt8.toNat_ofNat_of_lt' (by simp only [UInt8.size]; omega)
      have upperHalf : (16 * upper + lower) / 16 = upper := by omega
      have lowerHalf : (16 * upper + lower) % 16 = lower := by omega
      calc encodeUpper (UInt8.ofNat (16 * upper + lower) :: payload)
          = (upperPair (UInt8.ofNat (16 * upper + lower))).map octetOfChar ++
              encodeUpper payload := rfl
        _ = [capital high, capital low] ++ digits.map capital := by
            simp only [upperPair, whole, upperHalf, lowerHalf, List.map_cons, List.map_nil,
              highCapital, lowCapital, ih]

end Hex

namespace Frame

open Hex

variable {payload digits : Bytes} {size : Nat}

/-- A frame that carries a payload: capital digits that denote it, and the terminator of frames that
are sent. -/
def Carries (payload frame : Bytes) : Prop :=
  ∃ digits, frame = digits ++ terminator ∧ Denotes digits payload ∧
    ∀ digit ∈ digits, IsUpperDigit digit

/-- What is written for a payload carries it. -/
theorem carries_encode (payload : Bytes) : Carries payload (encode payload) :=
  ⟨encodeUpper payload, rfl, denotes_encodeUpper payload, fun _ => isUpperDigit_of_mem_encodeUpper⟩

/-- A size that is not negative is the size to decode. -/
theorem decodeSigned_natCast (octets : Bytes) (size : Nat) :
    decodeSigned octets size = decode octets size := by
  have countable : ¬ (size : Int) < -(Nat.pow 2 63 : Int) := by omega
  have positive : ¬ (size : Int) < 0 := by omega
  simp only [decodeSigned, countable, positive, ↓reduceIte, Int.toNat_natCast]

/-- Leading digits are read as what they denote, if that fits. -/
theorem decode_of_denotes (denotes : Denotes digits payload) (rest : Bytes) :
    decode (digits ++ rest) payload.length = make payload := by
  have front : (digits ++ rest).take (2 * payload.length) = digits := by
    rw [← denotes.length, List.take_left]
  simp only [decode, front, denotes.length, Nat.lt_irrefl, ↓reduceIte,
    decodePairs_of_denotes denotes]

/-- What was read is denoted by the leading octets. -/
theorem denotes_of_decode {octets : Bytes} {frame : Frame}
    (read : decode octets size = .ok frame) :
    Denotes (octets.take (2 * size)) frame.payload := by
  unfold decode at read
  by_cases short : (octets.take (2 * size)).length < 2 * size
  · simp only [short, ↓reduceIte, reduceCtorEq] at read
  · have even : (octets.take (2 * size)).length = 2 * size := by
      rw [List.length_take] at short ⊢
      omega
    simp only [short, ↓reduceIte] at read
    cases pairs : decodePairs (octets.take (2 * size)) with
    | error fault => simp only [pairs, reduceCtorEq] at read
    | ok payload =>
        have denotes := denotes_of_decodePairs even pairs
        simp only [pairs, make] at read
        split at read
        · cases read
          exact denotes
        · cases read

/-- A payload that fits makes a frame. -/
theorem make_of_fits (fits : payload.length ≤ maxPayload) : make payload = .ok ⟨payload, fits⟩ := by
  simp only [make, fits, ↓reduceDIte]

/-- A payload that does not fit is refused for its size. -/
theorem make_of_long (long : maxPayload < payload.length) :
    make payload = .error (.long payload.length) := by
  simp only [make, Nat.not_le.mpr long, ↓reduceDIte]

/-- A payload that does not fit is raised as data that is too long. -/
theorem Fault.raised_long (size : Nat) :
    ∃ text, (Fault.long size).raised.failure = .bridge .dataTooLong text := by
  simp only [Fault.raised, Failure.raised]
  exact Failure.ofBridge_eq _ _

/-- **Writing and reading are inverse.** A payload that fits is made a frame that holds it; the
frame is written as capital digits and a terminator in the size that belongs to the payload, and
digits of either case that denote the payload, whatever follows them, are read as the frame. What is
read from any octets is written as the digits that were read, in capitals, and the terminator. A
payload that does not fit is neither made a frame nor read. -/
theorem codec_inverts :
    (∀ (payload : Bytes) (fits : payload.length ≤ maxPayload),
      make payload = .ok ⟨payload, fits⟩ ∧
        (∀ digits rest, Denotes digits payload →
          decodeSigned (digits ++ rest) payload.length = .ok ⟨payload, fits⟩) ∧
        ∃ digits, octets ⟨payload, fits⟩ = digits ++ terminator ∧ Denotes digits payload ∧
          (∀ digit ∈ digits, IsUpperDigit digit) ∧
          (octets ⟨payload, fits⟩).length = sizeFor payload.length ∧
          sizeFor payload.length = 2 * payload.length + 2 ∧
          isTerminated (octets ⟨payload, fits⟩) ∧
          decodeSigned (octets ⟨payload, fits⟩) payload.length = .ok ⟨payload, fits⟩) ∧
      (∀ (octets : Bytes) (size : Nat) (frame : Frame), decodeSigned octets size = .ok frame →
        frame.octets = (octets.take (2 * size)).map capital ++ terminator) ∧
      ∀ payload : Bytes, maxPayload < payload.length →
        make payload = .error (.long payload.length) ∧
          (∀ digits rest, Denotes digits payload →
            decodeSigned (digits ++ rest) payload.length = .error (.long payload.length)) ∧
          ∃ text, (Fault.long payload.length).raised.failure = .bridge .dataTooLong text := by
  refine ⟨?_, ?_, ?_⟩
  · intro payload fits
    have read (digits rest : Bytes) (denotes : Denotes digits payload) :
        decodeSigned (digits ++ rest) payload.length = .ok ⟨payload, fits⟩ := by
      rw [decodeSigned_natCast, decode_of_denotes denotes, make_of_fits fits]
    have written := denotes_encodeUpper payload
    refine ⟨make_of_fits fits, read, encodeUpper payload, rfl, written,
      fun _ => isUpperDigit_of_mem_encodeUpper, ?_, rfl, (isTerminated_iff _ rfl).mpr (.inl rfl),
      read _ terminator written⟩
    exact congrArg Int.ofNat (length_encode payload)
  · intro octets size frame read
    rw [decodeSigned_natCast] at read
    exact congrArg (· ++ terminator) (denotes_of_decode read).encodeUpper_eq
  · intro payload long
    refine ⟨make_of_long long, ?_, ?_⟩
    · intro digits rest denotes
      rw [decodeSigned_natCast, decode_of_denotes denotes, make_of_long long]
    · exact Fault.raised_long payload.length

/-- Digits of both cases with half a pair after them, and a payload of one octet too many. -/
theorem codec_mixedCase :
    let digits : Bytes := [0x61, 0x42, 0x30, 0x66]
    let frame : Frame := ⟨[0xAB, 0x0F], by decide⟩
    decodeSigned (digits ++ [0x0D]) 2 = .ok frame ∧
      frame.octets = [0x41, 0x42, 0x30, 0x46, 0x78, 0x0A] ∧
        make (List.replicate 2049 0) = .error (.long 2049) := by
  intro digits frame
  have denotes : Denotes digits frame.payload :=
    @Denotes.pair _ _ 10 11 _ _ (by decide) (by decide)
      (@Denotes.pair _ _ 0 15 _ _ (by decide) (by decide) .nil)
  have read := (codec_inverts.1 frame.payload frame.fits).2.1 digits [0x0D] denotes
  have long : maxPayload < (List.replicate 2049 (0 : UInt8)).length := by
    rw [List.length_replicate]
    decide
  have refused := (codec_inverts.2.2 _ long).1
  rw [List.length_replicate] at refused
  exact ⟨read, codec_inverts.2.1 _ 2 frame read, refused⟩

end Frame

end Hexwire
