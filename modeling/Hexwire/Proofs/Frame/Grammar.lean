import Hexwire.Proofs.Bytes.Utf8
import Hexwire.Proofs.Exchange.Verdict

/-! # What is read as a frame

Reading a payload of a size looks at twice as many octets and at nothing behind them. Too few octets
are refused whatever they are; among enough of them the first pair that is not two digits decides,
by whether its two octets are text on their own; and only digits throughout can be too long
(`Hexwire.Frame.Read`). Every frame and size have exactly one such verdict
(`Hexwire.Frame.reads_grammar`).
-/

namespace Hexwire

namespace Hex

/-- Octets that are the codes of the digits from `0` to `9`, from `A` to `F` and from `a` to `f`. -/
def IsDigitCode (octet : UInt8) : Prop :=
  0x30 ≤ octet ∧ octet ≤ 0x39 ∨ 0x41 ≤ octet ∧ octet ≤ 0x46 ∨ 0x61 ≤ octet ∧ octet ≤ 0x66

instance (octet : UInt8) : Decidable (IsDigitCode octet) :=
  inferInstanceAs (Decidable (_ ∨ _))

/-- An octet is the character of a digit exactly if its code is in one of three ranges. -/
theorem isDigit_iff {octet : UInt8} : isDigit (charOfOctet octet) ↔ IsDigitCode octet := by
  have every : ∀ code : Fin 256, isDigit (charOfOctet (UInt8.ofNat code)) ↔
      IsDigitCode (UInt8.ofNat code) := by
    decide +kernel
  have found := every ⟨octet.toNat, octet.toNat_lt⟩
  rwa [UInt8.ofNat_toNat] at found

end Hex

namespace Frame

open Hex

/-- What becomes of reading octets as a frame with a payload of some size. -/
inductive Read (octets : Bytes) (size : Nat) : Except Raised Frame → Prop where
  | short (few : octets.length < 2 * size) :
      Read octets size (.error (Failure.bridge .invalidResponse (some
        ("Frame too short: expected " ++ toString (2 * size) ++ " hex characters, got " ++
          toString octets.length))).raised)
  | notText {high low : UInt8} {fault : Utf8.Fault} (enough : 2 * size ≤ octets.length)
      (bad : FirstBad (octets.take (2 * size)) high low) (garbled : ¬ Utf8.IsText [high, low])
      (found : Utf8.decode [high, low] = .error fault) :
      Read octets size (.error ((Failure.bridge .nonUtf8Hex (some
        "Non-UTF8 hex characters in response")).raisedFrom (fault.failure "utf-8")))
  | notDigits {high low : UInt8} {text : List Char} (enough : 2 * size ≤ octets.length)
      (bad : FirstBad (octets.take (2 * size)) high low)
      (spelled : text.flatMap String.utf8EncodeChar = [high, low]) :
      Read octets size (.error (Failure.bridge .invalidHexDigit (some
        ("Invalid hex digit in response: " ++
          Text.quoteWith Text.isUnprintable text))).raised)
  | long {payload : Bytes} (enough : 2 * size ≤ octets.length)
      (denotes : Denotes (octets.take (2 * size)) payload) (long : maxPayload < size) :
      Read octets size (.error (Failure.bridge .dataTooLong (some
        ("Data too long for transport: " ++ toString size ++ " bytes, maximum is " ++
          toString maxPayload))).raised)
  | carried {payload : Bytes} (enough : 2 * size ≤ octets.length)
      (denotes : Denotes (octets.take (2 * size)) payload) (fits : payload.length ≤ maxPayload) :
      Read octets size (.ok ⟨payload, fits⟩)

variable {octets payload : Bytes} {size : Nat} {verdict : Except Raised Frame}

/-- The failure for a short frame tells both lengths. -/
theorem Fault.raised_short (expected found : Nat) :
    (Fault.short expected found).raised = (Failure.bridge .invalidResponse (some
      ("Frame too short: expected " ++ toString expected ++ " hex characters, got " ++
        toString found))).raised := by
  rw [Fault.raised, Failure.ofBridge_of_ne (by simp)]

/-- The failure for a long frame tells its size and the limit. -/
theorem Fault.raised_long_eq (size : Nat) :
    (Fault.long size).raised = (Failure.bridge .dataTooLong (some
      ("Data too long for transport: " ++ toString size ++ " bytes, maximum is " ++
        toString maxPayload))).raised := by
  have filled (rest : String) : rest ++ toString maxPayload ≠ "" := by simp
  rw [Fault.raised, Failure.ofBridge_of_ne (filled _)]

/-- Too few octets are refused for their count. -/
theorem decode_of_short (few : octets.length < 2 * size) :
    decode octets size = .error (.short (2 * size) octets.length) := by
  rw [decode, List.take_of_length_le (Nat.le_of_lt few), if_pos few]

/-- There are as many digits to read as the size asks for. -/
theorem length_take_of_enough (enough : 2 * size ≤ octets.length) :
    (octets.take (2 * size)).length = 2 * size := List.length_take_of_le enough

/-- Enough octets are refused for their first bad pair. -/
theorem decode_of_firstBad {high low : UInt8} (enough : 2 * size ≤ octets.length)
    (bad : FirstBad (octets.take (2 * size)) high low) :
    decode octets size = .error (.ofPair high low) := by
  have refused := decodePairs_eq_error_iff.mpr ⟨high, low, bad, rfl⟩
  simp only [decode, length_take_of_enough enough, Nat.lt_irrefl, ↓reduceIte, refused]

/-- Enough octets without a bad pair are digits throughout. -/
theorem exists_firstBad_or_denotes (enough : 2 * size ≤ octets.length) :
    (∃ high low, FirstBad (octets.take (2 * size)) high low) ∨
      ∃ payload, Denotes (octets.take (2 * size)) payload := by
  cases pairs : decodePairs (octets.take (2 * size)) with
  | error fault =>
      obtain ⟨high, low, bad, -⟩ := decodePairs_eq_error_iff.mp pairs
      exact .inl ⟨high, low, bad⟩
  | ok payload => exact .inr ⟨payload, denotes_of_decodePairs (length_take_of_enough enough) pairs⟩

/-- Digits that denote octets are decoded to a frame of these. -/
theorem decode_of_digits (enough : 2 * size ≤ octets.length)
    (denotes : Denotes (octets.take (2 * size)) payload) :
    payload.length = size ∧ decode octets size = make payload := by
  have even := denotes.length
  rw [length_take_of_enough enough] at even
  have sized : payload.length = size := by omega
  have read := decode_of_denotes denotes (octets.drop (2 * size))
  rw [List.take_append_drop, sized] at read
  exact ⟨sized, read⟩

/-- **Every frame has one verdict,** and reading reaches it. -/
theorem read_iff :
    Read octets size verdict ↔ (decode octets size).mapError Fault.raised = verdict := by
  constructor
  · intro read
    cases read with
    | short few =>
        rw [decode_of_short few]
        exact congrArg Except.error (Fault.raised_short _ _)
    | notText enough bad _ found =>
        rw [decode_of_firstBad enough bad, Fault.ofPair, found]
        rfl
    | notDigits enough bad spelled =>
        rw [decode_of_firstBad enough bad, Fault.ofPair, Utf8.decode_eq_ok_iff.mpr spelled]
        exact congrArg Except.error (Fault.raised_notDigits _)
    | long enough denotes long =>
        obtain ⟨rfl, read⟩ := decode_of_digits enough denotes
        rw [read, make_of_long long]
        exact congrArg Except.error (Fault.raised_long_eq _)
    | carried enough denotes fits =>
        rw [(decode_of_digits enough denotes).2, make_of_fits fits]
        rfl
  · -- The faults are told apart in the order in which reading finds them.
    rintro rfl
    by_cases few : octets.length < 2 * size
    · rw [decode_of_short few]
      change Read octets size (.error (Fault.raised _))
      rw [Fault.raised_short]
      exact .short few
    · have enough := Nat.not_lt.mp few
      obtain ⟨high, low, bad⟩ | ⟨payload, denotes⟩ := exists_firstBad_or_denotes enough
      · rw [decode_of_firstBad enough bad, Fault.ofPair]
        cases read : Utf8.decode [high, low] with
        | error fault =>
            exact .notText enough bad (Utf8.not_isText_iff.mpr ⟨fault, read⟩) read
        | ok text =>
            change Read octets size (.error (Fault.raised _))
            rw [Fault.raised_notDigits]
            exact .notDigits enough bad (Utf8.decode_eq_ok_iff.mp read)
      · obtain ⟨rfl, read⟩ := decode_of_digits enough denotes
        rw [read]
        by_cases fits : payload.length ≤ maxPayload
        · rw [make_of_fits fits]
          exact .carried enough denotes fits
        · have long := Nat.not_le.mp fits
          rw [make_of_long long]
          change Read octets payload.length (.error (Fault.raised _))
          rw [Fault.raised_long_eq]
          exact .long enough denotes long

/-- What stands behind the octets that are read makes no difference. -/
theorem decode_take_append (enough : 2 * size ≤ octets.length) (rest : Bytes) :
    decode (octets.take (2 * size) ++ rest) size = decode octets size := by
  have front : (octets.take (2 * size) ++ rest).take (2 * size) = octets.take (2 * size) :=
    List.take_left' (length_take_of_enough enough)
  unfold decode
  rw [front]

/-- The first bad pair is at an even position, with digits only in front of it. -/
theorem firstBad_take_iff {high low : UInt8} :
    FirstBad (octets.take (2 * size)) high low ↔
      ∃ index < size, octets[2 * index]? = some high ∧ octets[2 * index + 1]? = some low ∧
        ¬ (IsDigitCode high ∧ IsDigitCode low) ∧
          ∀ digit ∈ octets.take (2 * index), IsDigitCode digit := by
  simp only [← isDigit_iff]
  constructor
  · intro firstBad
    obtain ⟨good, payload, rest, split, denotes, bad⟩ := firstBad
    have even := denotes.length
    have covered := congrArg List.length split
    simp only [List.length_take, List.length_append, List.length_cons] at covered
    have place {position : Nat} (inside : position < 2 * size) :
        octets[position]? = (good ++ high :: low :: rest)[position]? := by
      rw [← split, List.getElem?_take_of_lt inside]
    have front : octets.take (2 * payload.length) = good := by
      rw [← Nat.min_eq_left (show 2 * payload.length ≤ 2 * size by omega), ← List.take_take, split,
        ← even, List.take_left]
    refine ⟨payload.length, by omega, ?_, ?_, bad, ?_⟩
    · rw [place (by omega), ← even, List.getElem?_append_right (Nat.le_refl _), Nat.sub_self]
      rfl
    · rw [place (by omega), ← even, List.getElem?_append_right (Nat.le_add_right _ 1),
        Nat.add_sub_cancel_left]
      rfl
    · rw [front]
      exact denotes.isDigit
  · intro found
    obtain ⟨index, inside, first, second, bad, digits⟩ := found
    obtain ⟨long, rfl⟩ := List.getElem?_eq_some_iff.mp second
    obtain ⟨_, rfl⟩ := List.getElem?_eq_some_iff.mp first
    have even : (octets.take (2 * index)).length = 2 * index := by
      rw [List.length_take]
      omega
    obtain ⟨payload, -, denotes⟩ := exists_denotes even digits
    refine ⟨_, payload, (octets.take (2 * size)).drop (2 * index + 2), ?_, denotes, bad⟩
    have bound : 2 * index + 1 < (octets.take (2 * size)).length := by
      rw [List.length_take]
      omega
    conv =>
      lhs
      rw [← List.take_append_drop (2 * index) (octets.take (2 * size))]
    rw [List.take_take, Nat.min_eq_left (by omega), List.drop_eq_getElem_cons (by omega),
      List.drop_eq_getElem_cons bound]
    simp only [List.getElem_take]

/-- Reading ends in an error of the bridge of some kind. -/
def Refuses (outcome : Except Raised Frame) (kind : BridgeKind) : Prop :=
  ∃ text cause, outcome = .error ⟨.bridge kind text, cause⟩

/-- What has to be wrong with octets for an error of the kind. -/
def AtFault (octets : Bytes) (size : Nat) : BridgeKind → Prop
  | .invalidResponse => octets.length < 2 * size
  | .nonUtf8Hex => 2 * size ≤ octets.length ∧
      ∃ high low, FirstBad (octets.take (2 * size)) high low ∧ ¬ Utf8.IsText [high, low]
  | .invalidHexDigit => 2 * size ≤ octets.length ∧
      ∃ high low, FirstBad (octets.take (2 * size)) high low ∧ Utf8.IsText [high, low]
  | .dataTooLong => 2 * size ≤ octets.length ∧
      (∀ digit ∈ octets.take (2 * size), IsDigitCode digit) ∧ maxPayload < size
  | _ => False

/-- What denotes octets has the codes of digits. -/
theorem isDigitCode_of_denotes {digits : Bytes} (denotes : Denotes digits payload) :
    ∀ digit ∈ digits, IsDigitCode digit :=
  fun digit member => isDigit_iff.mp (denotes.isDigit digit member)

/-- A reading that is refused has a fault of the kind. -/
theorem Read.atFault {kind : BridgeKind} (read : Read octets size verdict)
    (refuses : Refuses verdict kind) : AtFault octets size kind := by
  obtain ⟨text, cause, rfl⟩ := refuses
  cases read with
  | short few => exact few
  | notText enough bad garbled _ => exact ⟨enough, _, _, bad, garbled⟩
  | notDigits enough bad spelled => exact ⟨enough, _, _, bad, _, spelled⟩
  | long enough denotes long => exact ⟨enough, isDigitCode_of_denotes denotes, long⟩

/-- A fault of a kind is read as a refusal of that kind. -/
theorem AtFault.exists_read {kind : BridgeKind} (fault : AtFault octets size kind) :
    ∃ verdict, Read octets size verdict ∧ Refuses verdict kind := by
  cases kind with
  | invalidResponse => exact ⟨_, .short fault, _, _, rfl⟩
  | nonUtf8Hex =>
      obtain ⟨enough, high, low, bad, garbled⟩ := fault
      obtain ⟨found, read⟩ := Utf8.not_isText_iff.mp garbled
      exact ⟨_, .notText enough bad garbled read, _, _, rfl⟩
  | invalidHexDigit =>
      obtain ⟨enough, high, low, bad, text, spelled⟩ := fault
      exact ⟨_, .notDigits enough bad spelled, _, _, rfl⟩
  | dataTooLong =>
      obtain ⟨enough, digits, long⟩ := fault
      obtain ⟨payload, -, denotes⟩ := exists_denotes (length_take_of_enough enough)
        fun digit member => isDigit_iff.mpr (digits digit member)
      exact ⟨_, .long enough denotes long, _, _, rfl⟩
  | _ => exact fault.elim

/-- **Reading accepts exactly its grammar and names the first fault.** Octets and a size come to the
one verdict that they have, an error is of a kind for exactly what is wrong, and what is accepted is
what digits denote. The first bad pair and whether it is text are spelled out; octets behind the
pairs that are read make no difference. -/
theorem reads_grammar (octets : Bytes) (size : Nat) :
    let outcome := (decodeSigned octets size).mapError Fault.raised
    let front := octets.take (2 * size)
    (∀ verdict, outcome = verdict ↔ Read octets size verdict) ∧
      (∀ kind, Refuses outcome kind ↔ AtFault octets size kind) ∧
      (∀ frame, outcome = .ok frame ↔
        2 * size ≤ octets.length ∧ Denotes front frame.payload) ∧
      ((∃ frame, outcome = .ok frame) ∨ ∃ kind, Refuses outcome kind) ∧
      ((∃ frame, outcome = .ok frame) → ∀ digit ∈ front, IsDigitCode digit) ∧
      (∀ high low, FirstBad front high low ↔
        ∃ index < size, octets[2 * index]? = some high ∧ octets[2 * index + 1]? = some low ∧
          ¬ (IsDigitCode high ∧ IsDigitCode low) ∧
            ∀ digit ∈ octets.take (2 * index), IsDigitCode digit) ∧
      (∀ high low, Utf8.IsText [high, low] ↔
        high < 0x80 ∧ low < 0x80 ∨ 0xC2 ≤ high ∧ high < 0xE0 ∧ 0x80 ≤ low ∧ low < 0xC0) ∧
      (2 * size ≤ octets.length →
        ∀ rest, decodeSigned (front ++ rest) size = decodeSigned octets size) := by
  intro outcome front
  have reached : Read octets size outcome :=
    read_iff.mpr (by rw [← decodeSigned_natCast])
  have only {verdict : Except Raised Frame} (read : Read octets size verdict) :
      outcome = verdict := by
    rw [← read_iff.mp read, ← decodeSigned_natCast]
  have accepted (frame : Frame) :
      outcome = .ok frame ↔ 2 * size ≤ octets.length ∧ Denotes front frame.payload := by
    constructor
    · intro read
      rw [read] at reached
      cases reached with
      | carried enough denotes _ => exact ⟨enough, denotes⟩
    · intro found
      exact only (.carried found.1 found.2 frame.fits)
  refine ⟨?_, ?_, accepted, ?_, ?_, fun high low => firstBad_take_iff, ?_, ?_⟩
  · intro verdict
    exact ⟨fun same => same ▸ reached, only⟩
  · intro kind
    refine ⟨reached.atFault, ?_⟩
    intro fault
    obtain ⟨verdict, read, refuses⟩ := fault.exists_read
    rwa [only read]
  · generalize outcome = verdict at reached
    cases reached with
    | carried => exact .inl ⟨_, rfl⟩
    | _ => exact .inr ⟨_, _, _, rfl⟩
  · intro read
    obtain ⟨frame, read⟩ := read
    exact isDigitCode_of_denotes ((accepted frame).mp read).2
  · intro high low
    rw [Utf8.isText_pair_iff, Utf8.continues, Bool.and_eq_true, decide_eq_true_eq,
      decide_eq_true_eq]
  · intro enough rest
    rw [decodeSigned_natCast, decodeSigned_natCast]
    exact decode_take_append enough rest

/-- A sign, a character of two octets, halves of two characters, and digits with a terminator. -/
theorem reads_grammar_nonDigits :
    let outcome (octets : Bytes) (size : Nat) := (decodeSigned octets size).mapError Fault.raised
    Refuses (outcome [0x2B, 0x41] 1) .invalidHexDigit ∧
      Refuses (outcome [0xC3, 0xA9] 1) .invalidHexDigit ∧
        Refuses (outcome [0x30, 0xC3, 0xA9, 0x30] 2) .nonUtf8Hex ∧
          decodeSigned [0x30, 0x61, 0x78, 0x0A] 1 = decodeSigned [0x30, 0x61] 1 := by
  intro outcome
  have first {high low : UInt8} {rest : Bytes} {size : Nat}
      (bad : ¬ (IsDigitCode high ∧ IsDigitCode low)) :
      FirstBad ((high :: low :: rest).take (2 * (size + 1))) high low := by
    obtain ⟨-, -, -, -, -, firstBad, -, -⟩ := reads_grammar (high :: low :: rest) (size + 1)
    exact (firstBad high low).mpr
      ⟨0, Nat.succ_pos size, rfl, rfl, bad, fun _ member => (List.not_mem_nil member).elim⟩
  have text (high low : UInt8) := (reads_grammar [high, low] 1).2.2.2.2.2.2.1 high low
  refine ⟨?_, ?_, ?_, ?_⟩
  · refine ((reads_grammar _ 1).2.1 _).mpr ⟨by decide, 0x2B, 0x41, first (by decide), ?_⟩
    exact (text _ _).mpr (by decide)
  · refine ((reads_grammar _ 1).2.1 _).mpr ⟨by decide, 0xC3, 0xA9, first (by decide), ?_⟩
    exact (text _ _).mpr (by decide)
  · refine ((reads_grammar _ 2).2.1 _).mpr ⟨by decide, 0x30, 0xC3, first (by decide), ?_⟩
    exact fun spelled => absurd ((text _ _).mp spelled) (by decide)
  · exact (reads_grammar [0x30, 0x61] 1).2.2.2.2.2.2.2 (by decide) [0x78, 0x0A]

end Frame

end Hexwire
