import Hexwire.Bytes.Hex

/-! # Digits and what they denote

Pairs of hexadecimal digits of either case denote octets (`Hexwire.Hex.Denotes`). Digits denote one
payload, every even count of digits denotes one, and the digits that are written for octets denote
them. Text of such digits is read as the octets that they denote
(`Hexwire.Hex.parseFrom_of_denotes`).
-/

namespace Hexwire

namespace Hex

/-- Octets that are pairs of hexadecimal digits, with the octets that the pairs denote. -/
inductive Denotes : Bytes → Bytes → Prop where
  | nil : Denotes [] []
  | pair {high low : UInt8} {upper lower : Nat} {digits payload : Bytes}
      (first : digitValue? (charOfOctet high) = some upper)
      (second : digitValue? (charOfOctet low) = some lower) (rest : Denotes digits payload) :
      Denotes (high :: low :: digits) (UInt8.ofNat (16 * upper + lower) :: payload)

namespace Denotes

variable {digits payload other : Bytes}

/-- Every octet is denoted by two digits. -/
theorem length (denotes : Denotes digits payload) : digits.length = 2 * payload.length := by
  induction denotes with
  | nil => rfl
  | pair _ _ _ ih =>
      simp only [List.length_cons, ih]
      omega

/-- What denotes octets is made of hexadecimal digits. -/
theorem isDigit (denotes : Denotes digits payload) :
    ∀ digit ∈ digits, Hex.isDigit (charOfOctet digit) := by
  induction denotes with
  | nil => exact fun _ member => (List.not_mem_nil member).elim
  | pair first second _ ih =>
      intro digit member
      rcases List.mem_cons.mp member with rfl | member
      · simp only [Hex.isDigit, first, Option.isSome_some]
      · rcases List.mem_cons.mp member with rfl | member
        · simp only [Hex.isDigit, second, Option.isSome_some]
        · exact ih digit member

/-- Digits denote at most one payload. -/
theorem unique (first : Denotes digits payload) (second : Denotes digits other) :
    payload = other := by
  induction first generalizing other with
  | nil =>
      cases second
      rfl
  | pair high low _ ih =>
      cases second with
      | pair high' low' rest =>
          rw [high] at high'
          rw [low] at low'
          rw [Option.some.inj high', Option.some.inj low', ih rest]

end Denotes

/-- An even count of digits denotes half as many octets. -/
theorem exists_denotes {size : Nat} {digits : Bytes} (even : digits.length = 2 * size)
    (all : ∀ digit ∈ digits, isDigit (charOfOctet digit)) :
    ∃ payload, payload.length = size ∧ Denotes digits payload := by
  induction size generalizing digits with
  | zero =>
      have empty : digits = [] := List.eq_nil_of_length_eq_zero even
      subst empty
      exact ⟨[], rfl, .nil⟩
  | succ size ih =>
      match digits, even with
      | high :: low :: digits, even =>
          simp only [List.length_cons] at even
          obtain ⟨payload, sized, rest⟩ := ih (by omega) fun digit member =>
            all digit (List.mem_cons_of_mem _ (List.mem_cons_of_mem _ member))
          obtain ⟨upper, first⟩ := Option.isSome_iff_exists.mp (all high List.mem_cons_self)
          obtain ⟨lower, second⟩ := Option.isSome_iff_exists.mp
            (all low (List.mem_cons_of_mem _ List.mem_cons_self))
          exact ⟨_ :: payload, congrArg Nat.succ sized, .pair first second rest⟩

/-- Two digits with known values give the octet that has these as its halves. -/
theorem ofDigits?_of_values {high low : Char} {upper lower : Nat}
    (first : digitValue? high = some upper) (second : digitValue? low = some lower) :
    ofDigits? high low = some (UInt8.ofNat (16 * upper + lower)) := by
  simp only [ofDigits?, first, second, Option.bind_eq_bind, Option.bind_some]

/-- A digit survives its way through an octet. -/
theorem charOfOctet_octetOfChar_upperDigit : ∀ value : Fin 16,
    charOfOctet (octetOfChar (upperDigit value)) = upperDigit value := by
  decide

/-- The digits that are written for octets denote them. -/
theorem denotes_encodeUpper (data : Bytes) : Denotes (encodeUpper data) data := by
  induction data with
  | nil => exact .nil
  | cons octet rest ih =>
      have bound : octet.toNat < 256 := octet.toNat_lt
      have value (half : Fin 16) :
          digitValue? (charOfOctet (octetOfChar (upperDigit half))) = some half.val := by
        rw [charOfOctet_octetOfChar_upperDigit]
        exact (digitValue?_digit half).1
      have pair := Denotes.pair (value ⟨octet.toNat / 16, by omega⟩)
        (value ⟨octet.toNat % 16, by omega⟩) ih
      rw [ofNat_halves] at pair
      exact pair

/-- Digits lie between the codes of `0` and `f`. -/
theorem code_of_digitValue? {c : Char} {value : Nat} (digit : digitValue? c = some value) :
    48 ≤ c.toNat ∧ c.toNat ≤ 102 := by
  have order (first last : Char) : first ≤ last ↔ first.toNat ≤ last.toNat :=
    Char.le_def.trans UInt32.le_iff_toNat_le
  unfold digitValue? at digit
  split at digit
  case isTrue between =>
    rw [order, order] at between
    exact ⟨between.1, Nat.le_trans between.2 (by decide)⟩
  split at digit
  case isTrue between =>
    rw [order, order] at between
    exact ⟨Nat.le_trans (by decide) between.1, Nat.le_trans between.2 (by decide)⟩
  split at digit
  case isTrue between =>
    rw [order, order] at between
    exact ⟨Nat.le_trans (by decide) between.1, between.2⟩
  cases digit

/-- No digit is a blank. -/
theorem isBlank_of_digitValue? {c : Char} {value : Nat} (digit : digitValue? c = some value) :
    isBlank c = false := by
  have code := (code_of_digitValue? digit).1
  rw [Bool.eq_false_iff]
  intro blank
  simp only [isBlank, Bool.or_eq_true, Bool.and_eq_true, decide_eq_true_eq] at blank
  rcases blank with rfl | ⟨-, last⟩
  · exact absurd code (by decide)
  · have low : c.toNat ≤ 13 := UInt32.le_iff_toNat_le.mp (Char.le_def.mp last)
    omega

/-- The character of an octet has the octet as its code. -/
theorem toNat_charOfOctet (octet : UInt8) : (charOfOctet octet).toNat = octet.toNat := by
  have bound : octet.toNat < 256 := octet.toNat_lt
  have valid : octet.toNat.isValidChar := .inl (by omega)
  unfold charOfOctet Char.ofNat
  rw [dif_pos valid]
  rfl

/-- An octet that is a digit is below 128. -/
theorem ascii_of_digitValue? {octet : UInt8} {value : Nat}
    (digit : digitValue? (charOfOctet octet) = some value) : octet < 0x80 := by
  have code := (code_of_digitValue? digit).2
  rw [toNat_charOfOctet] at code
  exact UInt8.lt_iff_toNat_lt.mpr (Nat.lt_of_le_of_lt code (by decide))

/-- Digits are below 128. -/
theorem Denotes.ascii {digits payload : Bytes} (denotes : Denotes digits payload) :
    ∀ digit ∈ digits, digit < 0x80 := by
  intro digit member
  obtain ⟨value, read⟩ := Option.isSome_iff_exists.mp (denotes.isDigit digit member)
  exact ascii_of_digitValue? read

/-- Digits are read as the octets that they denote, wherever they stand. -/
theorem parseFrom_of_denotes {digits payload : Bytes} (denotes : Denotes digits payload)
    (position : Nat) : parseFrom position (digits.map charOfOctet) = .ok payload := by
  induction denotes generalizing position with
  | nil => rfl
  | pair first second _ ih =>
      rw [List.map_cons, List.map_cons]
      unfold parseFrom
      simp only [isBlank_of_digitValue? first, Bool.false_eq_true, ↓reduceIte, first, second, ih]

end Hex

end Hexwire
