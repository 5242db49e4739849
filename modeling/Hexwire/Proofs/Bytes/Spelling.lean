import Hexwire.Proofs.Bytes.Digits

/-! # Text that spells octets

Text spells octets when it is made of pairs of digits that denote them, with blanks between the
pairs only (`Hexwire.Hex.Spells`). Exactly such text is read (`Hexwire.Hex.parse_eq_ok_iff`). Where
there are no blanks, any even count of digits spells octets (`Hexwire.Hex.exists_spells`), half as
many as there are digits (`Hexwire.Hex.Spells.length`).
-/

namespace Hexwire

namespace Hex

/-- Text that is made of pairs of digits, with blanks before and after pairs, and the octets that
the pairs denote. -/
inductive Spells : List Char → Bytes → Prop where
  | nil : Spells [] []
  | blank {c : Char} {text : List Char} {data : Bytes} (blank : isBlank c)
      (rest : Spells text data) : Spells (c :: text) data
  | pair {high low : Char} {upper lower : Nat} {text : List Char} {data : Bytes}
      (first : digitValue? high = some upper) (second : digitValue? low = some lower)
      (rest : Spells text data) :
      Spells (high :: low :: text) (UInt8.ofNat (16 * upper + lower) :: data)

variable {position : Nat} {text : List Char} {data other digits : Bytes}

/-- What is read spells the octets that were found in it. -/
theorem spells_of_parseFrom (read : parseFrom position text = .ok data) : Spells text data := by
  fun_induction parseFrom position text generalizing data with
  | case1 =>
      cases read
      exact .nil
  | case2 _ _ _ blank ih => exact .blank blank (ih read)
  | case6 _ _ _ _ _ _ first _ second _ later ih =>
      cases read
      exact .pair first second (ih later)
  | _ => cases read

/-- Text is read wherever it stands. -/
theorem Spells.parseFrom (spells : Spells text data) (position : Nat) :
    parseFrom position text = .ok data := by
  induction spells generalizing position with
  | nil => rfl
  | blank blank _ ih =>
      unfold Hex.parseFrom
      rw [if_pos blank, ih]
  | pair first second _ ih =>
      unfold Hex.parseFrom
      simp only [isBlank_of_digitValue? first, Bool.false_eq_true, ↓reduceIte, first, second, ih]

/-- **Text that spells octets is read as these, and no other text is read.** -/
theorem parse_eq_ok_iff : parse text = .ok data ↔ Spells text data :=
  ⟨spells_of_parseFrom, fun spells => spells.parseFrom 0⟩

/-- Text spells at most one sequence of octets. -/
theorem Spells.unique (first : Spells text data) (second : Spells text other) : data = other :=
  Except.ok.inj ((first.parseFrom 0).symm.trans (second.parseFrom 0))

/-- Every hexadecimal digit has a value. -/
theorem digitValue?_of_isDigit {c : Char} (digit : isDigit c) :
    ∃ value, digitValue? c = some value := Option.isSome_iff_exists.mp digit

/-- A digit is one of three runs of codes, and its value is its place in the run. -/
theorem digitValue?_eq_some_iff {c : Char} {value : Nat} :
    digitValue? c = some value ↔
      48 ≤ c.toNat ∧ c.toNat ≤ 57 ∧ value + 48 = c.toNat ∨
        65 ≤ c.toNat ∧ c.toNat ≤ 70 ∧ value + 55 = c.toNat ∨
          97 ≤ c.toNat ∧ c.toNat ≤ 102 ∧ value + 87 = c.toNat := by
  have order (first last : Char) : first ≤ last ↔ first.toNat ≤ last.toNat :=
    Char.le_def.trans UInt32.le_iff_toNat_le
  have codes : '0'.toNat = 48 ∧ '9'.toNat = 57 ∧ 'A'.toNat = 65 ∧ 'F'.toNat = 70 ∧
      'a'.toNat = 97 ∧ 'f'.toNat = 102 := by decide
  simp only [digitValue?, order, codes]
  by_cases decimal : 48 ≤ c.toNat ∧ c.toNat ≤ 57
  · simp only [decimal, and_self, true_and, ↓reduceIte, Option.some.injEq]
    omega
  by_cases capital : 65 ≤ c.toNat ∧ c.toNat ≤ 70
  · simp only [decimal, capital, and_self, true_and, ↓reduceIte, Option.some.injEq]
    omega
  by_cases small : 97 ≤ c.toNat ∧ c.toNat ≤ 102
  · simp only [decimal, capital, small, and_self, true_and, ↓reduceIte, Option.some.injEq]
    omega
  · simp only [decimal, capital, small, ↓reduceIte, reduceCtorEq, false_iff]
    omega

/-- Digits spell half as many octets. -/
theorem Spells.length (spells : Spells text data) (digits : ∀ c ∈ text, isDigit c) :
    text.length = 2 * data.length := by
  induction spells with
  | nil => rfl
  | blank blank _ _ =>
      obtain ⟨value, digit⟩ := digitValue?_of_isDigit (digits _ List.mem_cons_self)
      rw [isBlank_of_digitValue? digit] at blank
      cases blank
  | pair _ _ _ ih =>
      have later := ih fun c member =>
        digits c (List.mem_cons_of_mem _ (List.mem_cons_of_mem _ member))
      simp only [List.length_cons, later]
      omega

/-- Octets that are digits spell what they denote. -/
theorem Denotes.spells (denotes : Denotes digits data) : Spells (digits.map charOfOctet) data := by
  induction denotes with
  | nil => exact .nil
  | pair first second _ ih => exact .pair first second ih

/-- A hexadecimal digit is the character of its own octet. -/
theorem charOfOctet_octetOfChar {c : Char} (digit : isDigit c) :
    charOfOctet (octetOfChar c) = c := by
  obtain ⟨value, digit⟩ := digitValue?_of_isDigit digit
  have code := (code_of_digitValue? digit).2
  have small : c.toNat % 256 = c.toNat := Nat.mod_eq_of_lt (by omega)
  rw [charOfOctet, octetOfChar, UInt8.toNat_ofNat', small, Char.ofNat_toNat]

/-- An even count of digits spells octets. -/
theorem exists_spells {size : Nat} (even : text.length = 2 * size)
    (digits : ∀ c ∈ text, isDigit c) : ∃ data, Spells text data := by
  have back : (text.map octetOfChar).map charOfOctet = text := by
    rw [List.map_map]
    exact (List.map_congr_left fun c member =>
      charOfOctet_octetOfChar (digits c member)).trans (List.map_id text)
  obtain ⟨data, -, denotes⟩ : ∃ data, data.length = size ∧ Denotes (text.map octetOfChar) data := by
    refine exists_denotes (by rw [List.length_map, even]) ?_
    intro octet member
    obtain ⟨c, own, rfl⟩ := List.mem_map.mp member
    rw [charOfOctet_octetOfChar (digits c own)]
    exact digits c own
  have spells := denotes.spells
  rw [back] at spells
  exact ⟨data, spells⟩

end Hex

end Hexwire
