import Hexwire.Bytes.Utf8

/-! # Octets that are text

Octets are text when they are the codes of characters one after the other
(`Hexwire.Utf8.IsText`). Decoding accepts exactly these and gives back the characters
(`Hexwire.Utf8.decode_eq_ok_iff`). Two octets by themselves are text when both are below 128, or
when the first starts a character of two octets that the second continues
(`Hexwire.Utf8.isText_pair_iff`).
-/

namespace Hexwire.Utf8

/-- Octets are the codes of some characters. -/
def IsText (octets : Bytes) : Prop :=
  ∃ text : List Char, text.flatMap String.utf8EncodeChar = octets

/-- The octets of one character, by their count. -/
inductive IsCharacter : Char → Bytes → Prop where
  | one {lead : UInt8} (plain : lead < 0x80) : IsCharacter (Char.ofNat lead.toNat) [lead]
  | two {lead second : UInt8} (first : 0xC2 ≤ lead) (last : lead < 0xE0)
      (continued : continues second) :
      IsCharacter (Char.ofNat (64 * (lead.toNat % 32) + payload second)) [lead, second]
  | three {lead second third : UInt8} (first : 0xE0 ≤ lead) (last : lead < 0xF0)
      (started : seconds lead second) (continued : continues third) :
      IsCharacter (Char.ofNat (4096 * (lead.toNat % 16) + 64 * payload second + payload third))
        [lead, second, third]
  | four {lead second third fourth : UInt8} (first : 0xF0 ≤ lead) (last : lead < 0xF5)
      (started : seconds lead second) (middle : continues third) (continued : continues fourth) :
      IsCharacter (Char.ofNat (262144 * (lead.toNat % 8) + 4096 * payload second +
        64 * payload third + payload fourth)) [lead, second, third, fourth]

/-- Octets from `0x80` up to `0xBF` can continue a character. -/
theorem continues_iff {octet : UInt8} :
    continues octet ↔ 0x80 ≤ octet.toNat ∧ octet.toNat < 0xC0 := by
  simp only [continues, Bool.and_eq_true, decide_eq_true_eq, UInt8.le_iff_toNat_le,
    UInt8.lt_iff_toNat_lt]
  rfl

/-- What can follow the first octet of a character, in numbers. -/
theorem seconds_iff {lead octet : UInt8} :
    seconds lead octet ↔
      0x80 ≤ octet.toNat ∧ octet.toNat < 0xC0 ∧ (lead.toNat = 0xE0 → 0xA0 ≤ octet.toNat) ∧
        (lead.toNat = 0xED → octet.toNat < 0xA0) ∧ (lead.toNat = 0xF0 → 0x90 ≤ octet.toNat) ∧
          (lead.toNat = 0xF4 → octet.toNat < 0x90) := by
  have value (code : UInt8) : lead = code ↔ lead.toNat = code.toNat := UInt8.toNat_inj.symm
  unfold seconds
  rw [Bool.and_eq_true, continues_iff]
  simp only [value, UInt8.le_iff_toNat_le, UInt8.lt_iff_toNat_lt, UInt8.reduceToNat]
  repeat' split
  all_goals
    simp only [decide_eq_true_eq, and_true]
    omega

/-- A character that is made from a valid code has this code. -/
theorem toNat_ofNat {code : Nat} (valid : code.isValidChar) :
    (Char.ofNat code).val.toNat = code := by
  unfold Char.ofNat
  rw [dif_pos valid]
  rfl

/-- An octet is made again from its number. -/
theorem ofNat_of_eq (octet : UInt8) {value : Nat} (same : value = octet.toNat) :
    UInt8.ofNat value = octet := by
  rw [same, UInt8.ofNat_toNat]

/-- The octets of a character are its code. -/
theorem IsCharacter.encode_eq {c : Char} {octets : Bytes} (character : IsCharacter c octets) :
    String.utf8EncodeChar c = octets := by
  unfold String.utf8EncodeChar
  cases character with
  | @one lead plain =>
      have bound : lead.toNat < 0x80 := UInt8.lt_iff_toNat_lt.mp plain
      rw [toNat_ofNat (.inl (by omega))]
      dsimp only
      rw [if_pos (by omega), UInt8.ofNat_toNat]
  | @two lead second first last continued =>
      have least : 0xC2 ≤ lead.toNat := UInt8.le_iff_toNat_le.mp first
      have most : lead.toNat < 0xE0 := UInt8.lt_iff_toNat_lt.mp last
      have tail := continues_iff.mp continued
      rw [payload, toNat_ofNat (.inl (by omega))]
      dsimp only
      rw [if_neg (by omega), if_pos (by omega), ofNat_of_eq lead (by omega),
        ofNat_of_eq second (by omega)]
  | @three lead second third first last started continued =>
      have least : 0xE0 ≤ lead.toNat := UInt8.le_iff_toNat_le.mp first
      have most : lead.toNat < 0xF0 := UInt8.lt_iff_toNat_lt.mp last
      -- The second octet keeps the code above 2047 and off the surrogates.
      obtain ⟨inner, inner', long, surrogate, -, -⟩ := seconds_iff.mp started
      have tail := continues_iff.mp continued
      rw [payload, payload, toNat_ofNat (by unfold Nat.isValidChar; omega)]
      dsimp only
      rw [if_neg (by omega), if_neg (by omega), if_pos (by omega),
        ofNat_of_eq lead (by omega), ofNat_of_eq second (by omega),
        ofNat_of_eq third (by omega)]
  | @four lead second third fourth first last started middle continued =>
      have least : 0xF0 ≤ lead.toNat := UInt8.le_iff_toNat_le.mp first
      have most : lead.toNat < 0xF5 := UInt8.lt_iff_toNat_lt.mp last
      obtain ⟨inner, inner', -, -, long, greatest⟩ := seconds_iff.mp started
      have body := continues_iff.mp middle
      have tail := continues_iff.mp continued
      rw [payload, payload, payload, toNat_ofNat (by unfold Nat.isValidChar; omega)]
      dsimp only
      rw [if_neg (by omega), if_neg (by omega), if_neg (by omega),
        ofNat_of_eq lead (by omega), ofNat_of_eq second (by omega),
        ofNat_of_eq third (by omega), ofNat_of_eq fourth (by omega)]

/-- Every character has octets, and its code is made of them. -/
theorem isCharacter_encode (c : Char) : IsCharacter c (String.utf8EncodeChar c) := by
  have named (code : Nat) (same : code = c.val.toNat) : Char.ofNat code = c := by
    rw [same]
    exact Char.ofNat_toNat c
  have valid : c.val.toNat.isValidChar := c.valid
  have octet {value : Nat} (small : value < 256) : (UInt8.ofNat value).toNat = value :=
    UInt8.toNat_ofNat_of_lt' small
  have inner (value : Nat) : (UInt8.ofNat (value % 64 + 128)).toNat = value % 64 + 128 :=
    octet (by omega)
  have continued (value : Nat) : continues (UInt8.ofNat (value % 64 + 128)) :=
    continues_iff.mpr (by rw [inner]; omega)
  unfold Nat.isValidChar at valid
  unfold String.utf8EncodeChar
  generalize c.val.toNat = code at named valid
  dsimp only
  split
  case isTrue one =>
    have lead := octet (show code < 256 by omega)
    have character := @IsCharacter.one (UInt8.ofNat code)
      (UInt8.lt_iff_toNat_lt.mpr (by rw [lead]; exact Nat.lt_succ_of_le one))
    rwa [lead, named code rfl] at character
  split
  case isTrue two =>
    have lead := octet (show code / 64 % 32 + 192 < 256 by omega)
    have character := @IsCharacter.two (UInt8.ofNat (code / 64 % 32 + 192)) _
      (UInt8.le_iff_toNat_le.mpr (by rw [lead]; change 0xC2 ≤ _; omega))
      (UInt8.lt_iff_toNat_lt.mpr (by rw [lead]; change _ < 0xE0; omega)) (continued code)
    rwa [payload, lead, inner, named _ (by omega)] at character
  split
  case isTrue three =>
    have lead := octet (show code / 4096 % 16 + 224 < 256 by omega)
    have character := @IsCharacter.three (UInt8.ofNat (code / 4096 % 16 + 224))
      (UInt8.ofNat (code / 64 % 64 + 128)) _
      (UInt8.le_iff_toNat_le.mpr (by rw [lead]; change 0xE0 ≤ _; omega))
      (UInt8.lt_iff_toNat_lt.mpr (by rw [lead]; change _ < 0xF0; omega))
      (seconds_iff.mpr (by rw [lead, inner]; omega)) (continued code)
    rwa [payload, payload, lead, inner, inner, named _ (by omega)] at character
  case isFalse =>
    have lead := octet (show code / 262144 % 8 + 240 < 256 by omega)
    have character := @IsCharacter.four (UInt8.ofNat (code / 262144 % 8 + 240))
      (UInt8.ofNat (code / 4096 % 64 + 128)) _ _
      (UInt8.le_iff_toNat_le.mpr (by rw [lead]; change 0xF0 ≤ _; omega))
      (UInt8.lt_iff_toNat_lt.mpr (by rw [lead]; change _ < 0xF5; omega))
      (seconds_iff.mpr (by rw [lead, inner]; omega)) (continued (code / 64)) (continued code)
    rwa [payload, payload, payload, lead, inner, inner, inner, named _ (by omega)] at character

variable {c : Char} {octets rest : Bytes} {text : List Char} {position : Nat}

/-- The octets of a character are decoded as the character, whatever follows them. -/
theorem decodeFrom_append (character : IsCharacter c octets) (position : Nat) (rest : Bytes) :
    decodeFrom position (octets ++ rest) =
      (decodeFrom (position + octets.length) rest).map (c :: ·) := by
  rw [decodeFrom.eq_def]
  cases character with
  | @one lead plain =>
      simp only [List.cons_append, List.nil_append, plain, ↓reduceIte]
      cases decodeFrom (position + 1) rest <;> rfl
  | @two lead second first last continued =>
      have wide : ¬ lead < 0x80 := by grind
      have lawful : ¬ (lead < 0xC2 ∨ 0xF5 ≤ lead) := by grind
      simp only [List.cons_append, List.nil_append, wide, lawful, last, continued, ↓reduceIte]
      cases decodeFrom (position + 2) rest <;> rfl
  | @three lead second third first last started continued =>
      have wide : ¬ lead < 0x80 := by grind
      have lawful : ¬ (lead < 0xC2 ∨ 0xF5 ≤ lead) := by grind
      have long : ¬ lead < 0xE0 := by grind
      simp only [List.cons_append, List.nil_append, wide, lawful, long, last, started, continued,
        Bool.not_true, Bool.false_eq_true, ↓reduceIte]
      cases decodeFrom (position + 3) rest <;> rfl
  | @four lead second third fourth first last started middle continued =>
      have wide : ¬ lead < 0x80 := by grind
      have lawful : ¬ (lead < 0xC2 ∨ 0xF5 ≤ lead) := by grind
      have long : ¬ lead < 0xE0 := by grind
      have longest : ¬ lead < 0xF0 := by grind
      simp only [List.cons_append, List.nil_append, wide, lawful, long, longest, started, middle,
        continued, Bool.not_true, Bool.false_eq_true, ↓reduceIte]
      cases decodeFrom (position + 4) rest <;> rfl

/-- What follows a character is decoded to what follows it in the text. -/
theorem IsCharacter.flatMap_eq (character : IsCharacter c octets)
    (later : ∀ {others : List Char}, decodeFrom (position + octets.length) rest = .ok others →
      others.flatMap String.utf8EncodeChar = rest)
    (read : decodeFrom position (octets ++ rest) = .ok text) :
    text.flatMap String.utf8EncodeChar = octets ++ rest := by
  rw [decodeFrom_append character] at read
  cases next : decodeFrom (position + octets.length) rest with
  | error fault =>
      rw [next] at read
      cases read
  | ok others =>
      rw [next] at read
      cases read
      rw [List.flatMap_cons, character.encode_eq, later next]

/-- The codes of decoded characters are the octets that were decoded. -/
theorem flatMap_of_decodeFrom (read : decodeFrom position octets = .ok text) :
    text.flatMap String.utf8EncodeChar = octets := by
  induction position, octets using decodeFrom.induct generalizing text with
  | case1 position =>
      rw [decodeFrom] at read
      cases read
      rfl
  | case2 position lead rest plain ih => exact (IsCharacter.one plain).flatMap_eq ih read
  | case5 position lead wide lawful last second rest continued ih =>
      exact (IsCharacter.two (by grind) last continued).flatMap_eq ih read
  | case10 position lead wide lawful long last second started third rest continued ih =>
      exact (IsCharacter.three (by grind) last (by grind) continued).flatMap_eq ih read
  | case17 position lead wide lawful long longest second started third middle fourth rest continued
      ih =>
      exact (IsCharacter.four (by grind) (by grind) (by grind) (by grind) continued).flatMap_eq ih
        read
  | _ =>
      rw [decodeFrom.eq_def] at read
      simp only [*, ↓reduceIte, reduceCtorEq] at read

/-- The coding of a text is decoded to the text, wherever it starts. -/
theorem decodeFrom_flatMap (position : Nat) (text : List Char) :
    decodeFrom position (text.flatMap String.utf8EncodeChar) = .ok text := by
  induction text generalizing position with
  | nil =>
      rw [List.flatMap_nil, decodeFrom]
  | cons c rest ih =>
      rw [List.flatMap_cons, decodeFrom_append (isCharacter_encode c), ih]
      rfl

/-- **Decoding is the inverse of encoding.** -/
theorem decode_eq_ok_iff : decode octets = .ok text ↔ text.flatMap String.utf8EncodeChar = octets :=
  ⟨flatMap_of_decodeFrom, fun same => same ▸ decodeFrom_flatMap 0 text⟩

/-- What is not decoded is no text. -/
theorem isText_iff : IsText octets ↔ ∃ text, decode octets = .ok text :=
  exists_congr fun _ => decode_eq_ok_iff.symm

/-- Octets that code no text are those that decoding fails at. -/
theorem not_isText_iff : ¬ IsText octets ↔ ∃ fault, decode octets = .error fault := by
  rw [isText_iff]
  cases decode octets <;> simp

/-- Two octets by themselves are text only if neither is part of a longer character. -/
theorem isText_pair_iff {high low : UInt8} :
    IsText [high, low] ↔
      high < 0x80 ∧ low < 0x80 ∨ 0xC2 ≤ high ∧ high < 0xE0 ∧ continues low := by
  constructor
  · rintro ⟨text, same⟩
    rcases text with _ | ⟨c, rest⟩
    · cases same
    rw [List.flatMap_cons] at same
    generalize isCharacter_encode c = character at same
    generalize String.utf8EncodeChar c = octets at character same
    cases character <;> simp only [List.cons_append, List.nil_append, List.cons.injEq,
      reduceCtorEq, and_false] at same
    case one first =>
      -- The second octet is all that is left for the second character.
      obtain ⟨rfl, same⟩ := same
      rcases rest with _ | ⟨d, rest⟩
      · cases same
      rw [List.flatMap_cons] at same
      generalize isCharacter_encode d = character at same
      generalize String.utf8EncodeChar d = octets at character same
      cases character <;> simp only [List.cons_append, List.nil_append, List.cons.injEq,
        reduceCtorEq, and_false] at same
      case one second =>
        obtain ⟨rfl, -⟩ := same
        exact .inl ⟨first, second⟩
    case two first last continued =>
      obtain ⟨rfl, rfl, -⟩ := same
      exact .inr ⟨first, last, continued⟩
  · rintro (⟨first, second⟩ | ⟨first, last, continued⟩)
    · refine ⟨[Char.ofNat high.toNat, Char.ofNat low.toNat], ?_⟩
      simp only [List.flatMap_cons, List.flatMap_nil, (IsCharacter.one first).encode_eq,
        (IsCharacter.one second).encode_eq, List.cons_append, List.nil_append]
    · refine ⟨[Char.ofNat (64 * (high.toNat % 32) + payload low)], ?_⟩
      simp only [List.flatMap_cons, List.flatMap_nil,
        (IsCharacter.two first last continued).encode_eq, List.append_nil]

end Hexwire.Utf8
