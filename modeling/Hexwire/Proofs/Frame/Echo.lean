import Hexwire.Exchange
import Hexwire.Proofs.Bytes.Digits

/-! # Echoes

An echo of a payload is digits that denote it followed by one of two terminators
(`Hexwire.Frame.Echoes`). Reading an echo accepts exactly these
(`Hexwire.Exchange.ofEcho_eq_ok_iff`). No terminator starts with a digit, so of two echoes at the
head of one stream neither can be longer than the other (`Hexwire.Frame.Echoes.append_inj`).
-/

namespace Hexwire

namespace Frame

open Hex

/-- Octets end as an echo may. -/
def IsEnding (ending : Bytes) : Prop := ending = terminator ∨ ending = lineTerminator

/-- An echo that carries a payload. -/
def Echoes (payload echo : Bytes) : Prop :=
  ∃ digits ending, echo = digits ++ ending ∧ Denotes digits payload ∧ IsEnding ending

/-- An echo of the size that belongs to a payload size: twice as many digits, of either case, and
one of the two terminators. -/
def IsEcho (size : Nat) (echo : Bytes) : Prop :=
  ∃ digits ending, echo = digits ++ ending ∧ digits.length = 2 * size ∧
    (∀ digit ∈ digits, isDigit (charOfOctet digit)) ∧ IsEnding ending

/-- An ending has two octets. -/
theorem IsEnding.length {ending : Bytes} (proper : IsEnding ending) : ending.length = 2 := by
  rcases proper with rfl | rfl <;> rfl

/-- No terminator starts with a digit. -/
theorem IsEnding.head {ending : Bytes} (proper : IsEnding ending) {octet : UInt8} {rest : Bytes}
    (starts : ending = octet :: rest) : digitValue? (charOfOctet octet) = none := by
  rcases proper with rfl | rfl
  · cases starts
    decide
  · cases starts
    decide

variable {payload echo : Bytes} {size : Nat}

/-- An echo has two digits for each octet, and an ending. -/
theorem Echoes.length (echoes : Echoes payload echo) : echo.length = 2 * payload.length + 2 := by
  obtain ⟨digits, ending, rfl, denotes, proper⟩ := echoes
  rw [List.length_append, denotes.length, proper.length]

/-- What echoes octets is an echo of their count. -/
theorem Echoes.isEcho (echoes : Echoes payload echo) : IsEcho payload.length echo := by
  obtain ⟨digits, ending, rfl, denotes, proper⟩ := echoes
  exact ⟨digits, ending, rfl, denotes.length, denotes.isDigit, proper⟩

/-- The octets that an echo carries. -/
theorem IsEcho.exists_echoes (proper : IsEcho size echo) :
    ∃ payload, payload.length = size ∧ Echoes payload echo := by
  obtain ⟨digits, ending, rfl, even, all, ends⟩ := proper
  obtain ⟨payload, sized, denotes⟩ := exists_denotes even all
  exact ⟨payload, sized, digits, ending, rfl, denotes, ends⟩

/-- An echo of a size has two digits for each octet, and an ending. -/
theorem IsEcho.length (proper : IsEcho size echo) : echo.length = 2 * size + 2 := by
  obtain ⟨payload, rfl, echoes⟩ := proper.exists_echoes
  exact echoes.length

/-- A frame has two digits for each octet, and a terminator. -/
theorem length_encode (payload : Bytes) : (encode payload).length = 2 * payload.length + 2 := by
  rw [encode, List.length_append, (denotes_encodeUpper payload).length]
  rfl

/-- **Echoes of one stream.** Where two echoes stand at the head of the same octets they are the
same echo: the first octet that is no digit ends both. -/
theorem Echoes.append_inj {other echo' rest rest' : Bytes} (first : Echoes payload echo)
    (second : Echoes other echo') (same : echo ++ rest = echo' ++ rest') :
    payload = other ∧ echo = echo' ∧ rest = rest' := by
  obtain ⟨digits, ending, rfl, denotes, ends⟩ := first
  obtain ⟨digits', ending', rfl, denotes', ends'⟩ := second
  induction denotes generalizing digits' other with
  | nil =>
      cases denotes' with
      | nil =>
          obtain ⟨rfl, rfl⟩ := List.append_inj same (by simp [ends.length, ends'.length])
          exact ⟨rfl, rfl, rfl⟩
      | pair high _ _ =>
          obtain ⟨octet, tail, rfl⟩ := List.exists_cons_of_length_pos (l := ending) (by
            rw [ends.length]
            omega)
          have none := ends.head rfl
          simp only [List.nil_append, List.cons_append, List.cons.injEq] at same
          rw [same.1, high] at none
          cases none
  | pair high low rest ih =>
      cases denotes' with
      | nil =>
          obtain ⟨octet, tail, rfl⟩ := List.exists_cons_of_length_pos (l := ending') (by
            rw [ends'.length]
            omega)
          have none := ends'.head rfl
          simp only [List.nil_append, List.cons_append, List.cons.injEq] at same
          rw [← same.1, high] at none
          cases none
      | pair high' low' rest' =>
          simp only [List.cons_append, List.cons.injEq] at same
          obtain ⟨rfl, rfl, later⟩ := same
          rw [high] at high'
          rw [low] at low'
          obtain ⟨rfl, equal, rfl⟩ := ih _ later rest'
          cases Option.some.inj high'
          cases Option.some.inj low'
          exact ⟨rfl, congrArg (_ :: _ :: ·) equal, rfl⟩

/-- Two octets are read as one exactly when both are digits. -/
theorem decodePair_eq_ok_iff {high low octet : UInt8} :
    decodePair high low = .ok octet ↔
      ofDigits? (charOfOctet high) (charOfOctet low) = some octet := by
  unfold decodePair
  cases ofDigits? (charOfOctet high) (charOfOctet low) with
  | some read => simp
  | none => cases Utf8.decode [high, low] <;> simp

/-- Digits that denote octets are decoded to them. -/
theorem decodePairs_of_denotes {digits payload : Bytes} (denotes : Denotes digits payload) :
    decodePairs digits = .ok payload := by
  induction denotes with
  | nil => rfl
  | pair first second rest ih =>
      have pair := decodePair_eq_ok_iff.mpr (ofDigits?_of_values first second)
      simp only [decodePairs, pair, ih]

/-- Octets of an even count are read as pairs exactly when they are digits. -/
theorem denotes_of_decodePairs {size : Nat} {digits payload : Bytes}
    (even : digits.length = 2 * size) (read : decodePairs digits = .ok payload) :
    Denotes digits payload := by
  induction size generalizing digits payload with
  | zero =>
      have empty : digits = [] := List.eq_nil_of_length_eq_zero even
      subst empty
      cases read
      exact .nil
  | succ size ih =>
      match digits, even with
      | high :: low :: digits, even =>
          simp only [List.length_cons] at even
          cases pair : decodePair high low with
          | error fault => simp [decodePairs, pair] at read
          | ok octet =>
              cases later : decodePairs digits with
              | error fault => simp [decodePairs, pair, later] at read
              | ok others =>
                  simp only [decodePairs, pair, later, Except.ok.injEq] at read
                  subst read
                  have digit := decodePair_eq_ok_iff.mp pair
                  unfold ofDigits? at digit
                  cases first : digitValue? (charOfOctet high) with
                  | none => simp [first] at digit
                  | some upper =>
                      cases second : digitValue? (charOfOctet low) with
                      | none => simp [first, second] at digit
                      | some lower =>
                          simp only [first, second, Option.bind_eq_bind, Option.bind_some,
                            Option.some.injEq] at digit
                          subst digit
                          exact .pair first second (ih (by omega) later)

/-- Octets end in a terminator exactly when what follows all but the last two is one. -/
theorem isTerminated_iff (digits : Bytes) {ending : Bytes} (two : ending.length = 2) :
    isTerminated (digits ++ ending) ↔ IsEnding ending := by
  have split (wanted : Bytes) (short : wanted.length = 2) :
      wanted <:+ digits ++ ending ↔ ending = wanted := by
    rw [List.suffix_iff_eq_drop, List.length_append, two, short, Nat.add_sub_cancel,
      List.drop_left]
    exact eq_comm
  simp only [isTerminated, Bool.or_eq_true, List.isSuffixOf_iff_suffix, split terminator rfl,
    split lineTerminator rfl]
  rfl

/-- The digits of an echo are all of it but the ending. -/
theorem length_take_of_sized (sized : echo.length = 2 * size + 2) :
    (echo.take (2 * size)).length = 2 * size := by
  rw [List.length_take]
  omega

/-- The terminator of an echo of the right size is what follows its digits. -/
theorem isTerminated_iff_drop (sized : echo.length = 2 * size + 2) :
    isTerminated echo ↔ IsEnding (echo.drop (2 * size)) := by
  have two : (echo.drop (2 * size)).length = 2 := by
    rw [List.length_drop]
    omega
  rw [← isTerminated_iff (echo.take (2 * size)) two, List.take_append_drop]

end Frame

namespace Exchange

open Hexwire.Frame

/-- **What is read from an echo.** Of octets of the right size exactly the echoes are accepted, and
what is read is the payload that they carry. -/
theorem ofEcho_eq_ok_iff {echo received : Bytes} {size : Nat} (sized : echo.length = 2 * size + 2)
    (fits : size ≤ maxPayload) :
    ofEcho echo size = .ok received ↔ received.length = size ∧ Echoes received echo := by
  have whole : echo = echo.take (2 * size) ++ echo.drop (2 * size) :=
    (List.take_append_drop _ _).symm
  have even := length_take_of_sized sized
  have terminated := isTerminated_iff_drop sized
  constructor
  · intro read
    unfold ofEcho at read
    by_cases ends : isTerminated echo
    · simp only [ends, ↓reduceIte, decode, even, Nat.lt_irrefl] at read
      cases pairs : decodePairs (echo.take (2 * size)) with
      | error fault => simp [pairs] at read
      | ok payload =>
          have denotes := denotes_of_decodePairs even pairs
          have exact := denotes.length
          rw [even] at exact
          have small : payload.length ≤ maxPayload := by omega
          simp only [pairs, make, small, ↓reduceDIte, Except.ok.injEq] at read
          subst read
          exact ⟨by omega, _, _, whole, denotes, terminated.mp ends⟩
    · simp [ends] at read
  · rintro ⟨rfl, digits, ending, rfl, denotes, ends⟩
    have front : (digits ++ ending).take (2 * received.length) = digits := by
      rw [← denotes.length, List.take_left]
    have ended : isTerminated (digits ++ ending) := (isTerminated_iff _ ends.length).mpr ends
    simp only [ofEcho, ended, ↓reduceIte, decode, front, denotes.length, Nat.lt_irrefl,
      decodePairs_of_denotes denotes, make, fits, ↓reduceDIte]

end Exchange

end Hexwire
