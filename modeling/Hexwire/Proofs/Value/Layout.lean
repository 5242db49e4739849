import Hexwire.Value.Layout

/-! # Widths and digits

Whatever a layout asks for, a value that is written in it keeps its characters: what is put beside
them fills the width and no more (`Hexwire.Layout.placed_shape`), and what stands between digits is
a separator, or a zero in front of them (`Hexwire.Layout.grouped_digits`). A value that has a layout
is at least as wide as the layout says (`Hexwire.Value.width_le_laidOut`).
-/

namespace Hexwire

namespace Layout

variable {l : Layout} {head text written : List Char}

/-! ## Filling a width -/

/-- **Placing a text.** A head and a text stand in a width with nothing but the fill of the layout
beside and between them, and with just as much of it as is missing. -/
theorem placed_shape (placed : l.placed head text = .ok written) :
    ∃ before between after : Nat,
      written = List.replicate before l.fill ++ head ++ List.replicate between l.fill ++ text ++
        List.replicate after l.fill ∧
      before + between + after = l.width - (head.length + text.length) := by
  unfold Layout.placed at placed
  generalize l.width - (head.length + text.length) = missing at placed ⊢
  dsimp only at placed
  split at placed
  · cases placed
  · split at placed
    · cases placed
      exact ⟨0, 0, missing, by simp, by omega⟩
    · split at placed
      · cases placed
        exact ⟨missing / 2, 0, missing - missing / 2, by simp, by omega⟩
      · split at placed
        · cases placed
          exact ⟨0, missing, 0, by simp, by omega⟩
        · cases placed
          exact ⟨missing, 0, 0, by simp, by omega⟩

/-- A placed text is as wide as the layout says, or as wide as it is. -/
theorem length_placed (placed : l.placed head text = .ok written) :
    written.length = max l.width (head.length + text.length) := by
  obtain ⟨before, between, after, rfl, missing⟩ := placed_shape placed
  simp only [List.length_append, List.length_replicate]
  omega

/-! ## Grouping digits -/

/-- Groups hold the digits, with separators among them and zeros after the last one. -/
theorem groups_digits {separator : Char} (size : Nat) (other : separator ≠ '0') (count : Nat)
    (least : Nat) {digits : List Char} (clean : separator ∉ digits) :
    ∃ zeros, (groups size separator count least digits).filter (· ≠ separator) =
      digits ++ List.replicate zeros '0' := by
  have kept {characters : List Char} (without : separator ∉ characters) :
      characters.filter (· ≠ separator) = characters :=
    List.filter_eq_self.mpr fun c member =>
      decide_eq_true fun same => without (same ▸ member)
  induction count generalizing least digits with
  | zero => exact ⟨0, (kept clean).trans (List.append_nil _).symm⟩
  | succ count ih =>
      unfold groups
      dsimp only
      generalize min size (max (max digits.length least) 1) = length
      have group : separator ∉ digits.take length ++
          List.replicate (length - digits.length) '0' := by
        simp only [List.mem_append, List.mem_replicate, not_or, not_and]
        exact ⟨fun member => clean (List.mem_of_mem_take member), fun _ => other⟩
      split
      · next last =>
        have within : digits.length ≤ length := by
          simp_all
        rw [kept group, List.take_of_length_le within]
        exact ⟨_, rfl⟩
      · obtain ⟨zeros, rest⟩ := ih (least - length - 1)
          (fun member => clean (List.mem_of_mem_drop member))
        rw [List.filter_append, kept group, List.filter_cons_of_neg (by simp), rest]
        rcases Nat.le_total digits.length length with within | beyond
        · refine ⟨length - digits.length + zeros, ?_⟩
          rw [List.take_of_length_le within, List.drop_of_length_le within, List.nil_append,
            List.append_assoc, List.replicate_append_replicate]
        · refine ⟨zeros, ?_⟩
          rw [Nat.sub_eq_zero_of_le beyond, List.replicate_zero, List.append_nil,
            ← List.append_assoc, List.take_append_drop]

/-- **Grouping digits.** Without the separators the digits are the given ones, with zeros in front
as far as the width asks for them. -/
theorem grouped_digits {separator : Char} (marked : l.separator = some separator)
    (other : separator ≠ '0') (least : Nat) {digits : List Char} (clean : separator ∉ digits) :
    ∃ zeros, (l.grouped least digits).filter (· ≠ separator) =
      List.replicate zeros '0' ++ digits := by
  obtain ⟨zeros, same⟩ := groups_digits (if isBinary l.letter then 4 else 3) other
    (digits.length + least + 1) least (fun member => clean (List.mem_reverse.mp member))
  refine ⟨zeros, ?_⟩
  rw [grouped, marked]
  dsimp only
  rw [List.filter_reverse, same, List.reverse_append, List.reverse_replicate, List.reverse_reverse]

/-! ## Widths -/

/-- A number in a layout is at least as wide as the layout says. -/
theorem width_le_number {negative : Bool} {mark digits rest : List Char}
    (laid : l.number negative mark digits rest = .ok written) : l.width ≤ written.length := by
  unfold number at laid
  dsimp only at laid
  split at laid
  · cases laid
  · rw [length_placed laid]
    exact Nat.le_max_left _ _

/-- A text in a layout is cut to the precision and placed. -/
theorem text_placed (laid : l.text text = .ok written) :
    l.placed [] (l.precision.elim text fun most => text.take most) = .ok written := by
  unfold Layout.text at laid
  dsimp only at laid
  split at laid
  · cases laid
  split at laid
  · cases laid
  split at laid
  · cases laid
  split at laid
  · cases laid
  split at laid
  · cases laid
  cases cut : l.precision with
  | none =>
      rw [cut] at laid
      exact laid
  | some most =>
      rw [cut] at laid
      exact laid

/-- A text in a layout is at least as wide as the layout says. -/
theorem width_le_text (laid : l.text text = .ok written) : l.width ≤ written.length := by
  rw [length_placed (text_placed laid)]
  exact Nat.le_max_left _ _

/-- A character in a layout is at least as wide as the layout says. -/
theorem width_le_character {code : Int} (laid : l.character code = .ok written) :
    l.width ≤ written.length := by
  unfold character at laid
  dsimp only at laid
  split at laid
  · cases laid
  split at laid
  · cases laid
  split at laid
  · cases laid
  split at laid
  · cases laid
  exact width_le_number laid

/-- An integer in a layout is at least as wide as the layout says. -/
theorem width_le_integer {n : Int} (laid : l.integer n = .ok written) :
    l.width ≤ written.length := by
  unfold integer at laid
  dsimp only at laid
  split at laid
  · cases laid
  split at laid
  · cases laid
  split at laid
  · exact width_le_character laid
  split at laid
  · cases laid
  exact width_le_number laid

/-- A number with a point in a layout is at least as wide as the layout says. -/
theorem width_le_real {x : Binary64} (laid : l.real x = .ok written) :
    l.width ≤ written.length := by
  unfold real at laid
  split at laid
  · cases laid
  · exact width_le_number laid

/-- What is written in a layout that was read is at least as wide as the layout says if whatever is
written in it is. -/
theorem width_le_of_read {kind : String} {usual : Layout}
    {next : Layout → Except Failure (List Char)}
    (laid : read kind usual text >>= next = .ok written)
    (wide : ∀ layout, next layout = .ok written → layout.width ≤ written.length) :
    ∃ layout, read kind usual text = .ok layout ∧ layout.width ≤ written.length := by
  cases reading : read kind usual text with
  | error raised =>
      rw [reading] at laid
      cases laid
  | ok layout =>
      rw [reading] at laid
      exact ⟨layout, rfl, wide layout laid⟩

end Layout

/-- **Widths.** A value in the layout that a text describes is at least as wide as the text says. -/
theorem Value.width_le_laidOut {value : Value} {text written : List Char} (filled : text ≠ [])
    (laid : value.laidOut text = .ok written) :
    ∃ usual layout, Layout.read value.typeName usual text = .ok layout ∧
      layout.width ≤ written.length := by
  unfold laidOut at laid
  dsimp only at laid
  rw [if_neg (by simpa using filled)] at laid
  split at laid
  · refine ⟨_, Layout.width_le_of_read laid fun layout laid => ?_⟩
    split at laid
    · exact Layout.width_le_text laid
    · cases laid
  · refine ⟨_, Layout.width_le_of_read laid fun layout laid => ?_⟩
    split at laid
    · exact Layout.width_le_real laid
    · cases laid
  · split at laid
    · refine ⟨_, Layout.width_le_of_read laid fun layout laid => ?_⟩
      split at laid
      · cases number : value.toReal with
        | error raised =>
            rw [number] at laid
            cases laid
        | ok x =>
            rw [number] at laid
            exact Layout.width_le_real laid
      split at laid
      · exact Layout.width_le_integer laid
      · cases laid
    · cases laid

example : (Value.text "ab").laidOut "*^7".toList = .ok "**ab***".toList := by
  with_unfolding_all rfl

end Hexwire
