import Hexwire.Text.Pattern.Matching
import Mathlib.Logic.Basic

/-! # Where patterns match

A pattern that succeeds at a spot has led to a spot ahead, within the text, and what comes after it
has succeeded there (`Hexwire.Text.Pattern.tryAt_leads`). This holds of every pattern, whatever it
looks at on the way. A pattern without any marks of its own is found in a text exactly where its
characters stand in a row (`Hexwire.Text.Pattern.occursIn_parse`).
-/

namespace Hexwire.Text.Pattern

variable {size : Nat} {text : Array Char} {spot : Spot} {next : Next}

/-- One of two attempts finds what the first finds, or else what the second finds. -/
theorem orElse_eq_some_iff {first second : Option Spot} {found : Spot} :
    (first <|> second) = some found ↔ first = some found ∨ first = none ∧ second = some found :=
  (Option.orElse_eq_or ▸ Option.or_eq_some_iff :)

/-! ## Matches lead ahead -/

/-- A spot lies ahead of another in a text: not before its place, and the runs that were taken on
the way lie within the text. -/
structure Spot.Ahead (size : Nat) (before after : Spot) : Prop where
  place : before.place ≤ after.place
  within : after.place ≤ size
  runs : ∃ taken, after.runs = taken ++ before.runs ∧
    ∀ run ∈ taken, run.2.1 ≤ run.2.2 ∧ run.2.2 ≤ size

namespace Spot.Ahead

/-- Every spot of a text lies ahead of itself. -/
theorem refl (within : spot.place ≤ size) : spot.Ahead size spot :=
  ⟨Nat.le_refl _, within, [], rfl, fun _ member => absurd member List.not_mem_nil⟩

/-- What lies ahead of a spot ahead lies ahead. -/
theorem trans {middle after : Spot} (first : spot.Ahead size middle)
    (second : middle.Ahead size after) : spot.Ahead size after := by
  obtain ⟨taken, same, inside⟩ := first.runs
  obtain ⟨more, further, others⟩ := second.runs
  refine ⟨Nat.le_trans first.place second.place, second.within, more ++ taken, ?_, ?_⟩
  · rw [further, same, List.append_assoc]
  · exact List.forall_mem_append.mpr ⟨others, inside⟩

/-- Characters up to the end of the text may be taken. -/
theorem advance (count : Nat) (within : spot.place + count ≤ size) :
    spot.Ahead size { spot with place := spot.place + count } :=
  ⟨Nat.le_add_right _ _, within, [], rfl, fun _ member => absurd member List.not_mem_nil⟩

/-- The run up to a spot ahead may be remembered there. -/
theorem remember {after : Spot} (ahead : spot.Ahead size after) (number : Nat) :
    spot.Ahead size { after with runs := (number, spot.place, after.place) :: after.runs } := by
  obtain ⟨taken, same, inside⟩ := ahead.runs
  refine ⟨ahead.place, ahead.within, (number, spot.place, after.place) :: taken, ?_, ?_⟩
  · exact congrArg _ same
  · exact List.forall_mem_cons.mpr ⟨⟨ahead.place, ahead.within⟩, inside⟩

/-- From a spot that was only looked at, the way leads on from where the look started. -/
theorem look {back after : Spot} (ahead : back.Ahead size after) (same : back.runs = spot.runs)
    (within : spot.place ≤ size) :
    spot.Ahead size { after with place := spot.place } := by
  obtain ⟨taken, runs, inside⟩ := ahead.runs
  exact ⟨Nat.le_refl _, within, taken, runs.trans (congrArg _ same), inside⟩

end Spot.Ahead

/-- An attempt that succeeds has led ahead, to where what comes after it succeeds. -/
def Leads (size : Nat) (attempt : Spot → Next → Option Spot) : Prop :=
  ∀ ⦃spot : Spot⦄ ⦃next : Next⦄ ⦃found : Spot⦄, spot.place ≤ size →
    attempt spot next = some found → ∃ after, spot.Ahead size after ∧ next after = some found

namespace Leads

variable {attempt round : Spot → Next → Option Spot}

/-- An attempt that is settled before what comes after it leads ahead as well. -/
theorem settled (leads : Leads size attempt) :
    Leads size fun spot next => (attempt spot some).bind next := by
  intro spot next found within matched
  obtain ⟨after, reached, goesOn⟩ := Option.bind_eq_some_iff.mp matched
  obtain ⟨_, ahead, same⟩ := leads within reached
  cases same
  exact ⟨after, ahead, goesOn⟩

/-- What leads on from a spot ahead leads from the spot before. -/
theorem after_ahead {after found : Spot} (ahead : spot.Ahead size after)
    (leads : ∃ last, after.Ahead size last ∧ next last = some found) :
    ∃ last, spot.Ahead size last ∧ next last = some found := by
  obtain ⟨last, further, goesOn⟩ := leads
  exact ⟨last, ahead.trans further, goesOn⟩

/-- A round leads ahead, and whatever leads on from there leads from where it started. -/
theorem another {after : Next} (leads : Leads size round) {found : Spot}
    (further : ∀ {reached : Spot}, reached.place ≤ size → after reached = some found →
      ∃ last, reached.Ahead size last ∧ next last = some found)
    (within : spot.place ≤ size) (ran : round spot after = some found) :
    ∃ last, spot.Ahead size last ∧ next last = some found := by
  obtain ⟨reached, ahead, rest⟩ := leads within ran
  exact after_ahead ahead (further ahead.within rest)

/-- Rounds that prefer more of them lead ahead, each from where the last one led. -/
theorem mostRounds (leads : Leads size round) (least : Nat) (most : Option Nat) (next : Next)
    {found : Spot} (bound done : Nat) (before : Option Nat) {spot : Spot}
    (within : spot.place ≤ size)
    (matched : Pattern.mostRounds round least most next bound done before spot = some found) :
    ∃ after, spot.Ahead size after ∧ next after = some found := by
  induction bound generalizing done before spot with
  | zero => exact ⟨spot, .refl within, matched⟩
  | succ bound ih =>
      unfold Pattern.mostRounds at matched
      split at matched
      · exact leads.another (ih _ _) within matched
      · dsimp only at matched
        rcases orElse_eq_some_iff.mp matched with further | ⟨-, stopped⟩
        · split at further
          · exact leads.another (ih _ _) within further
          · cases further
        · exact ⟨spot, .refl within, stopped⟩

/-- Rounds that prefer fewer of them lead ahead as well. -/
theorem fewestRounds (leads : Leads size round) (least : Nat) (most : Option Nat) (next : Next)
    {found : Spot} (bound done : Nat) (before : Option Nat) {spot : Spot}
    (within : spot.place ≤ size)
    (matched : Pattern.fewestRounds round least most next bound done before spot = some found) :
    ∃ after, spot.Ahead size after ∧ next after = some found := by
  induction bound generalizing done before spot with
  | zero => exact ⟨spot, .refl within, matched⟩
  | succ bound ih =>
      unfold Pattern.fewestRounds at matched
      split at matched
      · exact leads.another (ih _ _) within matched
      · split at matched
        · next stopped =>
          cases matched
          exact ⟨spot, .refl within, stopped⟩
        · split at matched
          · exact leads.another (ih _ _) within matched
          · cases matched

end Leads

mutual

/-- **Patterns lead ahead.** A pattern that succeeds has led to a spot ahead, within the text, where
what comes after it succeeds. -/
theorem tryAt_leads (text : Array Char) : ∀ pattern : Pattern,
    Leads text.size (tryAt text pattern)
  | .one negated members folding => by
      intro spot next found within matched
      unfold tryAt at matched
      split at matched
      · next c here =>
        split at matched
        · exact ⟨_, .advance 1 (Array.getElem?_eq_some_iff.mp here).1, matched⟩
        · cases matched
      · cases matched
  | .anchor kind => by
      intro spot next found within matched
      unfold tryAt at matched
      split at matched
      · exact ⟨spot, .refl within, matched⟩
      · cases matched
  | .sequence parts => by
      intro spot next found within matched
      unfold tryAt at matched
      exact tryAll_leads text parts within matched
  | .choice branches => by
      intro spot next found within matched
      unfold tryAt at matched
      exact tryEach_leads text branches within matched
  | .repetition greed least most body => by
      intro spot next found within matched
      have leads := tryAt_leads text body
      unfold tryAt at matched
      cases greed with
      | most => exact leads.mostRounds least most next _ _ _ within matched
      | least => exact leads.fewestRounds least most next _ _ _ within matched
      | all =>
          obtain ⟨after, reached, goesOn⟩ := Option.bind_eq_some_iff.mp matched
          obtain ⟨_, ahead, same⟩ :=
            leads.settled.mostRounds least most some _ _ _ within reached
          cases same
          exact ⟨after, ahead, goesOn⟩
  | .group number body => by
      intro spot next found within matched
      unfold tryAt at matched
      obtain ⟨after, ahead, goesOn⟩ := tryAt_leads text body within matched
      exact ⟨_, ahead.remember number, goesOn⟩
  | .recall number folding extent => by
      intro spot next found within matched
      unfold tryAt at matched
      split at matched
      · next start stop remembered =>
        split at matched
        · next same =>
          exact ⟨_, .advance _ (of_decide_eq_true (Bool.and_eq_true_iff.mp same).1), matched⟩
        · cases matched
      · cases matched
  | .conditional number positive negative => by
      intro spot next found within matched
      unfold tryAt at matched
      split at matched
      · exact tryAt_leads text positive within matched
      · exact tryAt_leads text negative within matched
  | .atomic body => by
      intro spot next found within matched
      unfold tryAt at matched
      exact (tryAt_leads text body).settled within matched
  | .look behind negated body => by
      intro spot next found within matched
      unfold tryAt at matched
      dsimp only at matched
      generalize (if behind then body.extent.low else 0) = back at matched
      generalize looked : (if spot.place < back then none
        else tryAt text body { spot with place := spot.place - back } some) = outcome at matched
      cases outcome with
      | none =>
          cases negated with
          | false => cases matched
          | true => exact ⟨spot, .refl within, matched⟩
      | some after =>
          cases negated with
          | true => cases matched
          | false =>
              split at looked
              · cases looked
              · obtain ⟨_, ahead, same⟩ :=
                  tryAt_leads text body (Nat.le_trans (Nat.sub_le _ _) within) looked
                cases same
                exact ⟨_, .look ahead rfl within, matched⟩

/-- Patterns one after the other lead ahead. -/
theorem tryAll_leads (text : Array Char) : ∀ parts : List Pattern,
    Leads text.size (tryAll text parts)
  | [] => by
      intro spot next found within matched
      unfold tryAll at matched
      exact ⟨spot, .refl within, matched⟩
  | part :: rest => by
      intro spot next found within matched
      unfold tryAll at matched
      obtain ⟨after, ahead, goesOn⟩ := tryAt_leads text part within matched
      exact Leads.after_ahead ahead (tryAll_leads text rest ahead.within goesOn)

/-- Patterns in turn lead ahead, by whichever of them succeeds. -/
theorem tryEach_leads (text : Array Char) : ∀ branches : List Pattern,
    Leads text.size (tryEach text branches)
  | [] => by
      intro spot next found within matched
      unfold tryEach at matched
      cases matched
  | branch :: rest => by
      intro spot next found within matched
      unfold tryEach at matched
      rcases orElse_eq_some_iff.mp matched with first | ⟨-, later⟩
      · exact tryAt_leads text branch within first
      · exact tryEach_leads text rest within later

end

/-! ## Patterns without marks -/

/-- The pattern for characters in a row. -/
def literal (wanted : List Char) : Pattern :=
  .sequence (wanted.map fun c => ofCode {} c.toNat)

/-- A character stands for itself. -/
theorem tryAt_ofCode (c : Char) (spot : Spot) (next : Next) :
    tryAt text (ofCode {} c.toNat) spot next =
      if text[spot.place]? = some c then next { spot with place := spot.place + 1 } else none := by
  have same (d : Char) : admits false [.range c.toNat c.toNat] .exact d = decide (d = c) := by
    have code : (c.toNat ≤ d.toNat ∧ d.toNat ≤ c.toNat) ↔ d = c := by
      rw [← Char.toNat_inj]
      omega
    simp only [admits, Member.contains, Folding.variants, List.any_cons, List.any_nil,
      Bool.or_false, ← Bool.decide_and, code]
    exact Bool.xor_false _
  change tryAt text (.one false [.range c.toNat c.toNat] .exact) spot next = _
  unfold tryAt
  cases text[spot.place]? with
  | none => rfl
  | some d => simp [same]

/-- Characters in a row are matched where the text goes on with them. -/
theorem tryAll_literal (wanted : List Char) (spot : Spot) (next : Next) :
    tryAll text (wanted.map fun c => ofCode {} c.toNat) spot next =
      if wanted <+: text.toList.drop spot.place then
        next { spot with place := spot.place + wanted.length }
      else none := by
  induction wanted generalizing spot with
  | nil => simp [tryAll]
  | cons c rest ih =>
      rw [List.map_cons, tryAll, tryAt_ofCode]
      by_cases here : text[spot.place]? = some c
      · obtain ⟨inside, same⟩ := Array.getElem?_eq_some_iff.mp here
        have front : text.toList.drop spot.place = c :: text.toList.drop (spot.place + 1) := by
          rw [List.drop_eq_getElem_cons inside, Array.getElem_toList, same]
        have fits : rest <+: text.toList.drop (spot.place + 1) ↔
            c :: rest <+: text.toList.drop spot.place := by
          rw [front, List.cons_prefix_cons, and_iff_right rfl]
        have place : spot.place + 1 + rest.length = spot.place + (c :: rest).length :=
          Nat.add_right_comm _ _ _
        rw [if_pos here, ih]
        exact if_congr fits (congrArg (next ⟨·, spot.runs⟩) place) rfl
      · rw [if_neg here, if_neg]
        intro front
        obtain ⟨after, split⟩ := front
        refine here ?_
        rw [← Array.getElem?_toList, ← Nat.add_zero spot.place, ← List.getElem?_drop, ← split]
        rfl

/-- A row of characters is found exactly where the text has it. -/
theorem occursIn_literal (wanted : List Char) (text : String) :
    (literal wanted).occursIn text ↔ wanted <:+: text.toList := by
  have found (place : Nat) :
      (tryAt text.toList.toArray (literal wanted) ⟨place, []⟩ some).isSome ↔
        wanted <+: text.toList.drop place := by
    rw [literal, tryAt, tryAll_literal]
    split
    · simp_all
    · simp_all
  simp only [occursIn, List.any_eq_true, List.mem_range, found]
  constructor
  · rintro ⟨place, -, front⟩
    exact front.isInfix.trans (List.drop_suffix place _).isInfix
  · rintro ⟨before, after, split⟩
    refine ⟨before.length, ?_, ?_⟩
    · rw [List.size_toArray, ← split, List.length_append, List.length_append]
      omega
    · rw [← split, List.append_assoc, List.drop_left]
      exact List.prefix_append _ _

/-! ## Reading patterns without marks -/

/-- The characters that do not stand for themselves in a pattern. -/
def marks : List Char :=
  ['\\', '|', ')', '[', '.', '^', '$', '?', '*', '+', '\x7b', '(']

variable {α β : Type} {reader after : Reader} {c : Char} {rest wanted : List Char}

/-- After what was read the rest is read from where that led. -/
theorem run_bind_of_ok {first : Reading α} {value : α} (ran : first.run reader = .ok (value, after))
    (next : α → Reading β) : (first >>= next).run reader = (next value).run after := by
  rw [StateT.run_bind, ran]
  rfl

/-- A character without marks comes next as itself. -/
theorem peek_of_plain (left : reader.rest = c :: rest) (plain : c ≠ '\\') :
    Reading.peek.run reader = .ok (some (.plain c), reader) := by
  rw [Reading.peek, StateT.run_bind, StateT.run_get, pure_bind]
  dsimp only
  rw [left]
  split
  · simp_all
  · simp_all; rfl
  · simp_all

/-- At the end of a pattern nothing comes next. -/
theorem peek_of_nil (left : reader.rest = []) :
    Reading.peek.run reader = .ok (none, reader) := by
  rw [Reading.peek, StateT.run_bind, StateT.run_get, pure_bind]
  dsimp only
  rw [left]
  rfl

/-- Characters in a row look at nothing behind. -/
theorem looksFixed_literal (wanted : List Char) : (literal wanted).looksFixed := by
  rw [literal, looksFixed]
  induction wanted with
  | nil => rfl
  | cons c rest ih => exact ih

/-- A reader can stand in front of characters without an escape. -/
theorem moveTo_of_plain (plain : '\\' ∉ rest) :
    (Reading.moveTo rest).run reader = .ok ((), { reader with rest := rest }) := by
  have other : rest ≠ ['\\'] := fun same => plain (same ▸ List.mem_singleton.mpr rfl)
  rw [Reading.moveTo, if_neg other]
  rfl

/-- A character without marks is taken as itself. -/
theorem take_of_plain (left : reader.rest = c :: rest) (plain : c ≠ '\\') (more : '\\' ∉ rest) :
    Reading.take.run reader = .ok (some (.plain c), { reader with rest := rest }) := by
  rw [Reading.take, StateT.run_bind, StateT.run_get, pure_bind]
  dsimp only
  rw [left]
  split
  · simp_all
  · next other others same =>
    cases same
    rw [run_bind_of_ok (moveTo_of_plain more)]
    rfl
  · simp_all

/-- Characters without marks are read one by one, after what was read before. -/
theorem parts_of_plain (plain : ∀ c ∈ wanted, c ∉ marks) (count : Nat)
    (enough : wanted.length < count) (first : Bool) (done : List Pattern)
    (left : reader.rest = wanted) :
    (parts count {} first done).run reader =
      .ok (.sequence (done.reverse ++ wanted.map fun c => ofCode {} c.toNat),
        { reader with rest := [] }) := by
  induction wanted generalizing count done reader with
  | nil =>
      obtain ⟨count, rfl⟩ := Nat.exists_eq_add_one.mpr (Nat.zero_lt_of_lt enough)
      rw [parts, run_bind_of_ok (peek_of_nil left)]
      dsimp only
      rw [List.map_nil, List.append_nil, ← left]
      rfl
  | cons c rest ih =>
      obtain ⟨count, rfl⟩ := Nat.exists_eq_add_one.mpr (Nat.zero_lt_of_lt enough)
      obtain ⟨other, others⟩ := List.forall_mem_cons.mp plain
      have unescaped : '\\' ∉ rest := fun member => others _ member List.mem_cons_self
      simp only [marks, List.mem_cons, List.not_mem_nil, or_false, not_or] at other
      have place : Reading.place.run reader =
          .ok (reader.whole.length - reader.rest.length, reader) := rfl
      rw [parts, run_bind_of_ok (peek_of_plain left other.1)]
      dsimp only
      rw [if_neg (by simp [other]), run_bind_of_ok place,
        run_bind_of_ok (take_of_plain left other.1 unescaped)]
      rw [Bool.false_and, if_neg Bool.false_ne_true, Bool.false_and, if_neg Bool.false_ne_true]
      split <;> try exact absurd other (by decide)
      have left : ({ reader with rest := rest } : Reader).rest = rest := rfl
      rw [ih others count (Nat.lt_of_succ_lt_succ enough) (ofCode {} c.toNat :: done) left,
        List.reverse_cons, List.append_assoc]
      rfl

/-- A text without marks is read as its characters in a row. -/
theorem parse_of_plain (plain : ∀ c ∈ wanted, c ∉ marks) :
    parse wanted = .ok (literal wanted) := by
  have unescaped : '\\' ∉ wanted := fun member => plain _ member List.mem_cons_self
  let reader : Reader := { whole := wanted, rest := wanted }
  have read := parts_of_plain plain (4 * wanted.length + 6) (by omega) true []
    (show reader.rest = wanted from rfl)
  have branch : (branches (4 * wanted.length + 7) {} true true).run reader =
      .ok ([literal wanted], { reader with rest := [] }) := by
    rw [branches, Bool.and_self, run_bind_of_ok read]
    rfl
  have choice : (choiceOf (4 * wanted.length + 8) {} true).run reader =
      .ok (literal wanted, { reader with rest := [] }) := by
    rw [choiceOf, run_bind_of_ok branch]
    rfl
  have found : whole.run reader = .ok (literal wanted, { reader with rest := [] }) := by
    have moved : (Reading.moveTo wanted).run reader = .ok ((), reader) := moveTo_of_plain unescaped
    rw [whole, StateT.run_bind, StateT.run_get, pure_bind]
    dsimp only
    rw [run_bind_of_ok moved, run_bind_of_ok choice, StateT.run_bind, StateT.run_get, pure_bind]
    dsimp only
    rw [if_neg (show ¬(reader.switches.ascii && reader.switches.wide) = true from
      Bool.false_ne_true), run_bind_of_ok (peek_of_nil rfl), if_neg (by decide)]
    simp only [looksFixed_literal]
    rfl
  rw [parse, found]
  rfl

/-- **Texts as patterns.** A text without marks is a pattern that is found in a text exactly where
its characters stand in a row. -/
theorem occursIn_parse (plain : ∀ c ∈ wanted, c ∉ marks) :
    ∃ pattern, parse wanted = .ok pattern ∧
      ∀ text : String, pattern.occursIn text ↔ wanted <:+: text.toList :=
  ⟨_, parse_of_plain plain, occursIn_literal wanted⟩

end Hexwire.Text.Pattern
