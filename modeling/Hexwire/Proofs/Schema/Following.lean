import Hexwire.Proofs.Schema.Progress
import Hexwire.Proofs.Schema.Rule
import Hexwire.Proofs.Value.Scatter

/-! # Plans for rules

A rule says at once what a plan finds out statement by statement: the value at hand is tested, named
keys are looked up and taken off the keys that are there, and of the keys that are left the plan
complains. Every rule has such statements (`Hexwire.Schema.Rule.statements`), and whatever the value
is, they end as the rule does, with the same words (`Hexwire.Schema.Rule.follows_statements`). The
texts of the rule must not need an escape, as they are written into the plan.
-/

namespace Hexwire

/-- A value equals a text if it is the text. -/
theorem Value.equals_text_iff {value : Value} {text : String} :
    value.equals (.text text) = true ↔ value = .text text := by
  cases value <;> simp [equals, compareNumbers?, asInt?]

namespace Schema

/-! ## Texts -/

/-- Whether a text stands for itself where it is written in a plan. -/
def isPlain (text : String) : Bool :=
  !text.toList.contains '\\' && !text.toList.contains '\x7b'

namespace Inscription

/-- Without a backslash nothing opens what is not closed. -/
theorem marks?_of_plain {text : List Char} (plain : '\\' ∉ text) : marks? text = none := by
  induction text with
  | nil => rfl
  | cons c rest ih =>
      obtain ⟨other, plain⟩ := not_or.mp (List.mem_cons.not.mp plain)
      unfold marks?
      split <;> simp_all

/-- Without a backslash every character stands for itself. -/
theorem decode_of_plain {text : List Char} (plain : '\\' ∉ text) (position : Nat) :
    decode 0 position text = .ok text := by
  induction text generalizing position with
  | nil => rfl
  | cons c rest ih =>
      obtain ⟨other, plain⟩ := not_or.mp (List.mem_cons.not.mp plain)
      rw [decode]
      · rw [ih plain]
        rfl
      · rintro next more rfl
        exact absurd rfl other

end Inscription

/-- A text without escapes is read as it was written. -/
theorem Run.inscribed_of_plain {text : String} (plain : isPlain text) : inscribed text = text := by
  have unescaped : '\\' ∉ text.toList := by simp_all [isPlain]
  rw [inscribed, Inscription.read, Inscription.marks?_of_plain unescaped]
  dsimp only
  rw [Inscription.decode_of_plain unescaped]
  exact String.ofList_toList

/-! ## Statements for rules -/

/-- The statement that complains of the value in a slot. -/
def complaining (slot : Slot) (place words : String) : Statement :=
  .act (.complain ⟨[.place, .inscription words], slot, place, none⟩)

namespace Rule

/-- What is said of a value that is of none of the kinds. -/
def kindWords (admitted : List Kind) : String :=
  " must be " ++ " or ".intercalate (admitted.map Kind.name)

/-- What is said of a value that is none of several. -/
def amongWords (values : List Value) : String := " must be one of " ++ (Value.list values).literal

/-- What is said of a text that is too short. -/
def lengthWords (least : Nat) : String :=
  " must be longer than or equal to " ++ toString least ++ " characters"

/-- What is said of the keys that a slot holds. -/
def strayPieces (keys : Slot) : List Piece :=
  [.place, .inscription " must not contain ", .slot keys, .inscription " properties"]

/-- A value of none of the kinds is complained of in the words for kinds. -/
theorem stop?_kinds_words (admitted : List Kind) (name : String) (value : Value) :
    (kinds admitted).stop? name value =
      if !Kind.anyAdmits false admitted value then some (.complaint (name ++ kindWords admitted))
      else none := by
  have words : name ++ " must be " ++ " or ".intercalate (admitted.map Kind.name) =
      name ++ kindWords admitted := String.append_assoc
  rw [stop?_kinds, words]
  cases Kind.anyAdmits false admitted value <;> rfl

/-- A value that is none of several is complained of in the words for these. -/
theorem stop?_among_words (values : List Value) (name : String) (value : Value) :
    (among values).stop? name value =
      if !values.any fun other => value.equals other then
        some (.complaint (name ++ amongWords values))
      else none := by
  unfold stop?
  have words : name ++ " must be one of " ++ (Value.list values).literal =
      name ++ amongWords values := String.append_assoc
  rw [words]
  cases values.any fun other => value.equals other <;> rfl

/-- A text that is too short is complained of in the words for its length. -/
theorem stop?_longEnough_words (least : Nat) (name text : String) :
    (longEnough least).stop? name (.text text) =
      if decide (text.length < least) then some (.complaint (name ++ lengthWords least))
      else none := by
  have words : name ++ " must be longer than or equal to " ++ toString least ++ " characters" =
      name ++ lengthWords least :=
    String.append_assoc.trans (String.append_assoc.trans (congrArg _ String.append_assoc.symm))
  unfold stop?
  exact if_congr decide_eq_true_iff.symm (congrArg (some <| Stop.complaint ·) words) rfl

mutual

/-- **The statements for a rule.** They check the value in a slot, at a place below the whole. -/
def statements (slot : Slot) (place : String) : Rule → List Statement
  | .kinds admitted =>
    [.branch (.isOther slot admitted false) [complaining slot place (kindWords admitted)] none]
  | .among values =>
    [.branch (.notAmong slot ⟨.list values⟩) [complaining slot place (amongWords values)] none]
  | .longEnough least =>
    [.branch (.isText slot)
      [.act (.measure (slot ++ "_len") .length slot),
        .branch (.relates (slot ++ "_len") .less ⟨.int least⟩)
          [complaining slot place (lengthWords least)] none]
      none]
  | .all rules => statementsOfAll slot place rules
  | .fields named =>
    let keys := slot ++ "_keys"
    [.act (.measure (slot ++ "_is_dict") .isMap slot),
      .branch (.isTrue (slot ++ "_is_dict"))
        (.act (.measure keys .keys slot) ::
          (statementsOfFields slot place named ++
            [.branch (.isTrue keys)
              [.act (.complain ⟨strayPieces keys, slot, place, none⟩)] none]))
        none]

/-- The statements for rules that all hold. -/
def statementsOfAll (slot : Slot) (place : String) : List Rule → List Statement
  | [] => []
  | rule :: rest => rule.statements slot place ++ statementsOfAll slot place rest

/-- The statements for the values under keys. Each key is taken off those that are there. -/
def statementsOfFields (slot : Slot) (place : String) : List (String × Rule) → List Statement
  | [] => []
  | (key, rule) :: rest =>
    let keys := slot ++ "_keys"
    let part := slot ++ "__" ++ Drafting.nameOf key
    .branch (.hasKey key keys)
      (.act (.forget keys key) :: .act (.entry part slot key) ::
        rule.statements part (place ++ "." ++ key))
      none :: statementsOfFields slot place rest

end

/-- **A rule whose texts need no escapes.** It names no key twice and no value that has no
literal. -/
inductive Writable : Rule → Prop where
  | kinds {admitted : List Kind} (plain : isPlain (kindWords admitted)) :
    Writable (.kinds admitted)
  | among {values : List Value} (plain : isPlain (amongWords values))
    (known : unknownName? (.list values) = none) : Writable (.among values)
  | longEnough {least : Nat} (plain : isPlain (lengthWords least)) : Writable (.longEnough least)
  | all {rules : List Rule} (each : ∀ rule ∈ rules, Writable rule) : Writable (.all rules)
  | fields {named : List (String × Rule)} (distinct : (named.map (·.1)).Nodup)
    (plain : ∀ field ∈ named, isPlain field.1) (each : ∀ field ∈ named, Writable field.2) :
    Writable (.fields named)

end Rule

/-- A literal without unknown names is read as its value. -/
theorem Literal.read_of_known {value : Value} (known : unknownName? value = none) :
    (⟨value⟩ : Literal).read = .ok value := by
  rw [read, known]

/-! ## What statements come to -/

section Results

variable {patterns : List (String × Text.Pattern)} {call : Run.Caller}
  {progress middle after : Progress} {slot : Slot} {place words : String} {value : Value}

namespace Run

/-- No statements end at once. -/
theorem result_carryOutAll_nil (progress : Progress) :
    (carryOutAll patterns call []).result progress = (.ok false, progress) := by
  rw [carryOutAll, result_pure]

/-- After a statement that was carried out come the others. -/
theorem result_carryOutAll_cons_of_ok {first : Statement}
    (ran : (carryOut patterns call first).result progress = (.ok false, after))
    (rest : List Statement) :
    (carryOutAll patterns call (first :: rest)).result progress =
      (carryOutAll patterns call rest).result after := by
  rw [carryOutAll, result_bind_of_ok ran]
  rfl

/-- After a statement that stops nothing else is carried out. -/
theorem result_carryOutAll_cons_of_error {first : Statement} {stop : Stop}
    (ran : (carryOut patterns call first).result progress = (.error stop, after))
    (rest : List Statement) :
    (carryOutAll patterns call (first :: rest)).result progress = (.error stop, after) := by
  rw [carryOutAll, result_bind_of_error ran]

/-- More statements are carried out unless those before them leave or stop. -/
theorem result_carryOutAll_append (first rest : List Statement) (progress : Progress) :
    (carryOutAll patterns call (first ++ rest)).result progress =
      match (carryOutAll patterns call first).result progress with
      | (.ok true, after) => (.ok true, after)
      | (.ok false, after) => (carryOutAll patterns call rest).result after
      | (.error stop, after) => (.error stop, after) := by
  induction first generalizing progress with
  | nil => rw [result_carryOutAll_nil, List.nil_append]
  | cons statement first ih =>
      rw [List.cons_append, carryOutAll, carryOutAll, result_bind, result_bind]
      rcases (carryOut patterns call statement).result progress with ⟨stop | ended, middle⟩
      · rfl
      · cases ended with
        | false => exact ih middle
        | true => rfl

/-- A single statement ends as it does on its own. -/
theorem result_carryOutAll_singleton (statement : Statement) (progress : Progress) :
    (carryOutAll patterns call [statement]).result progress =
      (carryOut patterns call statement).result progress := by
  rw [carryOutAll, result_bind]
  rcases (carryOut patterns call statement).result progress with ⟨stop | ended, after⟩
  · rfl
  · cases ended with
    | false =>
        change (carryOutAll patterns call []).result after = _
        rw [result_carryOutAll_nil]
    | true => rfl

variable (call) in
/-- The statements under a test are carried out if it holds. -/
theorem result_branch {test : Test} {holds : Bool}
    (tested : (succeeds patterns test).result progress = (.ok holds, progress))
    (body : List Statement) :
    (carryOut patterns call (.branch test body none)).result progress =
      if holds then (carryOutAll patterns call body).result progress
      else (.ok false, progress) := by
  rw [carryOut, result_bind_of_ok tested]
  cases holds <;> rfl

/-- A place that needs no escape is shown below the whole. -/
theorem result_placeOf (plain : isPlain place) (top : progress.name = none) :
    (placeOf place).result progress = (.ok ("data" ++ place), progress) := by
  have braceless : place.toList.contains '\x7b' = false := by simp_all [isPlain]
  rw [placeOf, result_bind, result_get]
  dsimp only
  rw [braceless, if_neg Bool.false_ne_true, top, inscribed_of_plain plain, result_pure]
  rfl

/-- A complaint ends the plan with its texts one after the other. -/
theorem result_complain {pieces : List Piece} {texts : List String}
    (said : (pieces.mapM (textOf place)).result progress = (.ok texts, progress))
    (holds : progress.Holds slot value) (plain : isPlain place) (top : progress.name = none) :
    (complain ⟨pieces, slot, place, none⟩).result progress =
      (.error (.complaint (String.join texts)), progress) := by
  obtain ⟨content, kept, -⟩ := holds
  rw [complain, result_bind_of_ok said, result_bind_of_ok (Progress.result_contentOf kept),
    result_bind_of_ok (result_placeOf plain top)]
  rfl

/-- A text that cannot be told ends the plan in its own way. -/
theorem result_complain_of_error {pieces : List Piece} {stop : Stop}
    (failed : (pieces.mapM (textOf place)).result progress = (.error stop, progress)) :
    (complain ⟨pieces, slot, place, none⟩).result progress = (.error stop, progress) :=
  result_bind_of_error failed _

/-- Words that need no escape are shown as they are. -/
theorem result_textOf_inscription (plain : isPlain words) (progress : Progress) :
    (textOf place (.inscription words)).result progress = (.ok words, progress) := by
  rw [textOf, inscribed_of_plain plain, result_pure]

/-- A place is shown below the whole. -/
theorem result_textOf_place (plain : isPlain place) (top : progress.name = none) :
    (textOf place .place).result progress = (.ok ("data" ++ place), progress) := by
  rw [textOf, result_placeOf plain top]

/-- What a slot holds is shown, unless it has too many digits to be written. -/
theorem result_textOf_slot (place : String) (holds : progress.Holds slot value) :
    (textOf place (.slot slot)).result progress =
      (if value.hasTooLong then .error (.failure Value.tooLong) else .ok value.plain,
        progress) := by
  rw [textOf, result_bind_of_ok holds.result_valueOf, spell, Value.spelled]
  cases value.hasTooLong with
  | true => rfl
  | false =>
      rw [if_neg Bool.false_ne_true, if_neg Bool.false_ne_true,
        result_bind_of_ok (result_lift_ok _ _), String.ofList_toList, result_pure]

/-- A complaint ends the statements with the place and the words. -/
theorem result_complaining (holds : progress.Holds slot value) (plain : isPlain place)
    (top : progress.name = none) (plainWords : isPlain words) :
    (carryOutAll patterns call [complaining slot place words]).result progress =
      (.error (.complaint ("data" ++ place ++ words)), progress) := by
  have said : ([.place, .inscription words].mapM (textOf place)).result progress =
      (.ok ["data" ++ place, words], progress) :=
    result_mapM (.cons (result_textOf_place plain top)
      (.cons (result_textOf_inscription plainWords progress) .nil))
  refine result_carryOutAll_cons_of_error ?_ []
  rw [complaining, carryOut, act, result_bind_of_error (result_complain said holds plain top)]
  simp only [String.join, List.foldl]
  rw [String.empty_append]

end Run

/-- How statements end that say what a rule says. -/
def ending : Option Stop → Except Stop Bool
  | none => .ok false
  | some stop => .error stop

variable (patterns call) in
/-- **Statements that check the value in a slot as a rule does.** -/
def Follows (statements : List Statement) (slot : Slot) (place : String) (rule : Rule) : Prop :=
  ∀ ⦃progress : Progress⦄ ⦃value : Value⦄, progress.Holds slot value → progress.name = none →
    ∃ after, (Run.carryOutAll patterns call statements).result progress =
      (ending (rule.stop? ("data" ++ place) value), after) ∧ progress.Keeps slot after

variable (call) in
/-- A test with a complaint under it. -/
theorem result_guard {test : Test} {fails : Bool}
    (tested : (Run.succeeds patterns test).result progress = (.ok fails, progress))
    (holds : progress.Holds slot value) (plain : isPlain place) (top : progress.name = none)
    (plainWords : isPlain words) :
    (Run.carryOutAll patterns call [.branch test [complaining slot place words] none]).result
        progress =
      (ending (if fails then some (.complaint ("data" ++ place ++ words)) else none),
        progress) := by
  have branched := Run.result_branch call tested [complaining slot place words]
  cases fails with
  | false => rw [Run.result_carryOutAll_cons_of_ok branched, Run.result_carryOutAll_nil]; rfl
  | true =>
      refine Run.result_carryOutAll_cons_of_error ?_ []
      rw [branched, if_pos rfl, Run.result_complaining holds plain top plainWords]

/-- A value is of another kind just where no kind admits it. -/
theorem isOther_eq (admitted : List Kind) (value : Value) :
    Run.isOther admitted false value = !Kind.anyAdmits false admitted value := by
  cases value with
  | bool b =>
      rw [Run.isOther, Kind.anyAdmits_bool]
      cases admitted.contains .boolean <;> rfl
  | _ => rfl

/-- The statements for kinds follow their rule. -/
theorem follows_kinds {admitted : List Kind} (plain : isPlain place)
    (plainWords : isPlain (Rule.kindWords admitted)) :
    Follows patterns call (Rule.statements slot place (.kinds admitted)) slot place
      (.kinds admitted) := by
  intro progress value holds top
  have tested : (Run.succeeds patterns (.isOther slot admitted false)).result progress =
      (.ok (Run.isOther admitted false value), progress) := by
    rw [Run.succeeds, Run.result_bind_of_ok holds.result_valueOf, Run.result_pure]
  refine ⟨progress, ?_, .refl slot progress⟩
  rw [Rule.statements, result_guard call tested holds plain top plainWords, isOther_eq,
    Rule.stop?_kinds_words]

/-- The statements for several values follow their rule. -/
theorem follows_among {values : List Value} (plain : isPlain place)
    (plainWords : isPlain (Rule.amongWords values))
    (known : unknownName? (.list values) = none) :
    Follows patterns call (Rule.statements slot place (.among values)) slot place
      (.among values) := by
  intro progress value holds top
  have tested : (Run.succeeds patterns (.notAmong slot ⟨.list values⟩)).result progress =
      (.ok (!values.any fun other => value.equals other), progress) := by
    rw [Run.succeeds, Run.result_bind_of_ok holds.result_valueOf, Literal.read_of_known known]
    rfl
  refine ⟨progress, ?_, .refl slot progress⟩
  rw [Rule.statements, result_guard call tested holds plain top plainWords,
    Rule.stop?_among_words]

/-- Whole numbers are compared as such. -/
theorem relates_less (m n : Nat) : Relation.less.holds (.int m) (.int n) = decide (m < n) := by
  change decide (compare (m : Int) n = .lt) = _
  simp [compare_lt_iff_lt]

/-- The statements for the length of a text follow their rule. -/
theorem follows_longEnough {least : Nat} (plain : isPlain place)
    (plainWords : isPlain (Rule.lengthWords least)) :
    Follows patterns call (Rule.statements slot place (.longEnough least)) slot place
      (.longEnough least) := by
  intro progress value holds top
  have tested : (Run.succeeds patterns (.isText slot)).result progress =
      (.ok (Kind.string.admits true value), progress) := by
    rw [Run.succeeds, Run.result_bind_of_ok holds.result_valueOf, Run.result_pure]
  cases value with
  | text text =>
      let counted := progress.filled (slot ++ "_len") (.value (.int text.length))
      have keeps : progress.Keeps slot counted := .filled progress slot (by decide) _
      have measured : (Run.carryOut patterns call
          (.act (.measure (slot ++ "_len") .length slot))).result progress =
            (.ok false, counted) := by
        rw [Run.carryOut, Run.act, Run.measure, bind_assoc,
          Run.result_bind_of_ok holds.result_valueOf]
        rfl
      have compared : (Run.succeeds patterns
          (.relates (slot ++ "_len") .less ⟨.int least⟩)).result counted =
            (.ok (decide (text.length < least)), counted) := by
        rw [Run.succeeds, Run.result_bind_of_ok (Progress.holds_filled _ _ _).result_valueOf,
          Literal.read_of_known (by unfold unknownName?; rfl),
          Run.result_bind_of_ok (Run.result_lift_ok _ _), Run.result_pure, relates_less]
      have inner := result_guard call compared (keeps.holds_self holds) plain
        (keeps.name.trans top) plainWords
      refine ⟨counted, ?_, keeps⟩
      rw [Rule.statements, Run.result_carryOutAll_singleton, Run.result_branch call tested]
      change (Run.carryOutAll patterns call (_ :: _)).result progress = _
      rw [Run.result_carryOutAll_cons_of_ok measured, inner, Rule.stop?_longEnough_words]
  | _ =>
      refine ⟨progress, ?_, .refl slot progress⟩
      rw [Rule.statements, Run.result_carryOutAll_cons_of_ok (Run.result_branch call tested _),
        Run.result_carryOutAll_nil]
      unfold Rule.stop?
      rfl

/-- Statements that follow a rule may go before those that follow others. -/
theorem Follows.append {first rest : List Statement} {rule : Rule} {rules : List Rule}
    (begins : Follows patterns call first slot place rule)
    (goesOn : Follows patterns call rest slot place (.all rules)) :
    Follows patterns call (first ++ rest) slot place (.all (rule :: rules)) := by
  intro progress value holds top
  obtain ⟨middle, ran, keeps⟩ := begins holds top
  rw [Run.result_carryOutAll_append, ran]
  rw [Rule.stop?_all, Rule.firstStop?]
  cases stopped : rule.stop? ("data" ++ place) value with
  | some stop => exact ⟨middle, rfl, keeps⟩
  | none =>
      obtain ⟨after, ended, kept⟩ := goesOn (keeps.holds_self holds) (keeps.name.trans top)
      rw [Rule.stop?_all] at ended
      exact ⟨after, ended, keeps.trans kept⟩

/-! ## Mappings -/

namespace Progress

/-- The last step leads on from where the others lead. -/
theorem below?_concat (steps : List Step) (last : Step) (value : Value) :
    below? (steps ++ [last]) value = (below? steps value).bind last.follow? := by
  induction steps generalizing value with
  | nil =>
      change (last.follow? value).bind some = last.follow? value
      exact Option.bind_fun_some _
  | cons step rest ih =>
      rw [List.cons_append, below?, below?, Option.bind_assoc]
      exact congrArg _ (funext ih)

/-- The value under a key of a mapping is where the mapping is. -/
theorem Holds.exists_part {entries : List (Value × Value)} {key : String} {found : Value}
    (holds : progress.Holds slot (.map entries))
    (entered : Value.lookup? entries key = some found) :
    ∃ content, (Run.part slot (.entry (.text key)) found).result progress =
        (.ok content, progress) ∧ content.valueIn progress = found := by
  obtain ⟨content, kept, same⟩ := holds
  cases content with
  | value whole =>
      refine ⟨.value found, ?_, rfl⟩
      rw [Run.part, Run.result_bind_of_ok (result_contentOf kept)]
      rfl
  | place whole steps =>
      refine ⟨.place whole (steps ++ [Step.entry (.text key)]), ?_, ?_⟩
      · rw [Run.part, Run.result_bind_of_ok (result_contentOf kept)]
        rfl
      · rw [Content.valueIn] at same ⊢
        cases reached : (progress.wholes[whole]?).bind (below? steps) with
        | none =>
            rw [reached] at same
            cases same
        | some here =>
            rw [reached] at same
            obtain rfl : here = .map entries := same
            have longer : below? (steps ++ [Step.entry (.text key)]) =
                fun value => (below? steps value).bind (Step.entry (.text key)).follow? :=
              funext (below?_concat steps _)
            rw [longer, ← Option.bind_assoc, reached]
            exact congrArg (·.getD .null) entered

end Progress

/-- Slots of parts are none of the slots of keys, and no part of them continues such a slot. -/
theorem keys_ne_part (slot key suffix : String) :
    slot ++ "_keys" ≠ slot ++ "__" ++ Drafting.nameOf key ++ suffix := by
  intro same
  have characters := congrArg String.toList same
  simp only [String.toList_append, List.append_assoc, List.append_cancel_left_eq] at characters
  have second := congrArg (·[1]?) characters
  exact absurd second (by simp)

/-- The name for a part is longer than the one for the whole. -/
theorem part_ne_empty (key : String) : "__" ++ Drafting.nameOf key ≠ "" := by
  intro same
  have characters := congrArg String.toList same
  rw [String.toList_append] at characters
  exact absurd characters (by simp)

/-- Without names all keys are left. -/
theorem unnamed_nil (keys : List Value) : unnamed [] keys = keys :=
  List.filter_eq_self.mpr fun _ _ => rfl

/-- A name takes its key off those that are left. -/
theorem unnamed_cons (key : String) (names : List String) (keys : List Value) :
    unnamed (key :: names) keys =
      unnamed names (keys.filter fun held => !held.equals (.text key)) := by
  rw [unnamed, unnamed, List.filter_filter]
  refine List.filter_congr fun held _ => ?_
  rw [List.any_cons, Bool.not_or, Bool.and_comm]

/-- Taking a key off leaves the others. -/
theorem any_equals_filter {key other : String} (different : other ≠ key) (held : List Value) :
    ((held.filter fun item => !item.equals (.text key)).any fun item => item.equals (.text other)) =
      held.any fun item => item.equals (.text other) := by
  rw [List.any_filter]
  refine List.any_congr rfl fun item => ?_
  by_cases found : item.equals (.text other)
  · rw [Value.equals_text_iff.mp found]
    simp [Value.equals, different]
  · simp [found]

/-- Two texts without escapes make one. -/
theorem isPlain_append {first second : String} (plainFirst : isPlain first)
    (plainSecond : isPlain second) : isPlain (first ++ second) := by
  simp_all [isPlain]

/-- **A plan on its way through the fields of a mapping.** The keys that no field has taken off are
held apart. -/
structure Progress.Checking (progress : Progress) (slot : Slot) (entries : List (Value × Value))
    (held : List Value) : Prop where
  whole : progress.Holds slot (.map entries)
  keys : progress.slots.lookup (slot ++ "_keys") = some (.value (.set held))
  top : progress.name = none

section Fields

variable {entries : List (Value × Value)} {held : List Value} {key : String}

/-- The keys that are left are held beside the value. -/
theorem Progress.Checking.holds_keys (checking : progress.Checking slot entries held) :
    progress.Holds (slot ++ "_keys") (.set held) := ⟨_, checking.keys, rfl⟩

variable (patterns) in
/-- The test for a key looks among those that are left. -/
theorem Progress.Checking.result_hasKey (checking : progress.Checking slot entries held)
    (plain : isPlain key) :
    (Run.succeeds patterns (.hasKey key (slot ++ "_keys"))).result progress =
      (.ok (held.any fun item => item.equals (.text key)), progress) := by
  rw [Run.succeeds, Run.result_bind_of_ok checking.holds_keys.result_valueOf,
    Run.inscribed_of_plain plain]
  rfl

variable (patterns call) in
/-- A key that is taken off. -/
theorem Progress.Checking.forget (checking : progress.Checking slot entries held)
    (plain : isPlain key) :
    ∃ after, (Run.carryOut patterns call (.act (.forget (slot ++ "_keys") key))).result progress =
        (.ok false, after) ∧ progress.Keeps slot after ∧
      after.Checking slot entries (held.filter fun item => !item.equals (.text key)) := by
  have keeps : progress.Keeps slot (progress.filled (slot ++ "_keys")
    (.value (.set (held.filter fun item => !item.equals (.text key))))) :=
      .filled progress slot (by decide) _
  refine ⟨_, ?_, keeps, keeps.holds_self checking.whole, ?_, checking.top⟩
  · rw [Run.carryOut, Run.act, Run.change, bind_assoc,
      Run.result_bind_of_ok (result_contentOf checking.keys), Run.inscribed_of_plain plain]
    rfl
  · rw [lookup_filled, if_pos rfl]

variable (patterns call) in
/-- The value under a key comes into the slot of the part. -/
theorem Progress.Checking.enter (checking : progress.Checking slot entries held)
    (plain : isPlain key) {found : Value} (entered : Value.lookup? entries key = some found) :
    let part := slot ++ "__" ++ Drafting.nameOf key
    ∃ after, (Run.carryOut patterns call (.act (.entry part slot key))).result progress =
        (.ok false, after) ∧ progress.Keeps slot after ∧ after.Checking slot entries held ∧
      after.Holds part found := by
  intro part
  obtain ⟨content, ran, same⟩ := checking.whole.exists_part entered
  have keeps : progress.Keeps slot (progress.filled part content) := by
    rw [show part = slot ++ ("__" ++ Drafting.nameOf key) from String.append_assoc]
    exact .filled progress slot (part_ne_empty key) content
  refine ⟨progress.filled part content, ?_, keeps,
    ⟨keeps.holds_self checking.whole, ?_, checking.top⟩, content, ?_, ?_⟩
  · have under : (Value.map entries).under key = .ok found := by rw [Value.under, entered]
    rw [Run.carryOut, Run.act, Run.inscribed_of_plain plain,
      Run.result_bind_of_ok checking.whole.result_valueOf, under,
      Run.result_bind_of_ok (Run.result_lift_ok _ _), Run.result_bind_of_ok ran]
    rfl
  · rw [lookup_filled, if_neg, checking.keys]
    rw [← String.append_empty (s := part)]
    exact keys_ne_part slot key ""
  · rw [lookup_filled, if_pos rfl]
  · rw [← same]
    cases content <;> rfl

/-- Statements about a part of a mapping leave the whole and the keys as they are. -/
theorem Progress.Checking.of_keeps (checking : progress.Checking slot entries held)
    (keeps : progress.Keeps (slot ++ "__" ++ Drafting.nameOf key) after) :
    progress.Keeps slot after ∧ after.Checking slot entries held := by
  have whole : progress.Keeps slot after := by
    rw [String.append_assoc] at keeps
    exact keeps.of_part (part_ne_empty key)
  refine ⟨whole, whole.holds_self checking.whole, ?_, keeps.name.trans checking.top⟩
  rw [keeps.slots _ fun suffix _ => keys_ne_part slot key suffix, checking.keys]

/-- **A field of a mapping.** Its statements take its key off the others and end as its rule does
for the value under the key, if there is one. -/
theorem Progress.Checking.result_field {rule : Rule}
    (checking : progress.Checking slot entries held) (plainKey : isPlain key)
    (there : (held.any fun item => item.equals (.text key)) =
      (Value.lookup? entries key).isSome) :
    let part := slot ++ "__" ++ Drafting.nameOf key
    let body := rule.statements part (place ++ "." ++ key)
    Follows patterns call body part (place ++ "." ++ key) rule →
    ∃ after, (Run.carryOut patterns call (.branch (.hasKey key (slot ++ "_keys"))
        (.act (.forget (slot ++ "_keys") key) :: .act (.entry part slot key) :: body)
        none)).result progress =
          (ending ((Value.lookup? entries key).bind (rule.stop? ("data" ++ place ++ "." ++ key))),
            after) ∧
      progress.Keeps slot after ∧
      after.Checking slot entries (held.filter fun item => !item.equals (.text key)) := by
  intro part body follows
  have tested := checking.result_hasKey patterns plainKey
  rw [there] at tested
  rw [Run.result_branch call tested]
  cases entered : Value.lookup? entries key with
  | none =>
      have unheld : (held.filter fun item => !item.equals (.text key)) = held := by
        rw [entered] at there
        refine List.filter_eq_self.mpr fun item member => ?_
        exact Bool.not_eq_true' _ ▸ eq_false_of_ne_true (List.any_eq_false.mp there item member)
      rw [unheld]
      exact ⟨progress, rfl, .refl slot progress, checking⟩
  | some found =>
      obtain ⟨first, forgot, keptFirst, taken⟩ := checking.forget patterns call plainKey
      obtain ⟨second, came, keptSecond, taken, holds⟩ :=
        taken.enter patterns call plainKey entered
      obtain ⟨third, ran, keeps⟩ := follows holds taken.top
      obtain ⟨keptThird, taken⟩ := taken.of_keeps keeps
      have placed : "data" ++ (place ++ "." ++ key) = "data" ++ place ++ "." ++ key :=
        String.append_assoc.symm.trans (congrArg (· ++ key) String.append_assoc.symm)
      rw [placed] at ran
      refine ⟨third, ?_, (keptFirst.trans keptSecond).trans keptThird, taken⟩
      rw [if_pos Option.isSome_some, Run.result_carryOutAll_cons_of_ok forgot,
        Run.result_carryOutAll_cons_of_ok came, ran]
      rfl

/-- **The fields of a mapping are checked one after the other.** The induction is on the fields, and
what carries it is that a key is among those held apart just where the mapping has it. -/
theorem result_statementsOfFields {named : List (String × Rule)}
    (distinct : (named.map (·.1)).Nodup) (plainKeys : ∀ field ∈ named, isPlain field.1)
    (follows : ∀ field ∈ named, ∀ slot place, isPlain place →
      Follows patterns call (field.2.statements slot place) slot place field.2)
    (plain : isPlain place) (checking : progress.Checking slot entries held)
    (there : ∀ field ∈ named, (held.any fun item => item.equals (.text field.1)) =
      (Value.lookup? entries field.1).isSome) :
    ∃ after, (Run.carryOutAll patterns call (Rule.statementsOfFields slot place named)).result
        progress = (ending (Rule.namedStop? named ("data" ++ place) entries), after) ∧
      progress.Keeps slot after ∧
      (Rule.namedStop? named ("data" ++ place) entries = none →
        after.Checking slot entries (unnamed (named.map (·.1)) held)) := by
  induction named generalizing progress held with
  | nil =>
      refine ⟨progress, ?_, .refl slot progress, fun _ => ?_⟩
      · rw [Rule.statementsOfFields, Run.result_carryOutAll_nil, Rule.namedStop?]
        rfl
      · rwa [List.map_nil, unnamed_nil]
  | cons field rest ih =>
      obtain ⟨key, rule⟩ := field
      obtain ⟨fresh, distinct⟩ := List.nodup_cons.mp distinct
      obtain ⟨plainKey, plainKeys⟩ := List.forall_mem_cons.mp plainKeys
      obtain ⟨followsHere, follows⟩ := List.forall_mem_cons.mp follows
      obtain ⟨here, there⟩ := List.forall_mem_cons.mp there
      have left : ∀ field ∈ rest,
          ((held.filter fun item => !item.equals (.text key)).any fun item =>
            item.equals (.text field.1)) = (Value.lookup? entries field.1).isSome := by
        intro field member
        have different : field.1 ≠ key := fun same =>
          fresh (List.mem_map.mpr ⟨field, member, same⟩)
        rw [any_equals_filter different, there field member]
      have plainPart : isPlain (place ++ "." ++ key) :=
        isPlain_append (isPlain_append plain (by decide)) plainKey
      obtain ⟨middle, ran, kept, taken⟩ :=
        checking.result_field plainKey here (followsHere _ _ plainPart)
      have stops : Rule.namedStop? ((key, rule) :: rest) ("data" ++ place) entries =
          ((Value.lookup? entries key).bind (rule.stop? ("data" ++ place ++ "." ++ key))).or
            (Rule.namedStop? rest ("data" ++ place) entries) := by
        rw [Rule.namedStop?]
        cases Value.lookup? entries key <;> rfl
      rw [Rule.statementsOfFields, stops, List.map_cons, unnamed_cons]
      cases stopped : (Value.lookup? entries key).bind
          (rule.stop? ("data" ++ place ++ "." ++ key)) with
      | some stop =>
          rw [stopped] at ran
          exact ⟨middle, Run.result_carryOutAll_cons_of_error ran _, kept,
            fun silent => by cases silent⟩
      | none =>
          rw [stopped] at ran
          obtain ⟨after, ended, keeps, checked⟩ := ih distinct plainKeys follows taken left
          exact ⟨after, (Run.result_carryOutAll_cons_of_ok ran _).trans ended, kept.trans keeps,
            checked⟩

/-- A set of keys has those that are found. -/
theorem any_scattered (entries : List (Value × Value)) (key : String) :
    ((Value.scattered (entries.map (·.1))).any fun item => item.equals (.text key)) =
      (Value.lookup? entries key).isSome := by
  rw [(Value.scattered_perm _).any_eq, List.any_map, Value.lookup?, Option.isSome_map,
    Bool.eq_iff_iff, List.find?_isSome, List.any_eq_true]
  rfl

/-- What is said of keys that no field has taken off. -/
theorem Progress.Checking.result_unnamed {left : List Value}
    (checking : progress.Checking slot entries left) (plain : isPlain place) :
    (Run.carryOutAll patterns call [.branch (.isTrue (slot ++ "_keys"))
        [.act (.complain ⟨Rule.strayPieces (slot ++ "_keys"), slot, place, none⟩)]
        none]).result progress =
      (ending (if left.isEmpty then none
        else if Value.anyTooLong left then some (.failure Value.tooLong)
        else some (.complaint ("data" ++ place ++ " must not contain " ++
          (Value.set left).literal ++ " properties"))), progress) := by
  have tested : (Run.succeeds patterns (.isTrue (slot ++ "_keys"))).result progress =
      (.ok (!left.isEmpty), progress) := by
    rw [Run.succeeds, Run.result_bind_of_ok checking.holds_keys.result_valueOf]
    rfl
  rw [Run.result_carryOutAll_singleton, Run.result_branch call tested]
  cases left.isEmpty with
  | true => rfl
  | false =>
      have shown := Run.result_textOf_slot place checking.holds_keys
      have before : List.Forall₂
          (fun piece text => (Run.textOf place piece).result progress = (.ok text, progress))
          [.place, .inscription " must not contain "] ["data" ++ place, " must not contain "] :=
        .cons (Run.result_textOf_place plain checking.top)
          (.cons (Run.result_textOf_inscription (by decide) progress) .nil)
      rw [if_pos (by rfl), if_neg Bool.false_ne_true, Run.result_carryOutAll_singleton,
        Run.carryOut, Run.act]
      cases long : Value.anyTooLong left with
      | true =>
          have failed := shown.trans (by rw [Value.hasTooLong, long, if_pos rfl])
          have said : ((Rule.strayPieces (slot ++ "_keys")).mapM (Run.textOf place)).result
              progress = (.error (.failure Value.tooLong), progress) :=
            Run.result_mapM_of_error before failed _
          rw [Run.result_bind_of_error (Run.result_complain_of_error said)]
          rfl
      | false =>
          have literal : (Value.set left).plain = (Value.set left).literal := by
            unfold Value.plain
            rfl
          have told := shown.trans
            (by rw [Value.hasTooLong, long, if_neg Bool.false_ne_true, literal])
          have said : ((Rule.strayPieces (slot ++ "_keys")).mapM (Run.textOf place)).result
              progress = (.ok (["data" ++ place, " must not contain "] ++
                [(Value.set left).literal, " properties"]), progress) :=
            Run.result_mapM (List.rel_append before (.cons told
              (.cons (Run.result_textOf_inscription (by decide) progress) .nil)))
          rw [Run.result_bind_of_error
            (Run.result_complain said checking.whole plain checking.top)]
          change (Except.error (Stop.complaint ("" ++ ("data" ++ place) ++ " must not contain " ++
            (Value.set left).literal ++ " properties")), progress) = _
          rw [show "" ++ ("data" ++ place) = "data" ++ place from String.empty_append]
          rfl

/-- The statements for fields follow their rule, if those for each field do. -/
theorem follows_fields {named : List (String × Rule)} (distinct : (named.map (·.1)).Nodup)
    (plainKeys : ∀ field ∈ named, isPlain field.1)
    (follows : ∀ field ∈ named, ∀ slot place, isPlain place →
      Follows patterns call (field.2.statements slot place) slot place field.2)
    (plain : isPlain place) :
    Follows patterns call (Rule.statements slot place (.fields named)) slot place
      (.fields named) := by
  intro progress value holds top
  let known := progress.filled (slot ++ "_is_dict") (.value (.bool (Kind.object.admits true value)))
  have kept : progress.Keeps slot known := .filled progress slot (by decide) _
  have measured : (Run.carryOut patterns call
      (.act (.measure (slot ++ "_is_dict") .isMap slot))).result progress = (.ok false, known) := by
    rw [Run.carryOut, Run.act, Run.measure, bind_assoc,
      Run.result_bind_of_ok holds.result_valueOf]
    rfl
  have tested : (Run.succeeds patterns (.isTrue (slot ++ "_is_dict"))).result known =
      (.ok (Kind.object.admits true value), known) := by
    rw [Run.succeeds, Run.result_bind_of_ok (Progress.holds_filled _ _ _).result_valueOf]
    rfl
  rw [Rule.statements, Run.result_carryOutAll_cons_of_ok measured, Run.result_carryOutAll_singleton,
    Run.result_branch call tested]
  cases value with
  | map entries =>
      let keys := Value.scattered (entries.map (·.1))
      let listed := known.filled (slot ++ "_keys") (.value (.set keys))
      have keptKeys : known.Keeps slot listed := .filled known slot (by decide) _
      have checking : listed.Checking slot entries keys :=
        ⟨(kept.trans keptKeys).holds_self holds, by rw [Progress.lookup_filled, if_pos rfl], top⟩
      have measuredKeys : (Run.carryOut patterns call
          (.act (.measure (slot ++ "_keys") .keys slot))).result known = (.ok false, listed) := by
        rw [Run.carryOut, Run.act, Run.measure, bind_assoc,
          Run.result_bind_of_ok (kept.holds_self holds).result_valueOf]
        rfl
      have there : ∀ field ∈ named, (keys.any fun item => item.equals (.text field.1)) =
          (Value.lookup? entries field.1).isSome := fun field _ => any_scattered entries field.1
      obtain ⟨after, ran, keptAfter, checked⟩ :=
        result_statementsOfFields distinct plainKeys follows plain checking there
      change ∃ after, (Run.carryOutAll patterns call (_ :: _)).result known = _ ∧ _
      rw [Run.result_carryOutAll_cons_of_ok measuredKeys, Run.result_carryOutAll_append, ran,
        Rule.stop?_fields]
      refine ⟨after, ?_, (kept.trans keptKeys).trans keptAfter⟩
      cases stopped : Rule.namedStop? named ("data" ++ place) entries with
      | some stop => rfl
      | none =>
          have same : (unnamed (named.map (·.1)) keys).Perm
              (unnamed (named.map (·.1)) (entries.map (·.1))) := (Value.scattered_perm _).filter _
          refine ((checked stopped).result_unnamed plain).trans ?_
          rw [Value.anyTooLong_eq_any, same.any_eq, same.isEmpty_eq, ← Value.anyTooLong_eq_any]
          rfl
  | _ =>
      refine ⟨known, ?_, kept⟩
      unfold Rule.stop?
      rfl

end Fields

/-! ## Rules -/

-- Rules stand inside rules, alone and under names, so the induction is on rules, lists of rules and
-- lists of fields at once.
mutual

/-- **The statements for a rule end as the rule does**, with the same words, wherever the value is
and whatever it is. -/
theorem Rule.follows_statements (rule : Rule) (writable : rule.Writable) (slot : Slot)
    {place : String} (plain : isPlain place) :
    Follows patterns call (rule.statements slot place) slot place rule := by
  match rule, writable with
  | .kinds _, .kinds plainWords => exact follows_kinds plain plainWords
  | .among _, .among plainWords known => exact follows_among plain plainWords known
  | .longEnough _, .longEnough plainWords => exact follows_longEnough plain plainWords
  | .all rules, .all each =>
      rw [statements]
      exact follows_statementsOfAll rules each slot plain
  | .fields named, .fields distinct plainKeys each =>
      exact follows_fields distinct plainKeys (follows_named named each) plain

/-- The statements for several rules follow all of them. -/
theorem Rule.follows_statementsOfAll (rules : List Rule) (each : ∀ rule ∈ rules, rule.Writable)
    (slot : Slot) {place : String} (plain : isPlain place) :
    Follows patterns call (statementsOfAll slot place rules) slot place (.all rules) := by
  match rules with
  | [] =>
      intro progress value _ _
      refine ⟨progress, ?_, .refl slot progress⟩
      rw [statementsOfAll, Run.result_carryOutAll_nil, stop?_all, firstStop?]
      rfl
  | rule :: rest =>
      obtain ⟨first, others⟩ := List.forall_mem_cons.mp each
      rw [statementsOfAll]
      exact (follows_statements rule first slot plain).append
        (follows_statementsOfAll rest others slot plain)

/-- The statements for each field follow its rule. -/
theorem Rule.follows_named (named : List (String × Rule))
    (each : ∀ field ∈ named, field.2.Writable) :
    ∀ field ∈ named, ∀ slot place, isPlain place →
      Follows patterns call (field.2.statements slot place) slot place field.2 := by
  match named with
  | [] => exact fun _ member => nomatch member
  | (key, rule) :: rest =>
      obtain ⟨first, others⟩ := List.forall_mem_cons.mp each
      exact List.forall_mem_cons.mpr
        ⟨fun slot place plain => follows_statements rule first slot plain,
          follows_named rest others⟩

end

end Results

/-- **A plan of the statements for a rule stops where the rule does.** -/
theorem Rule.stop?_plan {rule : Rule} (writable : rule.Writable) (value : Value) :
    (Plan.mk "validate" [("validate", rule.statements "data" "")] []).stop? value =
      rule.stop? "data" value := by
  let start : Progress := ⟨#[value], [("data", .place 0 [])], none⟩
  have holds : start.Holds "data" value := ⟨.place 0 [], rfl, rfl⟩
  let plan : Plan := ⟨"validate", [("validate", rule.statements "data" "")], []⟩
  have follows : Follows [] (Run.callWithin plan Run.depthLimit) (rule.statements "data" "")
      "data" "" rule := follows_statements rule writable "data" (by decide)
  obtain ⟨after, ran, -⟩ := follows holds rfl
  have ended : (ExceptT.run (Run.carryOutAll plan.patterns (Run.callWithin plan Run.depthLimit)
      ((plan.parts.reverse.lookup plan.entry).getD [])) start).1 =
      ending (rule.stop? "data" value) :=
    (congrArg Prod.fst ran).trans (congrArg (ending <| rule.stop? · value) String.append_empty)
  unfold Plan.stop?
  dsimp only
  rw [ended]
  cases rule.stop? "data" value <;> rfl

end Schema

end Hexwire
