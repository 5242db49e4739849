import Mathlib
import Hexwire.Proofs.Schema.Following
import Hexwire.Settings.Basic

/-! # The definition of a connection

A configuration is checked against its definition like any other value: the definition is read,
references are looked for, a plan is drafted keyword by keyword and carried out. For the definition
of a connection this comes to the rule that the settings are read by, in what is accepted and in
every word of a complaint (`Hexwire.Settings.checkDefined_schema`).

The plan is found by evaluation. The equations of core functions that this takes stand in no one
part of Mathlib, so the whole of it is imported.
-/

namespace Hexwire.Settings

/-- A test with a complaint under it, about the value in a slot. -/
def guarding (test : Schema.Test) (slot : Schema.Slot) (place words : String) : Schema.Statement :=
  .branch test [Schema.complaining slot place words] none

/-- The statements for the value under a key. -/
def entering (key : String) (part : Schema.Slot) (body : List Schema.Statement) :
    Schema.Statement :=
  .branch (.hasKey key "data_keys")
    (.act (.forget "data_keys" key) :: .act (.entry part "data" key) :: body) none

/-- The statements that check a configuration of a connection. -/
def statements : List Schema.Statement :=
  [guarding (.isOther "data" [.object] false) "data" "" " must be object",
   .act (.measure "data_is_dict" .isMap "data"),
   .branch (.isTrue "data_is_dict")
    [.act (.measure "data_keys" .keys "data"),
     entering "port" "data__port"
      [guarding (.isOther "data__port" [.string] false) "data__port" ".port" " must be string",
       .branch (.isText "data__port")
        [.act (.measure "data__port_len" .length "data__port"),
         guarding (.relates "data__port_len" .less ⟨.int 1⟩) "data__port" ".port"
          " must be longer than or equal to 1 characters"]
        none],
     entering "baudrate" "data__baudrate"
      [guarding (.isOther "data__baudrate" [.integer] false) "data__baudrate" ".baudrate"
        " must be integer",
       guarding (.notAmong "data__baudrate" ⟨.list (speeds.map Value.int)⟩) "data__baudrate"
        ".baudrate" " must be one of [4800, 9600, 19200, 38400, 115200]"],
     entering "release_on_error" "data__releaseonerror"
      [guarding (.isOther "data__releaseonerror" [.boolean] false) "data__releaseonerror"
        ".release_on_error" " must be boolean"],
     .branch (.isTrue "data_keys")
      [.act (.complain ⟨Schema.Rule.strayPieces "data_keys", "data", "", none⟩)] none]
    none]

/-- The plan for configurations of a connection. -/
def plan : Schema.Plan := ⟨"validate", [("validate", statements)], []⟩

set_option maxRecDepth 20000 in
/-- **The plan that is drafted for the definition.** -/
theorem ofDefinition_schema : Schema.Plan.ofDefinition schema = .ok plan := by
  cbv
  simp only [StateT.bind, StateT.pure, pure_bind]
  cbv

/-- Every line of the plan can be read. -/
theorem failure?_plan : plan.failure? = none := by
  rw [← Option.isNone_iff_eq_none]
  decide +kernel

/-- What is said of a speed that is none of those that are offered. -/
theorem words_speeds :
    Schema.Rule.amongWords (speeds.map Value.int) =
      " must be one of [4800, 9600, 19200, 38400, 115200]" := by
  decide +kernel

/-- The statements of the plan are those for the rule. -/
theorem statements_rule : rule.statements "data" "" = statements := by
  have words (kind : Schema.Kind) : Schema.Rule.kindWords [kind] = " must be " ++ kind.name := by
    cases kind <;> decide +kernel
  have object : " must be " ++ Schema.Kind.object.name = " must be object" := by decide +kernel
  have string : " must be " ++ Schema.Kind.string.name = " must be string" := by decide +kernel
  have integer : " must be " ++ Schema.Kind.integer.name = " must be integer" := by decide +kernel
  have boolean : " must be " ++ Schema.Kind.boolean.name = " must be boolean" := by decide +kernel
  have length : Schema.Rule.lengthWords 1 = " must be longer than or equal to 1 characters" := by
    decide +kernel
  have port : "data" ++ "__" ++ Schema.Drafting.nameOf "port" = "data__port" := by decide +kernel
  have baudrate : "data" ++ "__" ++ Schema.Drafting.nameOf "baudrate" = "data__baudrate" := by
    decide +kernel
  have release : "data" ++ "__" ++ Schema.Drafting.nameOf "release_on_error" =
      "data__releaseonerror" := by decide +kernel
  have atPort : "" ++ "." ++ "port" = ".port" := by decide +kernel
  have atBaudrate : "" ++ "." ++ "baudrate" = ".baudrate" := by decide +kernel
  have atRelease : "" ++ "." ++ "release_on_error" = ".release_on_error" := by decide +kernel
  have keys : "data" ++ "_keys" = "data_keys" := by decide +kernel
  have isDict : "data" ++ "_is_dict" = "data_is_dict" := by decide +kernel
  have count : "data__port" ++ "_len" = "data__port_len" := by decide +kernel
  simp only [rule, Schema.Rule.statements, Schema.Rule.statementsOfAll,
    Schema.Rule.statementsOfFields, words_speeds, words, object, string, integer, boolean, length,
    port, baudrate, release, atPort, atBaudrate, atRelease, keys, isDict, count]
  rfl

/-- The texts of the rule need no escapes. -/
theorem writable_rule : rule.Writable := by
  have admitted (kind : Schema.Kind) : (Schema.Rule.kinds [kind]).Writable :=
    .kinds (by cases kind <;> decide +kernel)
  have port : (Schema.Rule.longEnough 1).Writable := .longEnough (by decide +kernel)
  have among : (Schema.Rule.among (speeds.map Value.int)).Writable :=
    .among (by decide +kernel) (by decide +kernel)
  refine .all (List.forall_mem_cons.mpr ⟨admitted .object, List.forall_mem_singleton.mpr ?_⟩)
  refine .fields (by decide +kernel) (by decide +kernel) ?_
  simp only [List.forall_mem_cons, List.not_mem_nil, false_implies, implies_true, and_true]
  refine ⟨.all ?_, .all ?_, admitted .boolean⟩
  · exact List.forall_mem_cons.mpr ⟨admitted .string, List.forall_mem_singleton.mpr port⟩
  · exact List.forall_mem_cons.mpr ⟨admitted .integer, List.forall_mem_singleton.mpr among⟩

/-- **The check of a connection.** Whatever the value, the check against the definition has the
outcome of the check against the rule. -/
theorem checkDefined_schema (value : Value) :
    Configuration.checkDefined schema value = Configuration.check rule value := by
  rw [Configuration.checkDefined, ofDefinition_schema]
  dsimp only
  rw [failure?_plan]
  dsimp only
  rw [plan, ← statements_rule, Schema.Rule.stop?_plan writable_rule, Configuration.check]

end Hexwire.Settings
