import Hexwire.Proofs.Schema.Rule
import Hexwire.Settings.Basic

/-! # Settings and the rule for them

A configuration is read twice: the rule for settings looks at all of its entries, and each setting
is asked for by its kind. Where the rule accepts the entries each setting is of its kind, with one
exception: a speed with a point is an integer to the rule if it is whole, but is none to whoever
asks for an integer. Settings are read just where the rule accepts the entries and the speed has no
point (`Hexwire.Settings.loads_iff_accepted`).
-/

namespace Hexwire

namespace Value

/-- Nothing is found among no entries. -/
@[simp]
theorem lookup?_nil (key : String) : lookup? [] key = none := rfl

/-- A key is looked up entry by entry. -/
@[simp]
theorem lookup?_text (name key : String) (item : Value) (rest : List (Value × Value)) :
    lookup? ((.text name, item) :: rest) key =
      if name = key then some item else lookup? rest key := by
  by_cases same : name = key <;> simp [lookup?, equals, same]

end Value

/-- Two computations in a row succeed if both do. -/
theorem bind_eq_ok_iff {ε α β : Type} {first : Except ε α} {next : α → Except ε β} {result : β} :
    first >>= next = .ok result ↔ ∃ value, first = .ok value ∧ next value = .ok result := by
  cases first with
  | error raised => exact ⟨fun ended => (nomatch ended), fun ⟨_, ended, _⟩ => (nomatch ended)⟩
  | ok value =>
      refine ⟨fun ended => ⟨value, rfl, ended⟩, ?_⟩
      rintro ⟨_, ⟨⟩, ended⟩
      exact ended

/-- Two computations in a row fail with the failure of either. -/
theorem bind_eq_error_iff {ε α β : Type} {first : Except ε α} {next : α → Except ε β} {raised : ε} :
    first >>= next = .error raised ↔
      first = .error raised ∨ ∃ value, first = .ok value ∧ next value = .error raised := by
  cases first with
  | error other =>
      constructor
      · rintro ⟨⟩
        exact .inl rfl
      · rintro (⟨⟨⟩⟩ | ⟨_, ⟨⟩, -⟩)
        rfl
  | ok value =>
      refine ⟨fun ended => .inr ⟨value, rfl, ended⟩, ?_⟩
      rintro (⟨⟨⟩⟩ | ⟨_, ⟨⟩, ended⟩)
      exact ended

namespace Configuration

variable {configuration : Configuration} {key : String} {standard : Value}

/-- What holds of the value under a key, if there is one, and of the default holds of what is
read. -/
theorem itemOr_of {holds : Value → Prop} (default : holds standard)
    (each : ∀ item, Value.lookup? configuration.entries key = some item → holds item) :
    holds (configuration.itemOr key standard) := by
  unfold itemOr
  cases found : Value.lookup? configuration.entries key with
  | none => exact default
  | some item => exact each item found

/-- A text is read exactly where a text stands. -/
theorem text_eq_ok_iff {text : String} :
    configuration.text key standard = .ok text ↔
      configuration.itemOr key standard = .text text := by
  unfold Configuration.text
  cases configuration.itemOr key standard <;> simp

/-- An integer is read exactly where an integer stands. -/
theorem integer_eq_ok_iff {n : Int} :
    configuration.integer key standard = .ok n ↔ configuration.itemOr key standard = .int n := by
  unfold integer
  cases configuration.itemOr key standard <;> simp

/-- A truth value is read exactly where a truth value stands. -/
theorem truth_eq_ok_iff {b : Bool} :
    configuration.truth key standard = .ok b ↔ configuration.itemOr key standard = .bool b := by
  unfold truth
  cases configuration.itemOr key standard <;> simp

/-- Anything else than a text is refused for its kind. -/
theorem text_error {failure : Failure}
    (refused : configuration.text key standard = .error failure) :
    failure = wrongKind "string" key := by
  unfold Configuration.text at refused
  split at refused <;> cases refused
  rfl

/-- Anything else than an integer is refused for its kind. -/
theorem integer_error {failure : Failure}
    (refused : configuration.integer key standard = .error failure) :
    failure = wrongKind "integer" key := by
  unfold integer at refused
  split at refused <;> cases refused
  rfl

/-- Anything else than a truth value is refused for its kind. -/
theorem truth_error {failure : Failure}
    (refused : configuration.truth key standard = .error failure) :
    failure = wrongKind "boolean" key := by
  unfold truth at refused
  split at refused <;> cases refused
  rfl

/-- A value passes if nothing stops the rule. -/
theorem check_eq_ok_iff_isNone {rule : Schema.Rule} {value : Value} :
    check rule value = .ok () ↔ (rule.stop? "data" value).isNone := by
  unfold check
  cases rule.stop? "data" value with
  | none => exact ⟨fun _ => rfl, fun _ => rfl⟩
  | some stop => exact ⟨fun checked => (nomatch checked), fun silent => (nomatch silent)⟩

/-- A value passes the check if the rule accepts it. -/
theorem check_eq_ok_iff {rule : Schema.Rule} {value : Value} :
    check rule value = .ok () ↔ rule.Accepts value := by
  rw [check_eq_ok_iff_isNone, Option.isNone_iff_eq_none, rule.stop?_eq_none_iff]

end Configuration

namespace Settings

variable {configuration : Configuration} {entries : List (Value × Value)}

/-- Each setting is what the configuration has under its name, and where it has nothing there the
default. -/
structure ReadFrom (configuration : Configuration) (settings : Settings) : Prop where
  port : configuration.itemOr "port" (.text "/dev/ttyACM0") = .text settings.port
  baudRate : configuration.itemOr "baudrate" (.int 115200) = .int settings.baudRate
  releaseOnError :
    configuration.itemOr "release_on_error" (.bool false) = .bool settings.releaseOnError

/-- Settings are read from a configuration that passes the check and holds them. -/
theorem ofConfiguration_eq_ok_iff {settings : Settings} :
    ofConfiguration configuration = .ok settings ↔
      Configuration.check rule (.map configuration.entries) = .ok () ∧
        ReadFrom configuration settings := by
  unfold ofConfiguration
  simp only [bind_eq_ok_iff]
  constructor
  · rintro ⟨_, checked, port, isText, baudRate, isInteger, releaseOnError, isTruth, ⟨⟩⟩
    refine ⟨checked, ?_, ?_, ?_⟩
    · exact Configuration.text_eq_ok_iff.mp isText
    · exact Configuration.integer_eq_ok_iff.mp isInteger
    · exact Configuration.truth_eq_ok_iff.mp isTruth
  · rintro ⟨checked, port, baudRate, releaseOnError⟩
    refine ⟨(), checked, _, ?_, _, ?_, _, ?_, rfl⟩
    · exact Configuration.text_eq_ok_iff.mpr port
    · exact Configuration.integer_eq_ok_iff.mpr baudRate
    · exact Configuration.truth_eq_ok_iff.mpr releaseOnError

/-- Settings are refused by the check of the entries or because one of them is of another kind. -/
theorem refusal_of_ofConfiguration {failure : Failure}
    (refused : ofConfiguration configuration = .error failure) :
    Configuration.check rule (.map configuration.entries) = .error failure ∨
      ∃ kind key, failure = Configuration.wrongKind kind key := by
  unfold ofConfiguration at refused
  simp only [bind_eq_error_iff] at refused
  obtain unchecked | ⟨_, -, noText | ⟨port, -, noInteger | ⟨baudRate, -, noTruth | ⟨_, -, ⟨⟩⟩⟩⟩⟩ :=
    refused
  · exact .inl unchecked
  · exact .inr ⟨_, _, Configuration.text_error noText⟩
  · exact .inr ⟨_, _, Configuration.integer_error noInteger⟩
  · exact .inr ⟨_, _, Configuration.truth_error noTruth⟩

/-- The speed has a point. -/
def PointedSpeed (entries : List (Value × Value)) : Prop :=
  ∃ x, Value.lookup? entries "baudrate" = some (.float x)

/-- The names of the settings. -/
def names : List String := ["port", "baudrate", "release_on_error"]

/-- Every key that is none of a setting can be spelled. -/
def Spellable (entries : List (Value × Value)) : Prop :=
  ∀ key ∈ Schema.unnamed names (entries.map (·.1)), key.hasTooLong = false

/-- Entries that are accepted are of the kinds that are asked for, but for a speed with a point. -/
theorem kinds_of_accepts (accepts : rule.Accepts (.map entries)) :
    (∀ item, Value.lookup? entries "port" = some item → ∃ text, item = .text text) ∧
    (∀ item, Value.lookup? entries "baudrate" = some item →
      (∃ n, item = .int n) ∨ ∃ x, item = .float x) ∧
    ∀ item, Value.lookup? entries "release_on_error" = some item → ∃ b, item = .bool b := by
  have fields := accepts.each _ (.tail _ (.head _))
  refine ⟨fun item found => ?_, fun item found => ?_, fun item found => ?_⟩
  · have text := fields.field (.head _) found
    exact Schema.Kind.text_of_admits (text.each _ (.head _)).kind
  · have speed := fields.field (.tail _ (.head _)) found
    exact Schema.Kind.number_of_admits (speed.each _ (.head _)).kind
  · have choice := fields.field (.tail _ (.tail _ (.head _))) found
    exact Schema.Kind.truth_of_admits choice.kind

/-- The keys that the rule does not name are those of the configuration itself. -/
theorem stranger_of_strange {key : Value} (strange : rule.Strange (.map entries) key) :
    key ∈ Schema.unnamed names (entries.map (·.1)) := by
  simpa [rule, names] using strange

/-- The check of entries fails with a complaint if their keys can be spelled. -/
theorem complains_of_spellable (spellable : Spellable entries) {failure : Failure}
    (failed : Configuration.check rule (.map entries) = .error failure) :
    ∃ text, failure = .package .general (some text) := by
  unfold Configuration.check at failed
  cases ended : rule.stop? "data" (.map entries) with
  | none =>
      rw [ended] at failed
      cases failed
  | some stop =>
      rw [ended] at failed
      cases stop with
      | complaint text =>
          cases failed
          exact ⟨_, rfl⟩
      | failure fault =>
          obtain ⟨-, key, strange, long⟩ := Schema.Rule.strange_of_failure rule "data" _ ended
          rw [spellable key (stranger_of_strange strange)] at long
          cases long

/-- Accepted entries give settings unless the speed has a point. -/
theorem exists_settings
    (accepted : Configuration.check rule (.map configuration.entries) = .ok ())
    (unpointed : ¬ PointedSpeed configuration.entries) :
    ∃ settings, ofConfiguration configuration = .ok settings := by
  obtain ⟨ports, speeds, choices⟩ := kinds_of_accepts (Configuration.check_eq_ok_iff.mp accepted)
  have integers (item : Value)
      (found : Value.lookup? configuration.entries "baudrate" = some item) :
      ∃ n, item = .int n := by
    obtain integer | ⟨x, rfl⟩ := speeds item found
    · exact integer
    · exact absurd ⟨x, found⟩ unpointed
  obtain ⟨port, isText⟩ := Configuration.itemOr_of ⟨"/dev/ttyACM0", rfl⟩ ports
  obtain ⟨baudRate, isInteger⟩ := Configuration.itemOr_of ⟨115200, rfl⟩ integers
  obtain ⟨releaseOnError, isTruth⟩ := Configuration.itemOr_of ⟨false, rfl⟩ choices
  exact ⟨⟨port, baudRate, releaseOnError⟩,
    ofConfiguration_eq_ok_iff.mpr ⟨accepted, isText, isInteger, isTruth⟩⟩

/-- **Settings are read where the rule accepts the entries and the speed has no point.** -/
theorem loads_iff_accepted (configuration : Configuration) :
    let checked := Configuration.check rule (.map configuration.entries)
    let loaded := ofConfiguration configuration
    ((∃ settings, loaded = .ok settings) ↔
        checked = .ok () ∧ ¬ PointedSpeed configuration.entries) ∧
      (∀ settings, loaded = .ok settings → ReadFrom configuration settings) ∧
      ∀ failure, loaded = .error failure → Spellable configuration.entries →
        ∃ text, failure = .package .general (some text) := by
  intro checked loaded
  refine ⟨⟨?_, ?_⟩, fun settings read => ?_, fun failure refused spellable => ?_⟩
  · rintro ⟨settings, read⟩
    obtain ⟨accepted, -, speed, -⟩ := ofConfiguration_eq_ok_iff.mp read
    refine ⟨accepted, fun ⟨x, pointed⟩ => ?_⟩
    rw [Configuration.itemOr, pointed] at speed
    cases speed
  · rintro ⟨accepted, unpointed⟩
    exact exists_settings accepted unpointed
  · exact (ofConfiguration_eq_ok_iff.mp read).2
  · obtain unchecked | ⟨kind, key, rfl⟩ := refusal_of_ofConfiguration refused
    · exact complains_of_spellable spellable unchecked
    · exact ⟨_, rfl⟩

/-- A port and a speed are read, and what is missing keeps its default. A key that is none of a
setting is refused with the failure of the package. -/
theorem loads_named :
    let given := Configuration.ofEntries .empty
      [(.text "port", .text "COM3"), (.text "baudrate", .int 9600)]
    let misnamed := Configuration.ofEntries .empty [(.text "speed", .int 9600)]
    ofConfiguration given = .ok ⟨"COM3", 9600, false⟩ ∧
      ∃ text, ofConfiguration misnamed = .error (.package .general (some text)) := by
  intro given misnamed
  constructor
  · obtain ⟨⟨-, reads⟩, fields, -⟩ := loads_iff_accepted given
    have accepted : Configuration.check rule (.map given.entries) = .ok () :=
      Configuration.check_eq_ok_iff_isNone.mpr (by decide +kernel)
    have port : given.itemOr "port" (.text "/dev/ttyACM0") = .text "COM3" := by
      simp [given, Configuration.itemOr, Configuration.ofEntries]
    have speed : Value.lookup? given.entries "baudrate" = some (.int 9600) := by
      simp [given, Configuration.ofEntries]
    have choice : given.itemOr "release_on_error" (.bool false) = .bool false := by
      simp [given, Configuration.itemOr, Configuration.ofEntries]
    have unpointed : ¬ PointedSpeed given.entries := by
      rintro ⟨x, pointed⟩
      rw [speed] at pointed
      cases pointed
    obtain ⟨⟨_, _, _⟩, read⟩ := reads ⟨accepted, unpointed⟩
    obtain ⟨ports, speeds, choices⟩ := fields _ read
    rw [port] at ports
    rw [Configuration.itemOr, speed] at speeds
    rw [choice] at choices
    cases ports
    cases speeds
    cases choices
    exact read
  · obtain ⟨⟨accepts, -⟩, -, refusals⟩ := loads_iff_accepted misnamed
    have spellable : Spellable misnamed.entries := by
      intro key member
      have same : key = .text "speed" := List.mem_singleton.mp (List.mem_filter.mp member).1
      rw [same]
      rfl
    rcases read : ofConfiguration misnamed with failure | settings
    · obtain ⟨text, rfl⟩ := refusals failure read spellable
      exact ⟨text, rfl⟩
    · have accepted := Configuration.check_eq_ok_iff_isNone.mp (accepts ⟨settings, read⟩).1
      exact absurd accepted (by decide +kernel)

/-- A key that is too long an integer is none of a setting. -/
theorem stop?_unspellable {n : Int} (long : Value.isTooLong n) (item : Value) :
    rule.stop? "data" (.map [(.int n, item)]) = some (.failure Value.tooLong) := by
  have foreign (name : String) : (Value.int n).equals (.text name) = false := by
    simp [Value.equals, Value.compareNumbers?, Value.asInt?]
  have stranger : Schema.unnamed ["port", "baudrate", "release_on_error"] [.int n] = [.int n] := by
    simp [Schema.unnamed, foreign]
  simp [rule, Schema.Rule.stop?, Schema.Rule.firstStop?, Schema.Rule.namedStop?,
    Schema.Kind.anyAdmits, Schema.Kind.admits, Value.lookup?, foreign, stranger, Value.anyTooLong,
    Value.hasTooLong, long]

/-- A whole speed with a point is accepted and then refused, and where a key cannot be spelled not
even the failure is one of the package. -/
theorem refused_wholeSpeed :
    let whole : Binary64 := .finite false (115200 * Nat.pow 2 36) (-36)
    let pointed := Configuration.ofEntries .empty [(.text "baudrate", .float whole)]
    let unspellable := Configuration.ofEntries .empty [(.int (Nat.pow 10 4300), .null)]
    (Configuration.check rule (.map pointed.entries) = .ok () ∧
      ofConfiguration pointed = .error (Configuration.wrongKind "integer" "baudrate")) ∧
    ofConfiguration unspellable = .error Value.tooLong ∧ ¬ Value.tooLong.isPackage := by
  intro whole pointed unspellable
  have accepted : Configuration.check rule (.map pointed.entries) = .ok () :=
    Configuration.check_eq_ok_iff_isNone.mpr (by decide +kernel)
  refine ⟨⟨accepted, ?_⟩, ?_, ?_⟩
  · refine bind_eq_error_iff.mpr (.inr ⟨(), accepted, ?_⟩)
    simp [pointed, Configuration.ofEntries, Configuration.text, Configuration.integer,
      Configuration.itemOr, bind_eq_error_iff]
  · refine bind_eq_error_iff.mpr (.inl ?_)
    have long : Value.isTooLong (Nat.pow 10 4300) := by decide +kernel
    rw [Configuration.check]
    have stopped := stop?_unspellable long .null
    exact congrArg Configuration.outcome stopped
  · exact Bool.false_ne_true

end Settings

end Hexwire
