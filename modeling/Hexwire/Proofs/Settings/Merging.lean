import Hexwire.Proofs.Settings.Agreement
import Hexwire.Proofs.Settings.Loading

/-! # Settings put together

What is chosen on the command line counts before what the configuration sets, and that before the
default (`Hexwire.Settings.Merged`). Settings put together so name a port and have a speed that the
bridge supports, and a configuration that is refused leaves no settings, whatever else is chosen
(`Hexwire.Settings.merges_by_precedence`).
-/

namespace Hexwire

/-- Integers are equal as values if they are equal. -/
theorem Value.equals_int (m n : Int) : (Value.int m).equals (.int n) = true ↔ m = n := by
  simp [Value.equals, Value.compareNumbers?, Value.asInt?]

/-- A result that has the value is the success with it. -/
theorem eq_ok_of_toOption {ε α : Type} {result : Except ε α} {value : α}
    (present : result.toOption = some value) : result = .ok value := by
  cases result with
  | error raised => cases present
  | ok other =>
      cases present
      rfl

/-- What is read under a key is the default or stands there. -/
theorem Configuration.eq_or_found {configuration : Configuration} {key : String}
    {standard item : Value} (read : configuration.itemOr key standard = item) :
    standard = item ∨ Value.lookup? configuration.entries key = some item := by
  unfold itemOr at read
  cases found : Value.lookup? configuration.entries key with
  | none =>
      rw [found] at read
      exact .inl read
  | some other =>
      rw [found] at read
      exact .inr (congrArg some read)

namespace Settings

variable {tree : FileTree} {choice : Choice} {configuration : Configuration} {base : Settings}
  {text : Option String}

/-- The port has a name and the bridge supports the speed. -/
structure Usable (settings : Settings) : Prop where
  port : settings.port ≠ ""
  baudRate : settings.baudRate ∈ speeds

/-- If a speed is chosen, it is one that the bridge supports. -/
def Choice.Offered (choice : Choice) : Prop :=
  ∀ text, choice.baudRate = some text → ∃ speed ∈ speeds, text = toString speed

/-- The file under a path holds a configuration that settings are read from. -/
def Accepted (tree : FileTree) (path : String) (configuration : Configuration) : Prop :=
  Configuration.ofFile tree path = .ok configuration ∧
    ∃ settings, ofConfiguration configuration = .ok settings

/-- The configuration that a choice is put over: the one in the chosen file, which is accepted, or
one without entries where no file is chosen. -/
inductive Underlies (tree : FileTree) (choice : Choice) : Configuration → Prop where
  | nothing (absent : choice.configuration = none ∨ choice.configuration = some "") :
      Underlies tree choice (.ofEntries tree [])
  | file {path : String} {configuration : Configuration}
      (named : choice.configuration = some path) (nonempty : path ≠ "")
      (accepted : Accepted tree path configuration) : Underlies tree choice configuration

/-- The settings are those that are chosen, and where nothing is chosen those of the configuration
or the defaults. -/
structure Merged (configuration : Configuration) (choice : Choice) (settings : Settings) :
    Prop where
  port_chosen : ∀ port, choice.port = some port → port ≠ "" → settings.port = port
  port_kept : choice.port = none ∨ choice.port = some "" →
    configuration.itemOr "port" (.text "/dev/ttyACM0") = .text settings.port
  baudRate_chosen : ∀ speed ∈ speeds, choice.baudRate = some (toString speed) →
    settings.baudRate = speed
  baudRate_kept : choice.baudRate = none →
    configuration.itemOr "baudrate" (.int 115200) = .int settings.baudRate
  releases_iff : settings.releaseOnError = true ↔ choice.releaseOnError = true ∨
    configuration.itemOr "release_on_error" (.bool false) = .bool true

/-! ## Settings of a configuration -/

/-- Settings that are read from accepted entries can be used. -/
theorem ReadFrom.usable (read : ReadFrom configuration base)
    (accepts : rule.Accepts (.map configuration.entries)) : base.Usable := by
  have fields := accepts.each _ (.tail _ (.head _))
  constructor
  · obtain standard | found := Configuration.eq_or_found read.port
    · rw [← Value.text.inj standard]
      decide
    · have port := fields.field (.head _) found
      have long : 1 ≤ base.port.length := (port.each _ (.tail _ (.head _))).long
      intro empty
      rw [empty] at long
      exact absurd long (by decide)
  · obtain standard | found := Configuration.eq_or_found read.baudRate
    · rw [← Value.int.inj standard]
      decide
    · have speed := fields.field (.tail _ (.head _)) found
      obtain ⟨other, member, equal⟩ := (speed.each _ (.tail _ (.head _))).equal
      obtain ⟨supported, listed, rfl⟩ := List.mem_map.mp member
      rw [(Value.equals_int _ _).mp equal]
      exact listed

/-- An absent text and an empty one choose nothing. -/
theorem chosen_eq_none (absent : text = none ∨ text = some "") : chosen text = none := by
  obtain rfl | rfl := absent <;> rfl

/-- A text that is not empty is chosen. -/
theorem chosen_eq_some {name : String} (named : text = some name) (nonempty : name ≠ "") :
    chosen text = some name := by
  rw [named, chosen]
  simp [nonempty]

/-- Settings that can be used stand below every choice, and the choices are put over them. -/
theorem Underlies.exists_base (underlies : Underlies tree choice configuration) :
    ∃ base : Settings, base.Usable ∧ ReadFrom configuration base ∧
      (ofChoice tree choice).1 = (base.override choice).mapError Failure.raised := by
  cases underlies with
  | nothing absent =>
      refine ⟨{}, ⟨by decide, by decide⟩, ⟨rfl, rfl, rfl⟩, ?_⟩
      simp only [ofChoice, chosen_eq_none absent]
      cases override {} choice <;> rfl
  | file named nonempty accepted =>
      obtain ⟨loaded, base, read⟩ := accepted
      obtain ⟨checked, fields⟩ := ofConfiguration_eq_ok_iff.mp read
      refine ⟨base, fields.usable (Configuration.check_eq_ok_iff.mp checked), fields, ?_⟩
      simp only [ofChoice, chosen_eq_some named nonempty, loaded, read]
      cases base.override choice <;> rfl

/-- A file that is refused ends with the same failure under all choices. -/
theorem refused_of_not_accepted {path : String} (nonempty : path ≠ "")
    (refused : ∀ configuration, ¬ Accepted tree path configuration) :
    ∃ raised, ∀ choice : Choice, choice.configuration = some path →
      (ofChoice tree choice).1 = .error raised := by
  cases loaded : Configuration.ofFile tree path with
  | error raised =>
      refine ⟨raised, fun choice named => ?_⟩
      simp only [ofChoice, chosen_eq_some named nonempty, loaded]
  | ok configuration =>
      cases read : ofConfiguration configuration with
      | error failure =>
          refine ⟨failure.raised, fun choice named => ?_⟩
          simp only [ofChoice, chosen_eq_some named nonempty, loaded, read]
      | ok settings => exact absurd ⟨loaded, settings, read⟩ (refused configuration)

/-! ## Choices over settings -/

/-- The numeral of a speed is read as the speed. -/
theorem parse_speed :
    ∀ speed ∈ speeds, Integer.parse 10 (toString speed).toList = .ok speed := by
  simp only [speeds, List.forall_mem_cons]
  refine ⟨rfl, rfl, rfl, rfl, rfl, ?_⟩
  rintro speed ⟨⟩

/-- No speed is written as an empty text. -/
theorem toString_speed_ne_empty : ∀ speed ∈ speeds, toString speed ≠ "" := by
  decide +kernel

/-- Speeds with one numeral are one speed, because the numeral is read as either. -/
theorem speed_eq_of_toString {speed other : Int} (supported : speed ∈ speeds)
    (member : other ∈ speeds) (same : toString speed = toString other) : speed = other := by
  have read := parse_speed speed supported
  rw [same, parse_speed other member] at read
  exact (Except.ok.inj read).symm

/-- A choice with a speed that is offered overrides what it names. -/
theorem override_eq_ok {speed : Int}
    (offered : choice.baudRate = none ∧ speed = base.baudRate ∨
      choice.baudRate = some (toString speed) ∧ speed ∈ speeds) :
    base.override choice = .ok ⟨(chosen choice.port).getD base.port, speed,
      base.releaseOnError || choice.releaseOnError⟩ := by
  have put : base.override choice =
      let named := { base with port := (chosen choice.port).getD base.port }
      pure (if choice.releaseOnError then { named with baudRate := speed, releaseOnError := true }
        else { named with baudRate := speed }) := by
    obtain ⟨unchosen, rfl⟩ | ⟨named, supported⟩ := offered
    · simp only [override, chosen_eq_none (.inl unchosen)]
      cases chosen choice.port <;> rfl
    · simp only [override, chosen_eq_some named (toString_speed_ne_empty speed supported),
        parse_speed speed supported]
      cases chosen choice.port <;> rfl
  rw [put]
  cases choice.releaseOnError with
  | false =>
      rw [Bool.or_false]
      rfl
  | true =>
      rw [Bool.or_true]
      rfl

/-- Choices that are put over settings replace the port and the speed if they name any. -/
theorem Choice.Offered.override (offered : choice.Offered) (usable : base.Usable) :
    ∃ speed ∈ speeds,
      base.override choice = .ok ⟨(chosen choice.port).getD base.port, speed,
        base.releaseOnError || choice.releaseOnError⟩ ∧
      (∀ other ∈ speeds, choice.baudRate = some (toString other) → speed = other) ∧
      (choice.baudRate = none → speed = base.baudRate) := by
  cases named : choice.baudRate with
  | none =>
      refine ⟨base.baudRate, usable.baudRate, override_eq_ok (.inl ⟨named, rfl⟩), ?_, ?_⟩
      · rintro other - ⟨⟩
      · exact fun _ => rfl
  | some text =>
      obtain ⟨speed, supported, rfl⟩ := offered text named
      refine ⟨speed, supported, override_eq_ok (.inr ⟨named, supported⟩), ?_, ?_⟩
      · intro other member same
        exact speed_eq_of_toString supported member (Option.some.inj same)
      · rintro ⟨⟩

/-- Choices that are put over the settings of a configuration give merged settings. -/
theorem Choice.Offered.exists_merged (offered : choice.Offered) (usable : base.Usable)
    (read : ReadFrom configuration base) :
    ∃ settings, base.override choice = .ok settings ∧ Merged configuration choice settings ∧
      settings.Usable := by
  obtain ⟨speed, supported, put, asked, kept⟩ := offered.override usable
  refine ⟨_, put, ⟨?_, ?_, asked, ?_, ?_⟩, ⟨?_, supported⟩⟩
  · intro port named nonempty
    simp only [chosen_eq_some named nonempty, Option.getD_some]
  · intro absent
    simp only [chosen_eq_none absent, Option.getD_none, read.port]
  · intro absent
    rw [read.baudRate, kept absent]
  · rw [read.releaseOnError, Bool.or_eq_true, Value.bool.injEq, or_comm]
  · by_cases absent : choice.port = none ∨ choice.port = some ""
    · simp only [chosen_eq_none absent, Option.getD_none]
      exact usable.port
    · obtain ⟨port, named⟩ := Option.ne_none_iff_exists'.mp (not_or.mp absent).1
      have nonempty : port ≠ "" := by
        rintro rfl
        exact (not_or.mp absent).2 named
      simp only [chosen_eq_some named nonempty, Option.getD_some]
      exact nonempty

/-- **Choices count before the configuration, and the configuration before the defaults.** For
every configuration that is accepted, or none, and every choice that names no speed or one that the
bridge supports there are settings; they are merged in this order and can be used. A file that is
refused ends with its own failure under all choices. -/
theorem merges_by_precedence (tree : FileTree) :
    (∀ choice configuration, choice.Offered → Underlies tree choice configuration →
      ∃ settings, (ofChoice tree choice).1 = .ok settings ∧
        Merged configuration choice settings ∧ settings.Usable) ∧
    ∀ path, path ≠ "" → (∀ configuration, ¬ Accepted tree path configuration) →
      ∃ raised, ∀ choice : Choice, choice.configuration = some path →
        (ofChoice tree choice).1 = .error raised := by
  refine ⟨fun choice configuration offered underlies => ?_, fun path => refused_of_not_accepted⟩
  obtain ⟨base, usable, read, given⟩ := underlies.exists_base
  obtain ⟨settings, put, merged, valid⟩ := offered.exists_merged usable read
  refine ⟨settings, ?_, merged, valid⟩
  rw [given, put]
  rfl

/-- A port on the command line counts before that of the file, whose speed stays. A file whose
octets are no text leaves no settings, although a port is chosen. -/
theorem merges_overPort :
    let tree := Configuration.holding
      ("port: COM1\nbaudrate: 4800".toList.map Hex.octetOfChar)
    let broken := Configuration.holding [0xFF]
    let choice : Choice := { port := some "COM9", configuration := some "a.json" }
    (ofChoice tree choice).1 = .ok ⟨"COM9", 4800, false⟩ ∧
      ∃ raised, (ofChoice broken choice).1 = .error raised := by
  intro tree broken choice
  constructor
  · have computed : ((Configuration.ofFile tree "a.json").toOption.bind fun configuration =>
        (ofConfiguration configuration).toOption) = some ⟨"COM1", 4800, false⟩ := by
      decide +kernel
    obtain ⟨configuration, loaded, read⟩ := Option.bind_eq_some_iff.mp computed
    have loaded := eq_ok_of_toOption loaded
    have read := eq_ok_of_toOption read
    have underlies : Underlies tree choice configuration :=
      .file rfl (by decide) ⟨loaded, _, read⟩
    have offered : choice.Offered := by rintro text ⟨⟩
    obtain ⟨settings, given, merged, -⟩ :=
      (merges_by_precedence tree).1 choice configuration offered underlies
    obtain ⟨-, speed, released⟩ := (ofConfiguration_eq_ok_iff.mp read).2
    have port : settings.port = "COM9" := merged.port_chosen "COM9" rfl (by decide)
    have kept : settings.baudRate = 4800 :=
      (Value.int.inj (speed.symm.trans (merged.baudRate_kept rfl))).symm
    have unreleased : settings.releaseOnError = false := by
      rw [← Bool.not_eq_true, merged.releases_iff, released, Value.bool.injEq]
      decide
    rw [given, ← port, ← kept, ← unreleased]
  · have refused : (Configuration.ofFile broken "a.json").toOption = none := by decide +kernel
    obtain ⟨raised, ended⟩ := (merges_by_precedence broken).2 "a.json" (by decide)
      fun configuration ⟨loaded, _⟩ => by
        rw [loaded] at refused
        cases refused
    exact ⟨raised, ended choice rfl⟩

end Settings

end Hexwire
