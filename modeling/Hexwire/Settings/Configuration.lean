import Hexwire.Document.Reading
import Hexwire.Log.Record
import Hexwire.Schema.Rule
import Hexwire.Schema.Run

/-! # Configurations

A configuration is a mapping of settings with the place it was read from. A file is a configuration
when its document is a mapping that is not empty. Settings are asked for by key and kind; a setting
of another kind is refused, and so is one that breaks the rules of the configuration.
-/

namespace Hexwire

/-- A configuration: its entries, the directory and the name of its file. -/
structure Configuration where
  entries : List (Value × Value)
  directory : String
  name : String

namespace Configuration

/-- The configuration of entries that come from no file; it lies in the working directory. -/
def ofEntries (tree : FileTree) (entries : List (Value × Value)) : Configuration :=
  ⟨entries, String.ofList tree.workingPath, ""⟩

/-- A failure to read a configuration. -/
def failure (text : String) : Failure := .ofPackage .general text

/-- The entries of a configuration file. -/
def load (tree : FileTree) (path : String) : Except Raised (List (Value × Value)) :=
  match tree.readText path with
  | .error fault =>
    if fault.isHost .os then
      .error ((failure ("Can't load configuration file: " ++ fault.message)).raisedFrom fault)
    else .error fault.raised
  | .ok text =>
    let unreadable := (failure ("Can't parse configuration file: " ++ path)).raised
    match Document.parse text with
    | .error (.failed fault) => .error fault.raised
    | .error .malformed => .error unreadable
    | .ok (.map []) => .error unreadable
    | .ok (.map entries) => .ok entries
    | .ok value =>
      if value.isTrue then .error (failure ("Invalid configuration file: " ++ path)).raised
      else .error unreadable

/-- The path under which a configuration is read: absolute, with slashes only. -/
def pathOf (tree : FileTree) (path : String) : List Char :=
  (tree.fullPath path).map fun c => if c = '\\' then '/' else c

/-- The log record of a configuration that was read. -/
def record (configuration : Configuration) : Log.Record :=
  ⟨Log.debug, "hexspi.utils.config",
    "Loaded configuration " ++ configuration.name ++ " from " ++ configuration.directory⟩

/-- The configuration in a file. -/
def ofFile (tree : FileTree) (path : String) : Except Raised Configuration :=
  let place := pathOf tree path
  (load tree (String.ofList place)).map fun entries =>
    ⟨entries, String.ofList (Path.directory place), String.ofList (Path.name place)⟩

/-- The value under a key. -/
def item (configuration : Configuration) (key : String) : Except Failure Value :=
  match Value.lookup? configuration.entries key with
  | some value => .ok value
  | none => .error (.ofPackage .key ("The " ++ key ++ " doesn't exist in configuration"))

/-- The value under a key, or another where the key is missing. -/
def itemOr (configuration : Configuration) (key : String) (standard : Value) : Value :=
  (Value.lookup? configuration.entries key).getD standard

/-- What is raised for a value of another kind than asked for. -/
def wrongKind (kind key : String) : Failure :=
  failure ("The value is not " ++ kind ++ " at key: " ++ key)

/-- The integer under a key; truth values are no integers. -/
def integer (configuration : Configuration) (key : String) (standard : Value) :
    Except Failure Int :=
  match configuration.itemOr key standard with
  | .int n => .ok n
  | _ => .error (wrongKind "integer" key)

/-- The text under a key. -/
def text (configuration : Configuration) (key : String) (standard : Value) :
    Except Failure String :=
  match configuration.itemOr key standard with
  | .text s => .ok s
  | _ => .error (wrongKind "string" key)

/-- The truth value under a key. -/
def truth (configuration : Configuration) (key : String) (standard : Value) :
    Except Failure Bool :=
  match configuration.itemOr key standard with
  | .bool b => .ok b
  | _ => .error (wrongKind "boolean" key)

/-- The failure of a check that has ended early. -/
def failureOf : Schema.Stop → Failure
  | .complaint text => failure ("Configuration validation failed: " ++ text)
  | .failure fault => fault

/-- The outcome of a check that may have ended early. -/
def outcome : Option Schema.Stop → Except Failure Unit
  | none => .ok ()
  | some stop => .error (failureOf stop)

/-- Checks a value against a rule. -/
def check (rule : Schema.Rule) (value : Value) : Except Failure Unit :=
  outcome (rule.stop? "data" value)

/-- Checks a value against a definition. -/
def checkDefined (definition value : Value) : Except Failure Unit :=
  match Schema.Plan.ofDefinition definition with
  | .error (.invalid text) =>
    .error (failure ("Invalid validation schema to check config: " ++ text))
  | .error (.failed fault) => .error fault
  | .ok plan =>
    match plan.failure? with
    | some fault => .error fault
    | none => outcome (plan.stop? value)

end Configuration

end Hexwire
