import Hexwire.Schema.Fault

/-! # Editions of the language of definitions

A definition names the edition that it is written in; without a name the latest one holds. Editions
differ in their keywords, in the formats that texts can be asked to have and in what they take for
an integer. Keywords apply in the order of their list.
-/

namespace Hexwire.Schema

/-- An edition. -/
inductive Edition where
  | fourth
  | sixth
  | seventh
  deriving DecidableEq, Repr

namespace Edition

/-- The edition that a definition names. -/
def ofDefinition (definition : Value) : Except Fault Edition := do
  match definition with
  | .map entries =>
    let name := (Value.lookup? entries "$schema").getD (.text "")
    if ← Fault.lift (name.holds "draft-04") then return fourth
    if ← Fault.lift (name.holds "draft-06") then return sixth
    return seventh
  | _ => return seventh

/-- The keywords of an edition in the order in which they apply. -/
def keywords (edition : Edition) : List String :=
  ["type", "enum", "allOf", "anyOf", "oneOf", "not", "minLength", "maxLength", "pattern", "format",
   "minimum", "maximum", "multipleOf", "minItems", "maxItems", "uniqueItems", "items",
   "minProperties", "maxProperties", "required", "dependencies", "properties", "patternProperties",
   "additionalProperties"] ++
  (if edition = fourth then []
    else ["exclusiveMinimum", "exclusiveMaximum", "propertyNames", "contains", "const"]) ++
  (if edition = seventh then ["if", "contentEncoding", "contentMediaType"] else [])

/-- A group of up to four hexadecimal digits. -/
def hexGroup : String := "[0-9A-Fa-f]\x7b1,4\x7d"

/-- An octet in decimal. -/
def octet : String := "(?:[0-9]|[1-9][0-9]|1[0-9]\x7b2\x7d|2[0-4][0-9]|25[0-5])"

/-- The last two groups of an address of eight groups. -/
def lastGroups : String :=
  "(?:" ++ hexGroup ++ ":" ++ hexGroup ++ "|(?:" ++ octet ++ "\\.)\x7b3\x7d" ++ octet ++ ")"

/-- Groups with colons after them, as often as given. -/
def groups (count : Nat) : String := "(?:" ++ hexGroup ++ ":)\x7b" ++ toString count ++ "\x7d"

/-- Groups with colons between them, up to one more than given. -/
def groupsUpTo (count : Nat) : String :=
  "(?:(?:" ++ hexGroup ++ ":)\x7b," ++ toString count ++ "\x7d" ++ hexGroup ++ ")?::"

/-- The pattern of an address of eight groups. -/
def addressOfEight : String :=
  "^(?:" ++ "|".intercalate
    [groups 6 ++ lastGroups,
     "::" ++ groups 5 ++ lastGroups,
     "(?:" ++ hexGroup ++ ")?::" ++ groups 4 ++ lastGroups,
     "(?:" ++ hexGroup ++ ":" ++ hexGroup ++ ")?::" ++ groups 3 ++ lastGroups,
     groupsUpTo 2 ++ groups 2 ++ lastGroups,
     groupsUpTo 3 ++ hexGroup ++ ":" ++ lastGroups,
     groupsUpTo 4 ++ lastGroups,
     groupsUpTo 5 ++ hexGroup,
     groupsUpTo 6] ++ ")\\Z"

/-- The pattern of an address of four octets. -/
def addressOfFour : String :=
  let octet := "25[0-5]|2[0-4][0-9]|1[0-9]\x7b2\x7d|[1-9][0-9]|[0-9]"
  "^((" ++ octet ++ ")\\.)\x7b3\x7d(" ++ octet ++ ")\\Z"

/-- The pattern of a template of addresses. -/
def addressTemplate : String :=
  "^(?:(?:[^\\x00-\\x20\\\"\\'<>%\\\\^`\x7b|\x7d]|%[0-9a-f]\x7b2\x7d)|" ++
  "\\\x7b[+#./;?&=,!@|]?(?:[a-z0-9_]|%[0-9a-f]\x7b2\x7d)+" ++
  "(?::[1-9][0-9]\x7b0,3\x7d|\\*)?(?:,(?:[a-z0-9_]|%[0-9a-f]\x7b2\x7d)+" ++
  "(?::[1-9][0-9]\x7b0,3\x7d|\\*)?)*\\\x7d)*\\Z"

/-- The pattern of the name of a host. -/
def hostName : String :=
  let inner := "[a-zA-Z0-9\\-]\x7b0,61\x7d"
  "^(([a-zA-Z0-9]|[a-zA-Z0-9]" ++ inner ++ "[a-zA-Z0-9])\\.)*" ++
    "([A-Za-z0-9]|[A-Za-z0-9]" ++ inner ++ "[A-Za-z0-9])\\Z"

/-- The pattern of the name of a host in any script. -/
def wideHostName : String :=
  "^(?!-)(xn--)?[a-zA-Z0-9][a-zA-Z0-9-_]\x7b0,61\x7d[a-zA-Z0-9]\x7b0,1\x7d\\.(?!-)(xn--)?" ++
    "([a-zA-Z0-9\\-]\x7b1,50\x7d|[a-zA-Z0-9-]\x7b1,30\x7d\\.[a-zA-Z]\x7b2,\x7d)$"

/-- The formats of all editions with their patterns. -/
def commonFormats : List (String × String) :=
  [("date-time", "^\\d\x7b4\x7d-[01]\\d-[0-3]\\d(t|T)[0-2]\\d:[0-5]\\d:[0-5]\\d(?:\\.\\d+)?" ++
      "(?:[+-][0-2]\\d:[0-5]\\d|[+-][0-2]\\d[0-5]\\d|z|Z)\\Z"),
   ("email", "^(?!.*\\.\\..*@)[^@.][^@]*(?<!\\.)@[^@]+\\.[^@]+\\Z"),
   ("hostname", hostName),
   ("ipv4", addressOfFour),
   ("ipv6", addressOfEight),
   ("uri", "^\\w+:(\\/?\\/?)[^\\s]+\\Z")]

/-- The formats that the sixth edition adds. -/
def laterFormats : List (String × String) :=
  [("json-pointer", "^(/(([^/~])|(~[01]))*)*\\Z"),
   ("uri-reference", "^(\\w+:(\\/?\\/?))?[^#\\\\\\s]*(#[^\\\\\\s]*)?\\Z"),
   ("uri-template", addressTemplate)]

/-- The formats that the seventh edition adds. -/
def latestFormats : List (String × String) :=
  [("date", "^(?P<year>\\d\x7b4\x7d)-(?P<month>(0[1-9]|1[0-2]))-" ++
      "(?P<day>(0[1-9]|[12]\\d|3[01]))\\Z"),
   ("iri", "^\\w+:(\\/?\\/?)[^\\s]+\\Z"),
   ("iri-reference", "^(\\w+:(\\/?\\/?))?[^#\\\\\\s]*(#[^\\\\\\s]*)?\\Z"),
   ("idn-email", "^[^@]+@[^@]+\\.[^@]+\\Z"),
   ("idn-hostname", wideHostName),
   ("relative-json-pointer", "^(?:0|[1-9][0-9]*)(?:#|(?:\\/(?:[^~/]|~0|~1)*)*)\\Z"),
   ("time", "^(?P<hour>\\d\x7b1,2\x7d):(?P<minute>\\d\x7b1,2\x7d)" ++
      "(?::(?P<second>\\d\x7b1,2\x7d)(?:\\.(?P<microsecond>\\d\x7b1,6\x7d))?" ++
      "([zZ]|[+-]\\d\\d:\\d\\d)?)?\\Z")]

/-- The formats of an edition with their patterns. -/
def formats (edition : Edition) : List (String × String) :=
  commonFormats ++ (if edition = fourth then [] else laterFormats) ++
    (if edition = seventh then latestFormats else [])

end Edition

end Hexwire.Schema
