import Hexwire.Bytes.Basic
import Hexwire.Calendar
import Hexwire.Failure.Kind
import Hexwire.Number.Binary64

/-! # Values and failures

Configuration files, payloads of failures and arguments of failures hold values whose kind is known
only at run time. A failure can itself be a payload, to any depth, so values and failures are
defined together. `null` as the payload of a secure-element failure stands for no payload.
-/

namespace Hexwire

mutual

/-- A value of a kind known only at run time. Mappings and sets keep the order of insertion. -/
inductive Value where
  | null
  | bool (b : Bool)
  | int (n : Int)
  | float (x : Binary64)
  | text (s : String)
  | bytes (data : Bytes)
  | list (items : List Value)
  | tuple (items : List Value)
  | set (items : List Value)
  | map (entries : List (Value × Value))
  | date (d : Date)
  | moment (m : Moment)
  | failure (f : Failure)

/-- What went wrong. The description of a transport or package failure is the one it was raised
with, after its default was put in. -/
inductive Failure where
  /-- A failure of the host system or its serial driver, with its arguments. -/
  | host (kind : HostKind) (arguments : List Value)
  /-- A failure of the package outside the transport. -/
  | package (kind : PackageKind) (description : Option String)
  /-- A failure of the bridge transport. -/
  | bridge (kind : BridgeKind) (description : Option String)
  /-- A failure of the secure element, with its payload. -/
  | device (kind : DeviceKind) (payload : Value)
  /-- A transport failure that carries a failure of the secure element. -/
  | carried (kind : DeviceKind) (payload : Value)
  /-- A failure of the console program that ends it with a code. -/
  | application (description : Option String) (code : Int)

end

instance : Inhabited Value := ⟨.null⟩

instance : Inhabited Failure := ⟨.host .any []⟩

namespace Value

/-- Whether a value is nothing can be decided. -/
instance decidableNull (value : Value) : Decidable (value = .null) :=
  match value with
  | .null => .isTrue rfl
  | .bool _ | .int _ | .float _ | .text _ | .bytes _ | .list _ | .tuple _ | .set _ | .map _
  | .date _ | .moment _ | .failure _ => .isFalse nofun

/-- Whether a value is made of given octets can be decided. -/
instance decidableBytes (value : Value) (data : Bytes) : Decidable (value = .bytes data) :=
  match value with
  | .bytes other => decidable_of_iff (other = data) ⟨congrArg Value.bytes, Value.bytes.inj⟩
  | .null | .bool _ | .int _ | .float _ | .text _ | .list _ | .tuple _ | .set _ | .map _
  | .date _ | .moment _ | .failure _ => .isFalse nofun

/-- Whether a value counts as true: all do but nothing, zero and what is empty. -/
def isTrue : Value → Bool
  | null => false
  | bool b => b
  | int n => n ≠ 0
  | float x => !x.isZero
  | text s => !s.isEmpty
  | bytes data => !data.isEmpty
  | list items => !items.isEmpty
  | tuple items => !items.isEmpty
  | set items => !items.isEmpty
  | map entries => !entries.isEmpty
  | _ => true

/-- Whether a value switches something on: text does so only in one of four spellings, any other
value if it counts as true. -/
def isAffirmative : Value → Bool
  | text s => s = "True" || s = "true" || s = "T" || s = "1"
  | value => value.isTrue

mutual

/-- How deeply a value is nested in itself. -/
def depth : Value → Nat
  | list items => depthOfAll items + 1
  | tuple items => depthOfAll items + 1
  | set items => depthOfAll items + 1
  | map entries => depthOfEntries entries + 1
  | _ => 0

/-- How deeply values are nested. -/
def depthOfAll : List Value → Nat
  | [] => 0
  | item :: rest => max item.depth (depthOfAll rest)

/-- How deeply the values of entries are nested. -/
def depthOfEntries : List (Value × Value) → Nat
  | [] => 0
  | (_, item) :: rest => max item.depth (depthOfEntries rest)

end

/-- The number that a value counts as, for the kinds that are numbers. -/
def asInt? : Value → Option Int
  | bool b => some (if b then 1 else 0)
  | int n => some n
  | _ => none

end Value

namespace Failure

/-- A transport failure with a description; an empty or absent one gives way to the default of the
kind. -/
def ofBridge (kind : BridgeKind) (description : Option String) : Failure :=
  match description with
  | some text => if text.isEmpty then .bridge kind kind.defaultDescription? else .bridge kind text
  | none => .bridge kind kind.defaultDescription?

/-- A host failure with a text as its only argument. -/
def ofText (kind : HostKind) (text : String) : Failure := .host kind [.text text]

/-- A package failure with a description. -/
def ofPackage (kind : PackageKind) (text : String) : Failure := .package kind (some text)

/-- The kind that a host failure of a kind takes from its arguments: a general system failure with a
number takes the one that belongs to the number. -/
def kindOf (kind : HostKind) (arguments : List Value) : HostKind :=
  match kind, arguments with
  | .os, number :: rest =>
    if 1 ≤ rest.length && rest.length ≤ 4 then (number.asInt?.bind HostKind.ofNumber?).getD .os
    else .os
  | kind, _ => kind

/-- Whether a system failure has the count of arguments of which the first is its number. -/
def isNumbered (arguments : List Value) : Bool := 2 ≤ arguments.length && arguments.length ≤ 5

/-- Whether the third argument of a host failure names a file. In a failure of what would block it
can be a count of written octets instead. -/
def namesFile (kind : HostKind) (arguments : List Value) : Bool :=
  kind.isA .os && isNumbered arguments &&
    match arguments with
    | _ :: _ :: .null :: _ => false
    | _ :: _ :: .bool _ :: _ | _ :: _ :: .int _ :: _ | _ :: _ :: .float _ :: _ =>
      kind ≠ .blockingIO
    | _ :: _ :: _ :: _ => true
    | _ => false

/-- What is raised instead of a host failure whose arguments it cannot have. -/
def refusal? (kind : HostKind) (arguments : List Value) : Option Failure :=
  if kind = .blockingIO && isNumbered arguments then
    match arguments with
    | _ :: _ :: .float _ :: _ =>
      some (ofText .type "'float' object cannot be interpreted as an integer")
    | _ :: _ :: .int n :: _ =>
      if -(Nat.pow 2 63 : Int) ≤ n && n < (Nat.pow 2 63 : Int) then none
      else some (ofText .value "cannot fit 'int' into an index-sized integer")
    | _ => none
  else if kind = .unicodeDecode && arguments.length ≠ 5 then
    some (ofText .type ("function takes exactly 5 arguments (" ++ toString arguments.length ++
      " given)"))
  else none

/-- A host failure from its arguments. -/
def ofArguments (kind : HostKind) (arguments : List Value) : Except Failure Failure :=
  let kind := kindOf kind arguments
  match refusal? kind arguments with
  | some failure => .error failure
  | none => .ok (.host kind arguments)

/-- The name of a failure's class. -/
def className : Failure → String
  | host kind _ => kind.name
  | package kind _ => kind.name
  | bridge kind _ => kind.name
  | device _ _ => "DeviceError"
  | carried _ _ => "BridgeDeviceError"
  | application _ _ => "HexSpiAppError"

/-- The kinds of host failures that a failure belongs to. -/
def hostKinds : Failure → List HostKind
  | host kind _ => kind.lineage
  | package kind _ => match kind.host? with
    | some above => above.lineage
    | none => [.any]
  | bridge kind _ =>
    if kind = .timeout then HostKind.lineage .connection ++ HostKind.lineage .timeout
    else if kind.isIo then HostKind.lineage .connection
    else [.any]
  | _ => [.any]

/-- Whether a failure is one of a host kind. -/
def isHost (f : Failure) (kind : HostKind) : Bool := f.hostKinds.contains kind

/-- Whether a failure belongs to the package, and so is expected by its callers. -/
def isPackage : Failure → Bool
  | host _ _ => false
  | _ => true

/-- Whether a failure belongs to the transport. -/
def isBridge : Failure → Bool
  | bridge _ _ => true
  | carried _ _ => true
  | _ => false

/-- Whether a failure is an ordinary one, which the interrupt from the keyboard is not. -/
def isOrdinary (f : Failure) : Bool := f.isHost .any

/-- The names of the package classes that a failure belongs to. -/
def packageClasses : Failure → List String
  | host _ _ => []
  | package kind _ =>
    if kind = .general then [kind.name] else [kind.name, PackageKind.name .general]
  | bridge kind _ =>
    let own := if kind = .general then [kind.name] else [kind.name, BridgeKind.name .general]
    let io := if kind.isIo then
        [BridgeKind.name .io, PackageKind.name .connection] else []
    let late := if kind = .timeout then [PackageKind.name .timeout] else []
    own ++ io ++ late ++ [PackageKind.name .general]
  | device _ _ => ["DeviceError", PackageKind.name .general]
  | carried _ _ => ["BridgeDeviceError", BridgeKind.name .general, PackageKind.name .general]
  | application _ _ => ["HexSpiAppError", PackageKind.name .general]

/-- The names of all classes that a failure belongs to, repetitions removed. -/
def classNames (f : Failure) : List String :=
  (f.packageClasses ++ f.hostKinds.map HostKind.name).eraseDups

end Failure

/-- A failure as it is raised, with the failure that caused it where one is named. -/
structure Raised where
  failure : Failure
  cause : Option Failure := none

instance : Inhabited Raised := ⟨⟨default, none⟩⟩

/-- A failure raised without a cause. -/
def Failure.raised (f : Failure) : Raised := ⟨f, none⟩

/-- A failure raised because of another. -/
def Failure.raisedFrom (f cause : Failure) : Raised := ⟨f, some cause⟩

end Hexwire
