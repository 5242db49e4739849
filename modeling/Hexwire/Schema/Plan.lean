import Hexwire.Schema.Inscription
import Hexwire.Schema.Kind
import Hexwire.Text.Pattern.Syntax
import Hexwire.Value.Equality
import Hexwire.Value.Printer

/-! # Plans

A definition is checked by a plan: statements over named slots, of which one holds the value at
hand. A statement acts, tests, goes through items or attempts other statements and handles their
complaints. A plan is written line by line, one line for each action and each heading, so a text of
a definition that cannot stand in its line and a heading without statements are faults with a line
number. What is said of a value names its place, which is written like the other texts.
-/

namespace Hexwire.Schema

/-- A name under which a plan keeps a value. -/
abbrev Slot := String

/-- A value that is written in a plan. -/
structure Literal where
  value : Value

instance : BEq Literal := ⟨fun a b => a.value.literal == b.value.literal⟩

mutual

/-- The name that stands in the literal of a value and means nothing there: numbers that are not
finite and most failures have no literal that can be read. -/
def unknownName? : Value → Option String
  | .float .nan => some "nan"
  | .float (.infinite _) => some "inf"
  | .list items => unknownAmong? items
  | .tuple items => unknownAmong? items
  | .set items => unknownAmong? items
  | .map entries => unknownWithin? entries
  | .date _ => some "datetime"
  | .moment _ => some "datetime"
  | .failure (.host kind _) =>
    if [.serial, .serialTimeout, .pattern, .decimalOperation, .decimalZero, .url].contains kind then
      some kind.name
    else none
  | .failure failure => some failure.className
  | _ => none

/-- The first name that means nothing in the literals of values. -/
def unknownAmong? : List Value → Option String
  | [] => none
  | item :: rest => (unknownName? item).or (unknownAmong? rest)

/-- The first name that means nothing in the literals of entries. -/
def unknownWithin? : List (Value × Value) → Option String
  | [] => none
  | (key, value) :: rest =>
    ((unknownName? key).or (unknownName? value)).or (unknownWithin? rest)

end

/-- What a literal stands for, unless a name in it means nothing. -/
def Literal.read (literal : Literal) : Except Failure Value :=
  match unknownName? literal.value with
  | some name => .error (.ofText .unknownName ("name '" ++ name ++ "' is not defined"))
  | none => .ok literal.value

/-- How a number compares with a bound. -/
inductive Relation where
  | less
  | lessOrEqual
  | greater
  | greaterOrEqual
  deriving DecidableEq, Repr

/-- Whether a number stands in a relation to another; one that compares with nothing stands in
none. -/
def Relation.holds (relation : Relation) (value bound : Value) : Bool :=
  match relation, value.compareNumbers? bound with
  | less, some order => order = .lt
  | lessOrEqual, some order => order ≠ .gt
  | greater, some order => order = .gt
  | greaterOrEqual, some order => order ≠ .lt
  | _, none => false

/-- A part of what is said of a value. -/
inductive Piece where
  /-- A text of the definition as it is written. -/
  | inscription (text : String)
  /-- A text that stands for itself. -/
  | verbatim (text : String)
  /-- The place of the value. -/
  | place
  /-- What a slot holds. -/
  | slot (slot : Slot)
  /-- What a slot holds, in order. -/
  | sorted (slot : Slot)
  deriving BEq

/-- What is said of the value in a slot. -/
structure Complaint where
  pieces : List Piece
  slot : Slot
  /-- The place of the value below the whole, as it is written. -/
  place : String
  /-- A name in the definition that means nothing. -/
  unknown : Option String
  deriving BEq

/-- What an action computes from a slot. -/
inductive Measure where
  | length
  | keys
  | isList
  | isMap
  deriving DecidableEq, Repr

/-- A coding that the text of a value can have. -/
inductive Coding where
  /-- Octets in groups of six bits. -/
  | base64
  /-- Octets of text. -/
  | utf8
  /-- A document. -/
  | json
  deriving DecidableEq, Repr

/-- An action. -/
inductive Action where
  | skip
  /-- Puts a fixed value into a slot. -/
  | set (slot : Slot) (value : Literal)
  | increment (slot : Slot)
  | measure (slot : Slot) (measure : Measure) (of : Slot)
  /-- Ends going through items. -/
  | leave
  | complain (complaint : Complaint)
  /-- Checks the value of a slot by another plan, at a place. -/
  | call (plan : String) (slot : Slot) (place : String)
  /-- Settles how items are compared. -/
  | likeness
  | divide (slot : Slot) (divisor : Literal)
  /-- Puts those of the keys that a slot lacks into another. -/
  | missing (slot : Slot) (keys : Literal) (of : Slot)
  /-- Removes a key from a slot. -/
  | forget (slot : Slot) (key : String)
  /-- Removes the key in a slot from another. -/
  | forgetHeld (slot key : Slot)
  | entry (slot of : Slot) (key : String)
  | item (slot of : Slot) (index : Nat)
  | entryHeld (slot of key : Slot)
  /-- Gives a key that is missing a value. -/
  | insert (of : Slot) (key : String) (value : Literal)
  /-- Gives a list another item. -/
  | append (of : Slot) (value : Literal)
  /-- Names what a coding needs. -/
  | prepare (coding : Coding)
  | decode (coding : Coding) (slot : Slot)
  /-- Reads the text of a slot as a pattern. -/
  | compile (slot : Slot)
  deriving BEq

/-- A test. -/
inductive Test where
  | isText (slot : Slot)
  | isNumber (slot : Slot)
  | isOctets (slot : Slot)
  /-- The value counts as true. -/
  | isTrue (slot : Slot)
  | isFalse (slot : Slot)
  | isEmptyText (slot : Slot)
  | isOther (slot : Slot) (kinds : List Kind) (strict : Bool)
  | notAmong (slot : Slot) (values : Literal)
  | differs (slot : Slot) (value : Literal)
  /-- The value is no text or another one. -/
  | differsText (slot : Slot) (text : String)
  | relates (slot : Slot) (relation : Relation) (bound : Literal)
  | isNotOne (slot : Slot)
  /-- The last quotient is not whole. -/
  | isFraction (slot : Slot) (divisor : Literal)
  /-- Two items are alike, where the first slot holds their count. -/
  | repeats (count slot : Slot)
  | hasKey (key : String) (slot : Slot)
  | lacksKey (key : String) (slot : Slot)
  | hasHeld (key slot : Slot)
  /-- The pattern under a key occurs nowhere, or not at the start. -/
  | mismatches (key : String) (start : Bool) (slot : Slot)
  | occurs (key : String) (slot : Slot)
  deriving BEq

/-- What items are gone through. -/
inductive Course where
  /-- The items of a list from an index on, with their indices. -/
  | items (index item of : Slot) (start : Option Nat)
  | entries (key value of : Slot)
  | members (member of : Slot)
  deriving BEq

/-- A statement. -/
inductive Statement where
  | act (action : Action)
  /-- Statements under a test, and an action where it fails. -/
  | branch (test : Test) (body : List Statement) (otherwise : Option Action)
  | each (course : Course) (body : List Statement)
  /-- Statements whose complaints are handled, or whose failures are too if `every` is set; where
  there is no handler, complaints are dropped. Other statements may follow where there was none. -/
  | attempt (body : List Statement) (every : Bool) (handler otherwise : Option (List Statement))

/-- A line of a plan. -/
inductive Line where
  | action (action : Action)
  | test (test : Test)
  | course (course : Course)
  /-- The start of an attempt. -/
  | attempt
  | other
  deriving BEq

/-- Plans by name with the patterns that they use, the latest last. -/
structure Plan where
  /-- The name of the plan that starts. -/
  entry : String
  parts : List (String × List Statement)
  patterns : List (String × Text.Pattern)

/-! ## Faults of lines -/

/-- A fault of a line. -/
inductive LineFault where
  /-- A text holds a character that no line can. -/
  | null
  | inscription (fault : Inscription.Fault)
  /-- No statement stands under a heading. -/
  | bare (heading : String)
  /-- The line stands under too many headings. -/
  | deep
  deriving DecidableEq, Repr

/-- A fault with the line it is in. -/
abbrev Located := Nat × LineFault

/-- The fault of a text in a line. -/
def faultOf (line : Nat) (text : String) : List Located :=
  if text.toList.contains '\x00' then [(line, .null)]
  else match Inscription.read text with
    | .error fault => [(line, .inscription fault)]
    | .ok _ => []

/-- The texts that an action writes. -/
def Action.inscriptions : Action → List String
  | .complain complaint =>
    (complaint.pieces.filterMap fun piece => match piece with
      | .inscription text => some text
      | .verbatim text => if text.toList.contains '\x00' then some "\x00" else none
      | _ => none) ++ [complaint.place]
  | .call _ _ place => [place]
  | .forget _ key => [key]
  | .entry _ _ key => [key]
  | .insert _ key _ => [key]
  | _ => []

/-- The texts that a test writes. -/
def Test.inscriptions : Test → List String
  | .differsText _ text => [text]
  | .hasKey key _ => [key]
  | .lacksKey key _ => [key]
  | _ => []

mutual

/-- How many lines a statement takes. -/
def Statement.span : Statement → Nat
  | .act _ => 1
  | .branch _ body otherwise => 1 + spanAll body + (if otherwise.isSome then 1 else 0)
  | .each _ body => 1 + spanAll body
  | .attempt body _ handler otherwise =>
    1 + spanAll body + spanOf 1 handler + spanOf 0 otherwise

/-- How many lines statements take. -/
def Statement.spanAll : List Statement → Nat
  | [] => 0
  | statement :: rest => statement.span + spanAll rest

/-- How many lines a heading with its statements takes, or nothing in their place. -/
def Statement.spanOf (bare : Nat) : Option (List Statement) → Nat
  | none => bare
  | some body => 1 + spanAll body

end

/-- The count of headings that no line stands under. -/
def headingLimit : Nat := 100

mutual

/-- The faults of a statement that starts in a line under a count of headings. -/
def Statement.faults (depth line : Nat) : Statement → List Located
  | .act action => action.inscriptions.flatMap (faultOf line)
  | .branch test body otherwise =>
    test.inscriptions.flatMap (faultOf line) ++ faultsUnder "if" (depth + 1) line body ++
      (match otherwise with
        | some action => action.inscriptions.flatMap (faultOf (line + 1 + spanAll body))
        | none => [])
  | .each _ body => faultsUnder "for" (depth + 1) line body
  | .attempt body _ handler otherwise =>
    let second := line + 1 + spanAll body
    let third := second + spanOf 1 handler
    faultsUnder "try" (depth + 1) line body ++
      (match handler with
        | some body => faultsUnder "except" (depth + 1) second body
        | none => []) ++
      (match otherwise with
        | some body => faultsUnder "else" (depth + 1) third body
        | none => [])

/-- The faults of statements under a heading in a line. -/
def Statement.faultsUnder (heading : String) (depth line : Nat) : List Statement → List Located
  | [] => [(line, .bare heading)]
  | first :: rest =>
    (if depth = headingLimit then [(line + 1, .deep)] else []) ++
      (first.faults depth (line + 1) ++ faultsFrom depth (line + 1 + first.span) rest)

/-- The faults of statements that start in a line under a count of headings. -/
def Statement.faultsFrom (depth line : Nat) : List Statement → List Located
  | [] => []
  | first :: rest => first.faults depth line ++ faultsFrom depth (line + first.span) rest

end

/-- The count of loops and attempts that can stand in each other. -/
def blockLimit : Nat := 20

mutual

/-- The line of a statement, the first starting in a line, that stands in too many loops and
attempts. An attempt stands twice around what handles it. -/
def Statement.crowded? (depth line : Nat) : Statement → Option Nat
  | .act _ => none
  | .branch _ body _ => crowdedAmong? depth (line + 1) body
  | .each _ body =>
    if blockLimit ≤ depth then some line else crowdedAmong? (depth + 1) (line + 1) body
  | .attempt body _ handler otherwise =>
    let second := line + 1 + spanAll body
    let third := second + spanOf 1 handler
    if blockLimit ≤ depth then some line
    else
      (crowdedAmong? (depth + 1) (line + 1) body).or
        ((match otherwise with
          | some body => crowdedAmong? depth (third + 1) body
          | none => none).or
        (if blockLimit ≤ depth + 1 then some second
        else match handler with
          | some body => crowdedAmong? (depth + 2) (second + 1) body
          | none => none))

/-- The line of one of several statements, the first starting in a line, that stands in too many
loops and attempts. -/
def Statement.crowdedAmong? (depth line : Nat) : List Statement → Option Nat
  | [] => none
  | first :: rest =>
    (first.crowded? depth line).or (crowdedAmong? depth (line + first.span) rest)

end

/-- Whether a fault ends the reading of a plan where it is met. -/
def LineFault.isFinal : LineFault → Bool
  | inscription fault => fault.isOfMarks
  | deep => true
  | _ => false

/-- The failure of a plan with a fault. -/
def LineFault.failure (line : Nat) : LineFault → Failure
  | null => .ofText .grammar "source code string cannot contain null bytes"
  | inscription fault =>
    .ofText .grammar (fault.text line ++ " (<string>, line " ++ toString line ++ ")")
  | bare heading =>
    .ofText .layout ("expected an indented block after '" ++ heading ++ "' statement on line " ++
      toString line ++ " (<string>, line " ++ toString (line + 1) ++ ")")
  | deep =>
    .ofText .layout ("too many levels of indentation (<string>, line " ++ toString line ++ ")")

namespace Plan

/-- The faults of plans, of which the first starts after a line. A part is headed by an empty line
and its name, and ends with a line that gives the value back. -/
def faultsFrom (line : Nat) : List (String × List Statement) → List Located
  | [] => []
  | (_, body) :: rest =>
    Statement.faultsFrom 1 (line + 3) body ++ faultsFrom (line + 3 + Statement.spanAll body) rest

/-- The line of a statement that stands in too many loops and attempts, in plans of which the first
starts after a line. -/
def crowded? (line : Nat) : List (String × List Statement) → Option Nat
  | [] => none
  | (_, body) :: rest =>
    (Statement.crowdedAmong? 0 (line + 3) body).or
      (crowded? (line + 3 + Statement.spanAll body) rest)

/-- The fault that counts. A character that no line can hold is found before all others. A mark that
is never closed is found even after another fault, unless the reading ends before it. -/
def fault? (faults : List Located) : Option Located :=
  match faults.find? fun (_, fault) => fault = .null with
  | some found => some found
  | none => match faults with
    | [] => none
    | first :: rest =>
      if first.2.isFinal then some first
      else match rest.find? fun (_, fault) => fault.isFinal with
        | some (line, .inscription .unclosed) => some (line, .inscription .unclosed)
        | _ => some first

/-- The failure of a plan that cannot be read, if it has a fault. -/
def failure? (plan : Plan) : Option Failure :=
  match fault? (faultsFrom 1 plan.parts) with
  | some (line, fault) => some (fault.failure line)
  | none => (crowded? 1 plan.parts).map fun line =>
      .ofText .grammar
        ("too many statically nested blocks (<string>, line " ++ toString line ++ ")")

end Plan

end Hexwire.Schema
