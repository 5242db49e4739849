import Hexwire.Log.Directive

/-! # Message templates

A template is text with directives. A directive starts with a percent sign and ends in a letter that
says how a value is written; between the two may stand the name of the value in parentheses, flags,
a least width and a precision. A width or precision of a star is taken from the arguments. Arguments
are taken in order; each must be taken and none may be missing. A mapping in place of the arguments
holds the values with names, and is also the only argument without one. Two percent signs in a row
stand for one.
-/

namespace Hexwire.Log.Template

/-- What a template is filled with: arguments in order, or a single value that may hold others under
names. -/
inductive Arguments where
  | inOrder (items : List Value)
  | single (value : Value)

/-- Whether there is nothing to fill a template with. -/
def Arguments.isEmpty : Arguments → Bool
  | inOrder items => items.isEmpty
  | single value => !value.isTrue

/-- A width or precision. -/
inductive Measure where
  | missing
  | given (value : Nat)
  | taken
  deriving DecidableEq, Repr

/-- The part of a directive that is read next. -/
inductive Phase where
  | start
  /-- The name of the value, up to as many closing parentheses. -/
  | name (depth : Nat)
  | flags
  | width
  /-- The point in front of the precision, if there is one. -/
  | point
  /-- The first character of the precision. -/
  | precisionStart
  | precision
  /-- A character that has no meaning, if there is one. -/
  | modifier
  | letter
  deriving DecidableEq, Repr

/-- A directive as it is written. -/
structure Notice where
  phase : Phase := .start
  /-- The name of the value, last character first. -/
  name : Option (List Char) := none
  layout : Directive := {}
  width : Measure := .missing
  precision : Measure := .missing

/-- Why a directive cannot be read. -/
inductive Fault where
  | unfinishedName
  | widthTooBig
  | precisionTooBig
  | unfinished
  deriving DecidableEq, Repr

/-- A piece of a template. -/
inductive Piece where
  | plain (c : Char)
  | directive (notice : Notice) (letter : Char) (position : Nat)
  | broken (notice : Notice) (fault : Fault)

namespace Notice

/-- A number with one more digit. -/
def extended (number : Measure) (digit : Char) : Nat :=
  match number with
  | .given value => 10 * value + (digit.toNat - 48)
  | _ => digit.toNat - 48

/-- The greatest width. -/
def greatestWidth : Nat := Nat.pow 2 63 - 1

/-- The greatest precision. -/
def greatestPrecision : Nat := Nat.pow 2 31 - 1

/-- The directive after a character that stands where a flag may. -/
def flagged? (notice : Notice) (c : Char) : Option Notice :=
  let layout := notice.layout
  let layout? : Option Directive :=
    match c with
    | '-' => some { layout with left := true }
    | '+' => some { layout with signed := true }
    | ' ' => some { layout with blank := true }
    | '#' => some { layout with alternate := true }
    | '0' => some { layout with zero := true }
    | _ => none
  layout?.map fun layout => { notice with phase := .flags, layout := layout }

/-- The directive after one more character, or why there is none; nothing if the character is its
letter. -/
def advance (notice : Notice) (c : Char) : Option (Except Fault Notice) :=
  let modifier : Option (Except Fault Notice) :=
    if c = 'h' || c = 'l' || c = 'L' then some (.ok { notice with phase := .letter }) else none
  let point : Option (Except Fault Notice) :=
    if c = '.' then
      some (.ok { notice with phase := .precisionStart, precision := .given 0 })
    else modifier
  let width (otherwise : Option (Except Fault Notice)) : Option (Except Fault Notice) :=
    if c.isDigit then
      let value := extended notice.width c
      some (if greatestWidth < value then .error .widthTooBig
        else .ok { notice with phase := .width, width := .given value })
    else otherwise
  let precision (otherwise : Option (Except Fault Notice)) : Option (Except Fault Notice) :=
    if c.isDigit then
      let value := extended notice.precision c
      some (if greatestPrecision < value then .error .precisionTooBig
        else .ok { notice with phase := .precision, precision := .given value })
    else otherwise
  let flags : Option (Except Fault Notice) :=
    match notice.flagged? c with
    | some notice => some (.ok notice)
    | none => width
        (if c = '*' then some (.ok { notice with phase := .point, width := .taken }) else point)
  match notice.phase with
  | .start =>
    if c = '(' then some (.ok { notice with phase := .name 0, name := some [] }) else flags
  | .name depth =>
    let longer (depth : Nat) : Option (Except Fault Notice) :=
      some (.ok { notice with phase := .name depth, name := notice.name.map (c :: ·) })
    if c = '(' then longer (depth + 1)
    else if c = ')' then
      if depth = 0 then some (.ok { notice with phase := .flags }) else longer (depth - 1)
    else longer depth
  | .flags => flags
  | .width => width point
  | .point => point
  | .precisionStart => precision
      (if c = '*' then some (.ok { notice with phase := .modifier, precision := .taken })
        else modifier)
  | .precision => precision modifier
  | .modifier => modifier
  | .letter => none

/-- Why a directive that the template ends in cannot be read. -/
def endFault (notice : Notice) : Fault :=
  match notice.phase with
  | .name _ => .unfinishedName
  | _ => .unfinished

end Notice

/-- The pieces of a template, of which a directive may have been begun. -/
def piecesFrom (begun : Option Notice) (position : Nat) : List Char → List Piece
  | [] => match begun with
    | some notice => [.broken notice notice.endFault]
    | none => []
  | c :: rest => match begun with
    | none =>
      if c = '%' then
        match rest with
        | '%' :: rest => .plain '%' :: piecesFrom none (position + 2) rest
        | rest => piecesFrom (some {}) (position + 1) rest
      else .plain c :: piecesFrom none (position + 1) rest
    | some notice => match notice.advance c with
      | some (.ok notice) => piecesFrom (some notice) (position + 1) rest
      | some (.error fault) => [.broken notice fault]
      | none => .directive notice c position :: piecesFrom none (position + 1) rest

/-- The pieces of a template. -/
def pieces (template : String) : List Piece := piecesFrom none 0 template.toList

/-- The values that are still to be taken, and the one that holds values under names. -/
structure Supply where
  pending : List Value
  holder : Option Value := none

namespace Supply

/-- The supply of arguments. A value can hold others if it is a mapping or octets. -/
def ofArguments : Arguments → Supply
  | .inOrder items => ⟨items, none⟩
  | .single value => match value with
    | .map _ | .bytes _ => ⟨[value], some value⟩
    | _ => ⟨[value], none⟩

/-- The next value. -/
def take : StateT Supply (Except Failure) Value := do
  match (← get).pending with
  | value :: pending =>
    modify fun supply => { supply with pending := pending }
    pure value
  | [] => throw (Value.wrongKind "not enough arguments for format string")

/-- Leaves the value with a name as the only one to be taken. -/
def select (name : Option String) : StateT Supply (Except Failure) Unit := do
  match name, (← get).holder with
  | none, _ => pure ()
  | some _, none => throw (Value.wrongKind "format requires a mapping")
  | some name, some holder =>
    let value ← holder.under name
    modify fun supply => { supply with pending := [value] }

/-- The number of a width or precision that is taken from the arguments, if it is one below a
limit. -/
def takeNumber (limit : Nat) (noun : String) : StateT Supply (Except Failure) Int := do
  match (← take).asInt? with
  | none => throw (Value.wrongKind "* wants int")
  | some n =>
    if -(limit : Int) ≤ n && n < limit then pure n
    else throw (.ofText .overflow ("Python int too large to convert to C " ++ noun))

/-- The layout of a directive with its width; a negative width is filled at the right. -/
def measureWidth (notice : Notice) : StateT Supply (Except Failure) Directive := do
  let layout := notice.layout
  match notice.width with
  | .missing => pure layout
  | .given width => pure { layout with width := width }
  | .taken =>
    let width ← takeNumber (Nat.pow 2 63) "ssize_t"
    pure { layout with width := width.natAbs, left := layout.left || width < 0 }

/-- A layout with the precision of a directive; a negative precision counts as zero. -/
def measurePrecision (notice : Notice) (layout : Directive) :
    StateT Supply (Except Failure) Directive := do
  match notice.precision with
  | .missing => pure layout
  | .given precision => pure { layout with precision := some precision }
  | .taken =>
    let precision ← takeNumber (Nat.pow 2 31) "int"
    pure { layout with precision := some precision.toNat }

/-- The layout of a directive with its width and precision. -/
def measure (notice : Notice) : StateT Supply (Except Failure) Directive := do
  measurePrecision notice (← measureWidth notice)

end Supply

/-- What is raised for a directive that cannot be read. -/
def Fault.failure : Fault → Failure
  | unfinishedName => .ofText .value "incomplete format key"
  | widthTooBig => .ofText .value "width too big"
  | precisionTooBig => .ofText .value "precision too big"
  | unfinished => .ofText .value "incomplete format"

/-- What is raised for an unknown letter at a position; a letter that cannot be shown is a question
mark. -/
def unsupported (letter : Char) (position : Nat) : Failure :=
  let shown := if 31 ≤ letter.toNat ∧ letter.toNat ≤ 126 then letter else '?'
  .ofText .value ("unsupported format character '" ++ shown.toString ++ "' (0x" ++
    Hex.padded 1 letter.toNat ++ ") at index " ++ toString position)

/-- A piece with what it takes put in. -/
def expandPiece : Piece → StateT Supply (Except Failure) (List Char)
  | .plain c => pure [c]
  | .broken notice fault => do
    match fault, (← get).holder with
    | .unfinishedName, none => throw (Value.wrongKind "format requires a mapping")
    | .unfinishedName, some _ => throw fault.failure
    | fault, _ =>
      Supply.select (notice.name.map fun name => String.ofList name.reverse)
      let _ ← Supply.measure notice
      throw fault.failure
  | .directive notice letter position => do
    Supply.select (notice.name.map fun name => String.ofList name.reverse)
    let layout ← Supply.measure notice
    match layout.write letter (← Supply.take) with
    | none => throw (unsupported letter position)
    | some text => text

/-- Pieces with what they take put in. -/
def expand : List Piece → StateT Supply (Except Failure) (List Char)
  | [] => do
    let supply ← get
    if supply.pending.isEmpty || supply.holder.isSome then pure []
    else throw (Value.wrongKind "not all arguments converted during string formatting")
  | piece :: rest => do
    let text ← expandPiece piece
    pure (text ++ (← expand rest))

/-- A template with its arguments put in. -/
def render (template : String) (arguments : Arguments) : Except Failure String := do
  let (text, _) ← (expand (pieces template)).run (Supply.ofArguments arguments)
  pure (String.ofList text)

end Hexwire.Log.Template
