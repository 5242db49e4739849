import Hexwire.Value.Basic
import Hexwire.Value.Printer

/-! # Arithmetic on values of unknown kind

Numbers are doubled and added to in their kind, a truth value as an integer. A value of items is
doubled by going through its items twice, and no integer can be added to it.
-/

namespace Hexwire.Value

/-- A value two times. -/
def doubled : Value → Except Failure Value
  | .float x => .ok (.float (x.add x))
  | .text s => .ok (.text (s ++ s))
  | .bytes data => .ok (.bytes (data ++ data))
  | .list items => .ok (.list (items ++ items))
  | .tuple items => .ok (.tuple (items ++ items))
  | value => match value.asInt? with
    | some n => .ok (.int (2 * n))
    | none => .error (.ofText .type
        ("unsupported operand type(s) for *: 'int' and '" ++ value.typeName ++ "'"))

/-- A value and an integer in sum. -/
def plusInt (value : Value) (n : Int) : Except Failure Value :=
  let refused (kind : String) : Except Failure Value :=
    .error (.ofText .type ("can only concatenate " ++ kind ++ " (not \"int\") to " ++ kind))
  match value with
  | .float x => .ok (.float (x.add (.ofInt n)))
  | .text _ => refused "str"
  | .bytes _ => .error (.ofText .type "can't concat int to bytes")
  | .list _ => refused "list"
  | .tuple _ => refused "tuple"
  | value => match value.asInt? with
    | some m => .ok (.int (m + n))
    | none => .error (.ofText .type
        ("unsupported operand type(s) for +: '" ++ value.typeName ++ "' and 'int'"))

end Hexwire.Value
