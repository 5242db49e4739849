import Hexwire.Value.Basic

/-! # Kinds of values

Definitions and rules distinguish seven kinds of values. A number with a point that is whole counts
as an integer, except where only integers as such are admitted.
-/

namespace Hexwire.Schema

/-- The kinds of values that rules distinguish. -/
inductive Kind where
  | null
  | boolean
  | number
  | integer
  | string
  | array
  | object
  deriving DecidableEq, Repr

namespace Kind

/-- Every kind. -/
def all : List Kind := [null, boolean, number, integer, string, array, object]

/-- The name of a kind. -/
def name : Kind → String
  | null => "null"
  | boolean => "boolean"
  | number => "number"
  | integer => "integer"
  | string => "string"
  | array => "array"
  | object => "object"

/-- Whether a value is of a kind; `strict` takes no number with a point for an integer. -/
def admits (strict : Bool) : Kind → Value → Bool
  | null, .null => true
  | boolean, .bool _ => true
  | number, .int _ => true
  | number, .float _ => true
  | integer, .int _ => true
  | integer, .float x => !strict && x.isWhole
  | string, .text _ => true
  | array, .list _ => true
  | array, .tuple _ => true
  | object, .map _ => true
  | _, _ => false

/-- Whether a value is of one of several kinds. A truth value is no number. -/
def anyAdmits (strict : Bool) (kinds : List Kind) (value : Value) : Bool :=
  kinds.any (·.admits strict value)

end Kind

end Hexwire.Schema
