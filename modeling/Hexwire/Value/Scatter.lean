import Hexwire.Value.Basic

/-! # The order of sets

A set keeps its members in a table and shows them in the order of their places there. The place of a
number follows from its residue modulo a prime, so that equal numbers of different kinds share it; a
place that is taken is passed over for one of those after it, or for one further away. The table
grows before it is full. Other members have no place that can be told, and come last as they were
given.
-/

namespace Hexwire.Value

namespace Scatter

/-- The modulus of residues, a prime one less than a power of two. -/
def modulus : Nat := Nat.pow 2 61 - 1

/-- The count of codes, which are unsigned words. -/
def codes : Nat := Nat.pow 2 64

/-- The code of a signed residue; one code is set aside. -/
def codeOf (negative : Bool) (residue : Nat) : Nat :=
  if negative && residue = 1 then codes - 2
  else if negative && residue ≠ 0 then codes - residue
  else residue

/-- The residue of a ratio whose denominator is a power of two, which has an inverse that is a power
of two as well. -/
def ratioResidue (numerator denominator : Nat) : Nat :=
  (numerator % modulus) * Nat.pow 2 ((61 - denominator.log2 % 61) % 61) % modulus

/-- The residue that stands for a number beyond all others. -/
def infiniteResidue : Nat := 314159

/-- The code of a value, if it follows from the value. -/
def code? : Value → Option Nat
  | .bool b => some b.toNat
  | .int n => some (codeOf (n < 0) (n.natAbs % modulus))
  | .float x => match x.ratio? with
    | some (n, denominator) => some (codeOf (n < 0) (ratioResidue n.natAbs denominator))
    | none => if x = .nan then none else some (codeOf x.isNegative infiniteResidue)
  | _ => none

/-- A table of members. -/
abbrev Table := Array (Option (Nat × Value))

/-- A table of empty places. -/
def Table.empty (size : Nat) : Table := Array.replicate size none

/-- Whether a place of a table is free. -/
def Table.isFree (table : Table) (place : Nat) : Bool := ((table[place]?).getD none).isNone

/-- How many places after one are looked at before another is tried. -/
def nearby : Nat := 9

/-- The first free place from a place on, where the rest of a code leads further. The count bounds
the places tried. -/
def Table.seek (table : Table) : Nat → Nat → Nat → Nat
  | 0, place, _ => place
  | count + 1, place, rest =>
    let mask := table.size - 1
    let reach := if place + nearby ≤ mask then nearby + 1 else 1
    match (List.range reach).find? fun step => table.isFree (place + step) with
    | some step => place + step
    | none =>
      let rest := rest / 32
      table.seek count ((place * 5 + 1 + rest) % table.size) rest

/-- Puts a member with its code into a table. -/
def Table.put (table : Table) (code : Nat) (value : Value) : Table :=
  let place := table.seek (table.size + 16) (code % table.size) code
  table.setIfInBounds place (some (code, value))

/-- The members of a table with their codes in the order of their places. -/
def Table.members (table : Table) : List (Nat × Value) := table.toList.filterMap id

/-- The least number of places. -/
def leastSize : Nat := 8

/-- The least power of two above a count, from a number of places on; the first count bounds the
doublings. -/
def sizeAbove : Nat → Nat → Nat → Nat
  | 0, size, _ => size
  | steps + 1, size, count => if size ≤ count then sizeAbove steps (2 * size) count else size

/-- A table with room for the given number of members once more. -/
def Table.grown (table : Table) (count : Nat) : Table :=
  let least := if count > 50000 then count * 2 else count * 4
  table.members.foldl (fun larger (code, value) => larger.put code value)
    (Table.empty (sizeAbove least leastSize least))

/-- Puts values into a table that holds a count of members and grows as it fills, and lists the
members in order. Those without a code are kept aside. -/
def Table.fill : Table → Nat → List Value → List Value → List Value
  | table, _, aside, [] => table.members.map (·.2) ++ aside.reverse
  | table, count, aside, value :: rest =>
    let (table, aside) := match code? value with
      | some code => (table.put code value, aside)
      | none => (table, value :: aside)
    let count := count + 1
    let table := if count * 5 < (table.size - 1) * 3 then table else table.grown count
    table.fill count aside rest

end Scatter

/-- Different values in the order in which a set shows them. -/
def scattered (values : List Value) : List Value :=
  (Scatter.Table.empty Scatter.leastSize).fill 0 [] values

end Hexwire.Value
