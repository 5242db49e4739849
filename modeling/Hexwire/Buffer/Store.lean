import Hexwire.Bytes.Basic

/-! # Buffers and views

Operations work on shared buffers. A view is a run of octets of one buffer; views of one buffer may
overlap. Reading and writing through a view happen at the time an operation runs, and writing
through a view never changes the length of a buffer.
-/

namespace Hexwire

/-- Buffers have names, except those that belong to a single operand. -/
inductive BufferId where
  | named (name : String)
  | anonymous (index : Nat)
  deriving DecidableEq, Repr

/-- The buffers with their contents. -/
abbrev Store := List (BufferId × Bytes)

/-- A run of octets of one buffer. -/
structure View where
  buffer : BufferId
  offset : Nat
  size : Nat
  deriving DecidableEq, Repr

namespace Store

/-- The contents of a buffer; a buffer that does not exist is empty. -/
def contents (store : Store) (buffer : BufferId) : Bytes :=
  match store.find? (·.1 = buffer) with
  | some (_, data) => data
  | none => []

/-- The octets that a view shows. -/
def load (store : Store) (view : View) : Bytes :=
  ((store.contents view.buffer).drop view.offset).take view.size

/-- The contents of a buffer after octets are laid over it from an offset on; octets beyond its end
are left out. -/
def overlay (contents : Bytes) (offset : Nat) (data : Bytes) : Bytes :=
  (contents.take offset ++ data ++ contents.drop (offset + data.length)).take contents.length

/-- The store after octets are written through a view. -/
def save (store : Store) (view : View) (data : Bytes) : Store :=
  store.map fun (buffer, contents) =>
    if buffer = view.buffer then (buffer, overlay contents view.offset (data.take view.size))
    else (buffer, contents)

/-- The store with one more buffer. -/
def allocate (store : Store) (buffer : BufferId) (data : Bytes) : Store :=
  store ++ [(buffer, data)]

/-- The store without the buffers that belong to single operands. -/
def named (store : Store) : Store :=
  store.filter fun (buffer, _) => match buffer with
    | .named _ => true
    | .anonymous _ => false

end Store

/-- What a caller hands to an operation: octets of its own, a whole buffer, or a run of a buffer
between two signed positions. -/
inductive Operand where
  | fresh (data : Bytes)
  | whole (name : String)
  | slice (name : String) (first last : Option Int)
  deriving DecidableEq, Repr

namespace Operand

/-- The view of a buffer between two signed positions, a missing one standing for the end it is
near to. -/
def sliceView (buffer : BufferId) (length : Nat) (first last : Option Int) : View :=
  let start := match first with
    | some index => cutPosition length index
    | none => 0
  let stop := match last with
    | some index => cutPosition length index
    | none => length
  ⟨buffer, start, stop - start⟩

/-- The view of an operand, with the store that holds its octets; octets of its own become an
anonymous buffer with the given index. -/
def bind (store : Store) (index : Nat) : Operand → View × Store
  | fresh data => (⟨.anonymous index, 0, data.length⟩, store.allocate (.anonymous index) data)
  | whole name => (sliceView (.named name) (store.contents (.named name)).length none none, store)
  | slice name first last =>
    (sliceView (.named name) (store.contents (.named name)).length first last, store)

end Operand

end Hexwire
