import Hexwire.Exchange

/-! # Transactions

A transaction runs operations between two toggles of chip select. The first operation that fails
ends it with its failure; chip select is then toggled back only where the caller asked for it. A
transport failure of that last toggle is reported and does not take the place of the first failure;
any other failure of it does. The interrupt from the keyboard ends a transaction at once.
-/

namespace Hexwire

/-- Work on a peripheral within a transaction, on buffers given as values of `α`. -/
inductive Operation (α : Type) where
  /-- Octets go out and what comes in is dropped. -/
  | write (source : α)
  /-- Zeros go out and what comes in fills the target. -/
  | read (target : α)
  /-- The source goes out and what comes in fills the target, which is as long. -/
  | transfer (target source : α)
  /-- The target goes out and what comes in takes its place. -/
  | inPlace (target : α)
  /-- A pause of the given nanoseconds. -/
  | delay (nanoseconds : Int)
  /-- A value that is no operation. -/
  | unsupported (value : Value)

namespace Operation

/-- The buffer that an operation fills, if it fills one. -/
def target? {α : Type} : Operation α → Option α
  | write _ => none
  | read target => some target
  | transfer target _ => some target
  | inPlace target => some target
  | delay _ => none
  | unsupported _ => none

/-- An operation on operands as an operation on views, with the store that holds their octets. -/
def bind (store : Store) : Operation Operand → Operation View × Store
  | write source =>
    let (view, store) := source.bind store store.length
    (write view, store)
  | read target =>
    let (view, store) := target.bind store store.length
    (read view, store)
  | transfer target source =>
    let (targetView, store) := target.bind store store.length
    let (sourceView, store) := source.bind store store.length
    (transfer targetView sourceView, store)
  | inPlace target =>
    let (view, store) := target.bind store store.length
    (inPlace view, store)
  | delay nanoseconds => (delay nanoseconds, store)
  | unsupported value => (unsupported value, store)

/-- Operations on operands as operations on views. -/
def bindAll (store : Store) : List (Operation Operand) → List (Operation View) × Store
  | [] => ([], store)
  | first :: rest =>
    let (operation, store) := first.bind store
    let (operations, store) := bindAll store rest
    (operation :: operations, store)

/-- The sleep that stands for a pause, in nanoseconds. The time of a frame on the line is longer
than any pause asked for, so all pauses are the same. -/
def pause : Nat := 1

/-- Writes octets to a view. -/
def fill (view : View) (data : Bytes) : Action Unit :=
  modify fun world => { world with store := world.store.save view data }

/-- Carries an operation out. -/
def run : Operation View → Action Unit
  | write source => do
    let _ ← Exchange.payload ((← get).store.load source)
  | read target => do
    fill target (List.replicate target.size 0)
    Exchange.through target
  | transfer target source =>
    if target.size = source.size then do
      fill target ((← get).store.load source)
      Exchange.through target
    else
      Action.fail (.ofBridge .invalidBufferLength (some ("Read buffer has " ++
        toString target.size ++ " bytes, write buffer has " ++ toString source.size ++ " bytes")))
  | inPlace target => Exchange.through target
  | delay _ => Action.sleep pause
  | unsupported value =>
    Action.fail (.ofPackage .value ("Unsupported SPI operation: " ++ value.literal))

/-- Carries operations out in order, up to the first that fails. -/
def runAll : List (Operation View) → Action Unit
  | [] => pure ()
  | first :: rest => do
    first.run
    runAll rest

end Operation

namespace Transaction

/-- Toggles chip select back after a failure. -/
def release : Action Unit := do
  match ← ChipSelect.toggle.attempt with
  | .ok _ => pure ()
  | .error raised =>
    if raised.failure.isBridge then Action.note (.releaseFailed raised.failure)
    else throw raised

/-- Work between two toggles of chip select. -/
def bracketed {α : Type} (releaseOnError : Bool) (work : Action α) : Action α := do
  ChipSelect.toggle
  match ← work.attempt with
  | .ok value => do
    ChipSelect.toggle
    pure value
  | .error raised => do
    if releaseOnError && raised.failure.isOrdinary then release
    throw raised

/-- Runs operations in one transaction. -/
def run (releaseOnError : Bool) (operations : List (Operation View)) : Action Unit :=
  bracketed releaseOnError (Operation.runAll operations)

/-- Exchanges pieces in order, up to the first that fails. -/
def exchangeAll : List Bytes → Action (List Bytes)
  | [] => pure []
  | first :: rest => do
    let received ← Exchange.payload first
    let others ← exchangeAll rest
    pure (received :: others)

/-- Exchanges a payload of any size in one transaction, cut into pieces of the given size. -/
def exchange (releaseOnError : Bool) (data : Bytes) (pieceSize : Int) : Action Bytes :=
  if 0 < pieceSize ∧ pieceSize ≤ Frame.maxPayload then do
    let pieces := chunks pieceSize.toNat data
    Action.note (.exchanging data.length pieces.length)
    let received ← bracketed releaseOnError (exchangeAll pieces)
    pure received.flatten
  else
    Action.fail (.ofPackage .value ("Chunk size must be between 1 and " ++
      toString Frame.maxPayload ++ ", got " ++ toString pieceSize))

end Transaction

end Hexwire
