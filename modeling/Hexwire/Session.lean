import Hexwire.Transaction

/-! # Sessions

A session opens a port and takes steps on it, one after the other; a step that fails does not end
the session. After opening and after each step a report tells the outcome and what can be observed:
what was written, the sleeps, the state of the device, the buffers and the log.
-/

namespace Hexwire

/-- A bridge on a line, with the choice whether chip select is released after failures. -/
structure Bridge where
  line : Line
  releaseOnError : Bool

namespace Bridge

/-- How a bridge is shown. -/
def render (bridge : Bridge) : String := "SPI bridge on " ++ bridge.line.render

end Bridge

/-- A step of a session. -/
inductive Step where
  /-- Chip select is toggled. -/
  | toggle
  /-- A command is sent and its answer checked. -/
  | command (request expected : Bytes)
  /-- A buffer is exchanged outside any transaction. -/
  | exchangeFrame (target : Operand)
  /-- One operation runs in a transaction of its own. -/
  | single (operation : Operation Operand)
  /-- Operations run in one transaction. -/
  | transaction (operations : List (Operation Operand))
  /-- Operations run in one transaction, and the line is closed. -/
  | closingTransaction (operations : List (Operation Operand))
  /-- Octets are sent and others received, and the line is closed. -/
  | closingCall (data : Bytes) (count : Int)
  /-- A payload of any size is exchanged in one transaction. -/
  | exchange (source : Operand) (pieceSize : Int)
  /-- Octets are sent. -/
  | send (data : Bytes)
  /-- Octets are received. -/
  | receive (count : Int)
  /-- The line is flushed. -/
  | flush
  /-- The line is closed. -/
  | close
  /-- The state of the line is asked for. -/
  | isOpen
  /-- The descriptions of bridge and line are asked for. -/
  | describe
  /-- Octets arrive at a scripted device. -/
  | feed (data : Bytes)
  /-- The device is opened behind the back of the line. -/
  | reopen
  /-- The choice about releasing chip select changes. -/
  | setRelease (releaseOnError : Bool)

/-- What can be observed of a world since the last report: sleeps, writes, the state of the device,
chip select of an emulated bridge and how often it was toggled, the named buffers and the log. -/
structure Observation where
  sleeps : List Nat
  sent : List Bytes
  isOpen : Bool
  pending : Nat
  chipSelect : Option (Bool × Nat)
  buffers : List (String × Bytes)
  records : List Log.Record

/-- The outcome of a step, the octets in the buffers that it was to fill, and what was observed. -/
structure Report where
  outcome : Except Raised Value
  filled : Option Value
  observation : Observation

namespace Session

/-- The named buffers of a store. -/
def namedBuffers (store : Store) : List (String × Bytes) :=
  store.filterMap fun (buffer, contents) => match buffer with
    | .named name => some (name, contents)
    | .anonymous _ => none

/-- What can be observed of a world since the given count of writes. -/
def observe (world : World) (writesBefore : Nat) : Observation where
  sleeps := world.sleeps
  sent := world.device.written.drop writesBefore
  isOpen := world.device.isOpen
  pending := world.device.queue.length
  chipSelect := match world.device with
    | .scripted _ => none
    | .emulated e => some (e.selected, e.toggles)
  buffers := namedBuffers world.store
  records := world.events.map Event.record

/-- A world at the start of a step. -/
def fresh (world : World) : World :=
  { world with store := world.store.named, sleeps := [], events := [] }

/-- The octets that a view shows, as a value; nothing where there is no view. -/
def shown (store : Store) : Option View → Value
  | some view => .bytes (store.load view)
  | none => .null

/-- Work without a value. -/
def silently (work : Action Unit) : Action Value := do
  work
  pure .null

/-- Prepares operations in a world. -/
def prepare (world : World) (operations : List (Operation Operand)) :
    List (Operation View) × World :=
  let (views, store) := Operation.bindAll world.store operations
  (views, { world with store := store })

/-- Takes a step: its outcome, the buffers that it was to fill, and bridge and world after it. -/
def step (bridge : Bridge) (world : World) :
    Step → (Except Raised Value × Option Value) × Bridge × World
  | .toggle => plain (silently ChipSelect.toggle) world
  | .command request expected => plain (silently (Line.command request expected)) world
  | .exchangeFrame target =>
    let (view, store) := target.bind world.store world.store.length
    let (outcome, after) := (silently (Exchange.through view)).result { world with store := store }
    ((outcome, some (shown after.store (some view))), bridge, after)
  | .single operation =>
    let (operations, world) := prepare world [operation]
    let work := silently (Transaction.run bridge.releaseOnError operations)
    let (outcome, after) := work.result world
    let target := operations.findSome? Operation.target?
    ((outcome, target.map fun view => shown after.store (some view)), bridge, after)
  | .transaction operations =>
    let (operations, world) := prepare world operations
    many operations (Transaction.run bridge.releaseOnError operations) world
  | .closingTransaction operations =>
    let (operations, world) := prepare world operations
    many operations (Line.closing (Transaction.run bridge.releaseOnError operations)) world
  | .closingCall data count =>
    plain (Line.closing do
      Line.send data
      Value.bytes <$> Line.receive count) world
  | .exchange source pieceSize =>
    let (view, store) := source.bind world.store world.store.length
    plain (do
      let data := (← get).store.load view
      Value.bytes <$> Transaction.exchange bridge.releaseOnError data pieceSize)
      { world with store := store }
  | .send data => plain (silently (Line.send data)) world
  | .receive count => plain (Value.bytes <$> Line.receive count) world
  | .flush => plain (silently Line.flush) world
  | .close => plain (silently Line.close) world
  | .isOpen => plain (Value.bool <$> Line.isOpen) world
  | .describe => plain (pure (.list [.text bridge.render, .text bridge.line.render])) world
  | .feed data => ((.ok .null, none), bridge, { world with device := world.device.feed data })
  | .reopen => ((.ok .null, none), bridge, { world with device := world.device.reopen })
  | .setRelease releaseOnError =>
    ((.ok .null, none), { bridge with releaseOnError := releaseOnError }, world)
where
  /-- A step that fills no buffer. -/
  plain (work : Action Value) (world : World) :
      (Except Raised Value × Option Value) × Bridge × World :=
    let (outcome, after) := work.result world
    ((outcome, none), bridge, after)
  /-- A step that may fill the buffers of several operations. -/
  many (operations : List (Operation View)) (work : Action Unit) (world : World) :
      (Except Raised Value × Option Value) × Bridge × World :=
    let (outcome, after) := (silently work).result world
    let filled := operations.map fun operation => shown after.store operation.target?
    ((outcome, some (.list filled)), bridge, after)

/-- The reports of steps taken in order. -/
def run (bridge : Bridge) (world : World) : List Step → List Report
  | [] => []
  | first :: rest =>
    let before := fresh world
    let ((outcome, filled), bridge, after) := step bridge before first
    ⟨outcome, filled, observe after before.device.written.length⟩ :: run bridge after rest

/-- What became of opening a port. -/
inductive Opening where
  /-- The host opened no device. -/
  | refused (raised : Raised)
  /-- The device was opened, and the work that follows may have failed. -/
  | connected (outcome : Except Raised Unit) (world : World)

/-- Opens the port of a line to a peer, with the given buffers. -/
def start (line : Line) (peer : Peer) (store : Store) : Opening :=
  match line.connect peer with
  | .error raised => .refused raised
  | .ok device =>
    let (outcome, world) := line.start.result { device := device, store := store }
    .connected outcome world

/-- The reports of the steps of a session; there are none unless opening succeeded. -/
def Opening.reports (bridge : Bridge) (steps : List Step) : Opening → List Report
  | .refused _ => []
  | .connected (.error _) _ => []
  | .connected (.ok _) world => run bridge world steps

end Session

end Hexwire
