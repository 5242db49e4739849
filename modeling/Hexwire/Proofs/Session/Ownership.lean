import Hexwire.Proofs.Session.Faults

/-! # Who closes the device

Whoever opens a port owns a device. A block around work closes it whatever becomes of the work, and
fails as the work does unless the device itself fails to close (`Hexwire.Line.released_closing`).
Opening a port is not such a block: the first flush comes after the device has been opened, and if
it fails nobody is left to close the device. That is the only way for a device to be lost
(`Hexwire.Session.closes_unless_unflushed`).
-/

namespace Hexwire

namespace Line

variable {α β : Type} {inner : Except Raised α × World} {outcome : Except Raised α} {isOpen : Bool}

/-- **How a block ends** around work that has ended with an outcome in a world: its own outcome and
whether it leaves the device open. -/
inductive Released (inner : Except Raised α × World) (outcome : Except Raised α) (isOpen : Bool) :
    Prop where
  /-- The device is closed, and the block ends as the work did. -/
  | closed (same : outcome = inner.1) (shut : isOpen = false)
  /-- The call that was to close the device failed, and with its failure the block fails. -/
  | unclosed (fault : Raised) (opened : inner.2.device.isOpen)
    (failed : inner.2.device.close.1 = .error fault) (told : outcome = .error (ofHost fault))

/-- A change of the value leaves a release as it is. -/
theorem Released.map (released : Released inner outcome isOpen) (change : α → β) :
    Released (inner.1.map change, inner.2) (outcome.map change) isOpen := by
  cases released with
  | closed same shut => exact .closed (congrArg (Except.map change) same) shut
  | unclosed fault opened failed told =>
      exact .unclosed fault opened failed (congrArg (Except.map change) told)

/-- **A block closes the device** whatever the work in it does, unless the device fails to close. -/
theorem released_closing (work : Action α) (world : World) :
    Released (work.result world) ((closing work).result world).1
      ((closing work).result world).2.device.isOpen := by
  rw [result_closing]
  rcases ended : close.result (work.result world).2 with ⟨raised | ⟨⟩, after⟩
  · obtain ⟨opened, fault, failed, told⟩ := close_error ended
    exact .unclosed fault opened (congrArg Prod.fst failed) (congrArg Except.error told)
  · exact .closed rfl (isOpen_of_close ended)

end Line

namespace Session

/-- What a step does before it closes the line. A step that does not close it does all it does. -/
def inner (bridge : Bridge) (world : World) : Step → Except Raised Value × World
  | .closingTransaction operations =>
    let taken := step bridge world (.transaction operations)
    (taken.1.1, taken.2.2)
  | .closingCall data count =>
    Action.result (do Line.send data; Value.bytes <$> Line.receive count) world
  | next =>
    let taken := step bridge world next
    (taken.1.1, taken.2.2)

/-- A block releases the device as its work ends. -/
theorem released_step (bridge : Bridge) (world : World) {block : Step} (closes : block.closes) :
    let taken := step bridge world block
    Line.Released (inner bridge world block) taken.1.1 taken.2.2.device.isOpen := by
  cases block with
  | closingTransaction operations =>
      have released := Line.released_closing
        (Transaction.run bridge.releaseOnError (prepare world operations).1)
        (prepare world operations).2
      simp only [inner, step, step.many, result_silently]
      exact released.map fun _ => Value.null
  | closingCall data count => exact Line.released_closing _ world
  | _ => cases closes

/-- After any steps of a session a block closes the device: one around any work, and so a step that
is one. -/
theorem released_reached (bridge : Bridge) (world : World) (earlier : List Step) :
    let before := reach bridge world earlier
    (∀ (α : Type) (work : Action α),
      let left := (Line.closing work).result before.2
      Line.Released (work.result before.2) left.1 left.2.device.isOpen) ∧
    ∀ block : Step, block.closes → ∃ told,
      run bridge world (earlier ++ [block]) = run bridge world earlier ++ [told] ∧
        Line.Released (inner before.1 (fresh before.2) block) told.outcome
          told.observation.isOpen := by
  intro before
  refine ⟨fun α work => Line.released_closing work before.2, fun block closes => ?_⟩
  exact ⟨report before block, run_concat bridge world earlier block,
    released_step before.1 (fresh before.2) closes⟩

/-- A device is lost when its port is opened: a scripted device that opens and fails its first
flush. -/
def Loses (peer : Peer) (raised : Raised) : Prop :=
  ∃ script incoming fault, peer = .scripted script incoming ∧ script.onOpen = none ∧
    script.onFlush 0 = some fault ∧ raised = Line.ofHost fault.raised

/-- **Devices are closed by whoever owns them,** unless closing fails or nobody owns them yet. A
port that is refused yields no device; one that opens and then fails to flush leaves its device
open; and once a session has started every block closes the device and fails as its work does,
unless the device fails to close. -/
theorem closes_unless_unflushed (line : Line) (peer : Peer) (store : Store) (bridge : Bridge) :
    match start line peer store with
    | .refused raised => ∃ fault, peer.connect = .error fault ∧
        raised = Line.ofHostOpen line.port fault
    | .connected (.error raised) world => Loses peer raised ∧ world.device.isOpen
    | .connected (.ok _) world => ∀ earlier : List Step,
        let before := reach bridge world earlier
        (∀ (α : Type) (work : Action α),
          let left := (Line.closing work).result before.2
          Line.Released (work.result before.2) left.1 left.2.device.isOpen) ∧
        ∀ block : Step, block.closes → ∃ told,
          run bridge world (earlier ++ [block]) = run bridge world earlier ++ [told] ∧
            Line.Released (inner before.1 (fresh before.2) block) told.outcome
              told.observation.isOpen := by
  cases peer with
  | scripted script incoming =>
      cases planned : script.onOpen with
      | some fault =>
          rw [start_of_refused line incoming store planned]
          exact ⟨fault, by rw [Peer.connect, planned], rfl⟩
      | none =>
          -- The device is there now, and its first flush is all that can still go wrong.
          rw [start_of_opened line incoming store planned]
          simp only [Device.flush, ScriptedDevice.flush]
          cases first : script.onFlush 0 with
          | some fault => exact ⟨⟨script, incoming, fault, rfl, planned, first, rfl⟩, rfl⟩
          | none => exact released_reached bridge _
  | emulated behaviour => exact released_reached bridge _

/-- A device whose second write is interrupted from the keyboard. -/
def interrupted : Script where
  onOpen := none
  onWrite call := if call = 1 then some (.host .keyboardInterrupt []) else none
  onRead _ := .give none
  onFlush _ := none
  onClose _ := none

/-- The interruption of a transaction comes through the block around it, which has closed the
device. -/
theorem closes_interrupted :
    let line : Line := ⟨"COM1", Line.defaultBaudRate⟩
    let block : Step := .closingTransaction [.write (.fresh [7])]
    ∃ world, start line (.scripted interrupted []) [] = .connected (.ok ()) world ∧ ∃ told,
      run ⟨line, false⟩ world ([.send [1]] ++ [block]) =
          run ⟨line, false⟩ world [.send [1]] ++ [told] ∧
        told.outcome = .error (Failure.host .keyboardInterrupt []).raised ∧
          told.observation.isOpen = false := by
  intro line block
  refine ⟨_, rfl, ?_⟩
  obtain ⟨-, blocks⟩ :=
    closes_unless_unflushed line (.scripted interrupted []) [] ⟨line, false⟩ [.send [1]]
  obtain ⟨told, grown, released⟩ := blocks block rfl
  refine ⟨told, grown, ?_⟩
  cases released with
  | closed same shut => exact ⟨same.trans rfl, shut⟩
  | unclosed fault opened failed told => cases failed

/-- A device that opens, but is gone when it is flushed for the first time. -/
def unflushed : Script where
  onOpen := none
  onWrite _ := none
  onRead _ := .give none
  onFlush call := if call = 0 then some (.host .serial [.text "device disconnected"]) else none
  onClose _ := none

/-- The device stays open, though it could have been closed. -/
theorem left_open_unflushed :
    ∃ raised world,
      start ⟨"COM1", Line.defaultBaudRate⟩ (.scripted unflushed []) [] =
          .connected (.error raised) world ∧
        world.device.isOpen ∧ world.device.close.1 = .ok () := ⟨_, _, rfl, rfl, rfl⟩

end Session

end Hexwire
