import Hexwire.Proofs.Exchange.Served
import Hexwire.Proofs.Transaction.Bracket

/-! # Transactions on an idle bridge

Operations have a meaning on the buffers alone also where the peripheral may fail: each is one
exchange with the peripheral (`Hexwire.Operation.serve`), up to the first that fails
(`Hexwire.Operation.serveAll`). On an open idle bridge that conforms, this is what they do. Whether
they fail or not, a transaction ends as they do and leaves the bridge idle, toggled twice, or once
if a failure keeps chip select from being toggled back (`Hexwire.Transaction.run_served_idle`).
-/

namespace Hexwire

namespace Operation

/-- **An operation without a line.** Unless it is refused, it prepares the buffers, exchanges what
it sends, and stores what comes in if the exchange does not fail. -/
def serve (peripheral : Peripheral) (store : Store) (operation : Operation View) :
    Except Raised Unit × Store :=
  match operation.refusal? with
  | some failure => (.error failure.raised, store)
  | none => match Exchange.serve peripheral (operation.outgoing store) with
    | .ok received => (.ok (), operation.stored (operation.prepared store) received)
    | .error raised => (.error raised, operation.prepared store)

/-- Operations without a line, in order, up to the first that fails. -/
def serveAll (peripheral : Peripheral) (store : Store) :
    List (Operation View) → Except Raised Unit × Store
  | [] => (.ok (), store)
  | first :: rest =>
    match first.serve peripheral store with
    | (.ok _, after) => serveAll peripheral after rest
    | (.error raised, after) => (.error raised, after)

variable {behaviour : Emulator.Behaviour} {world : World} {toggles : Nat} {store : Store}
  {raised : Raised}

/-- What a bridge that conforms fails to serve fails with an ordinary failure. -/
theorem isOrdinary_of_serve_error (conforms : behaviour.Conforms) {operation : Operation View}
    (failed : (operation.serve behaviour.clocks store).1 = .error raised) :
    raised.failure.isOrdinary := by
  unfold serve at failed
  cases refused : operation.refusal? with
  | some failure =>
      rw [refused] at failed
      cases failed
      exact isOrdinary_of_refusal refused
  | none =>
      rw [refused] at failed
      cases served : Exchange.serve behaviour.clocks (operation.outgoing store) with
      | ok received =>
          rw [served] at failed
          cases failed
      | error other =>
          rw [served] at failed
          cases failed
          exact Exchange.isOrdinary_of_serve_error conforms served

/-- Operations that a bridge that conforms fails to serve fail with an ordinary failure. -/
theorem isOrdinary_of_serveAll_error (conforms : behaviour.Conforms)
    {operations : List (Operation View)}
    (failed : (serveAll behaviour.clocks store operations).1 = .error raised) :
    raised.failure.isOrdinary := by
  induction operations generalizing store with
  | nil => cases failed
  | cons first rest ih =>
      rw [serveAll] at failed
      rcases served : first.serve behaviour.clocks store with ⟨other | ⟨⟩, after⟩
      · rw [served] at failed
        cases failed
        exact isOrdinary_of_serve_error conforms (congrArg Prod.fst served)
      · rw [served] at failed
        exact ih failed

/-- **An operation on an idle bridge is the operation without a line.** -/
theorem run_served_idle (conforms : behaviour.Conforms)
    (idle : world.device.Idle behaviour true toggles) {operation : Operation View}
    (within : operation.Within world.store) :
    operation.run.Leaves behaviour world (operation.serve behaviour.clocks world.store).1
      (operation.serve behaviour.clocks world.store).2 toggles := by
  unfold serve
  cases refused : operation.refusal? with
  | some failure =>
      rw [run_of_refused refused]
      exact ⟨world, rfl, rfl, idle⟩
  | none =>
      have ready : (operation.begun world).device.Idle behaviour true toggles :=
        (operation.begun_device world).1 ▸ idle
      obtain ⟨after, ran, store, left⟩ :=
        Exchange.payload_served conforms ready (operation.outgoing world.store)
      rw [store_begun] at store
      rw [Action.Leaves, result_run refused within, ran]
      cases Exchange.serve behaviour.clocks (operation.outgoing world.store) with
      | error raised => exact ⟨after, rfl, store, left⟩
      | ok received => exact ⟨_, rfl, congrArg (operation.stored · received) store, left⟩

/-- Operations on an idle bridge are the operations without a line. -/
theorem runAll_served_idle (conforms : behaviour.Conforms)
    (idle : world.device.Idle behaviour true toggles) {operations : List (Operation View)}
    (within : ∀ operation ∈ operations, operation.Within world.store) :
    (runAll operations).Leaves behaviour world
      (serveAll behaviour.clocks world.store operations).1
      (serveAll behaviour.clocks world.store operations).2 toggles := by
  induction operations generalizing world with
  | nil => exact ⟨world, rfl, rfl, idle⟩
  | cons first rest ih =>
      have inside := within first List.mem_cons_self
      obtain ⟨middle, ran, store, left⟩ := run_served_idle conforms idle inside
      obtain ⟨_, _, _, ran', -, kept, -⟩ := run_dialogue idle.isOpen_eq inside
      rw [ran] at ran'
      cases ran'
      rw [serveAll]
      rcases served : first.serve behaviour.clocks world.store with ⟨raised | ⟨⟩, reached⟩
      · rw [served] at ran store
        exact ⟨middle, result_runAll_cons_of_error ran rest, store, left⟩
      · rw [served] at ran store
        subst store
        obtain ⟨after, finished, rest⟩ := ih left (within_rest within kept)
        exact ⟨after, (result_runAll_cons_of_ok ran _).trans finished, rest⟩

end Operation

namespace Transaction

variable {behaviour : Emulator.Behaviour} {world : World} {toggles : Nat}

/-- How often chip select is toggled around work with the given outcome. -/
def togglings {α : Type} (release : Bool) : Except Raised α → Nat
  | .ok _ => 2
  | .error _ => if release then 2 else 1

/-- A change of the value leaves the count of toggles alone. -/
@[simp]
theorem togglings_map {α β : Type} (release : Bool) (change : α → β)
    (outcome : Except Raised α) :
    togglings release (outcome.map change) = togglings release outcome := by
  cases outcome <;> rfl

/-- The release of chip select succeeds on an idle bridge. -/
theorem release_idle (conforms : behaviour.Conforms)
    (idle : world.device.Idle behaviour true toggles) :
    Transaction.release.Leaves behaviour world (.ok ()) world.store (toggles + 1) := by
  obtain ⟨after, toggled, left⟩ := ChipSelect.toggle_idle conforms idle
  exact ⟨after, by rw [result_release, toggled], left⟩

/-- **Work between two toggles of an idle bridge** ends as the work does, and leaves the buffers to
it. -/
theorem bracketed_idle (conforms : behaviour.Conforms)
    (idle : world.device.Idle behaviour true toggles) (release : Bool)
    {α : Type} {work : Action α} {outcome : Except Raised α} {store : Store}
    (ordinary : ∀ raised, outcome = .error raised → raised.failure.isOrdinary)
    (works : ∀ selected : World, selected.store = world.store →
      selected.device.Idle behaviour true (toggles + 1) →
        work.Leaves behaviour selected outcome store (toggles + 1)) :
    (bracketed release work).Leaves behaviour world outcome store
      (toggles + togglings release outcome) := by
  obtain ⟨selected, toggled, same, selectedIdle⟩ := ChipSelect.toggle_idle conforms idle
  obtain ⟨finished, worked, left, finishedIdle⟩ := works selected same selectedIdle
  cases outcome with
  | ok value =>
      obtain ⟨after, closed, kept, afterIdle⟩ := ChipSelect.toggle_idle conforms finishedIdle
      rw [Action.Leaves, result_bracketed_of_ok toggled worked, closed]
      exact ⟨after, rfl, kept.trans left, afterIdle⟩
  | error raised =>
      -- The failure is ordinary, so nothing but the choice of the caller keeps chip select back.
      rw [Action.Leaves, result_bracketed_of_error toggled worked, ordinary raised rfl,
        Bool.and_true]
      cases release with
      | false => exact ⟨finished, rfl, left, finishedIdle⟩
      | true =>
          obtain ⟨after, freed, kept, afterIdle⟩ := release_idle conforms finishedIdle
          rw [if_pos rfl, freed]
          exact ⟨after, rfl, kept.trans left, afterIdle⟩

/-- **A transaction on an idle bridge** ends as its operations without a line do. -/
theorem run_served_idle (conforms : behaviour.Conforms)
    (idle : world.device.Idle behaviour true toggles) (release : Bool)
    {operations : List (Operation View)}
    (within : ∀ operation ∈ operations, operation.Within world.store) :
    let served := Operation.serveAll behaviour.clocks world.store operations
    (run release operations).Leaves behaviour world served.1 served.2
      (toggles + togglings release served.1) := by
  intro served
  refine bracketed_idle conforms idle release
    (fun raised failed => Operation.isOrdinary_of_serveAll_error conforms failed) ?_
  intro selected same selectedIdle
  have inside : ∀ operation ∈ operations, operation.Within selected.store := same ▸ within
  have worked := Operation.runAll_served_idle conforms selectedIdle inside
  rw [same] at worked
  exact worked

/-- The failure of an exchange in pieces of a size that no frame has. -/
def unfit (pieceSize : Int) : Failure :=
  .ofPackage .value ("Chunk size must be between 1 and " ++ toString Frame.maxPayload ++
    ", got " ++ toString pieceSize)

/-- An exchange of any size without a line, piece by piece, up to the first that fails. -/
def serveExchange (peripheral : Peripheral) (data : Bytes) (pieceSize : Int) :
    Except Raised Bytes :=
  if 0 < pieceSize ∧ pieceSize ≤ Frame.maxPayload then
    ((chunks pieceSize.toNat data).mapM (Exchange.serve peripheral)).map List.flatten
  else .error (unfit pieceSize).raised

/-- Pieces that a bridge that conforms fails to serve fail with an ordinary failure. -/
theorem isOrdinary_of_mapM_error (conforms : behaviour.Conforms) {pieces : List Bytes}
    {raised : Raised} (failed : pieces.mapM (Exchange.serve behaviour.clocks) = .error raised) :
    raised.failure.isOrdinary := by
  induction pieces with
  | nil => cases failed
  | cons first rest ih =>
      rw [List.mapM_cons] at failed
      cases served : Exchange.serve behaviour.clocks first with
      | error other =>
          rw [served] at failed
          cases failed
          exact Exchange.isOrdinary_of_serve_error conforms served
      | ok received =>
          rw [served] at failed
          cases others : rest.mapM (Exchange.serve behaviour.clocks) with
          | error other =>
              rw [others] at failed
              cases failed
              exact ih others
          | ok more =>
              rw [others] at failed
              cases failed

/-- Pieces on an idle bridge are exchanged as they are without a line. -/
theorem exchangeAll_idle (conforms : behaviour.Conforms)
    (idle : world.device.Idle behaviour true toggles) (pieces : List Bytes) :
    (exchangeAll pieces).Leaves behaviour world
      (pieces.mapM (Exchange.serve behaviour.clocks)) world.store toggles := by
  induction pieces generalizing world with
  | nil => exact ⟨world, rfl, rfl, idle⟩
  | cons first rest ih =>
      obtain ⟨middle, ran, same, left⟩ := Exchange.payload_served conforms idle first
      rw [List.mapM_cons, exchangeAll]
      cases served : Exchange.serve behaviour.clocks first with
      | error raised =>
          rw [served] at ran
          exact ⟨middle, Action.result_bind_of_error ran _, same, left⟩
      | ok received =>
          rw [served] at ran
          obtain ⟨after, finished, kept, afterIdle⟩ := ih left
          rw [Action.Leaves, Action.result_bind_of_ok ran]
          cases others : rest.mapM (Exchange.serve behaviour.clocks) with
          | error raised =>
              rw [others] at finished
              exact ⟨after, Action.result_bind_of_error finished _, kept.trans same, afterIdle⟩
          | ok more =>
              rw [others] at finished
              exact ⟨after, Action.result_bind_of_ok finished _, kept.trans same, afterIdle⟩

/-- **An exchange of any size on an idle bridge** is the exchange without a line. Chip select is not
toggled for pieces of a size that no frame has. -/
theorem exchange_idle (conforms : behaviour.Conforms)
    (idle : world.device.Idle behaviour true toggles) (release : Bool) (data : Bytes)
    (pieceSize : Int) :
    let served := serveExchange behaviour.clocks data pieceSize
    (exchange release data pieceSize).Leaves behaviour world served world.store
      (toggles + if 0 < pieceSize ∧ pieceSize ≤ Frame.maxPayload then togglings release served
        else 0) := by
  intro served
  unfold exchange
  by_cases fits : 0 < pieceSize ∧ pieceSize ≤ Frame.maxPayload
  · have noted : { world with events := world.events ++
        [Event.exchanging data.length (chunks pieceSize.toNat data).length] }.device.Idle
          behaviour true toggles := idle
    obtain ⟨after, ran, kept, left⟩ := bracketed_idle conforms noted release
      (fun raised failed => isOrdinary_of_mapM_error conforms failed)
      (fun selected same selectedIdle =>
        same ▸ exchangeAll_idle conforms selectedIdle (chunks pieceSize.toNat data))
    simp only [served, serveExchange, if_pos fits]
    rw [Action.Leaves, Action.result_bind_of_ok (Action.result_note _ _)]
    cases exchanged : (chunks pieceSize.toNat data).mapM (Exchange.serve behaviour.clocks) with
    | error raised =>
        rw [exchanged] at ran left
        exact ⟨after, Action.result_bind_of_error ran _, kept, left⟩
    | ok received =>
        rw [exchanged] at ran left
        exact ⟨after, Action.result_bind_of_ok ran _, kept, left⟩
  · simp only [served, serveExchange, if_neg fits]
    exact ⟨world, rfl, rfl, idle⟩

end Transaction

end Hexwire
