import Hexwire.Proofs.Session.Closed

/-! # Sessions on an idle bridge

Between the steps of a session an emulated bridge that conforms is idle: whatever steps a caller has
taken, and however these ended, nothing is queued that a later step could mistake for its answer. A
step on an open line therefore ends as it does without a line (`Hexwire.Step.serve`), which is a
matter of its operands, the buffers and the peripheral only, and chip select is toggled as often as
the kind and the end of the step say (`Hexwire.Step.togglings`). One step keeps the bridge idle
(`Hexwire.Session.step_idle`), and so does a session (`Hexwire.Session.stays_accounted`).
-/

namespace Hexwire

namespace Step

/-- The steps that leave to the bridge what is sent and received. -/
def isBridged : Step → Bool
  | toggle | exchangeFrame _ | single _ | transaction _ | exchange _ _ => true
  | close | reopen | setRelease _ => true
  | _ => false

/-- Operations on operands without a line. -/
def serveOperations (peripheral : Peripheral) (store : Store)
    (operations : List (Operation Operand)) : Except Raised Value × Store :=
  let (views, bound) := Operation.bindAll store operations
  let (outcome, after) := Operation.serveAll peripheral bound views
  (outcome.map fun _ => .null, after)

/-- **A step without a line:** its outcome and the buffers after it, of its operands, the buffers
before it and the peripheral. -/
def serve (peripheral : Peripheral) (store : Store) : Step → Except Raised Value × Store
  | exchangeFrame target =>
    let (view, bound) := target.bind store store.length
    match Exchange.serve peripheral (bound.load view) with
    | .ok received => (.ok .null, bound.save view received)
    | .error raised => (.error raised, bound)
  | single operation => serveOperations peripheral store [operation]
  | transaction operations => serveOperations peripheral store operations
  | exchange source pieceSize =>
    let (view, bound) := source.bind store store.length
    ((Transaction.serveExchange peripheral (bound.load view) pieceSize).map .bytes, bound)
  | _ => (.ok .null, store)

/-- How often a step with the given outcome toggles chip select on an open line. -/
def togglings (release : Bool) (outcome : Except Raised Value) : Step → Nat
  | toggle => 1
  | single _ => Transaction.togglings release outcome
  | transaction _ => Transaction.togglings release outcome
  | exchange _ pieceSize =>
    if 0 < pieceSize ∧ pieceSize ≤ Frame.maxPayload then Transaction.togglings release outcome
    else 0
  | _ => 0

/-- Whether the line is open after a step. -/
def leavesOpen (isOpen : Bool) : Step → Bool
  | close => false
  | reopen => true
  | _ => isOpen

end Step

namespace Session

variable {behaviour : Emulator.Behaviour} {world : World} {toggles : Nat}

/-- Operations of a step on an idle bridge are the operations without a line. -/
theorem run_prepared (conforms : behaviour.Conforms)
    (idle : world.device.Idle behaviour true toggles) (tidy : world.store.Tidy) (release : Bool)
    (operations : List (Operation Operand)) :
    let prepared := prepare world operations
    let served := Step.serveOperations behaviour.clocks world.store operations
    (silently (Transaction.run release prepared.1)).Leaves behaviour prepared.2 served.1 served.2
      (toggles + Transaction.togglings release served.1) := by
  intro prepared served
  have within : ∀ operation ∈ prepared.1, operation.Within prepared.2.store :=
    (Operation.bindAll_within tidy operations).1
  -- Preparing changes the buffers only.
  have ready : prepared.2.device.Idle behaviour true toggles := idle
  obtain ⟨after, ran, store, left⟩ := Transaction.run_served_idle conforms ready release within
  rw [Action.Leaves, result_silently, ran]
  refine ⟨after, rfl, store, ?_⟩
  simp only [served, Step.serveOperations, Transaction.togglings_map]
  exact left

/-- **A step on an open line** ends as it does without a line and leaves the bridge idle. -/
theorem step_open (conforms : behaviour.Conforms)
    (idle : world.device.Idle behaviour true toggles) (tidy : world.store.Tidy) (bridge : Bridge)
    {next : Step} (bridged : next.isBridged) :
    let taken := step bridge world next
    (taken.1.1, taken.2.2.store) = next.serve behaviour.clocks world.store ∧
      taken.2.2.device.Idle behaviour (next.leavesOpen true)
        (toggles + next.togglings bridge.releaseOnError taken.1.1) := by
  cases next with
  | toggle =>
      obtain ⟨after, ran, store, left⟩ := ChipSelect.toggle_idle conforms idle
      simp only [step, step.plain, result_silently, ran]
      exact ⟨Prod.ext rfl store, left⟩
  | exchangeFrame target =>
      rcases bound : target.bind world.store world.store.length with ⟨view, buffers⟩
      have ready : { world with store := buffers }.device.Idle behaviour true toggles := idle
      obtain ⟨after, ran, store, left⟩ :=
        Exchange.payload_served conforms ready (buffers.load view)
      simp only [step, bound, result_silently, Operation.result_through, ran, Step.serve]
      cases Exchange.serve behaviour.clocks (buffers.load view) with
      | error raised => exact ⟨Prod.ext rfl store, left⟩
      | ok received => exact ⟨Prod.ext rfl (congrArg (Store.save · view received) store), left⟩
  | single operation =>
      obtain ⟨after, ran, store, left⟩ :=
        run_prepared conforms idle tidy bridge.releaseOnError [operation]
      simp only [step, ran]
      exact ⟨Prod.ext rfl store, left⟩
  | transaction operations =>
      obtain ⟨after, ran, store, left⟩ :=
        run_prepared conforms idle tidy bridge.releaseOnError operations
      simp only [step, step.many, ran]
      exact ⟨Prod.ext rfl store, left⟩
  | exchange source pieceSize =>
      rcases bound : source.bind world.store world.store.length with ⟨view, buffers⟩
      have ready : { world with store := buffers }.device.Idle behaviour true toggles := idle
      obtain ⟨after, ran, store, left⟩ := Transaction.exchange_idle conforms ready
        bridge.releaseOnError (buffers.load view) pieceSize
      simp only [step, bound, step.plain, Step.serve]
      rw [Action.result_bind_of_ok (Action.result_get _), Action.result_map, ran]
      simp only [Step.togglings, Transaction.togglings_map]
      exact ⟨Prod.ext rfl store, left⟩
  | close =>
      obtain ⟨closed, left⟩ := idle.close
      simp only [step, step.plain, result_silently, Line.result_close, idle.isOpen_eq, ↓reduceIte,
        closed]
      exact ⟨rfl, left⟩
  | reopen => exact ⟨rfl, idle.reopen⟩
  | setRelease release => exact ⟨rfl, idle⟩
  | _ => cases bridged

/-- **A step on a closed line** does not reach the bridge, unless it opens the line. -/
theorem step_closed (idle : world.device.Idle behaviour false toggles) (bridge : Bridge)
    {next : Step} (bridged : next.isBridged) :
    (step bridge world next).2.2.device.Idle behaviour (next.leavesOpen false) toggles := by
  have closed : ¬ world.device.isOpen := by
    rw [idle.isOpen_eq]
    exact Bool.false_ne_true
  by_cases opens : next = .reopen
  · subst opens
    exact idle.reopen
  · have unfed : next.fed = [] := by
      cases next with
      | feed data => cases bridged
      | _ => rfl
    have stays : next.leavesOpen false = false := by
      cases next with
      | reopen => exact absurd rfl opens
      | _ => rfl
    rw [stays, (step_stalled closed bridge opens).device, unfed, Device.feed_nil]
    exact idle

/-- **A step keeps the bridge idle,** on an open line or a closed one. -/
theorem step_idle (conforms : behaviour.Conforms) {isOpen : Bool}
    (idle : world.device.Idle behaviour isOpen toggles) (tidy : world.store.Tidy) (bridge : Bridge)
    {next : Step} (bridged : next.isBridged) :
    let taken := step bridge world next
    taken.2.2.device.Idle behaviour (next.leavesOpen isOpen)
      (toggles + if isOpen then next.togglings bridge.releaseOnError taken.1.1 else 0) := by
  cases isOpen with
  | true => exact (step_open conforms idle tidy bridge bridged).2
  | false => exact step_closed idle bridge bridged

/-- The bridge and the world that steps of a session lead to. -/
def reach (bridge : Bridge) (world : World) : List Step → Bridge × World
  | [] => (bridge, world)
  | first :: rest =>
    let (_, bridge, after) := step bridge (fresh world) first
    reach bridge after rest

/-- A session goes on from where its earlier steps have led. -/
theorem run_append (bridge : Bridge) (world : World) (earlier later : List Step) :
    run bridge world (earlier ++ later) =
      run bridge world earlier ++
        run (reach bridge world earlier).1 (reach bridge world earlier).2 later := by
  induction earlier generalizing bridge world with
  | nil => rfl
  | cons first rest ih =>
      simp only [List.cons_append, run, reach]
      exact congrArg _ (ih _ _)

/-- The report of a step that starts with a bridge and a world. -/
def report (before : Bridge × World) (next : Step) : Report :=
  let taken := step before.1 (fresh before.2) next
  ⟨taken.1.1, taken.1.2, observe taken.2.2 before.2.device.written.length⟩

/-- The reports of more steps follow those of the steps before. -/
theorem run_concat (bridge : Bridge) (world : World) (earlier : List Step) (next : Step) :
    run bridge world (earlier ++ [next]) =
      run bridge world earlier ++ [report (reach bridge world earlier) next] :=
  run_append bridge world earlier [next]

/-- **Steps of a session keep the bridge idle,** however they end. -/
theorem reach_idle (conforms : behaviour.Conforms) {isOpen : Bool}
    (idle : world.device.Idle behaviour isOpen toggles) (bridge : Bridge) {steps : List Step}
    (bridged : ∀ next ∈ steps, next.isBridged) :
    ∃ isOpen toggles, (reach bridge world steps).2.device.Idle behaviour isOpen toggles := by
  induction steps generalizing bridge world isOpen toggles with
  | nil => exact ⟨isOpen, toggles, idle⟩
  | cons first rest ih =>
      obtain ⟨now, others⟩ := List.forall_mem_cons.mp bridged
      -- A step starts with tidy buffers, whatever those before it have left.
      have ready : (fresh world).device.Idle behaviour isOpen toggles := idle
      exact ih (step_idle conforms ready (Store.tidy_named world.store) bridge now) _ others

/-- An emulated bridge is opened and idle. -/
theorem start_emulated (line : Line) (behaviour : Emulator.Behaviour) (store : Store) :
    ∃ world, start line (.emulated behaviour) store = .connected (.ok ()) world ∧
      world.device.Idle behaviour true 0 :=
  ⟨_, rfl, _, rfl, rfl, rfl, rfl, rfl⟩

/-- On an idle device nothing is pending, and toggles are counted. -/
theorem observe_idle {isOpen : Bool} (idle : world.device.Idle behaviour isOpen toggles)
    (writesBefore : Nat) :
    (observe world writesBefore).pending = 0 ∧
      (observe world writesBefore).chipSelect.map Prod.snd = some toggles := by
  refine ⟨congrArg List.length idle.queue, ?_⟩
  obtain ⟨e, emulated, -, -, rfl, -⟩ := idle
  simp only [observe, emulated, Option.map_some]

/-- What the report of a step tells, where the step starts with a bridge and a world. -/
structure Accounted (peripheral : Peripheral) (before : Bridge × World) (next : Step)
    (told : Report) : Prop where
  /-- Nothing is queued after the step. -/
  answered : told.observation.pending = 0
  /-- On an open line the step has the outcome that it has without a line, and leaves the same
  buffers. -/
  served : before.2.device.isOpen →
    told.outcome = (next.serve peripheral before.2.store.named).1 ∧
      told.observation.buffers = namedBuffers (next.serve peripheral before.2.store.named).2
  /-- Chip select was toggled on an open line only, as the kind and the end of the step say. -/
  counted : told.observation.chipSelect.map Prod.snd = some (before.2.device.toggles +
    if before.2.device.isOpen then next.togglings before.1.releaseOnError told.outcome else 0)

/-- A step on an idle device is accounted for. -/
theorem accounted_of_idle (conforms : behaviour.Conforms) {isOpen : Bool} {before : Bridge × World}
    (idle : before.2.device.Idle behaviour isOpen toggles) {next : Step}
    (bridged : next.isBridged) :
    Accounted behaviour.clocks before next (report before next) := by
  have ready : (fresh before.2).device.Idle behaviour isOpen toggles := idle
  have tidy := Store.tidy_named before.2.store
  obtain ⟨pending, chipSelect⟩ := observe_idle (step_idle conforms ready tidy before.1 bridged)
    before.2.device.written.length
  refine ⟨pending, fun opened => ?_, ?_⟩
  · rw [idle.isOpen_eq] at opened
    subst opened
    obtain ⟨served, -⟩ := step_open conforms ready tidy before.1 bridged
    exact ⟨congrArg Prod.fst served, congrArg namedBuffers (congrArg Prod.snd served)⟩
  · rw [idle.toggles_eq, idle.isOpen_eq]
    exact chipSelect

/-- **Failures do not spoil what follows.** In a session on an emulated bridge that conforms, every
step leaves nothing queued, ends on an open line as it does without one, and toggles chip select as
often as its kind and its end say, whatever steps were taken before it and however they ended. -/
theorem stays_accounted (line : Line) (behaviour : Emulator.Behaviour) (store : Store)
    (bridge : Bridge) (conforms : behaviour.Conforms) :
    ∃ world, start line (.emulated behaviour) store = .connected (.ok ()) world ∧
      ∀ (earlier : List Step) (next : Step), (∀ step ∈ earlier, step.isBridged) →
        next.isBridged → ∃ told,
          run bridge world (earlier ++ [next]) = run bridge world earlier ++ [told] ∧
            Accounted behaviour.clocks (reach bridge world earlier) next told := by
  obtain ⟨world, started, idle⟩ := start_emulated line behaviour store
  refine ⟨world, started, fun earlier next before now => ?_⟩
  obtain ⟨isOpen, toggles, reached⟩ := reach_idle conforms idle bridge before
  exact ⟨_, run_concat bridge world earlier next, accounted_of_idle conforms reached now⟩

/-- A bridge in front of a peripheral that reverses payloads and fails at those with a zero. -/
def picky : Emulator.Behaviour where
  peripheral := some fun payload =>
    if payload.contains 0 then .error (.host .runtime []) else .ok payload.reverse
  echoTerminator := Frame.lineTerminator

/-- The bridge in front of the picky peripheral conforms. -/
theorem conforms_picky : picky.Conforms := by
  refine ⟨rfl, .inr rfl, ?_, ?_⟩
  · intro payload response clocked
    simp only [picky, Emulator.Behaviour.clocks] at clocked
    split at clocked
    · cases clocked
    · cases clocked
      exact List.length_reverse
  · intro payload failure failed
    simp only [picky, Emulator.Behaviour.clocks] at failed
    split at failed
    · cases failed
      rfl
    · cases failed

/-- A transaction whose second operation fails, and on the line opened again a read that fails once
chip select is released after failures. -/
def troubled : List Step :=
  [.transaction [.inPlace (.whole "a"), .read (.slice "a" (some 2) none)], .close, .reopen,
    .setRelease true, .single (.read (.fresh [7]))]

/-- The transfer that follows succeeds and toggles chip select for the fourth and the fifth time. -/
theorem accounted_troubled :
    let line : Line := ⟨"COM1", Line.defaultBaudRate⟩
    let next : Step := .single (.inPlace (.slice "a" none (some 2)))
    ∃ world, start line (.emulated picky) [(.named "a", [1, 2, 3])] = .connected (.ok ()) world ∧
      ∃ told, run ⟨line, false⟩ world (troubled ++ [next]) =
          run ⟨line, false⟩ world troubled ++ [told] ∧
        told.outcome = .ok .null ∧ told.observation.pending = 0 ∧
          told.observation.buffers = [("a", [2, 3, 0])] ∧
            told.observation.chipSelect.map Prod.snd = some 5 := by
  intro line next
  obtain ⟨world, started, accounts⟩ := stays_accounted line picky [(.named "a", [1, 2, 3])]
    ⟨line, false⟩ conforms_picky
  obtain ⟨told, grown, accounted⟩ :=
    accounts troubled next (by simp [troubled, Step.isBridged]) rfl
  refine ⟨world, started, told, grown, ?_⟩
  cases started
  obtain ⟨outcome, buffers⟩ := accounted.served (by decide +kernel)
  have counted := accounted.counted
  rw [outcome] at counted
  refine ⟨outcome.trans ?_, accounted.answered, buffers.trans ?_, counted.trans ?_⟩
  · decide +kernel
  · decide +kernel
  · decide +kernel

end Session

end Hexwire
