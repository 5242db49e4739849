import Hexwire.Proofs.Buffer.Binding
import Hexwire.Proofs.Exchange.Progress

/-! # Operations as exchanges

Every operation that is not refused is one exchange: it prepares the buffers, exchanges what it
sends, and stores what it received (`Hexwire.Operation.result_run`). The octets that it sends are
those of the buffers as they stand when it starts. From the dialogue of an exchange follows the
dialogue of an operation (`Hexwire.Operation.run_dialogue`): at most one frame is handed over, and
the target of an operation that succeeds holds the payload of the echo that was received.
-/

namespace Hexwire

/-- Every buffer is as long in one store as in another. -/
def Store.SameSizes (before after : Store) : Prop :=
  ∀ buffer, (after.contents buffer).length = (before.contents buffer).length

namespace Store.SameSizes

variable {before middle after : Store}

theorem refl (store : Store) : store.SameSizes store := fun _ => rfl

theorem trans (first : before.SameSizes middle) (second : middle.SameSizes after) :
    before.SameSizes after := fun buffer => (second buffer).trans (first buffer)

/-- Saving changes no sizes. -/
theorem save (store : Store) (view : View) (data : Bytes) :
    store.SameSizes (store.save view data) := Store.length_contents_save store view data

/-- A view lies within any store of the same sizes. -/
theorem within (same : before.SameSizes after) {view : View} (inside : view.Within before) :
    view.Within after := by
  unfold View.Within
  rw [same]
  exact inside

end Store.SameSizes

namespace Operation

/-- An operation lies within any store of the same sizes. -/
theorem Within.sameSizes {before after : Store} {operation : Operation View}
    (within : operation.Within before) (same : before.SameSizes after) : operation.Within after :=
  fun view member => same.within (within view member)

/-- The failure of a transfer between buffers that differ in length. -/
def unequal (target source : View) : Failure :=
  .ofBridge .invalidBufferLength (some ("Read buffer has " ++ toString target.size ++
    " bytes, write buffer has " ++ toString source.size ++ " bytes"))

/-- The failure of a value that is no operation. -/
def unknown (value : Value) : Failure :=
  .ofPackage .value ("Unsupported SPI operation: " ++ value.literal)

/-- Why an operation is refused before anything else happens: its buffers differ in length, or it
is no operation. -/
def refusal? : Operation View → Option Failure
  | transfer target source =>
    if target.size = source.size then none else some (unequal target source)
  | unsupported value => some (unknown value)
  | _ => none

/-- How many octets an operation exchanges. -/
def size : Operation View → Nat
  | write source => source.size
  | read target => target.size
  | transfer target _ => target.size
  | inPlace target => target.size
  | delay _ => 0
  | unsupported _ => 0

/-- The octets that an operation sends, of the buffers as they stand when it starts. -/
def outgoing (store : Store) : Operation View → Bytes
  | write source => store.load source
  | read target => List.replicate target.size 0
  | transfer _ source => store.load source
  | inPlace target => store.load target
  | delay _ => []
  | unsupported _ => []

/-- The frames that an operation hands over: one, if it is not refused and what it sends fits. -/
def frames (store : Store) (operation : Operation View) : List Bytes :=
  if operation.refusal?.isSome then [] else Exchange.frames (operation.outgoing store)

/-- The world in which an operation exchanges. A target is zeroed or takes a copy of the source
beforehand, and a delay pauses. -/
def begun (world : World) : Operation View → World
  | read target =>
    { world with store := world.store.save target (List.replicate target.size 0) }
  | transfer target source =>
    { world with store := world.store.save target (world.store.load source) }
  | delay _ => { world with sleeps := world.sleeps ++ [pause] }
  | _ => world

/-- The buffers in which an operation exchanges. -/
def prepared (store : Store) : Operation View → Store
  | read target => store.save target (List.replicate target.size 0)
  | transfer target source => store.save target (store.load source)
  | _ => store

/-- The store once received octets are in the target of an operation. -/
def stored (store : Store) (operation : Operation View) (received : Bytes) : Store :=
  match operation.target? with
  | some target => store.save target received
  | none => store

/-- Later operations of a list that lie within their buffers still do once the first has run. -/
theorem within_rest {before after : Store} {first : Operation View} {rest : List (Operation View)}
    (within : ∀ operation ∈ first :: rest, operation.Within before)
    (same : before.SameSizes after) : ∀ operation ∈ rest, operation.Within after :=
  fun operation member => (within operation (List.mem_cons_of_mem _ member)).sameSizes same

variable {world : World} {operation : Operation View}

/-- An operation begins with the buffers that are prepared for it. -/
theorem store_begun (operation : Operation View) (world : World) :
    (operation.begun world).store = operation.prepared world.store := by
  cases operation <;> rfl

/-- The two ways in which an operation is refused. -/
theorem refusal_cases {failure : Failure} (refused : operation.refusal? = some failure) :
    (∃ target source, operation = transfer target source ∧ target.size ≠ source.size ∧
      failure = unequal target source) ∨
      ∃ value, operation = unsupported value ∧ failure = unknown value := by
  cases operation with
  | transfer target source =>
      by_cases equal : target.size = source.size
      · simp [refusal?, equal] at refused
      · simp only [refusal?, equal, ↓reduceIte, Option.some.injEq] at refused
        exact .inl ⟨target, source, rfl, equal, refused.symm⟩
  | unsupported value => exact .inr ⟨value, rfl, (Option.some.inj refused).symm⟩
  | _ => cases refused

/-- The views of a transfer that is accepted have one size. -/
theorem size_eq_of_accepted {target source : View}
    (accepted : (transfer target source).refusal? = none) : target.size = source.size := by
  by_cases equal : target.size = source.size
  · exact equal
  · simp [refusal?, equal] at accepted

/-- An operation that is refused sends nothing. -/
theorem frames_of_refused {failure : Failure} (refused : operation.refusal? = some failure)
    (store : Store) : operation.frames store = [] := by
  simp only [frames, refused, Option.isSome_some, ↓reduceIte]

/-- An operation that is accepted sends the frames of what goes out. -/
theorem frames_of_accepted (accepted : operation.refusal? = none) (store : Store) :
    operation.frames store = Exchange.frames (operation.outgoing store) := by
  simp only [frames, accepted, Option.isSome_none, Bool.false_eq_true, ↓reduceIte]

/-- An operation that is refused fails at once. -/
theorem run_of_refused {failure : Failure} (refused : operation.refusal? = some failure) :
    operation.run = Action.fail failure := by
  obtain ⟨target, source, rfl, differ, rfl⟩ | ⟨value, rfl, rfl⟩ := refusal_cases refused
  · simp only [run, differ, ↓reduceIte, unequal]
  · rfl

/-- An exchange through a view sends what it holds and saves what is received. -/
theorem result_through (view : View) (world : World) :
    (Exchange.through view).result world =
      match (Exchange.payload (world.store.load view)).result world with
      | (.ok received, after) => (.ok (), { after with store := after.store.save view received })
      | (.error raised, after) => (.error raised, after) := by
  unfold Exchange.through
  rw [Action.result_bind_of_ok (Action.result_get _), Action.result_bind]
  rcases (Exchange.payload (world.store.load view)).result world with ⟨_ | _, after⟩ <;> rfl

/-- **An operation is one exchange** of what it sends, between the world that it prepares and the
store of what it received. -/
theorem result_run (accepted : operation.refusal? = none) (within : operation.Within world.store) :
    operation.run.result world =
      match (Exchange.payload (operation.outgoing world.store)).result (operation.begun world) with
      | (.ok received, after) =>
        (.ok (), { after with store := operation.stored after.store received })
      | (.error raised, after) => (.error raised, after) := by
  cases operation with
  | write source =>
      unfold run
      rw [Action.result_bind_of_ok (Action.result_get _), Action.result_bind]
      simp only [outgoing, begun]
      rcases (Exchange.payload (world.store.load source)).result world with ⟨_ | _, after⟩ <;> rfl
  | read target =>
      have inside := within target List.mem_cons_self
      unfold run fill
      rw [Action.result_bind_of_ok (Action.result_modify _ _), result_through,
        Store.load_save inside List.length_replicate]
      rfl
  | transfer target source =>
      have inside := within target List.mem_cons_self
      have loaded := (within source (List.mem_cons_of_mem _ List.mem_cons_self)).length_load
      have equal := size_eq_of_accepted accepted
      unfold run fill
      simp only [equal, ↓reduceIte]
      rw [Action.result_bind_of_ok (Action.result_get _),
        Action.result_bind_of_ok (Action.result_modify _ _), result_through,
        Store.load_save inside (loaded.trans equal.symm)]
      rfl
  | inPlace target => exact result_through target world
  | delay nanoseconds => rfl
  | unsupported value => cases accepted

/-- The beginning of an operation changes no sizes. -/
theorem sameSizes_begun (operation : Operation View) (world : World) :
    world.store.SameSizes (operation.begun world).store := by
  cases operation with
  | read target => exact Store.SameSizes.save _ _ _
  | transfer target source => exact Store.SameSizes.save _ _ _
  | _ => exact Store.SameSizes.refl _

/-- What an operation stores changes no sizes. -/
theorem sameSizes_stored (operation : Operation View) (store : Store) (received : Bytes) :
    store.SameSizes (operation.stored store received) := by
  unfold stored
  cases operation.target? with
  | none => exact Store.SameSizes.refl _
  | some target => exact Store.SameSizes.save _ _ _

/-- Preparing the buffers leaves the device and what was handed to it alone. -/
theorem begun_device (operation : Operation View) (world : World) :
    (operation.begun world).device = world.device ∧
      (operation.begun world).handed = world.handed := by
  cases operation <;> exact ⟨rfl, rfl⟩

/-- An operation that is accepted sends as many octets as its size says. -/
theorem Within.length_outgoing {store : Store} (within : operation.Within store)
    (accepted : operation.refusal? = none) :
    (operation.outgoing store).length = operation.size := by
  cases operation with
  | write source => exact (within source List.mem_cons_self).length_load
  | read target => exact List.length_replicate
  | transfer target source =>
      have loaded := (within source (List.mem_cons_of_mem _ List.mem_cons_self)).length_load
      exact loaded.trans (size_eq_of_accepted accepted).symm
  | inPlace target => exact (within target List.mem_cons_self).length_load
  | delay _ => rfl
  | unsupported _ => rfl

/-- The target of an operation that is not refused is as long as what it sends. -/
theorem size_target {target : View} (filled : operation.target? = some target) :
    target.size = operation.size ∧ target ∈ operation.operands := by
  cases operation <;> cases filled <;> exact ⟨rfl, List.mem_cons_self⟩

/-- An operation is refused with an ordinary failure. -/
theorem isOrdinary_of_refusal {failure : Failure} (refused : operation.refusal? = some failure) :
    failure.isOrdinary := by
  obtain ⟨target, source, -, -, rfl⟩ | ⟨value, -, rfl⟩ := refusal_cases refused
  · exact Failure.isOrdinary_ofBridge _ _
  · exact Failure.isOrdinary_ofPackage _ _

/-- **The dialogue of an operation.** It hands over its frame, if it has one; it keeps the lengths
of all buffers; and if it succeeds, its target holds what answered it. -/
theorem run_dialogue (opened : world.device.isOpen) (within : operation.Within world.store) :
    ∃ received outcome after, operation.run.result world = (outcome, after) ∧
      Dialogue world (operation.frames world.store) received outcome after ∧
        world.store.SameSizes after.store ∧
          (outcome = .ok () → operation.refusal? = none ∧ operation.size ≤ Frame.maxPayload ∧
            ∃ answer, Exchange.Answers operation.size received answer ∧
              ∀ target, operation.target? = some target → after.store.load target = answer) := by
  cases refused : operation.refusal? with
  | some failure =>
      rw [run_of_refused refused]
      refine ⟨[], _, _, rfl, ?_, Store.SameSizes.refl _, by rintro ⟨⟩⟩
      rw [frames_of_refused refused]
      exact Dialogue.refused _ (isOrdinary_of_refusal refused)
  | none =>
      have begun := operation.begun_device world
      have ready : (operation.begun world).device.isOpen := begun.1 ▸ opened
      have sized := within.length_outgoing refused
      obtain ⟨received, outcome, after, ran, talk, store, returned⟩ :=
        Exchange.payload_dialogue ready (operation.outgoing world.store)
      have heard : Dialogue world (operation.frames world.store) received outcome after := by
        rw [frames_of_accepted refused]
        refine ⟨?_, ?_, ?_⟩
        · rw [← begun.1]
          exact talk.talked
        · rw [← begun.2]
          exact talk.handed
        · rw [← begun.1]
          exact talk.ordinary
      have kept : world.store.SameSizes after.store := by
        rw [store]
        exact operation.sameSizes_begun world
      rw [result_run refused within, ran]
      cases outcome with
      | error raised => exact ⟨received, _, _, rfl, heard.stop, kept, by rintro ⟨⟩⟩
      | ok answer =>
          obtain ⟨fits, answers⟩ := returned answer rfl
          rw [sized] at fits answers
          refine ⟨received, _, _, rfl, heard.congr rfl rfl (by rintro - _ ⟨⟩),
            kept.trans (operation.sameSizes_stored _ _), fun _ => ⟨rfl, fits, answer, answers, ?_⟩⟩
          intro target filled
          obtain ⟨size, member⟩ := size_target filled
          simp only [stored, filled]
          exact Store.load_save (kept.within (within target member))
            (answers.length.trans size.symm)

/-- **Progress of an operation.** An operation that is not refused and whose octets fit succeeds
when what answers it is at the head of what is queued. It stores the answer and leaves the rest. -/
theorem run_succeeds (opened : world.device.isOpen) (within : operation.Within world.store)
    (accepted : operation.refusal? = none) (fits : operation.size ≤ Frame.maxPayload)
    (accepts : ∀ frame ∈ operation.frames world.store, world.device.Accepts frame)
    (prompt : world.device.Prompt) {received answer rest : Bytes}
    (answers : Exchange.Answers operation.size received answer)
    (queued : world.device.queue ++ world.device.answers (operation.frames world.store) =
      received ++ rest) :
    ∃ after, operation.run.result world = (.ok (), after) ∧
      after.store = operation.stored (operation.begun world).store answer ∧
        after.device.queue = rest ∧
          world.device.Took (operation.frames world.store) after.device := by
  have sized := within.length_outgoing accepted
  rw [frames_of_accepted accepted] at accepts queued ⊢
  rw [← sized] at fits answers
  rw [← (operation.begun_device world).1] at opened accepts prompt queued ⊢
  obtain ⟨after, ran, store, left, took⟩ :=
    Exchange.payload_succeeds opened fits accepts prompt answers queued
  rw [result_run accepted within, ran]
  exact ⟨_, rfl, by rw [store], left, took⟩

end Operation

end Hexwire
