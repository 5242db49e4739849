import Hexwire.Proofs.Action
import Hexwire.Transaction

/-! # Work run in two worlds

Two pieces of work are paired by a relation of worlds when from related worlds both end with the
same outcome and leave related worlds (`Hexwire.Action.Paired`). Pairs are put together as work is.
A relation that the calls of a line keep (`Hexwire.World.Kept`) therefore pairs operations on
buffers that correspond, and paired work stays paired in a transaction.
-/

namespace Hexwire

namespace Action

/-- From related worlds both pieces of work end the same way, and they leave related worlds. -/
def Paired {α : Type} (related : World → World → Prop) (action other : Action α) : Prop :=
  ∀ world world' : World, related world world' →
    (action.result world).1 = (other.result world').1 ∧
      related (action.result world).2 (other.result world').2

namespace Paired

variable {α β : Type} {related : World → World → Prop} {action other : Action α}
  {next next' : α → Action β}

theorem pure (value : α) : Paired related (Pure.pure value : Action α) (Pure.pure value) :=
  fun _ _ alike => ⟨rfl, alike⟩

theorem throw (raised : Raised) :
    Paired related (MonadExcept.throw raised : Action α) (MonadExcept.throw raised) :=
  fun _ _ alike => ⟨rfl, alike⟩

theorem fail (failure : Failure) :
    Paired related (Action.fail failure : Action α) (Action.fail failure) := throw _

/-- Changes that keep worlds related are paired. -/
theorem modify {change change' : World → World}
    (keeps : ∀ {world world'}, related world world' → related (change world) (change' world')) :
    Paired related (modify change : Action Unit) (modify change' : Action Unit) :=
  fun _ _ alike => ⟨rfl, keeps alike⟩

/-- Paired work may go on with paired work. -/
theorem bind (first : Paired related action other)
    (rest : ∀ value, Paired related (next value) (next' value)) :
    Paired related (action >>= next) (other >>= next') := by
  intro world world' alike
  obtain ⟨same, middle⟩ := first world world' alike
  rw [result_bind, result_bind]
  rcases ran : action.result world with ⟨raised | value, reached⟩
  all_goals
    rcases ran' : other.result world' with ⟨raised' | value', reached'⟩ <;>
      rw [ran, ran'] at same middle <;> cases same
  · exact ⟨rfl, middle⟩
  · exact rest value _ _ middle

/-- Work may depend on the world that it starts in. -/
theorem reading {next next' : World → Action α}
    (rest : ∀ {world world'}, related world world' → Paired related (next world) (next' world')) :
    Paired related (MonadState.get >>= next) (MonadState.get >>= next') := by
  intro world world' alike
  rw [result_bind_of_ok (result_get _), result_bind_of_ok (result_get _)]
  exact rest alike world world' alike

/-- Attempts at paired work are paired. -/
theorem attempt (paired : Paired related action other) :
    Paired related action.attempt other.attempt := by
  intro world world' alike
  obtain ⟨same, after⟩ := paired world world' alike
  rw [result_attempt, result_attempt, same]
  exact ⟨rfl, after⟩

/-- The same change of failures leaves work paired. -/
theorem adapt (paired : Paired related action other) (change : Raised → Raised) :
    Paired related (ExceptT.adapt change action : Action α) (ExceptT.adapt change other) := by
  intro world world' alike
  obtain ⟨same, after⟩ := paired world world' alike
  rw [result_adapt, result_adapt, same]
  exact ⟨rfl, after⟩

end Paired

end Action

open Hexwire.Action

/-- Two operations are of one kind, and their buffers correspond one by one. -/
inductive Operation.Corresponds (shows : View → View → Prop) :
    Operation View → Operation View → Prop where
  | write {source source' : View} (same : shows source source') :
      Corresponds shows (write source) (write source')
  | read {target target' : View} (same : shows target target') :
      Corresponds shows (read target) (read target')
  | transfer {target target' source source' : View} (same : shows target target')
      (same' : shows source source') :
      Corresponds shows (transfer target source) (transfer target' source')
  | inPlace {target target' : View} (same : shows target target') :
      Corresponds shows (inPlace target) (inPlace target')
  | delay (nanoseconds : Int) : Corresponds shows (delay nanoseconds) (delay nanoseconds)
  | unsupported (value : Value) : Corresponds shows (unsupported value) (unsupported value)

/-- Every operation corresponds to itself. -/
theorem Operation.corresponds_self (operation : Operation View) :
    Operation.Corresponds Eq operation operation := by
  cases operation <;> constructor <;> rfl

/-- In related worlds devices are as open as each other and corresponding views show the same, and
calls of the line, pauses, events and writes through corresponding views lead to related worlds. -/
structure World.Kept (related : World → World → Prop) (shows : View → View → Prop) : Prop where
  isOpen : ∀ {world world'}, related world world' → world.device.isOpen = world'.device.isOpen
  size : ∀ {view view'}, shows view view' → view.size = view'.size
  load : ∀ {world world' view view'}, related world world' → shows view view' →
    world.store.load view = world'.store.load view'
  save : ∀ {world world' view view'} (data : Bytes), related world world' → shows view view' →
    related { world with store := world.store.save view data }
      { world' with store := world'.store.save view' data }
  note : ∀ event, Paired related (Action.note event) (Action.note event)
  sleep : ∀ nanoseconds, Paired related (Action.sleep nanoseconds) (Action.sleep nanoseconds)
  write : ∀ data, Paired related (Action.write data) (Action.write data)
  flush : Paired related (Action.onDevice Device.flush) (Action.onDevice Device.flush)
  collect : ∀ count, Paired related (Line.collect count) (Line.collect count)

namespace World.Kept

variable {related : World → World → Prop} {shows : View → View → Prop}
  (kept : World.Kept related shows)

include kept

theorem requireOpen (description : String) :
    Paired related (Line.requireOpen description) (Line.requireOpen description) := by
  have opened : Paired related Line.isOpen Line.isOpen :=
    .reading fun alike => kept.isOpen alike ▸ .pure _
  refine opened.bind fun opened => ?_
  split
  · exact .pure _
  · exact .fail _

/-- Sending the same data is paired. -/
theorem send (data : Bytes) : Paired related (Line.send data) (Line.send data) :=
  (kept.requireOpen _).bind fun _ => (kept.note _).bind fun _ =>
    ((kept.write data).bind fun _ => kept.flush).adapt _

/-- Receiving the same count is paired. -/
theorem receive (count : Int) : Paired related (Line.receive count) (Line.receive count) := by
  refine (kept.requireOpen _).bind fun _ => ((kept.collect _).adapt _).bind fun data => ?_
  split
  · exact .fail _
  · exact (kept.note _).bind fun _ => .pure _

/-- The same command with the same answer is paired. -/
theorem command (request expected : Bytes) :
    Paired related (Line.command request expected) (Line.command request expected) := by
  refine (kept.send _).bind fun _ => (kept.receive _).bind fun answer => ?_
  split
  · exact .pure _
  · exact .fail _

/-- Toggles are paired. -/
theorem toggle : Paired related ChipSelect.toggle ChipSelect.toggle :=
  (kept.note _).bind fun _ => kept.command _ _

/-- Exchanges of the same payload are paired. -/
theorem payload (data : Bytes) :
    Paired related (Exchange.payload data) (Exchange.payload data) := by
  unfold Exchange.payload
  split
  · exact .pure _
  · split
    · exact .throw _
    · refine (kept.send _).bind fun _ => (kept.sleep _).bind fun _ =>
        (kept.receive _).bind fun echo => ?_
      split
      · exact .throw _
      · exact (kept.note _).bind fun _ => .pure _

/-- Filling views that show the same is paired. -/
theorem fill {view view' : View} (same : shows view view') (data : Bytes) :
    Paired related (Operation.fill view data) (Operation.fill view' data) :=
  .modify fun alike => kept.save data alike same

/-- Exchanges through views that show the same are paired. -/
theorem through {view view' : View} (same : shows view view') :
    Paired related (Exchange.through view) (Exchange.through view') := by
  refine .reading fun alike => ?_
  rw [kept.load alike same]
  exact (kept.payload _).bind fun received => kept.fill same received

/-- Corresponding operations end alike. -/
theorem run {operation other : Operation View}
    (corresponds : Operation.Corresponds shows operation other) :
    Paired related operation.run other.run := by
  cases corresponds with
  | write same =>
      refine .reading fun alike => ?_
      rw [kept.load alike same]
      exact (kept.payload _).bind fun _ => .pure _
  | read same =>
      rw [Operation.run, Operation.run, kept.size same]
      exact (kept.fill same _).bind fun _ => kept.through same
  | transfer same same' =>
      rw [Operation.run, Operation.run, kept.size same, kept.size same']
      split
      · refine .reading fun alike => ?_
        rw [kept.load alike same']
        exact (kept.fill same _).bind fun _ => kept.through same
      · exact .fail _
  | inPlace same => exact kept.through same
  | delay nanoseconds => exact kept.sleep Operation.pause
  | unsupported value => exact .fail _

/-- Releases are paired. -/
theorem release : Paired related Transaction.release Transaction.release := by
  refine kept.toggle.attempt.bind fun outcome => ?_
  cases outcome with
  | ok _ => exact .pure _
  | error raised =>
      dsimp only
      split
      · exact kept.note _
      · exact .throw _

/-- Paired work stays paired between two toggles. -/
theorem bracketed {α : Type} {work other : Action α} (paired : Paired related work other)
    (release : Bool) :
    Paired related (Transaction.bracketed release work) (Transaction.bracketed release other) := by
  refine kept.toggle.bind fun _ => paired.attempt.bind fun outcome => ?_
  cases outcome with
  | ok value => exact kept.toggle.bind fun _ => .pure _
  | error raised =>
      dsimp only
      split
      · exact kept.release.bind fun _ => .throw _
      · exact .throw _

end World.Kept

end Hexwire
