import Hexwire.Proofs.Buffer.Binding
import Hexwire.Proofs.Transaction.Erasure

/-! # What anonymous buffers are called

Buffers of two stores may stand for each other, one to one (`Hexwire.Naming`). Views of buffers that
stand for each other show the same and are written alike (`Hexwire.Store.kept_renamed`), so it makes
no difference how many anonymous buffers were given away before one, which is what its name tells.
Operands that become views in two stores give views that stand for each other
(`Hexwire.Operation.bind_pair`).
-/

namespace Hexwire

/-- Buffers stand for each other one to one, those with names for themselves. -/
structure Naming (stands : BufferId → BufferId → Prop) : Prop where
  named : ∀ name, stands (.named name) (.named name)
  unique : ∀ {buffer buffer' other other'}, stands buffer buffer' → stands other other' →
    (buffer = other ↔ buffer' = other')

/-- Views of buffers that stand for each other, at the same place. -/
structure View.Stands (stands : BufferId → BufferId → Prop) (view view' : View) : Prop where
  buffer : stands view.buffer view'.buffer
  offset : view.offset = view'.offset
  size : view.size = view'.size

/-- Buffers that stand for each other have the same contents. -/
def Store.Renamed (stands : BufferId → BufferId → Prop) (store store' : Store) : Prop :=
  ∀ buffer buffer', stands buffer buffer' → store.contents buffer = store'.contents buffer'

namespace Store

variable {stands : BufferId → BufferId → Prop} {store store' : Store}

/-- Stores that agree up to names stay so through whatever views that stand for each other do. -/
theorem kept_renamed (naming : Naming stands) :
    Store.Kept (Store.Renamed stands) (View.Stands stands) where
  size same := same.size
  load renamed same := by
    rw [Store.load, Store.load, renamed _ _ same.buffer, same.offset, same.size]
  save data renamed same := by
    intro buffer buffer' stand
    rw [contents_save, contents_save, renamed _ _ stand, same.offset, same.size]
    exact if_congr (naming.unique stand same.buffer) rfl rfl

/-- Another buffer keeps its contents when one is allocated. -/
theorem contents_allocate_of_ne {buffer other : BufferId} (differ : other ≠ buffer)
    (store : Store) (data : Bytes) :
    (store.allocate buffer data).contents other = store.contents other := by
  unfold contents allocate
  rw [List.find?_append]
  cases store.find? (fun entry => decide (entry.1 = other)) with
  | some entry => rfl
  | none => simp [differ.symm]

/-- Buffers of two stores stand for each other, and none does that is still to be given away. -/
structure Standing (stands : BufferId → BufferId → Prop) (store store' : Store) : Prop where
  naming : Naming stands
  renamed : Renamed stands store store'
  tidy : store.Tidy
  tidy' : store'.Tidy
  given : ∀ {index buffer}, stands (.anonymous index) buffer → index < store.length
  given' : ∀ {index buffer}, stands buffer (.anonymous index) → index < store'.length

/-- Named buffers stand for themselves and no others do. -/
theorem standing_named (store : Store) :
    Standing (fun buffer buffer' => ∃ name, buffer = .named name ∧ buffer' = .named name)
      store.named store.named where
  naming := {
    named := fun name => ⟨name, rfl, rfl⟩
    unique := by
      intro _ _ _ _ stand stand'
      obtain ⟨name, rfl, rfl⟩ := stand
      obtain ⟨name', rfl, rfl⟩ := stand'
      exact Iff.rfl }
  renamed := by
    intro _ _ stand
    obtain ⟨name, rfl, rfl⟩ := stand
    rfl
  tidy := tidy_named store
  tidy' := tidy_named store
  given := by
    intro index buffer stand
    obtain ⟨name, same, -⟩ := stand
    cases same
  given' := by
    intro index buffer stand
    obtain ⟨name, -, same⟩ := stand
    cases same

namespace Standing

/-- The buffers that stand for each other already are not the next ones without a name. -/
theorem ne_new (standing : Standing stands store store') {buffer buffer' : BufferId}
    (stand : stands buffer buffer') :
    buffer ≠ .anonymous store.length ∧ buffer' ≠ .anonymous store'.length := by
  constructor
  · intro same
    subst same
    exact Nat.lt_irrefl _ (standing.given stand)
  · intro same
    subst same
    exact Nat.lt_irrefl _ (standing.given' stand)

/-- A buffer that is given away in one of the stores stands for none. -/
theorem allocate (standing : Standing stands store store') (data : Bytes) :
    Standing stands (store.allocate (.anonymous store.length) data) store' where
  naming := standing.naming
  renamed := by
    intro buffer buffer' stand
    rw [contents_allocate_of_ne (standing.ne_new stand).1]
    exact standing.renamed _ _ stand
  tidy := standing.tidy.allocate data
  tidy' := standing.tidy'
  given := by
    intro index buffer stand
    have bound := standing.given stand
    rw [Store.allocate, List.length_append, List.length_singleton]
    omega
  given' := standing.given'

/-- Buffers with the same octets that are given away in both stores stand for each other. -/
theorem allocate_pair (standing : Standing stands store store') (data : Bytes) :
    Standing (fun buffer buffer' => stands buffer buffer' ∨
        buffer = .anonymous store.length ∧ buffer' = .anonymous store'.length)
      (store.allocate (.anonymous store.length) data)
      (store'.allocate (.anonymous store'.length) data) where
  naming := {
    named := fun name => .inl (standing.naming.named name)
    unique := by
      intro buffer buffer' other other' stand stand'
      -- A new buffer is none of the old ones, in either store.
      rcases stand with stand | ⟨rfl, rfl⟩ <;> rcases stand' with stand' | ⟨rfl, rfl⟩
      · exact standing.naming.unique stand stand'
      · obtain ⟨differ, differ'⟩ := standing.ne_new stand
        exact iff_of_false differ differ'
      · obtain ⟨differ, differ'⟩ := standing.ne_new stand'
        exact iff_of_false differ.symm differ'.symm
      · exact iff_of_true rfl rfl }
  renamed := by
    intro buffer buffer' stand
    obtain stand | ⟨rfl, rfl⟩ := stand
    · obtain ⟨differ, differ'⟩ := standing.ne_new stand
      rw [contents_allocate_of_ne differ, contents_allocate_of_ne differ']
      exact standing.renamed _ _ stand
    · rw [standing.tidy.contents_allocate, standing.tidy'.contents_allocate]
  tidy := standing.tidy.allocate data
  tidy' := standing.tidy'.allocate data
  given := by
    intro index buffer stand
    rw [Store.allocate, List.length_append, List.length_singleton]
    obtain stand | ⟨same, -⟩ := stand
    · have bound := standing.given stand
      omega
    · cases same
      omega
  given' := by
    intro index buffer stand
    rw [Store.allocate, List.length_append, List.length_singleton]
    obtain stand | ⟨-, same⟩ := stand
    · have bound := standing.given' stand
      omega
    · cases same
      omega

/-- Named buffers have the same contents in both stores. -/
theorem contents_named (standing : Standing stands store store') (name : String) :
    store.contents (.named name) = store'.contents (.named name) :=
  standing.renamed _ _ (standing.naming.named name)

end Standing

end Store

namespace Operand

variable {stands : BufferId → BufferId → Prop} {store store' : Store}

open Store

/-- A named buffer keeps its contents while an operand becomes a view. -/
theorem contents_bind (store : Store) (index : Nat) (operand : Operand) (name : String) :
    (operand.bind store index).2.contents (.named name) = store.contents (.named name) := by
  cases operand with
  | fresh data => exact contents_allocate_of_ne (by simp) store data
  | whole _ => rfl
  | slice _ _ _ => rfl

/-- How long a view is depends on the named buffers only. -/
theorem size_bind (same : ∀ name, store.contents (.named name) = store'.contents (.named name))
    (index index' : Nat) (operand : Operand) :
    (operand.bind store index).1.size = (operand.bind store' index').1.size := by
  cases operand with
  | fresh data => rfl
  | whole name => simp only [bind, same]
  | slice name first last => simp only [bind, same]

/-- An operand that becomes a view in one of the stores only changes nothing that stands. -/
theorem bind_standing (standing : Standing stands store store') (operand : Operand) :
    Standing stands (operand.bind store store.length).2 store' := by
  cases operand with
  | fresh data => exact standing.allocate data
  | whole name => exact standing
  | slice name first last => exact standing

/-- An operand that becomes a view in both stores gives views that stand for each other. -/
theorem bind_pair (standing : Standing stands store store') (operand : Operand) :
    ∃ further, (∀ {buffer buffer'}, stands buffer buffer' → further buffer buffer') ∧
      Standing further (operand.bind store store.length).2 (operand.bind store' store'.length).2 ∧
        View.Stands further (operand.bind store store.length).1
          (operand.bind store' store'.length).1 := by
  cases operand with
  | fresh data =>
      exact ⟨_, .inl, standing.allocate_pair data, .inr ⟨rfl, rfl⟩, rfl, rfl⟩
  | whole name =>
      refine ⟨stands, id, standing, standing.naming.named name, ?_, ?_⟩
      · simp only [bind, standing.contents_named]
      · simp only [bind, standing.contents_named]
  | slice name first last =>
      refine ⟨stands, id, standing, standing.naming.named name, ?_, ?_⟩
      · simp only [bind, standing.contents_named]
      · simp only [bind, standing.contents_named]

end Operand

/-- Views stand for each other also when more buffers do. -/
theorem View.Stands.mono {stands further : BufferId → BufferId → Prop} {view view' : View}
    (same : View.Stands stands view view')
    (more : ∀ {buffer buffer'}, stands buffer buffer' → further buffer buffer') :
    View.Stands further view view' := ⟨more same.buffer, same.offset, same.size⟩

namespace Operation

variable {stands : BufferId → BufferId → Prop} {store store' : Store}

open Store

/-- Operations correspond also when more views do. -/
theorem Corresponds.mono {shows further : View → View → Prop} {operation other : Operation View}
    (corresponds : Corresponds shows operation other)
    (more : ∀ {view view'}, shows view view' → further view view') :
    Corresponds further operation other := by
  cases corresponds with
  | write same => exact .write (more same)
  | read same => exact .read (more same)
  | transfer same same' => exact .transfer (more same) (more same')
  | inPlace same => exact .inPlace (more same)
  | delay nanoseconds => exact .delay nanoseconds
  | unsupported value => exact .unsupported value

/-- Whether the operation would be idle with the named buffers as they are. -/
def isIdleIn (store : Store) (operation : Operation Operand) : Bool :=
  (operation.bind store).1.isIdle

/-- A named buffer keeps its contents while the operands of an operation become views. -/
theorem contents_bind (store : Store) (operation : Operation Operand) (name : String) :
    (operation.bind store).2.contents (.named name) = store.contents (.named name) := by
  cases operation with
  | write source => exact source.contents_bind store _ name
  | read target => exact target.contents_bind store _ name
  | transfer target source =>
      exact (source.contents_bind _ _ name).trans (target.contents_bind store _ name)
  | inPlace target => exact target.contents_bind store _ name
  | delay nanoseconds => rfl
  | unsupported value => rfl

/-- Whether an operation is idle depends on the named buffers alone. -/
theorem isIdleIn_congr (same : ∀ name, store.contents (.named name) = store'.contents (.named name))
    (operation : Operation Operand) : operation.isIdleIn store = operation.isIdleIn store' := by
  have sized (operand : Operand) := operand.size_bind same store.length store'.length
  cases operation with
  | write source => simp only [isIdleIn, bind, isIdle, sized source]
  | read target => simp only [isIdleIn, bind, isIdle, sized target]
  | transfer target source =>
      have later (name : String) :
          (target.bind store store.length).2.contents (.named name) =
            (target.bind store' store'.length).2.contents (.named name) := by
        rw [target.contents_bind, target.contents_bind, same]
      have sized' := source.size_bind later (target.bind store store.length).2.length
        (target.bind store' store'.length).2.length
      simp only [isIdleIn, bind, isIdle, sized target, sized']
  | inPlace target => simp only [isIdleIn, bind, isIdle, sized target]
  | delay nanoseconds => rfl
  | unsupported value => rfl

/-- What stands for each other does so still after the operands of an operation are bound in one
store. -/
theorem bind_standing (standing : Standing stands store store') (operation : Operation Operand) :
    Standing stands (operation.bind store).2 store' := by
  cases operation with
  | write source => exact source.bind_standing standing
  | read target => exact target.bind_standing standing
  | transfer target source => exact source.bind_standing (target.bind_standing standing)
  | inPlace target => exact target.bind_standing standing
  | delay nanoseconds => exact standing
  | unsupported value => exact standing

/-- An operation on operands becomes operations on views that stand for each other. -/
theorem bind_pair (standing : Standing stands store store') (operation : Operation Operand) :
    ∃ further, (∀ {buffer buffer'}, stands buffer buffer' → further buffer buffer') ∧
      Standing further (operation.bind store).2 (operation.bind store').2 ∧
        Corresponds (View.Stands further) (operation.bind store).1 (operation.bind store').1 := by
  cases operation with
  | write source =>
      obtain ⟨further, more, bound, same⟩ := source.bind_pair standing
      exact ⟨further, more, bound, .write same⟩
  | read target =>
      obtain ⟨further, more, bound, same⟩ := target.bind_pair standing
      exact ⟨further, more, bound, .read same⟩
  | transfer target source =>
      obtain ⟨middle, more, bound, same⟩ := target.bind_pair standing
      obtain ⟨further, more', bound', same'⟩ := source.bind_pair bound
      exact ⟨further, fun stand => more' (more stand), bound', .transfer (same.mono more') same'⟩
  | inPlace target =>
      obtain ⟨further, more, bound, same⟩ := target.bind_pair standing
      exact ⟨further, more, bound, .inPlace same⟩
  | delay nanoseconds => exact ⟨stands, id, standing, .delay nanoseconds⟩
  | unsupported value => exact ⟨stands, id, standing, .unsupported value⟩

end Operation

end Hexwire
