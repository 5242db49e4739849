import Hexwire.Proofs.Buffer.Overlay
import Hexwire.Session

/-! # Operands as views

At the start of a step operands become views. A buffer that already exists keeps its contents, an
operand with octets of its own gets a buffer of its own, and every view lies within its buffer when
the step runs (`Hexwire.Session.prepare_within`).
-/

namespace Hexwire

namespace Store

/-- No anonymous buffer has an index that is still to be given away. -/
def Tidy (store : Store) : Prop :=
  ∀ entry ∈ store, ∀ index, entry.1 = .anonymous index → index < store.length

/-- Named buffers are tidy on their own. -/
theorem tidy_named (store : Store) : store.named.Tidy := by
  intro entry member index anonymous
  have named := (List.mem_filter.mp member).2
  rcases entry with ⟨buffer, contents⟩
  dsimp only at anonymous
  subst anonymous
  cases named

/-- A tidy store stays tidy when it gets the next buffer without a name. -/
theorem Tidy.allocate {store : Store} (tidy : store.Tidy) (data : Bytes) :
    (store.allocate (.anonymous store.length) data).Tidy := by
  intro entry member index anonymous
  simp only [Store.allocate, List.length_append, List.length_singleton]
  rcases List.mem_append.mp member with old | new
  · have bounded := tidy entry old index anonymous
    omega
  · rw [List.mem_singleton] at new
    subst new
    cases anonymous
    exact Nat.lt_succ_self _

/-- Buffers that come later do not shorten one that exists. -/
theorem length_contents_le {store later : Store} (grown : store <+: later) (buffer : BufferId) :
    (store.contents buffer).length ≤ (later.contents buffer).length := by
  obtain ⟨extra, rfl⟩ := grown
  unfold contents
  rw [List.find?_append]
  cases store.find? (fun entry => decide (entry.1 = buffer)) with
  | none => exact Nat.zero_le _
  | some entry => exact Nat.le_refl _

/-- A new buffer holds what it was allocated for. -/
theorem Tidy.contents_allocate {store : Store} (tidy : store.Tidy) (data : Bytes) :
    (store.allocate (.anonymous store.length) data).contents (.anonymous store.length) = data := by
  have absent : store.find? (fun entry => decide (entry.1 = .anonymous store.length)) = none := by
    rw [List.find?_eq_none]
    intro entry member same
    exact Nat.lt_irrefl _ (tidy entry member _ (of_decide_eq_true same))
  unfold contents Store.allocate
  rw [List.find?_append, absent]
  simp

end Store

/-- A view remains within a store that grows at its end. -/
theorem View.Within.mono {store later : Store} {view : View} (within : view.Within store)
    (grown : store <+: later) : view.Within later :=
  Nat.le_trans within (Store.length_contents_le grown _)

namespace Operand

/-- A slice lies within its buffer, whatever its bounds. -/
theorem sliceView_within (store : Store) (buffer : BufferId) (first last : Option Int) :
    (sliceView buffer (store.contents buffer).length first last).Within store := by
  have small := cutPosition_le (store.contents buffer).length
  rcases first with _ | first <;> rcases last with _ | last <;>
    simp only [View.Within, sliceView]
  · omega
  · have stop := small last
    omega
  · have start := small first
    omega
  · have start := small first
    have stop := small last
    omega

/-- The view of an operand lies within its buffer, and the buffers that existed are still there. -/
theorem bind_within {store : Store} (tidy : store.Tidy) (operand : Operand) :
    (operand.bind store store.length).1.Within (operand.bind store store.length).2 ∧
      store <+: (operand.bind store store.length).2 ∧
        (operand.bind store store.length).2.Tidy := by
  cases operand with
  | fresh data =>
      refine ⟨?_, List.prefix_append _ _, tidy.allocate data⟩
      simp only [bind, View.Within, tidy.contents_allocate, Nat.zero_add, Nat.le_refl]
  | whole name => exact ⟨sliceView_within _ _ _ _, List.prefix_refl _, tidy⟩
  | slice name first last => exact ⟨sliceView_within _ _ _ _, List.prefix_refl _, tidy⟩

end Operand

namespace Operation

/-- The operands of an operation. -/
def operands {α : Type} : Operation α → List α
  | write source => [source]
  | read target => [target]
  | transfer target source => [target, source]
  | inPlace target => [target]
  | delay _ => []
  | unsupported _ => []

/-- All views of an operation lie within their buffers. -/
def Within (store : Store) (operation : Operation View) : Prop :=
  ∀ view ∈ operation.operands, view.Within store

/-- An operation remains within a store that grows at its end. -/
theorem Within.mono {store later : Store} {operation : Operation View}
    (within : operation.Within store) (grown : store <+: later) : operation.Within later :=
  fun view member => (within view member).mono grown

/-- Operands become views within a store that has only grown. -/
theorem bind_within {store : Store} (tidy : store.Tidy) (operation : Operation Operand) :
    (operation.bind store).1.Within (operation.bind store).2 ∧
      store <+: (operation.bind store).2 ∧ (operation.bind store).2.Tidy := by
  cases operation with
  | write source =>
      obtain ⟨within, grown, later⟩ := Operand.bind_within tidy source
      exact ⟨List.forall_mem_singleton.mpr within, grown, later⟩
  | read target =>
      obtain ⟨within, grown, later⟩ := Operand.bind_within tidy target
      exact ⟨List.forall_mem_singleton.mpr within, grown, later⟩
  | transfer target source =>
      obtain ⟨within, grown, middle⟩ := Operand.bind_within tidy target
      obtain ⟨within', grown', later⟩ := Operand.bind_within middle source
      refine ⟨?_, grown.trans grown', later⟩
      exact List.forall_mem_cons.mpr
        ⟨within.mono grown', List.forall_mem_singleton.mpr within'⟩
  | inPlace target =>
      obtain ⟨within, grown, later⟩ := Operand.bind_within tidy target
      exact ⟨List.forall_mem_singleton.mpr within, grown, later⟩
  | delay nanoseconds => exact ⟨List.forall_mem_nil _, List.prefix_refl _, tidy⟩
  | unsupported value => exact ⟨List.forall_mem_nil _, List.prefix_refl _, tidy⟩

/-- The operands of all operations become views within a store that has only grown. -/
theorem bindAll_within {store : Store} (tidy : store.Tidy)
    (operations : List (Operation Operand)) :
    (∀ operation ∈ (bindAll store operations).1,
      operation.Within (bindAll store operations).2) ∧
        store <+: (bindAll store operations).2 := by
  induction operations generalizing store with
  | nil => exact ⟨List.forall_mem_nil _, List.prefix_refl _⟩
  | cons first rest ih =>
      obtain ⟨within, grown, middle⟩ := first.bind_within tidy
      obtain ⟨others, grown'⟩ := ih middle
      exact ⟨List.forall_mem_cons.mpr ⟨within.mono grown', others⟩, grown.trans grown'⟩

end Operation

/-- **Views of a step.** When the operations of a step run, all their views lie within their
buffers. -/
theorem Session.prepare_within (world : World) (operations : List (Operation Operand)) :
    ∀ operation ∈ (prepare (fresh world) operations).1,
      operation.Within (prepare (fresh world) operations).2.store :=
  (Operation.bindAll_within (Store.tidy_named world.store) operations).1

end Hexwire
