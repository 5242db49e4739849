import Hexwire.Proofs.Buffer.Overlay

/-! # What writes leave alone

A view covers the octets of one buffer at the positions that it shows. A write through a view
changes no octet that the view does not cover (`Hexwire.Store.SameOutside.save`), so a view that is
apart from all views written through shows what it showed before
(`Hexwire.Store.SameOutside.load`).
-/

namespace Hexwire

namespace View

/-- A view shows the octet of a buffer at a position. -/
def Covers (view : View) (buffer : BufferId) (index : Nat) : Prop :=
  buffer = view.buffer ∧ view.offset ≤ index ∧ index < view.offset + view.size

instance (view : View) (buffer : BufferId) (index : Nat) : Decidable (view.Covers buffer index) :=
  inferInstanceAs (Decidable (_ ∧ _ ∧ _))

/-- No octet is shown by both views. -/
def Apart (view other : View) : Prop :=
  ∀ buffer index, view.Covers buffer index → ¬ other.Covers buffer index

end View

namespace Store

/-- Two stores differ at most in octets that one of the given views covers. -/
def SameOutside (views : List View) (before after : Store) : Prop :=
  ∀ buffer index, (∀ view ∈ views, ¬ view.Covers buffer index) →
    (after.contents buffer)[index]? = (before.contents buffer)[index]?

namespace SameOutside

variable {before middle after : Store} {views others : List View}

theorem refl (views : List View) (store : Store) : SameOutside views store store :=
  fun _ _ _ => rfl

theorem trans (first : SameOutside views before middle)
    (second : SameOutside others middle after) : SameOutside (views ++ others) before after := by
  intro buffer index outside
  obtain ⟨left, right⟩ := List.forall_mem_append.mp outside
  exact (second buffer index right).trans (first buffer index left)

/-- What differs inside some views at most does so inside more of them. -/
theorem mono (same : SameOutside views before after) (subset : ∀ view ∈ views, view ∈ others) :
    SameOutside others before after :=
  fun buffer index outside => same buffer index fun view member => outside view (subset view member)

/-- A write through a view changes only what the view covers. -/
theorem save (store : Store) (view : View) (data : Bytes) :
    SameOutside [view] store (store.save view data) := by
  intro buffer index outside
  have apart := outside view List.mem_cons_self
  rw [contents_save]
  by_cases target : buffer = view.buffer
  · have beyond : ¬ (view.offset ≤ index ∧ index < view.offset + (data.take view.size).length ∧
        index < (store.contents buffer).length) := by
      rintro ⟨reached, covered, -⟩
      rw [List.length_take] at covered
      exact apart ⟨target, reached, by omega⟩
    rw [if_pos target, getElem?_overlay, if_neg beyond]
  · rw [if_neg target]

/-- A view apart from all views written through shows what it showed before. -/
theorem load (same : SameOutside views before after) {view : View}
    (apart : ∀ other ∈ views, view.Apart other) : after.load view = before.load view := by
  refine List.ext_getElem? fun index => ?_
  simp only [Store.load, List.getElem?_take, List.getElem?_drop]
  by_cases shown : index < view.size
  · have covered : view.Covers view.buffer (view.offset + index) :=
      ⟨rfl, Nat.le_add_right _ _, by omega⟩
    rw [if_pos shown, if_pos shown]
    exact same _ _ fun other member => apart other member _ _ covered
  · rw [if_neg shown, if_neg shown]

end SameOutside

end Store

end Hexwire
