import Hexwire.Buffer.Store

/-! # Reading back through views

Writing through a view changes only the octets that the view shows and never the length of a buffer.
A view that lies within its buffer (`Hexwire.View.Within`) shows as many octets as it is long, and
octets of that length written through it are read back (`Hexwire.Store.load_save`). Of two writes of
one length through a view only the second remains (`Hexwire.Store.save_save`).
-/

namespace Hexwire

/-- A view shows a run that lies within its buffer. -/
def View.Within (store : Store) (view : View) : Prop :=
  view.offset + view.size ≤ (store.contents view.buffer).length

instance (store : Store) (view : View) : Decidable (view.Within store) :=
  inferInstanceAs (Decidable (_ ≤ _))

namespace Store

/-- Octets that are laid over others change no length. -/
theorem length_overlay (contents : Bytes) (offset : Nat) (data : Bytes) :
    (overlay contents offset data).length = contents.length := by
  unfold overlay
  simp only [List.length_take, List.length_append, List.length_drop]
  omega

/-- An octet after an overlay is the new one where new ones lie and the old one elsewhere. -/
theorem getElem?_overlay (contents : Bytes) (offset : Nat) (data : Bytes) (index : Nat) :
    (overlay contents offset data)[index]? =
      if offset ≤ index ∧ index < offset + data.length ∧ index < contents.length then
        data[index - offset]?
      else contents[index]? := by
  unfold overlay
  simp only [List.getElem?_take, List.getElem?_append, List.length_append, List.length_take,
    List.getElem?_drop]
  by_cases inside : index < contents.length
  · by_cases before : index < offset
    · have early : index < min offset contents.length := by omega
      have unchanged : ¬ offset ≤ index := by omega
      have wide : index < min offset contents.length + data.length := by omega
      simp only [inside, wide, early, before, unchanged, false_and, ↓reduceIte]
    · have reached : offset ≤ index := by omega
      have cut : min offset contents.length = offset := by omega
      by_cases covered : index < offset + data.length
      · simp only [cut, inside, covered, before, reached, and_self, ↓reduceIte]
      · have place : offset + data.length + (index - (offset + data.length)) = index := by omega
        simp only [cut, inside, covered, place, false_and, and_false, ↓reduceIte]
  · have beyond : contents[index]? = none := List.getElem?_eq_none (by omega)
    simp only [inside, and_false, ↓reduceIte, beyond]

/-- Of two overlays of one length the second takes the place of the first. -/
theorem overlay_overlay (contents : Bytes) (offset : Nat) {first second : Bytes}
    (same : first.length = second.length) :
    overlay (overlay contents offset first) offset second = overlay contents offset second := by
  refine List.ext_getElem? fun index => ?_
  simp only [getElem?_overlay, length_overlay, same]
  split <;> rfl

/-- No octets laid over others change nothing. -/
theorem overlay_nil (contents : Bytes) (offset : Nat) : overlay contents offset [] = contents := by
  refine List.ext_getElem? fun index => ?_
  rw [getElem?_overlay, List.length_nil, if_neg (by omega)]

/-- Of two writes of one length through a view the second takes the place of the first. -/
theorem save_save (store : Store) (view : View) {first second : Bytes}
    (same : first.length = second.length) :
    (store.save view first).save view second = store.save view second := by
  unfold save
  rw [List.map_map]
  refine List.map_congr_left fun entry _ => ?_
  rcases entry with ⟨buffer, contents⟩
  by_cases target : buffer = view.buffer
  · have taken : (first.take view.size).length = (second.take view.size).length := by
      rw [List.length_take, List.length_take, same]
    simp only [Function.comp_apply, target, ↓reduceIte, overlay_overlay contents _ taken]
  · simp only [Function.comp_apply, target, ↓reduceIte]

/-- Writing nothing changes nothing. -/
theorem save_nil (store : Store) (view : View) : store.save view [] = store := by
  unfold save
  rw [← List.map_id store, List.map_map]
  refine List.map_congr_left fun entry _ => ?_
  rcases entry with ⟨buffer, contents⟩
  by_cases target : buffer = view.buffer
  · simp only [Function.comp_apply, id_eq, target, ↓reduceIte, List.take_nil, overlay_nil]
  · simp only [Function.comp_apply, id_eq, target, ↓reduceIte]

/-- Saving lays the data, cut to the size of the view, over the buffer of the view. -/
theorem contents_save (store : Store) (view : View) (data : Bytes) (buffer : BufferId) :
    (store.save view data).contents buffer =
      if buffer = view.buffer then
        overlay (store.contents buffer) view.offset (data.take view.size)
      else store.contents buffer := by
  induction store with
  | nil =>
      split
      · exact (List.eq_nil_of_length_eq_zero (length_overlay [] _ _)).symm
      · rfl
  | cons entry rest ih =>
      rcases entry with ⟨name, contents⟩
      by_cases found : name = buffer
      · subst found
        by_cases target : name = view.buffer <;> simp [save, Store.contents, target]
      · have later : (save ((name, contents) :: rest) view data).contents buffer =
            (save rest view data).contents buffer := by
          by_cases target : name = view.buffer
          · subst target
            simp [save, Store.contents, found]
          · simp [save, Store.contents, found, target]
        have same : Store.contents ((name, contents) :: rest) buffer =
            Store.contents rest buffer := by
          simp [Store.contents, found]
        rw [later, same, ih]

/-- Saving changes no length of a buffer. -/
@[simp]
theorem length_contents_save (store : Store) (view : View) (data : Bytes) (buffer : BufferId) :
    ((store.save view data).contents buffer).length = (store.contents buffer).length := by
  rw [contents_save]
  split
  · exact length_overlay _ _ _
  · rfl

end Store

namespace View

/-- A view that lies within its buffer yields as many octets as its size says. -/
theorem Within.length_load {store : Store} {view : View} (within : view.Within store) :
    (store.load view).length = view.size := by
  unfold Within at within
  simp only [Store.load, List.length_take, List.length_drop]
  omega

end View

namespace Store

/-- Octets written through a view are read back through it. -/
theorem load_save {store : Store} {view : View} (within : view.Within store) {data : Bytes}
    (fits : data.length = view.size) : (store.save view data).load view = data := by
  unfold View.Within at within
  have whole : data.take view.size = data := List.take_of_length_le (Nat.le_of_eq fits)
  have before : ((store.contents view.buffer).take view.offset).length = view.offset := by
    rw [List.length_take]
    omega
  simp only [load, contents_save, ↓reduceIte, whole, overlay]
  rw [List.append_assoc, List.drop_take, List.take_take, List.drop_append_of_le_length (by omega),
    List.drop_of_length_le (by omega), List.nil_append, List.take_append_of_le_length (by omega),
    List.take_of_length_le (by omega)]

end Store

end Hexwire
