import Hexwire.Schema.Run
import Mathlib.Data.List.Forall2

/-! # Results of plans

The result of carrying out a part of a plan is computed step by step, as that of an action on the
line is: a bind passes the progress on or stops at the first end. A slot holds a value if it keeps
the value or the place where the value stands. What fills a slot leaves the others alone, so where
the names of the slots that statements fill continue the name of a slot, everything that is not
named like this is kept (`Hexwire.Schema.Progress.Keeps`).
-/

namespace Hexwire.Schema

namespace Run

variable {α β : Type} {run : Run α} {progress after : Progress}

/-- How a part of a plan ends that starts from a progress, and the progress it leaves. -/
def result (run : Run α) (progress : Progress) : Except Stop α × Progress :=
  (ExceptT.run run).run progress

@[simp]
theorem result_pure (value : α) (progress : Progress) :
    result (pure value : Run α) progress = (.ok value, progress) := rfl

@[simp]
theorem result_get (progress : Progress) :
    result (get : Run Progress) progress = (.ok progress, progress) := rfl

@[simp]
theorem result_modify (change : Progress → Progress) (progress : Progress) :
    result (modify change : Run Unit) progress = (.ok (), change progress) := rfl

@[simp]
theorem result_throw (stop : Stop) (progress : Progress) :
    result (throw stop : Run α) progress = (.error stop, progress) := rfl

/-- What was computed without a failure is the result. -/
@[simp]
theorem result_lift_ok (value : α) (progress : Progress) :
    (lift (.ok value)).result progress = (.ok value, progress) := rfl

/-- What fails to be computed stops the run with its failure. -/
@[simp]
theorem result_lift_error (failure : Failure) (progress : Progress) :
    (lift (.error failure : Except Failure α)).result progress =
      (.error (.failure failure), progress) := rfl

/-- What follows runs on the progress that was made, unless something stops both. -/
theorem result_bind (run : Run α) (next : α → Run β) (progress : Progress) :
    (run >>= next).result progress =
      match run.result progress with
      | (.ok value, after) => (next value).result after
      | (.error stop, after) => (.error stop, after) := by
  change (match run.result progress with
    | (outcome, after) => (ExceptT.bindCont next outcome).run after) = _
  rcases run.result progress with ⟨outcome, after⟩
  cases outcome <;> rfl

/-- After a part that comes to its end, the rest goes on from the progress that the part left. -/
theorem result_bind_of_ok {value : α} (ran : run.result progress = (.ok value, after))
    (next : α → Run β) : (run >>= next).result progress = (next value).result after := by
  rw [result_bind, ran]

/-- A part that ends early ends the whole. -/
theorem result_bind_of_error {stop : Stop} (ran : run.result progress = (.error stop, after))
    (next : α → Run β) : (run >>= next).result progress = (.error stop, after) := by
  rw [result_bind, ran]

/-- Steps of which none changes anything. -/
theorem result_mapM {step : α → Run β} {items : List α} {values : List β}
    (each : List.Forall₂ (fun item value => (step item).result progress = (.ok value, progress))
      items values) :
    (items.mapM step).result progress = (.ok values, progress) := by
  induction each with
  | nil => rw [List.mapM_nil, result_pure]
  | cons ran _ ih =>
      rw [List.mapM_cons, result_bind_of_ok ran, result_bind_of_ok ih, result_pure]

/-- Steps of which one ends the whole. -/
theorem result_mapM_of_error {step : α → Run β} {before : List α} {values : List β} {item : α}
    {stop : Stop}
    (each : List.Forall₂ (fun item value => (step item).result progress = (.ok value, progress))
      before values) (ran : (step item).result progress = (.error stop, progress))
    (rest : List α) :
    ((before ++ item :: rest).mapM step).result progress = (.error stop, progress) := by
  induction each with
  | nil => rw [List.nil_append, List.mapM_cons, result_bind_of_error ran]
  | cons first _ ih =>
      rw [List.cons_append, List.mapM_cons, result_bind_of_ok first, result_bind_of_error ih]

end Run

namespace Progress

variable {progress before middle after : Progress} {slot : Slot} {value : Value}

/-- A slot holds a value: it keeps the value itself or the place where the value stands. -/
def Holds (progress : Progress) (slot : Slot) (value : Value) : Prop :=
  ∃ content, progress.slots.lookup slot = some content ∧ content.valueIn progress = value

/-- A progress in which a slot was filled. -/
def filled (progress : Progress) (slot : Slot) (content : Content) : Progress :=
  { progress with slots := (slot, content) :: progress.slots.filter (·.1 ≠ slot) }

/-- A slot that is filled holds its content, and the others hold what they did. -/
theorem lookup_filled (progress : Progress) (slot other : Slot) (content : Content) :
    (progress.filled slot content).slots.lookup other =
      if other = slot then some content else progress.slots.lookup other := by
  rw [filled, List.lookup_cons]
  by_cases same : other = slot
  · rw [if_pos same, beq_iff_eq.mpr same]
  · rw [if_neg same, beq_false_of_ne same]
    dsimp only
    induction progress.slots with
    | nil => rfl
    | cons first rest ih =>
        obtain ⟨name, kept⟩ := first
        by_cases dropped : name = slot
        · rw [List.filter_cons_of_neg (by simpa using dropped), ih, List.lookup_cons,
            beq_false_of_ne (dropped ▸ same)]
        · rw [List.filter_cons_of_pos (by simpa using dropped), List.lookup_cons, List.lookup_cons,
            ih]

/-- A slot holds the value with which it was filled. -/
theorem holds_filled (progress : Progress) (slot : Slot) (value : Value) :
    (progress.filled slot (.value value)).Holds slot value :=
  ⟨.value value, by rw [lookup_filled, if_pos rfl], rfl⟩

/-- Filling a slot succeeds. -/
@[simp]
theorem result_fill (slot : Slot) (content : Content) (progress : Progress) :
    (Run.fill slot content).result progress = (.ok (), progress.filled slot content) := rfl

/-- A slot may be filled with a value of its own. -/
@[simp]
theorem result_fillValue (slot : Slot) (value : Value) (progress : Progress) :
    (Run.fillValue slot value).result progress =
      (.ok (), progress.filled slot (.value value)) := rfl

/-- The content of a slot is what was put there. -/
theorem result_contentOf {content : Content} (kept : progress.slots.lookup slot = some content) :
    (Run.contentOf slot).result progress = (.ok content, progress) := by
  rw [Run.contentOf, Run.result_bind, Run.result_get]
  dsimp only
  rw [kept, Run.result_pure]

/-- The value in a slot is the one that it holds. -/
theorem Holds.result_valueOf (holds : progress.Holds slot value) :
    (Run.valueOf slot).result progress = (.ok value, progress) := by
  obtain ⟨content, kept, same⟩ := holds
  rw [Run.valueOf, Run.result_bind_of_ok (result_contentOf kept)]
  exact congrArg (fun value => (Except.ok value, progress)) same

/-- What is kept by statements about a slot: the wholes and their name, and every slot but those
whose names continue the name of the slot. -/
structure Keeps (slot : Slot) (before after : Progress) : Prop where
  wholes : after.wholes = before.wholes
  name : after.name = before.name
  slots : ∀ other, (∀ suffix, suffix ≠ "" → other ≠ slot ++ suffix) →
    after.slots.lookup other = before.slots.lookup other

namespace Keeps

theorem refl (slot : Slot) (progress : Progress) : Keeps slot progress progress :=
  ⟨rfl, rfl, fun _ _ => rfl⟩

theorem trans (first : Keeps slot before middle) (second : Keeps slot middle after) :
    Keeps slot before after where
  wholes := second.wholes.trans first.wholes
  name := second.name.trans first.name
  slots other apart := (second.slots other apart).trans (first.slots other apart)

/-- A slot with a longer name is filled without a change to the shorter one. -/
theorem filled (progress : Progress) (slot : Slot) {suffix : String} (longer : suffix ≠ "")
    (content : Content) : Keeps slot progress (progress.filled (slot ++ suffix) content) where
  wholes := rfl
  name := rfl
  slots other apart := by rw [lookup_filled, if_neg (apart suffix longer)]

/-- What is kept by statements about a part of a slot is kept by statements about the slot. -/
theorem of_part {suffix : String} (longer : suffix ≠ "")
    (keeps : Keeps (slot ++ suffix) before after) : Keeps slot before after where
  wholes := keeps.wholes
  name := keeps.name
  slots other apart := keeps.slots other fun more _ same =>
    apart (suffix ++ more) (by simp [longer]) (by rw [same, String.append_assoc])

/-- A slot whose name does not continue that of another holds what it held. -/
theorem holds (keeps : Keeps slot before after) {other : Slot}
    (apart : ∀ suffix, suffix ≠ "" → other ≠ slot ++ suffix) (holds : before.Holds other value) :
    after.Holds other value := by
  obtain ⟨content, kept, same⟩ := holds
  refine ⟨content, (keeps.slots other apart).trans kept, ?_⟩
  cases content with
  | value kept => exact same
  | place whole steps => rwa [Content.valueIn, keeps.wholes]

/-- A slot still holds its value where it is kept. -/
theorem holds_self (keeps : Keeps slot before after) (holds : before.Holds slot value) :
    after.Holds slot value := by
  refine keeps.holds (fun suffix longer same => longer ?_) holds
  have characters := congrArg String.toList same
  rw [String.toList_append, List.self_eq_append_right] at characters
  exact String.toList_eq_nil_iff.mp characters

end Keeps

end Progress

end Hexwire.Schema
