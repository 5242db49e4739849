import Hexwire.Document.Yaml.Literal
import Hexwire.Document.Yaml.Scalar

/-! # What documents fail with

A document that is not malformed can still hold what becomes no value. Which failures that can end
with is told once (`Hexwire.Document.Unbuildable`).
-/

namespace Hexwire.Document

/-- What a document can hold that becomes no value: a number of too many digits, an escape by a code
that no character has, a scalar whose text does not fit its kind, and a mapping where a moment is
asked for. -/
inductive Unbuildable : Failure → Prop where
  | number {count : Nat} (long : Integer.digitLimit < count) : Unbuildable (tooManyDigits count)
  | character {code : Nat} (beyond : 0x10FFFF < code) :
      Unbuildable (Yaml.Scan.beyondLast code)
  | scalar {tag : Yaml.Tag} {text : List Char} {failure : Failure}
      (unread : Yaml.Literal.value tag text = .error (.failed failure)) : Unbuildable failure
  | mapping : Unbuildable (.ofText .type "expected string or bytes-like object, got 'list'")

/-- A fault that ends the reading for good is one of what a document can hold. -/
def Fault.Explained : Fault → Prop
  | malformed => True
  | failed failure => Unbuildable failure

/-- Reading in a state that satisfies a condition fails with explained faults only, and leaves a
state that satisfies the condition. -/
def Explains {σ α : Type} (fine : σ → Prop) (reading : StateT σ (Except Fault) α) : Prop :=
  ∀ state, fine state → match reading.run state with
    | .ok (_, after) => fine after
    | .error fault => fault.Explained

namespace Explains

variable {σ α β : Type} {fine : σ → Prop} {reading : StateT σ (Except Fault) α}
  {next : α → StateT σ (Except Fault) β}

theorem pure (value : α) : Explains fine (Pure.pure value : StateT σ (Except Fault) α) :=
  fun _ before => before

theorem throw {fault : Fault} (explained : fault.Explained) :
    Explains fine (MonadExcept.throw fault : StateT σ (Except Fault) α) := fun _ _ => explained

/-- Reading on from what was read explains its faults if each part does. -/
theorem bind (first : Explains fine reading) (others : ∀ value, Explains fine (next value)) :
    Explains fine (reading >>= next) := by
  intro state before
  have start := first state before
  rw [StateT.run_bind]
  cases ran : reading.run state with
  | error fault =>
      rw [ran] at start
      exact start
  | ok reached =>
      rw [ran] at start
      exact others reached.1 reached.2 start

/-- What follows the reading of the state may rely on the condition. -/
theorem get_bind {next : σ → StateT σ (Except Fault) β}
    (others : ∀ state, fine state → Explains fine (next state)) :
    Explains fine (get >>= next) := fun state before => others state before state before

theorem get : Explains fine (MonadState.get : StateT σ (Except Fault) σ) := fun _ before => before

/-- A change of the state that keeps it fine has no faults. -/
theorem rewrite {change : σ → σ} (kept : ∀ state, fine state → fine (change state)) :
    Explains fine (modify change : StateT σ (Except Fault) PUnit) :=
  fun state before => kept state before

theorem set {state : σ} (kept : fine state) :
    Explains fine (MonadState.set state : StateT σ (Except Fault) PUnit) := fun _ _ => kept

/-- A change of the value explains no less. -/
theorem map (change : α → β) (first : Explains fine reading) :
    Explains fine (change <$> reading) := by
  rw [map_eq_pure_bind]
  exact first.bind fun _ => pure _

theorem ite {condition : Prop} [Decidable condition] {other : StateT σ (Except Fault) α}
    (first : Explains fine reading) (second : Explains fine other) :
    Explains fine (if condition then reading else other) := by
  split
  · exact first
  · exact second

end Explains

/-- Reading without a state fails for good only with what satisfies a condition. -/
def Settled {α : Type} (wanted : Failure → Prop) (read : Except Fault α) : Prop :=
  ∀ failure, read = .error (.failed failure) → wanted failure

namespace Settled

variable {α β : Type} {wanted : Failure → Prop} {read : Except Fault α} {next : α → Except Fault β}

theorem ok (value : α) : Settled wanted (.ok value : Except Fault α) := by rintro _ ⟨⟩

theorem malformed : Settled wanted (.error .malformed : Except Fault α) := by rintro _ ⟨⟩

/-- A failure that is wanted is settled. -/
theorem failed {failure : Failure} (proper : wanted failure) :
    Settled wanted (.error (.failed failure) : Except Fault α) := by
  rintro _ ⟨⟩
  exact proper

/-- The fault of a step is the fault of the whole. -/
theorem stop {fault : Fault} (first : Settled wanted read) (stopped : read = .error fault) :
    Settled wanted (.error fault : Except Fault β) := by
  subst stopped
  rintro _ ⟨⟩
  exact first _ rfl

/-- Reading on from what was read is settled if each part is. -/
theorem bind (first : Settled wanted read) (others : ∀ value, Settled wanted (next value)) :
    Settled wanted (read >>= next) := by
  cases read with
  | error fault => exact first.stop rfl
  | ok value => exact others value

/-- A change of the value leaves a reading settled. -/
theorem map (change : α → β) (first : Settled wanted read) :
    Settled wanted (read.map change) := by
  cases read with
  | error fault => exact first.stop rfl
  | ok value => exact .ok _

theorem ite {condition : Prop} [Decidable condition] {other : Except Fault α}
    (first : Settled wanted read) (second : Settled wanted other) :
    Settled wanted (if condition then read else other) := by
  split
  · exact first
  · exact second

/-- Reading one item after another is settled if each reading is. -/
theorem mapM {items : List β} {each : β → Except Fault α}
    (all : ∀ item, Settled wanted (each item)) : Settled wanted (items.mapM each) := by
  induction items with
  | nil => exact .ok _
  | cons item items ih =>
      rw [List.mapM_cons]
      exact .bind (all item) fun _ => .bind ih fun _ => .ok _

end Settled

end Hexwire.Document
