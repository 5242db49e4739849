import Hexwire.Proofs.Transaction.Operation

/-! # Work between two toggles

The result of work in a transaction is the result of three steps: a toggle, the work, and a second
toggle or, after a failure, the release.
-/

namespace Hexwire

namespace Operation

variable {world after : World}

/-- After an operation that succeeds come the others. -/
theorem result_runAll_cons_of_ok {first : Operation View}
    (ran : first.run.result world = (.ok (), after)) (rest : List (Operation View)) :
    (runAll (first :: rest)).result world = (runAll rest).result after :=
  Action.result_bind_of_ok ran _

/-- After an operation that fails nothing else runs. -/
theorem result_runAll_cons_of_error {first : Operation View} {raised : Raised}
    (ran : first.run.result world = (.error raised, after)) (rest : List (Operation View)) :
    (runAll (first :: rest)).result world = (.error raised, after) :=
  Action.result_bind_of_error ran _

end Operation

namespace Transaction

variable {α : Type} {work : Action α} {world selected finished after : World} {release : Bool}

/-- A toggle that fails to release chip select is reported, if it fails as the transport does. -/
theorem result_release (world : World) :
    Transaction.release.result world =
      match ChipSelect.toggle.result world with
      | (.ok _, after) => (.ok (), after)
      | (.error raised, after) =>
        if raised.failure.isBridge then
          (.ok (), { after with events := after.events ++ [.releaseFailed raised.failure] })
        else (.error raised, after) := by
  unfold Transaction.release
  rw [Action.result_bind_of_ok (Action.result_attempt _ _)]
  rcases ChipSelect.toggle.result world with ⟨raised | _, after⟩
  · by_cases bridge : raised.failure.isBridge <;> simp [bridge]
  · rfl

/-- Work does not start unless chip select was toggled. -/
theorem result_bracketed_of_unselected {raised : Raised}
    (toggled : ChipSelect.toggle.result world = (.error raised, after)) :
    (bracketed release work).result world = (.error raised, after) :=
  Action.result_bind_of_error toggled _

/-- After work that succeeds the last toggle decides the outcome. -/
theorem result_bracketed_of_ok {value : α}
    (toggled : ChipSelect.toggle.result world = (.ok (), selected))
    (worked : work.result selected = (.ok value, finished)) :
    (bracketed release work).result world =
      ((ChipSelect.toggle.result finished).1.map fun _ => value,
        (ChipSelect.toggle.result finished).2) := by
  unfold bracketed
  rw [Action.result_bind_of_ok toggled, Action.result_bind_of_ok (Action.result_attempt _ _),
    worked]
  dsimp only
  rw [Action.result_bind]
  rcases ChipSelect.toggle.result finished with ⟨_ | _, after⟩ <;> rfl

/-- After a failure chip select is released where that is asked for and the failure is ordinary. -/
theorem result_bracketed_of_error {raised : Raised}
    (toggled : ChipSelect.toggle.result world = (.ok (), selected))
    (worked : work.result selected = (.error raised, finished)) :
    (bracketed release work).result world =
      if release && raised.failure.isOrdinary then
        match Transaction.release.result finished with
        | (.ok _, after) => (.error raised, after)
        | (.error other, after) => (.error other, after)
      else (.error raised, finished) := by
  unfold bracketed
  rw [Action.result_bind_of_ok toggled, Action.result_bind_of_ok (Action.result_attempt _ _),
    worked]
  dsimp only
  by_cases released : (release && raised.failure.isOrdinary) = true
  · simp only [released, ↓reduceIte, Action.result_bind]
    rcases Transaction.release.result finished with ⟨_ | _, after⟩ <;> rfl
  · simp only [released, Bool.false_eq_true, ↓reduceIte, Action.result_throw]

/-- Work between two toggles succeeds exactly when both toggles and the work do. -/
theorem result_bracketed_eq_ok_iff {value : α} :
    (bracketed release work).result world = (.ok value, after) ↔
      ∃ selected finished, ChipSelect.toggle.result world = (.ok (), selected) ∧
        work.result selected = (.ok value, finished) ∧
          ChipSelect.toggle.result finished = (.ok (), after) := by
  constructor
  · intro succeeded
    rcases toggled : ChipSelect.toggle.result world with ⟨raised | ⟨⟩, selected⟩
    · rw [result_bracketed_of_unselected toggled] at succeeded
      cases succeeded
    · rcases worked : work.result selected with ⟨raised | value', finished⟩
      · rw [result_bracketed_of_error toggled worked] at succeeded
        by_cases released : (release && raised.failure.isOrdinary) = true
        · simp only [released, ↓reduceIte] at succeeded
          rcases freed : Transaction.release.result finished with ⟨_ | _, later⟩ <;>
            rw [freed] at succeeded <;> cases succeeded
        · simp only [released, Bool.false_eq_true, ↓reduceIte] at succeeded
          cases succeeded
      · rw [result_bracketed_of_ok toggled worked] at succeeded
        rcases closed : ChipSelect.toggle.result finished with ⟨raised | ⟨⟩, later⟩
        · rw [closed] at succeeded
          cases succeeded
        · rw [closed] at succeeded
          cases succeeded
          exact ⟨selected, finished, rfl, worked, closed⟩
  · rintro ⟨selected, finished, toggled, worked, closed⟩
    rw [result_bracketed_of_ok toggled worked, closed]
    rfl

/-- An exchange in pieces of a size that frames have is the exchange of its pieces between two
toggles. -/
theorem result_exchange_of_fits {pieceSize : Int}
    (fits : 0 < pieceSize ∧ pieceSize ≤ Frame.maxPayload) (data : Bytes) (world : World) :
    let pieces := chunks pieceSize.toNat data
    let noted := { world with
      events := world.events ++ [Event.exchanging data.length pieces.length] }
    let exchanged := (bracketed release (exchangeAll pieces)).result noted
    (exchange release data pieceSize).result world =
      (exchanged.1.map List.flatten, exchanged.2) := by
  intro pieces noted exchanged
  rw [exchange, if_pos fits, Action.result_bind_of_ok (Action.result_note _ _)]
  exact Action.result_map List.flatten (bracketed release (exchangeAll pieces)) noted

/-- A transaction succeeds exactly when both toggles and the operations do. -/
theorem result_run_eq_ok_iff {operations : List (Operation View)} :
    (Transaction.run release operations).result world = (.ok (), after) ↔
      ∃ selected finished, ChipSelect.toggle.result world = (.ok (), selected) ∧
        (Operation.runAll operations).result selected = (.ok (), finished) ∧
          ChipSelect.toggle.result finished = (.ok (), after) :=
  result_bracketed_eq_ok_iff

end Transaction

end Hexwire
