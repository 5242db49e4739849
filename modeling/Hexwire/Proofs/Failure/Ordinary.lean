import Hexwire.Device.Emulator

/-! # Ordinary failures

Every failure but the interrupt from the keyboard is ordinary. Those of the package, of the
transport and of frames always are.
-/

namespace Hexwire

namespace Failure

/-- Failures that do not come from the host are ordinary. -/
theorem isOrdinary_of_isPackage {failure : Failure} (package : failure.isPackage) :
    failure.isOrdinary := by
  cases failure with
  | host kind arguments => cases package
  | package kind description => cases kind <;> rfl
  | bridge kind description => cases kind <;> rfl
  | device kind payload => rfl
  | carried kind payload => rfl
  | application description code => rfl

/-- A failure of the transport shows some description of its kind. -/
theorem ofBridge_eq (kind : BridgeKind) (description : Option String) :
    ∃ shown, ofBridge kind description = .bridge kind shown := by
  cases description with
  | none => exact ⟨_, rfl⟩
  | some text => by_cases empty : text.isEmpty <;> simp [ofBridge, empty]

/-- What is raised without a cause is the failure. -/
@[simp]
theorem failure_raised (failure : Failure) : failure.raised.failure = failure := rfl

/-- What is raised from a cause is the failure. -/
@[simp]
theorem failure_raisedFrom (failure cause : Failure) :
    (failure.raisedFrom cause).failure = failure := rfl

/-- Failures of the transport are ordinary. -/
@[simp]
theorem isOrdinary_ofBridge (kind : BridgeKind) (description : Option String) :
    (ofBridge kind description).isOrdinary := by
  obtain ⟨shown, bridge⟩ := ofBridge_eq kind description
  rw [bridge]
  exact isOrdinary_of_isPackage rfl

/-- Transport failures that the line raises itself are ordinary. -/
theorem isOrdinary_raised_ofBridge (kind : BridgeKind) (description : Option String) :
    (ofBridge kind description).raised.failure.isOrdinary := isOrdinary_ofBridge kind description

/-- Failures of the package are ordinary. -/
@[simp]
theorem isOrdinary_ofPackage (kind : PackageKind) (text : String) :
    (ofPackage kind text).isOrdinary := isOrdinary_of_isPackage rfl

end Failure

/-- The fault of a frame is raised as an ordinary failure. -/
@[simp]
theorem Frame.Fault.isOrdinary_raised (fault : Frame.Fault) : fault.raised.failure.isOrdinary := by
  cases fault with
  | negativeSize => rfl
  | uncountableSize => rfl
  | _ => simp only [raised, Failure.failure_raised, Failure.failure_raisedFrom,
      Failure.isOrdinary_ofBridge]

/-- A bridge whose peripheral fails ordinarily answers or fails ordinarily. -/
theorem Emulator.isOrdinary_of_answer_error {behaviour : Emulator.Behaviour} {data : Bytes}
    {failure : Failure}
    (ordinary : ∀ peripheral, behaviour.peripheral = some peripheral →
      ∀ payload failure, peripheral payload = .error failure → failure.isOrdinary)
    (failed : answer behaviour data = .error failure) : failure.isOrdinary := by
  unfold answer at failed
  split at failed
  · cases failed
  · split at failed
    · cases decoded : payloadOf (data.take (data.length - Frame.terminator.length)) with
      | error fault =>
          simp only [decoded, Except.error.injEq] at failed
          subst failed
          unfold payloadOf at decoded
          repeat' split at decoded
          all_goals cases decoded
          · rfl
          · rfl
      | ok payload =>
          simp only [decoded] at failed
          cases behind : behaviour.peripheral with
          | none =>
              simp only [behind] at failed
              cases failed
          | some peripheral =>
              cases clocked : peripheral payload with
              | ok response => simp [behind, clocked] at failed
              | error fault =>
                  simp only [behind, clocked, Except.error.injEq] at failed
                  subst failed
                  exact ordinary peripheral behind payload fault clocked
    · cases failed

end Hexwire
