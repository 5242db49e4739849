import Hexwire.Failure.Conversion
import Hexwire.Proofs.Failure.Ordinary

/-! # Failures carried from one layer to the other

The transport reports a failure of the secure element as a failure of its own that carries it, with
kind, payload and text as they are; only the failure of a pin, which no bridge has, gives way to
another. A transport failure that goes up to the secure-element layer as a bus error and comes back
is carried in one more layer. However often it has gone, it is found behind as many layers as there
were rounds, and each layer stands in the message (`Hexwire.Failure.carries_whole`).
-/

namespace Hexwire.Failure

/-- The failure of the secure element that a transport failure carries. -/
def carried? : Failure → Option Failure
  | carried kind payload => some (device kind payload)
  | _ => none

/-- The failure that a failure of the secure element has as its payload. -/
def reason? : Failure → Option Failure
  | device _ (.failure reason) => some reason
  | _ => none

/-- What the transport makes of a failure of the secure element. -/
def toTransport? : Failure → Option Raised
  | device kind payload => some (toTransport kind payload)
  | _ => none

/-- What a failure comes back as from the secure-element layer, which reports it as a bus error. -/
def returned? (failure : Failure) : Option Raised :=
  (device .busError (.failure failure)).toTransport?

/-- What a failure comes back as after a count of rounds. -/
def wrapped? (failure : Failure) : Nat → Option Failure
  | 0 => some failure
  | rounds + 1 => do
    let raised ← returned? (← failure.wrapped? rounds)
    some raised.failure

/-- The failure behind a count of layers, each a transport failure that carries one of the secure
element, whose payload is what is behind the layer. -/
def unwrapped? : Nat → Failure → Option Failure
  | 0, failure => some failure
  | layers + 1, failure => do
    let inner ← failure.carried?
    let reason ← inner.reason?
    reason.unwrapped? layers

/-- What one layer adds to a message. -/
def layerHeading : String := "Bridge: Device: Bus error: "

variable {kind : DeviceKind} {payload : Value}

/-- A failure of a pin comes out as an invalid response. -/
theorem toTransport_gpioError (payload : Value) :
    toTransport .gpioError payload =
      (bridge .invalidResponse (some "Invalid response from device")).raised := rfl

/-- The failure of the transport is the carrier of the failure of the secure element. -/
theorem failure_toTransport (other : kind ≠ .gpioError) (payload : Value) :
    (toTransport kind payload).failure = carried kind payload := by
  unfold toTransport
  split
  · exact absurd rfl other
  · rfl
  · rfl

/-- The cause is a failure that is the payload of a bus error. -/
theorem cause_toTransport_iff {cause : Failure} :
    (toTransport kind payload).cause = some cause ↔
      kind = .busError ∧ payload = .failure cause := by
  unfold toTransport
  split
  · simp [raised]
  · simp [raisedFrom]
  · next notPin notReason =>
      refine iff_of_false (by rintro ⟨⟩) ?_
      rintro ⟨rfl, rfl⟩
      exact notReason _ rfl rfl

/-- Nothing is logged just where the failure of the transport is the carrier: a log record is left
of what the transport does not pass on. -/
theorem conversionRecords_eq_nil_iff :
    conversionRecords kind payload = [] ↔
      (toTransport kind payload).failure = carried kind payload := by
  by_cases pin : kind = .gpioError
  · subst pin
    rw [toTransport_gpioError]
    exact iff_of_false (by rintro ⟨⟩) (by rintro ⟨⟩)
  · rw [conversionRecords]
    · exact iff_of_true rfl (failure_toTransport pin payload)
    · exact pin

/-- A carrier shows what it carries under the heading of the transport. -/
theorem message_carried (kind : DeviceKind) (payload : Value) :
    (carried kind payload).message =
      BridgeKind.heading .general ++ (device kind payload).message := by
  rw [message, message]

/-- A layer around a failure adds its heading to the message. -/
theorem message_layer (failure : Failure) :
    (carried .busError (.failure failure)).message = layerHeading ++ failure.message := by
  rw [message, deviceMessage, deviceDescription]
  · rw [Value.plain, ← String.append_assoc, ← String.append_assoc, ← String.append_assoc]
    rfl
  · rintro ⟨⟩

/-- A failure on its way through the transport is the payload of a failure that carries it. -/
theorem returned?_eq (failure : Failure) :
    returned? failure = some ((carried .busError (.failure failure)).raisedFrom failure) := rfl

/-- **Rounds put layers around a failure.** As many layers later the failure itself is found again,
and its message stands behind as many headings. The induction is on the rounds, and the layer that
the last round has added is the first one to go. -/
theorem wrapped_layers (failure : Failure) (rounds : Nat) :
    ∃ outer, failure.wrapped? rounds = some outer ∧ outer.unwrapped? rounds = some failure ∧
      outer.message = String.join (List.replicate rounds layerHeading) ++ failure.message := by
  induction rounds with
  | zero => exact ⟨failure, rfl, rfl, (String.empty_append).symm⟩
  | succ rounds ih =>
      obtain ⟨outer, wrapped, unwrapped, shown⟩ := ih
      refine ⟨carried .busError (.failure outer), ?_, unwrapped, ?_⟩
      · simp only [wrapped?, wrapped, returned?_eq]
        rfl
      · rw [message_layer, shown, List.replicate_succ, String.join_cons, String.append_assoc]

/-- **The transport carries failures whole.** The failure of a pin becomes an invalid response with
the description of its kind. Any other failure of the secure element is carried as it is: the same
kind and payload, its message under the heading of the transport, and the payload as the cause just
where it is the failure behind a bus error; what is carried becomes the same failure again. So a
failure that has come back any number of times is found behind as many layers, and its message
behind as many headings. -/
theorem carries_whole :
    (∀ kind payload, ∃ raised, (device kind payload).toTransport? = some raised ∧
      (kind = .gpioError → raised =
        (bridge .invalidResponse (some "Invalid response from device")).raised) ∧
      (kind ≠ .gpioError →
        raised.failure.carried? = some (device kind payload) ∧
        raised.failure.message = "Bridge: " ++ (device kind payload).message ∧
        (∀ cause, raised.cause = some cause ↔ kind = .busError ∧ payload = .failure cause) ∧
        raised.failure.carried?.bind toTransport? = some raised)) ∧
    ∀ failure rounds, ∃ outer, wrapped? failure rounds = some outer ∧
      outer.unwrapped? rounds = some failure ∧
        outer.message =
          String.join (List.replicate rounds "Bridge: Device: Bus error: ") ++ failure.message := by
  refine ⟨fun kind payload => ⟨_, rfl, ?_, fun other => ?_⟩, wrapped_layers⟩
  · rintro rfl
    exact toTransport_gpioError payload
  · rw [failure_toTransport other]
    exact ⟨rfl, message_carried kind payload, fun cause => cause_toTransport_iff, rfl⟩

/-- A parsing error whose payload is a timeout in a layer of its own, and the timeout after two
rounds. -/
theorem carries_whole_timeout :
    let timeout : Failure := .bridge .timeout (some "no echo")
    let layer : Failure := .carried .busError (.failure timeout)
    (∃ raised, (device .parsingError (.failure layer)).toTransport? = some raised ∧
      raised.failure.message =
        "Bridge: Device: Parsing error: Bridge: Device: Bus error: Bridge: Timeout -> no echo" ∧
      raised.cause = none) ∧
    ∃ outer, timeout.wrapped? 2 = some outer ∧ outer.unwrapped? 2 = some timeout ∧
      outer.message = "Bridge: Device: Bus error: Bridge: Device: Bus error: " ++
        "Bridge: Timeout -> no echo" := by
  intro timeout layer
  obtain ⟨maps, rounds⟩ := carries_whole
  obtain ⟨raised, mapped, -, other⟩ := maps .parsingError (.failure layer)
  obtain ⟨-, shown, caused, -⟩ := other (by decide)
  refine ⟨⟨raised, mapped, shown.trans ?_, ?_⟩, ?_⟩
  · simp only [layer, timeout, message, deviceMessage, deviceDescription, Value.plain]
    decide +kernel
  · exact Option.eq_none_iff_forall_ne_some.mpr fun cause same => by
      cases ((caused cause).mp same).1
  · obtain ⟨outer, wrapped, unwrapped, headed⟩ := rounds timeout 2
    refine ⟨outer, wrapped, unwrapped, headed.trans ?_⟩
    simp only [timeout, message]
    decide +kernel

end Hexwire.Failure
