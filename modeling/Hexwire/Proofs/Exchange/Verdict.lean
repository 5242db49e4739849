import Hexwire.Proofs.Device.Calls
import Hexwire.Proofs.Frame.Codec
import Hexwire.Proofs.Transaction.Operation

/-! # How an exchange ends

On a device without faults the octets sent and the octets queued decide an exchange
(`Hexwire.Exchange.through_decided`). What is too long is not sent, what comes too late is lost, and
an echo of the right size is judged by its terminator first and then by its first pair that is not
two digits (`Hexwire.Exchange.Judged`).
-/

namespace Hexwire

/-- A description that is not empty is kept. -/
theorem Failure.ofBridge_of_ne {text : String} (filled : text ≠ "") (kind : BridgeKind) :
    ofBridge kind (some text) = .bridge kind (some text) := by
  have present : text.isEmpty = false := String.isEmpty_eq_false_iff.mpr filled
  simp only [ofBridge, present, Bool.false_eq_true, ↓reduceIte]

/-- A write that is accepted is recorded. -/
theorem Device.Accepts.written {before after : Device} {data : Bytes}
    (accepts : before.Accepts data) (took : before.Took [data] after) :
    after.written = before.written ++ [data] := by
  cases took with
  | emulated _ _ written _ => exact written
  | scripted _ _ _ written =>
      exact written.trans (congrArg _ (Script.recorded_eq_self fun call _ _ => accepts.1 call))

namespace Frame

open Hex

variable {octets : Bytes} {high low : UInt8} {fault : Fault}

/-- Two octets are the first pair that is not two digits. -/
def FirstBad (octets : Bytes) (high low : UInt8) : Prop :=
  ∃ good payload rest, octets = good ++ high :: low :: rest ∧ Denotes good payload ∧
    ¬ (isDigit (charOfOctet high) ∧ isDigit (charOfOctet low))

/-- Two characters that give an octet are digits with values. -/
theorem values_of_ofDigits? {first second : Char} {octet : UInt8}
    (read : ofDigits? first second = some octet) :
    ∃ upper lower, digitValue? first = some upper ∧ digitValue? second = some lower := by
  unfold ofDigits? at read
  cases upper : digitValue? first with
  | none => simp [upper] at read
  | some high =>
      cases lower : digitValue? second with
      | none => simp [upper, lower] at read
      | some low => exact ⟨high, low, rfl, rfl⟩

/-- Two characters give no octet exactly if one of them is no digit. -/
theorem ofDigits?_eq_none_iff {first second : Char} :
    ofDigits? first second = none ↔ ¬ (isDigit first ∧ isDigit second) := by
  unfold ofDigits? isDigit
  cases digitValue? first with
  | none => simp
  | some upper => cases digitValue? second <;> simp

/-- What is wrong with a pair that is not two digits: it may not even be text. -/
def Fault.ofPair (high low : UInt8) : Fault :=
  match Utf8.decode [high, low] with
  | .error fault => .notText fault
  | .ok text => .notDigits text

/-- The failure for text that is no digits shows the text. -/
theorem Fault.raised_notDigits (text : List Char) :
    (Fault.notDigits text).raised = (Failure.bridge .invalidHexDigit (some
      ("Invalid hex digit in response: " ++ Text.quoteWith Text.isUnprintable text))).raised := by
  have filled (rest : String) : "Invalid hex digit in response: " ++ rest ≠ "" := by simp
  simp only [Fault.raised, Failure.ofBridge_of_ne (filled _)]

/-- Two octets fail to be digits with the fault that shows this pair. -/
theorem decodePair_eq_error_iff :
    decodePair high low = .error fault ↔
      ¬ (isDigit (charOfOctet high) ∧ isDigit (charOfOctet low)) ∧ fault = .ofPair high low := by
  rw [← ofDigits?_eq_none_iff]
  unfold decodePair Fault.ofPair
  cases ofDigits? (charOfOctet high) (charOfOctet low) with
  | some octet => simp
  | none => cases Utf8.decode [high, low] <;> simp [eq_comm]

/-- Pairs are refused for the first of them that is not two digits. -/
theorem decodePairs_eq_error_iff :
    decodePairs octets = .error fault ↔
      ∃ high low, FirstBad octets high low ∧ fault = .ofPair high low := by
  constructor
  · intro read
    induction octets using decodePairs.induct with
    | case1 high low rest other refused =>
        simp only [decodePairs, refused, Except.error.injEq] at read
        subst read
        obtain ⟨bad, named⟩ := decodePair_eq_error_iff.mp refused
        exact ⟨high, low, ⟨[], [], rest, rfl, .nil, bad⟩, named⟩
    | case2 high low rest octet pair other later ih =>
        simp only [decodePairs, pair, later, Except.error.injEq] at read
        subst read
        obtain ⟨worse, worst, ⟨good, payload, tail, rfl, denotes, bad⟩, named⟩ := ih later
        obtain ⟨upper, lower, first, second⟩ :=
          values_of_ofDigits? (decodePair_eq_ok_iff.mp pair)
        exact ⟨worse, worst, ⟨_, _, tail, rfl, .pair first second denotes, bad⟩, named⟩
    | case3 high low rest octet pair payload later ih =>
        simp only [decodePairs, pair, later, reduceCtorEq] at read
    | case4 octets single =>
        rw [decodePairs.eq_2 octets single] at read
        cases read
  · rintro ⟨high, low, ⟨good, payload, rest, rfl, denotes, bad⟩, rfl⟩
    induction denotes with
    | nil =>
        have refused := decodePair_eq_error_iff.mpr ⟨bad, rfl⟩
        simp only [List.nil_append, decodePairs, refused]
    | pair first second _ ih =>
        have pair := decodePair_eq_ok_iff.mpr (ofDigits?_of_values first second)
        simp only [List.cons_append, decodePairs, pair, ih]

end Frame

namespace Exchange

open Hexwire.Frame

/-- How an echo of the right size for a payload size is judged. Its terminator comes first, then the
first pair that is not two digits; an echo without either carries what its digits denote. -/
inductive Judged (size : Nat) (echo : Bytes) : Except Raised Bytes → Prop where
  | unterminated (unended : ¬ IsEnding (echo.drop (2 * size))) :
      Judged size echo (.error (Failure.bridge .invalidResponse (some
        ("Invalid frame terminator " ++ Text.quotedBytes (echo.drop (2 * size))))).raised)
  | notText {high low : UInt8} {fault : Utf8.Fault} (ended : IsEnding (echo.drop (2 * size)))
      (bad : FirstBad (echo.take (2 * size)) high low)
      (unread : Utf8.decode [high, low] = .error fault) :
      Judged size echo (.error ((Failure.bridge .nonUtf8Hex (some
        "Non-UTF8 hex characters in response")).raisedFrom (fault.failure "utf-8")))
  | notDigits {high low : UInt8} {text : List Char} (ended : IsEnding (echo.drop (2 * size)))
      (bad : FirstBad (echo.take (2 * size)) high low)
      (read : Utf8.decode [high, low] = .ok text) :
      Judged size echo (.error (Failure.bridge .invalidHexDigit (some
        ("Invalid hex digit in response: " ++
          Text.quoteWith Text.isUnprintable text))).raised)
  | carried {payload : Bytes} (ended : IsEnding (echo.drop (2 * size)))
      (denotes : Hex.Denotes (echo.take (2 * size)) payload) : Judged size echo (.ok payload)

variable {size : Nat} {echo : Bytes}

/-- An echo that ends as it should is decided by its digits. -/
theorem ofEcho_of_terminated (sized : echo.length = 2 * size + 2) (fits : size ≤ maxPayload)
    (ended : IsEnding (echo.drop (2 * size))) :
    ofEcho echo size = (decodePairs (echo.take (2 * size))).mapError Fault.raised := by
  have even := length_take_of_sized sized
  have ends := (isTerminated_iff_drop sized).mpr ended
  simp only [ofEcho, ends, ↓reduceIte, decode, even, Nat.lt_irrefl]
  cases pairs : decodePairs (echo.take (2 * size)) with
  | error fault => rfl
  | ok payload =>
      have exact := (denotes_of_decodePairs even pairs).length
      have small : payload.length ≤ maxPayload := by omega
      simp only [make_of_fits small]
      rfl

/-- An echo that does not end as it should is refused for its ending. -/
theorem ofEcho_of_unterminated (sized : echo.length = 2 * size + 2)
    (unended : ¬ IsEnding (echo.drop (2 * size))) :
    ofEcho echo size = .error (Failure.bridge .invalidResponse (some
      ("Invalid frame terminator " ++ Text.quotedBytes (echo.drop (2 * size))))).raised := by
  have stray : ¬ isTerminated echo := fun ends => unended ((isTerminated_iff_drop sized).mp ends)
  have last : echo.length - 2 = 2 * size := by omega
  rw [ofEcho, if_neg stray, unterminated, last, Failure.ofBridge_of_ne (by simp)]

/-- **Every echo has one verdict**, and reading the echo reaches it. -/
theorem judged_iff {verdict : Except Raised Bytes} (sized : echo.length = 2 * size + 2)
    (fits : size ≤ maxPayload) : Judged size echo verdict ↔ ofEcho echo size = verdict := by
  constructor
  · intro judged
    cases judged with
    | unterminated unended => exact ofEcho_of_unterminated sized unended
    | notText ended bad unread =>
        have refused := decodePairs_eq_error_iff.mpr ⟨_, _, bad, rfl⟩
        rw [ofEcho_of_terminated sized fits ended, refused, Fault.ofPair, unread]
        rfl
    | notDigits ended bad read =>
        have refused := decodePairs_eq_error_iff.mpr ⟨_, _, bad, rfl⟩
        rw [ofEcho_of_terminated sized fits ended, refused, Fault.ofPair, read]
        exact congrArg Except.error (Fault.raised_notDigits _)
    | carried ended denotes =>
        rw [ofEcho_of_terminated sized fits ended, decodePairs_of_denotes denotes]
        rfl
  · rintro rfl
    by_cases ended : IsEnding (echo.drop (2 * size))
    · rw [ofEcho_of_terminated sized fits ended]
      cases pairs : decodePairs (echo.take (2 * size)) with
      | ok payload =>
          exact .carried ended (denotes_of_decodePairs (length_take_of_sized sized) pairs)
      | error fault =>
          obtain ⟨high, low, bad, rfl⟩ := decodePairs_eq_error_iff.mp pairs
          unfold Fault.ofPair
          cases text : Utf8.decode [high, low] with
          | error fault => exact .notText ended bad text
          | ok text =>
              change Judged size echo (.error (Fault.raised _))
              rw [Fault.raised_notDigits]
              exact .notDigits ended bad text
    · rw [ofEcho_of_unterminated sized ended]
      exact .unterminated ended

/-- What is queued when the echo of a payload is awaited. -/
def heard (device : Device) (data : Bytes) : Bytes :=
  device.queue ++ device.answers [Frame.encode data]

/-- How an exchange of a payload ends once its frame is on its way: what of the echo is queued is
taken, and it is judged if it is as long as the frame. -/
structure Decided (world : World) (data : Bytes) (outcome : Except Raised Bytes) (after : World) :
    Prop where
  took : world.device.Took [Frame.encode data] after.device
  written : after.device.written = world.device.written ++ [Frame.encode data]
  sleeps : after.sleeps = world.sleeps ++ [settleTime]
  store : after.store = world.store
  queue : after.device.queue = (heard world.device data).drop (2 * data.length + 2)
  late : (heard world.device data).length < 2 * data.length + 2 →
    outcome = .error (Failure.bridge .timeout (some ("Received " ++
      toString (heard world.device data).length ++ " of " ++ toString (2 * data.length + 2) ++
        " bytes within " ++ toString Line.timeout ++ " ms"))).raised ∧ after.device.queue = []
  judged : 2 * data.length + 2 ≤ (heard world.device data).length → ∀ verdict,
    Judged data.length ((heard world.device data).take (2 * data.length + 2)) verdict ↔
      outcome = verdict

variable {world : World} {data : Bytes}

/-- **A payload that fits is sent and what comes back decides.** -/
theorem payload_decided (filled : data ≠ []) (fits : data.length ≤ maxPayload)
    (opened : world.device.isOpen) (accepts : world.device.Accepts (Frame.encode data))
    (prompt : world.device.Prompt) :
    ∃ outcome after, (payload data).result world = (outcome, after) ∧
      Decided world data outcome after := by
  obtain ⟨middle, sent, stillOpen, stillPrompt, queue, took, store, awake⟩ :=
    Line.exists_sent opened accepts prompt
  have rested : { middle with sleeps := middle.sleeps ++ [settleTime] }.device.isOpen := stillOpen
  obtain ⟨found, after, ran, received, more, left, same, waited⟩ :=
    Line.receive_prompt rested stillPrompt (Frame.encode data).length
  have whole := took.trans more
  have size := length_encode data
  have queued : middle.device.queue = heard world.device data := queue
  have slept : after.sleeps = world.sleeps ++ [settleTime] := by
    rw [waited, awake]
  rw [queued, size] at received left
  rw [payload_of_fits filled fits, Action.result_bind_of_ok sent, awaitEcho,
    Action.result_bind_of_ok (Action.result_sleep _ _)]
  by_cases few : (heard world.device data).length < 2 * data.length + 2
  · rw [if_pos few] at received
    rw [Failure.ofBridge_of_ne (by simp)] at received
    subst received
    have drained := left.trans (List.drop_of_length_le (Nat.le_of_lt few))
    exact ⟨_, after, Action.result_bind_of_error ran _, whole, accepts.written whole, slept,
      same.trans store, left, fun _ => ⟨rfl, drained⟩,
      fun enough => absurd few (Nat.not_lt.mpr enough)⟩
  · rw [if_neg few] at received
    subst received
    rw [Action.result_bind_of_ok ran]
    have sized : ((heard world.device data).take (2 * data.length + 2)).length =
        2 * data.length + 2 := by
      rw [List.length_take]
      omega
    have reached := fun verdict => @judged_iff _ _ verdict sized fits
    cases read : ofEcho ((heard world.device data).take (2 * data.length + 2)) data.length with
    | error raised =>
        rw [read] at reached
        exact ⟨_, after, rfl, whole, accepts.written whole, slept, same.trans store, left,
          fun late => absurd late few, fun _ => reached⟩
    | ok answer =>
        rw [read] at reached
        exact ⟨_, _, rfl, whole, accepts.written whole, slept, same.trans store, left,
          fun late => absurd late few, fun _ => reached⟩

/-- A failure for digits or for the ending is not one for the length of a frame. -/
theorem raised_ne_of_kind {raised : Raised} {kind : BridgeKind} {text : Option String}
    (failed : raised.failure = .bridge kind text) (short : kind ≠ .dataTooLong)
    (told : kind = .invalidResponse → ∃ rest, text = some ("Invalid frame terminator " ++ rest)) :
    (∀ expected found, raised ≠ (Fault.short expected found).raised) ∧
      ∀ size, raised ≠ (Fault.long size).raised := by
  constructor
  · rintro expected found rfl
    simp only [Fault.raised, Failure.raised] at failed
    rw [Failure.ofBridge_of_ne (by simp)] at failed
    cases failed
    obtain ⟨rest, same⟩ := told rfl
    have first := congrArg (fun text => (text.getD "").toList.head?) same
    simp at first
  · rintro size rfl
    obtain ⟨text, long⟩ := Fault.raised_long size
    rw [long] at failed
    cases failed
    exact short rfl

/-- What an exchange fails with once its frame is on its way is neither that the echo has too few
digits nor that a payload is too long. -/
theorem Decided.raised_ne {raised : Raised} {after : World}
    (decided : Decided world data (.error raised) after) :
    (∀ expected found, raised ≠ (Fault.short expected found).raised) ∧
      ∀ size, raised ≠ (Fault.long size).raised := by
  by_cases few : (heard world.device data).length < 2 * data.length + 2
  · cases (decided.late few).1
    exact raised_ne_of_kind rfl (by decide) (by rintro ⟨⟩)
  · cases (decided.judged (Nat.not_lt.mp few) _).mpr rfl with
    | unterminated _ => exact raised_ne_of_kind rfl (by decide) fun _ => ⟨_, rfl⟩
    | notText _ _ _ => exact raised_ne_of_kind rfl (by decide) (by rintro ⟨⟩)
    | notDigits _ _ _ => exact raised_ne_of_kind rfl (by decide) (by rintro ⟨⟩)

/-- What is received has the length of what was sent. -/
theorem Decided.length {received : Bytes} {after : World}
    (decided : Decided world data (.ok received) after) : received.length = data.length := by
  by_cases few : (heard world.device data).length < 2 * data.length + 2
  · cases (decided.late few).1
  · cases (decided.judged (Nat.not_lt.mp few) _).mpr rfl with
    | carried _ denotes =>
        have even := denotes.length
        rw [List.take_take, List.length_take] at even
        omega

/-- **One exchange, decided.** On an open device that accepts the frame and does not hold its queue
back, an empty buffer changes nothing at all, a buffer that does not fit is refused without a call
of the device, and any other is sent and judged by what is queued. The buffers are changed only by
an echo that carries octets. -/
theorem through_decided {view : View} (shown : world.store.load view = data)
    (opened : world.device.isOpen) (accepts : world.device.Accepts (Frame.encode data))
    (prompt : world.device.Prompt) :
    (data = [] → (through view).result world = (.ok (), world)) ∧
      (maxPayload < data.length → (through view).result world =
        (.error (Failure.bridge .dataTooLong (some ("Data too long for transport: " ++
          toString data.length ++ " bytes, maximum is " ++ toString maxPayload))).raised, world)) ∧
      (data ≠ [] → data.length ≤ maxPayload →
        ∃ outcome after, Decided world data outcome after ∧
          match outcome with
          | .ok received =>
            (through view).result world =
              (.ok (), { after with store := world.store.save view received }) ∧
              received.length = data.length ∧
              (view.Within world.store → (world.store.save view received).load view = received)
          | .error raised =>
            (through view).result world = (.error raised, after) ∧
              (∀ expected found, raised ≠ (Fault.short expected found).raised) ∧
              ∀ size, raised ≠ (Fault.long size).raised) := by
  refine ⟨?_, ?_, ?_⟩
  · intro empty
    rw [Operation.result_through, shown, empty, payload_nil, Action.result_pure]
    simp only [Store.save_nil]
  · intro long
    rw [Operation.result_through, shown, payload_of_long long, Action.result_throw]
    have filled (rest : String) : rest ++ toString maxPayload ≠ "" := by simp
    simp only [Fault.raised, Failure.ofBridge_of_ne (filled _)]
  · intro filled fits
    obtain ⟨outcome, after, ran, decided⟩ := payload_decided filled fits opened accepts prompt
    refine ⟨outcome, after, decided, ?_⟩
    have run := Operation.result_through view world
    rw [shown, ran] at run
    cases outcome with
    | error raised => exact ⟨run, decided.raised_ne⟩
    | ok received =>
        have sized := decided.length
        simp only [decided.store] at run
        refine ⟨run, sized, fun within => Store.load_save within ?_⟩
        rw [sized, ← shown, within.length_load]

/-- A buffer of one octet and a device of which every read returns one octet. -/
def dripping (queue : Bytes) : World where
  device := .scripted
    { script :=
        { onOpen := none
          onWrite := fun _ => none
          onRead := fun _ => .give (some 1)
          onFlush := fun _ => none
          onClose := fun _ => none }
      queue := queue }
  store := [(.named "a", [0xA5])]

/-- An echo in digits of either case with an octet after it, and one whose second digit is none. -/
theorem through_dripping :
    let view : View := ⟨.named "a", 0, 1⟩
    (∃ after, (through view).result (dripping [0x35, 0x61, 0x0D, 0x0A, 0x4F]) = (.ok (), after) ∧
      after.store = [(.named "a", [0x5A])] ∧ after.device.queue = [0x4F] ∧
        after.device.written = [[0x41, 0x35, 0x78, 0x0A]] ∧ after.sleeps = [settleTime]) ∧
      ∃ raised after, (through view).result (dripping [0x35, 0x67, 0x78, 0x0A]) =
        (.error raised, after) ∧ raised.failure.className = "BridgeInvalidHexDigitError" := by
  intro view
  have faultless (queue : Bytes) : (dripping queue).device.Prompt :=
    ⟨fun _ => rfl, fun _ => rfl, fun _ => ⟨some 1, rfl, by decide⟩⟩
  have decided (queue : Bytes) := (@through_decided (dripping queue) [0xA5] view rfl rfl
    (faultless queue) (faultless queue)).2.2 (by decide) (by decide)
  constructor
  · obtain ⟨outcome, after, ended, ran⟩ := decided [0x35, 0x61, 0x0D, 0x0A, 0x4F]
    have denotes : Hex.Denotes [0x35, 0x61] [0x5A] :=
      @Hex.Denotes.pair _ _ 5 10 _ _ (by decide) (by decide) .nil
    cases (ended.judged (by decide) (.ok [0x5A])).mp (.carried (.inr rfl) denotes)
    exact ⟨_, ran.1, rfl, ended.queue, ended.written, ended.sleeps⟩
  · obtain ⟨outcome, after, ended, ran⟩ := decided [0x35, 0x67, 0x78, 0x0A]
    have bad : FirstBad [0x35, 0x67] 0x35 0x67 :=
      ⟨[], [], [], rfl, .nil, by decide⟩
    cases (ended.judged (by decide) _).mp (.notDigits (.inl rfl) bad rfl)
    exact ⟨_, after, ran.1, rfl⟩

end Exchange

end Hexwire
