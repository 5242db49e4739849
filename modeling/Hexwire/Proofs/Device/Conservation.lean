import Hexwire.Proofs.Bytes.Spelling
import Hexwire.Proofs.Device.Emulation
import Mathlib.Algebra.Ring.Parity
import Mathlib.Data.List.Forall2

/-! # Nothing that a bridge answers is lost

An emulated bridge answers a write or refuses it (`Hexwire.Emulator.Behaviour.Answers`,
`Hexwire.Emulator.Behaviour.Refuses`). What it answers is queued, and reads take from the queue in
order: over any calls but those that forget the queue, what was read and what is still queued are
together the answers to the writes that were not refused, in the order of the writes. A refused
write is recorded and changes nothing else (`Hexwire.Emulator.run_lossless`).
-/

namespace Hexwire

namespace Emulator

variable {behaviour : Behaviour} {e before middle after : Emulator}
  {data digits octets payload : Bytes} {failure : Failure}

/-- Octets that are ASCII text and spell a payload. -/
structure Encodes (digits payload : Bytes) : Prop where
  ascii : ∀ octet ∈ digits, octet < 0x80
  spells : Hex.Spells (digits.map Hex.charOfOctet) payload

/-- Octets that encode no payload: one of them is not ASCII, or their text spells no octets. -/
inductive Unreadable (digits : Bytes) : Failure → Prop where
  | foreign {octet : UInt8} {text : String} (member : octet ∈ digits) (beyond : ¬ octet < 0x80) :
      Unreadable digits (.ofText .unicodeDecode text)
  | malformed {text : String} (ascii : ∀ octet ∈ digits, octet < 0x80)
      (unspelled : ∀ payload, ¬ Hex.Spells (digits.map Hex.charOfOctet) payload) :
      Unreadable digits (.ofText .value text)

/-- What a bridge answers to a write: the acknowledgement to the chip-select command, an echo of
what the peripheral clocks in to digits with a terminator, and nothing to any other write. -/
inductive Behaviour.Answers (behaviour : Behaviour) : Bytes → Bytes → Prop where
  | toggle : Answers behaviour chipSelectCommand behaviour.acknowledgement
  | echo {digits payload response : Bytes} (encodes : Encodes digits payload)
      (clocked : behaviour.clocks payload = .ok response) :
      Answers behaviour (digits ++ Frame.terminator)
        (Hex.encodeUpper response ++ behaviour.echoTerminator)
  | nothing {data : Bytes} (command : data ≠ chipSelectCommand)
      (unterminated : ¬ Frame.terminator <:+ data) : Answers behaviour data []

/-- Why a bridge refuses a write that ends in a terminator: what stands before encodes no payload,
or the peripheral fails at the payload. -/
inductive Behaviour.Refuses (behaviour : Behaviour) : Bytes → Failure → Prop where
  | unreadable {digits : Bytes} {failure : Failure} (unreadable : Unreadable digits failure) :
      Refuses behaviour (digits ++ Frame.terminator) failure
  | failing {digits payload : Bytes} {failure : Failure} (encodes : Encodes digits payload)
      (failed : behaviour.clocks payload = .error failure) :
      Refuses behaviour (digits ++ Frame.terminator) failure

/-! ## One write -/

/-- Either all octets are ASCII, or the search ends at one that is not. -/
theorem nonAscii?_cases (position : Nat) (data : Bytes) :
    (nonAscii? position data = none ∧ ∀ octet ∈ data, octet < 0x80) ∨
      ∃ place octet, nonAscii? position data = some (place, octet) ∧ octet ∈ data ∧
        ¬ octet < 0x80 := by
  induction data generalizing position with
  | nil => exact .inl ⟨rfl, fun _ member => nomatch member⟩
  | cons first rest ih =>
      unfold nonAscii?
      by_cases low : first < 0x80
      · rw [if_pos low]
        obtain ⟨none, ascii⟩ | ⟨place, octet, found, member, beyond⟩ := ih (position + 1)
        · exact .inl ⟨none, List.forall_mem_cons.mpr ⟨low, ascii⟩⟩
        · exact .inr ⟨place, octet, found, .tail _ member, beyond⟩
      · rw [if_neg low]
        exact .inr ⟨position, first, rfl, .head _, low⟩

/-- Digits that encode octets are decoded to them by the bridge. -/
theorem Encodes.payloadOf (encodes : Encodes digits payload) :
    Emulator.payloadOf digits = .ok payload := by
  simp only [Emulator.payloadOf, nonAscii?_eq_none encodes.ascii,
    Hex.parse_eq_ok_iff.mpr encodes.spells]

/-- What is unreadable encodes nothing. -/
theorem Unreadable.not_encodes (unreadable : Unreadable digits failure) :
    ¬ Encodes digits payload := by
  intro encodes
  cases unreadable with
  | foreign member beyond => exact beyond (encodes.ascii _ member)
  | malformed _ unspelled => exact unspelled payload encodes.spells

/-- Octets encode a payload, which is read, or they are unreadable for a reason that is told. -/
theorem payloadOf_cases (digits : Bytes) :
    (∃ payload, payloadOf digits = .ok payload ∧ Encodes digits payload) ∨
      ∃ failure, payloadOf digits = .error failure ∧ Unreadable digits failure := by
  unfold payloadOf
  obtain ⟨none, ascii⟩ | ⟨place, octet, found, member, beyond⟩ := nonAscii?_cases 0 digits
  · rw [none]
    cases read : Hex.parse (digits.map Hex.charOfOctet) with
    | ok payload => exact .inl ⟨payload, rfl, ascii, Hex.parse_eq_ok_iff.mp read⟩
    | error fault =>
        refine .inr ⟨_, rfl, .malformed ascii fun payload spells => ?_⟩
        rw [Hex.parse_eq_ok_iff.mpr spells] at read
        cases read
  · rw [found]
    exact .inr ⟨_, rfl, .foreign member beyond⟩

/-- The bridge gives the answer that it is said to give. -/
theorem Behaviour.Answers.answer (answers : behaviour.Answers data octets) :
    Emulator.answer behaviour data = .ok (octets, decide (data = chipSelectCommand)) := by
  cases answers with
  | toggle => rfl
  | echo encodes clocked =>
      rw [answer_terminated, encodes.payloadOf, Except.bind, clocked,
        decide_eq_false (terminated_ne_chipSelectCommand _)]
      rfl
  | nothing command unterminated =>
      have unmarked : ¬ Frame.terminator.isSuffixOf data := fun marked =>
        unterminated (List.isSuffixOf_iff_suffix.mp marked)
      rw [Emulator.answer, if_neg command, if_neg unmarked, decide_eq_false command]

/-- A bridge answers a write or refuses it. -/
theorem answer_cases (behaviour : Behaviour) (data : Bytes) :
    (∃ octets, Emulator.answer behaviour data = .ok (octets, decide (data = chipSelectCommand)) ∧
      behaviour.Answers data octets) ∨
      ∃ failure, Emulator.answer behaviour data = .error failure ∧
        behaviour.Refuses data failure := by
  by_cases command : data = chipSelectCommand
  · subst command
    exact .inl ⟨_, rfl, .toggle⟩
  by_cases terminated : Frame.terminator <:+ data
  · obtain ⟨digits, rfl⟩ := terminated
    obtain ⟨payload, -, encodes⟩ | ⟨failure, unread, unreadable⟩ := payloadOf_cases digits
    · cases clocked : behaviour.clocks payload with
      | ok response =>
          have answers : behaviour.Answers _ _ := .echo encodes clocked
          exact .inl ⟨_, answers.answer, answers⟩
      | error failure =>
          refine .inr ⟨failure, ?_, .failing encodes clocked⟩
          rw [answer_terminated, encodes.payloadOf, Except.bind, clocked]
          rfl
    · refine .inr ⟨failure, ?_, .unreadable unreadable⟩
      rw [answer_terminated, unread]
      rfl
  · have answers : behaviour.Answers data [] := .nothing command terminated
    exact .inl ⟨[], answers.answer, answers⟩

/-- A bridge has one answer to what is written. -/
theorem Behaviour.Answers.unique {others : Bytes} (answers : behaviour.Answers data octets)
    (same : behaviour.Answers data others) : octets = others := by
  have both := answers.answer.symm.trans same.answer
  exact (Prod.mk.inj (Except.ok.inj both)).1

/-- A write that the bridge refuses fails. -/
theorem Behaviour.Refuses.answer (refuses : behaviour.Refuses data failure) :
    ∃ other, Emulator.answer behaviour data = .error other := by
  cases refuses with
  | @unreadable digits _ unreadable =>
      rw [answer_terminated]
      obtain ⟨payload, -, encodes⟩ | ⟨other, unread, -⟩ := payloadOf_cases digits
      · exact absurd encodes unreadable.not_encodes
      · rw [unread]
        exact ⟨other, rfl⟩
  | failing encodes failed =>
      rw [answer_terminated, encodes.payloadOf, Except.bind, failed]
      exact ⟨_, rfl⟩

/-- The command that toggles chip select is never refused. -/
theorem Behaviour.Refuses.ne_chipSelectCommand (refuses : behaviour.Refuses data failure) :
    data ≠ chipSelectCommand := by
  rintro rfl
  obtain ⟨other, failed⟩ := refuses.answer
  cases failed

/-! ## What calls hand over -/

/-- The octets that a call writes. -/
def Call.sent : Call → List Bytes
  | .write data => [data]
  | _ => []

/-- The octets that a call writes without being refused. -/
def Call.accepted (call : Call) : Except Raised Answer → List Bytes
  | .ok _ => call.sent
  | .error _ => []

/-- The octets that the outcome of a call hands to the reader. -/
def octetsOf : Except Raised Answer → Bytes
  | .ok (.data octets) => octets
  | _ => []

/-- The state after calls. -/
def reached (e : Emulator) (calls : List Call) : Emulator :=
  ((e.run calls).map (·.2)).getLastD e

/-- The writes among calls, in order. -/
def sent (calls : List Call) : List Bytes := calls.flatMap Call.sent

/-- The writes among calls that are not refused, in order. -/
def accepted (e : Emulator) (calls : List Call) : List Bytes :=
  (calls.zip (e.run calls)).flatMap fun (call, outcome, _) => call.accepted outcome

/-- The octets that calls hand to the reader, in order. -/
def given (e : Emulator) (calls : List Call) : Bytes :=
  (e.run calls).flatMap fun (outcome, _) => octetsOf outcome

section Cons

variable (e : Emulator) (call : Call) (rest : List Call)

/-- Calls lead where the later ones lead from where the first does. -/
@[simp]
theorem reached_cons : e.reached (call :: rest) = (e.call call).2.reached rest := by
  simp only [reached, run, List.map_cons, List.getLastD_cons]

/-- What is sent starts with what the first call sends. -/
@[simp]
theorem sent_cons : sent (call :: rest) = call.sent ++ sent rest := rfl

/-- What is accepted starts with what is accepted of the first call. -/
@[simp]
theorem accepted_cons : e.accepted (call :: rest) =
    call.accepted (e.call call).1 ++ (e.call call).2.accepted rest := rfl

/-- What is given starts with what the first call gives. -/
@[simp]
theorem given_cons : e.given (call :: rest) =
    octetsOf (e.call call).1 ++ (e.call call).2.given rest := rfl

end Cons

/-! ## One call after the other -/

/-- From one state to another writes are recorded and toggles are counted, and chip select stays
what the parity of the count says. -/
structure Logged (before : Emulator) (sent : List Bytes) (after : Emulator) : Prop where
  behaviour : after.behaviour = before.behaviour
  written : after.written = before.written ++ sent
  toggles : after.toggles = before.toggles + sent.count chipSelectCommand
  selected : (before.selected = true ↔ Odd before.toggles) →
    (after.selected = true ↔ Odd after.toggles)

/-- Writes are answered, and what was queued with the answers is what is given with what is still
queued. -/
def Conserved (before : Emulator) (accepted : List Bytes) (given : Bytes) (after : Emulator) :
    Prop :=
  ∃ answers, List.Forall₂ before.behaviour.Answers accepted answers ∧
    before.queue ++ answers.flatten = given ++ after.queue

/-- Two records of writes in a row make one. -/
theorem Logged.trans {first second : List Bytes} (logged : before.Logged first middle)
    (later : middle.Logged second after) : before.Logged (first ++ second) after where
  behaviour := later.behaviour.trans logged.behaviour
  written := by rw [later.written, logged.written, List.append_assoc]
  toggles := by rw [later.toggles, logged.toggles, List.count_append, Nat.add_assoc]
  selected := fun parity => later.selected (logged.selected parity)

/-- The octets are conserved over two stretches if they are over each. -/
theorem Conserved.trans {first second : List Bytes} {given later : Bytes}
    (conserved : before.Conserved first given middle)
    (same : middle.behaviour = before.behaviour)
    (rest : middle.Conserved second later after) :
    before.Conserved (first ++ second) (given ++ later) after := by
  obtain ⟨answers, answered, kept⟩ := conserved
  obtain ⟨more, others, left⟩ := rest
  rw [same] at others
  refine ⟨answers ++ more, List.rel_append answered others, ?_⟩
  calc before.queue ++ (answers ++ more).flatten
      = (before.queue ++ answers.flatten) ++ more.flatten := by
        rw [List.flatten_append, List.append_assoc]
    _ = given ++ (middle.queue ++ more.flatten) := by rw [kept, List.append_assoc]
    _ = given ++ later ++ after.queue := by rw [left, List.append_assoc]

/-- A write that the bridge answers queues the answer and is recorded. -/
theorem write_of_answer {toggled : Bool}
    (answered : Emulator.answer e.behaviour data = .ok (octets, toggled)) :
    e.call (.write data) = (.ok (.count data.length),
      { e with
        queue := e.queue ++ octets
        written := e.written ++ [data]
        selected := if toggled then !e.selected else e.selected
        toggles := if toggled then e.toggles + 1 else e.toggles }) := by
  simp only [call, write, answered]

/-- A write that is refused is recorded and changes nothing else. -/
theorem write_of_failure (failed : Emulator.answer e.behaviour data = .error failure) :
    e.call (.write data) = (.error failure.raised, { e with written := e.written ++ [data] }) := by
  simp only [call, write, failed]

/-- A read takes as many octets off the head of the queue as it asks for. -/
theorem call_read (e : Emulator) (count : Nat) :
    e.call (.read count) =
      (.ok (.data (e.queue.take count)), { e with queue := e.queue.drop count }) := by
  simp only [call, read, cutAt_ofNat]

/-- A read with a negative count leaves so many octets at the end of the queue. -/
theorem call_read_negSucc (e : Emulator) (count : Nat) :
    e.call (.read (-(count + 1))) =
      (.ok (.data (e.queue.take (e.queue.length - (count + 1)))),
        { e with queue := e.queue.drop (e.queue.length - (count + 1)) }) := by
  rw [← Int.negSucc_eq]
  simp only [call, read, cutAt_negSucc]

/-- A call that writes nothing leaves the records as they are. -/
theorem Logged.still {e after : Emulator} (behaviour : after.behaviour = e.behaviour)
    (written : after.written = e.written) (toggles : after.toggles = e.toggles)
    (selected : after.selected = e.selected) : e.Logged [] after where
  behaviour := behaviour
  written := by rw [written, List.append_nil]
  toggles := by rw [toggles, List.count_nil, Nat.add_zero]
  selected := by
    rw [toggles, selected]
    exact id

/-- A call records what it sends and nothing else. -/
theorem call_logged (e : Emulator) (call : Call) : e.Logged call.sent (e.call call).2 := by
  cases call with
  | write data =>
      obtain ⟨octets, answered, -⟩ | ⟨failure, failed, refuses⟩ := answer_cases e.behaviour data
      · rw [write_of_answer answered]
        by_cases command : data = chipSelectCommand
        · refine ⟨rfl, rfl, ?_, fun parity => ?_⟩
          · simp [Call.sent, command]
          · simp [command, Nat.odd_add_one, ← parity]
        · refine ⟨rfl, rfl, ?_, fun parity => ?_⟩
          · simp [Call.sent, command]
          · simp [command, parity]
      · rw [write_of_failure failed]
        refine ⟨rfl, rfl, ?_, id⟩
        -- The command that is counted is never refused, so the count stands.
        rw [Call.sent, List.count_singleton, if_neg]
        · rfl
        · simpa using refuses.ne_chipSelectCommand
  | _ => exact .still rfl rfl rfl rfl

/-- A call that discards nothing conserves the octets. -/
theorem call_conserved (e : Emulator) {call : Call} (kept : call ≠ .discard) :
    e.Conserved (call.accepted (e.call call).1) (octetsOf (e.call call).1) (e.call call).2 := by
  have still : e.Conserved [] [] e := ⟨[], .nil, List.append_nil _⟩
  cases call with
  | write data =>
      obtain ⟨octets, answered, answers⟩ | ⟨failure, failed, -⟩ := answer_cases e.behaviour data
      · rw [write_of_answer answered]
        refine ⟨[octets], .cons answers .nil, ?_⟩
        rw [List.flatten_singleton]
        rfl
      · rw [write_of_failure failed]
        exact still
  | read count =>
      -- Wherever a count cuts the queue, the two parts make it up.
      refine ⟨[], .nil, ?_⟩
      rw [List.flatten_nil, List.append_nil]
      exact (cutAt_append e.queue count).symm
  | discard => exact absurd rfl kept
  | _ => exact still

/-- All that calls send is recorded in order. -/
theorem run_logged (e : Emulator) (calls : List Call) :
    e.Logged (sent calls) (e.reached calls) := by
  induction calls generalizing e with
  | nil => exact .still rfl rfl rfl rfl
  | cons call rest ih =>
      rw [sent_cons, reached_cons]
      exact (call_logged e call).trans (ih _)

/-- **A run that does not forget the queue conserves it.** -/
theorem run_conserved (e : Emulator) (calls : List Call) (kept : Call.discard ∉ calls) :
    e.Conserved (e.accepted calls) (e.given calls) (e.reached calls) := by
  induction calls generalizing e with
  | nil => exact ⟨[], .nil, List.append_nil _⟩
  | cons call rest ih =>
      obtain ⟨now, later⟩ := not_or.mp (List.mem_cons.not.mp kept)
      rw [accepted_cons, given_cons, reached_cons]
      exact (call_conserved e (Ne.symm now)).trans (call_logged e call).behaviour (ih _ later)

/-- A write that fails is refused, and it is recorded and changes nothing else. -/
theorem refused_of_error {raised : Raised} (failed : (e.call (.write data)).1 = .error raised) :
    e.behaviour.Refuses data raised.failure ∧
      (e.call (.write data)).2 = { e with written := e.written ++ [data] } := by
  obtain ⟨octets, answered, -⟩ | ⟨failure, refused, refuses⟩ := answer_cases e.behaviour data
  · rw [write_of_answer answered] at failed
    cases failed
  · rw [write_of_failure refused] at failed ⊢
    cases failed
    rw [Failure.failure_raised]
    exact ⟨refuses, rfl⟩

/-- **The queue of a bridge loses nothing.** Over any calls that do not forget the queue, what was
read and what is still queued are together the answers to the writes that were not refused, in
their order. All writes are recorded, the chip-select commands among them are counted, and the
peripheral is selected after an odd number of them. A write fails just where the bridge refuses it;
it is recorded and leaves the queue, chip select and its count as they were. A read gives the first
octets of the queue, as many as it asks for, and one with a negative count all but so many; it takes
them off and changes nothing else. -/
theorem run_lossless (behaviour : Behaviour) (calls : List Call) :
    let bridge : Emulator := { behaviour }
    let reached := bridge.reached calls
    (Call.discard ∉ calls → ∃ answers,
      List.Forall₂ behaviour.Answers (bridge.accepted calls) answers ∧
        bridge.given calls ++ reached.queue = answers.flatten) ∧
    reached.written = sent calls ∧
    reached.toggles = (sent calls).count chipSelectCommand ∧
    (reached.selected = true ↔ Odd reached.toggles) ∧
    (∀ data,
      (∀ raised, (reached.call (.write data)).1 = .error raised →
        behaviour.Refuses data raised.failure ∧
          (reached.call (.write data)).2 = { reached with written := reached.written ++ [data] }) ∧
      ∀ failure, behaviour.Refuses data failure →
        ∃ raised, (reached.call (.write data)).1 = .error raised) ∧
    ∀ count : Nat,
      reached.call (.read count) =
        (.ok (.data (reached.queue.take count)),
          { reached with queue := reached.queue.drop count }) ∧
      reached.call (.read (-(count + 1))) =
        (.ok (.data (reached.queue.take (reached.queue.length - (count + 1)))),
          { reached with queue := reached.queue.drop (reached.queue.length - (count + 1)) }) := by
  intro bridge reached
  obtain ⟨same, written, toggles, selected⟩ := run_logged bridge calls
  refine ⟨fun kept => ?_, ?_, ?_, selected ?_, fun data => ⟨fun raised failed => ?_, ?_⟩,
    fun count => ⟨reached.call_read count, ?_⟩⟩
  · obtain ⟨answers, answered, conserved⟩ := run_conserved bridge calls kept
    exact ⟨answers, answered, conserved.symm⟩
  · exact written
  · rw [toggles]
    exact Nat.zero_add _
  · exact iff_of_false Bool.false_ne_true Nat.not_odd_zero
  · obtain ⟨refuses, left⟩ := refused_of_error failed
    rw [show reached.behaviour = behaviour from same] at refuses
    exact ⟨refuses, left⟩
  · intro failure refuses
    obtain ⟨other, failed⟩ := refuses.answer
    have failed : Emulator.answer reached.behaviour data = .error other := by
      rw [show reached.behaviour = behaviour from same, failed]
    exact ⟨other.raised, congrArg Prod.fst (write_of_failure failed)⟩
  · exact reached.call_read_negSucc count

/-- In front of an inverting peripheral a frame with a blank is echoed and one with three digits is
refused. A negative count leaves octets in the queue, and the next read starts with them. -/
theorem run_lossless_inverting :
    let behaviour : Behaviour := { peripheral := some .inverting }
    let bridge : Emulator := { behaviour }
    let octets (text : String) : Bytes := text.toList.map Hex.octetOfChar
    let calls : List Call := [.write chipSelectCommand, .write (octets "01 02x\n"), .read (-4),
      .write (octets "010x\n"), .close, .read 2]
    bridge.given calls = octets "OK\r\nFEFD" ∧ (bridge.reached calls).queue = octets "x\n" ∧
    (∃ answers, List.Forall₂ behaviour.Answers
        [chipSelectCommand, octets "01 02x\n"] answers ∧
      bridge.given calls ++ (bridge.reached calls).queue = answers.flatten) ∧
    (bridge.reached calls).written.length = 3 ∧ (bridge.reached calls).toggles = 1 ∧
    ((bridge.reached calls).call (.read 1)).1 = .ok (.data (octets "x")) := by
  intro behaviour bridge octets calls
  have kept : Call.discard ∉ calls := by simp [calls]
  have accepted : bridge.accepted calls = [chipSelectCommand, octets "01 02x\n"] := by
    decide +kernel +zetaReduce
  have given : bridge.given calls = octets "OK\r\nFEFD" := by decide +kernel +zetaReduce
  have queue : (bridge.reached calls).queue = octets "x\n" := by decide +kernel +zetaReduce
  have commands : (sent calls).count chipSelectCommand = 1 := by decide +kernel +zetaReduce
  obtain ⟨conserved, written, toggles, -, -, reads⟩ := run_lossless behaviour calls
  rw [accepted] at conserved
  refine ⟨given, queue, conserved kept, ?_, toggles.trans commands, ?_⟩
  · rw [written]
    rfl
  · refine (congrArg Prod.fst (reads 1).1).trans ?_
    rw [queue]
    rfl

end Emulator

end Hexwire
