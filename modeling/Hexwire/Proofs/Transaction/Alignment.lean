import Hexwire.Proofs.Transaction.Acceptance

/-! # Stale replies

What is queued for a transaction may be the rest of a stream of answers of which any number of
octets are gone. The first octet of an acknowledgement stands nowhere else in an answer, and no
answer is the beginning of another, so a transaction that succeeds has started at an acknowledgement
of the stream and has received consecutive whole answers of it
(`Hexwire.Transaction.receives_whole_answers`). No operation receives octets of an acknowledgement
or of more than one echo.
-/

namespace Hexwire

/-- A whole answer of the bridge: an acknowledgement, or an echo of a payload that is not empty. -/
def IsAnswer (answer : Bytes) : Prop :=
  answer = ChipSelect.acknowledgement ∨ ∃ size, 0 < size ∧ Frame.IsEcho size answer

/-- The octet that an acknowledgement starts with. -/
def ChipSelect.mark : UInt8 := 0x4F

/-- The first octet of an acknowledgement stands nowhere in an echo. -/
theorem Frame.IsEcho.not_mem_mark {size : Nat} {echo : Bytes} (proper : IsEcho size echo) :
    ChipSelect.mark ∉ echo := by
  obtain ⟨digits, ending, rfl, -, all, ends⟩ := proper
  intro member
  rcases List.mem_append.mp member with digit | last
  · exact absurd (all _ digit) (by decide)
  · rcases ends with rfl | rfl <;> exact absurd last (by decide)

namespace IsAnswer

variable {answer other rest others : Bytes}

/-- An answer is not empty. -/
theorem ne_nil (whole : IsAnswer answer) : answer ≠ [] := by
  rcases whole with rfl | ⟨size, -, proper⟩
  · exact List.cons_ne_nil _ _
  · have length := proper.length
    rintro rfl
    rw [List.length_nil] at length
    omega

/-- An answer that starts as an acknowledgement does is one. -/
theorem eq_acknowledgement (whole : IsAnswer answer) (member : ChipSelect.mark ∈ answer) :
    answer = ChipSelect.acknowledgement := by
  rcases whole with rfl | ⟨size, -, proper⟩
  · rfl
  · exact absurd member proper.not_mem_mark

/-- The first octet of an acknowledgement stands only at the start of an answer. -/
theorem not_mem_tail (whole : IsAnswer answer) : ChipSelect.mark ∉ answer.tail := by
  intro member
  obtain rfl := whole.eq_acknowledgement (List.mem_of_mem_tail member)
  exact absurd member (by decide)

/-- Only an acknowledgement holds the mark, and it starts with it. -/
theorem mem_mark_iff (whole : IsAnswer answer) :
    ChipSelect.mark ∈ answer ↔ answer.head? = some ChipSelect.mark := by
  constructor
  · intro member
    obtain rfl := whole.eq_acknowledgement member
    rfl
  · exact List.mem_of_head?

/-- No answer is the beginning of another. -/
theorem append_inj (first : IsAnswer answer) (second : IsAnswer other)
    (same : answer ++ rest = other ++ others) : answer = other ∧ rest = others := by
  -- Both start with the same octet, so both are acknowledgements or neither is.
  have starts : ChipSelect.mark ∈ answer ↔ ChipSelect.mark ∈ other := by
    rw [first.mem_mark_iff, second.mem_mark_iff, ← List.head?_append_of_ne_nil _ first.ne_nil, same,
      List.head?_append_of_ne_nil _ second.ne_nil]
  rcases second with rfl | ⟨size, filled, proper⟩
  · obtain rfl := first.eq_acknowledgement (starts.mpr List.mem_cons_self)
    exact ⟨rfl, List.append_cancel_left same⟩
  · rcases first with rfl | ⟨size', filled', proper'⟩
    · exact absurd (starts.mp List.mem_cons_self) proper.not_mem_mark
    · obtain ⟨payload, -, echoes⟩ := proper.exists_echoes
      obtain ⟨payload', -, echoes'⟩ := proper'.exists_echoes
      obtain ⟨-, equal, left⟩ := echoes'.append_inj echoes same
      exact ⟨equal, left⟩

end IsAnswer

variable {answers wanted : List Bytes} {rest : Bytes}

/-- Octets of a stream of answers that start as an acknowledgement does are answers of the
stream. -/
theorem exists_aligned (whole : ∀ answer ∈ answers, IsAnswer answer) {dropped : Nat}
    (starts : answers.flatten.drop dropped = ChipSelect.mark :: rest) :
    ∃ before later, answers = before ++ later ∧ dropped = before.flatten.length := by
  induction answers generalizing dropped with
  | nil => simp at starts
  | cons first others ih =>
      obtain ⟨proper, others'⟩ := List.forall_mem_cons.mp whole
      rw [List.flatten_cons] at starts
      by_cases past : first.length ≤ dropped
      · rw [List.drop_append, List.drop_of_length_le past, List.nil_append] at starts
        obtain ⟨before, later, rfl, sized⟩ := ih others' starts
        refine ⟨first :: before, later, rfl, ?_⟩
        rw [List.flatten_cons, List.length_append]
        omega
      · rw [List.drop_append_of_le_length (by omega)] at starts
        have present : first.drop dropped ≠ [] := by
          rw [ne_eq, List.drop_eq_nil_iff]
          omega
        obtain ⟨octet, left, cut⟩ := List.exists_cons_of_ne_nil present
        rw [cut, List.cons_append, List.cons.injEq] at starts
        have member : ChipSelect.mark ∈ first.drop dropped := by
          rw [cut, starts.1]
          exact List.mem_cons_self
        cases dropped with
        | zero => exact ⟨[], first :: others, rfl, rfl⟩
        | succ dropped =>
            rw [← List.drop_tail] at member
            exact absurd (List.mem_of_mem_drop member) proper.not_mem_tail

/-- Answers that a stream of answers starts with are its first answers. -/
theorem exists_later (whole : ∀ answer ∈ answers, IsAnswer answer)
    (taken : ∀ answer ∈ wanted, IsAnswer answer) (same : answers.flatten = wanted.flatten ++ rest) :
    ∃ later, answers = wanted ++ later ∧ rest = later.flatten := by
  induction wanted generalizing answers with
  | nil => exact ⟨answers, rfl, same.symm⟩
  | cons first others ih =>
      obtain ⟨proper, others'⟩ := List.forall_mem_cons.mp taken
      cases answers with
      | nil =>
          rw [List.flatten_nil, List.flatten_cons, List.append_assoc] at same
          exact absurd (List.append_eq_nil_iff.mp same.symm).1 proper.ne_nil
      | cons answer answers =>
          obtain ⟨proper', answers'⟩ := List.forall_mem_cons.mp whole
          rw [List.flatten_cons, List.flatten_cons, List.append_assoc] at same
          obtain ⟨rfl, left⟩ := proper'.append_inj proper same
          obtain ⟨later, rfl, equal⟩ := ih answers' others' left
          exact ⟨later, rfl, equal⟩

/-- The echoes that operations receive are whole answers. -/
theorem Operation.Receives.isAnswer {world : World} {operations : List (Operation View)}
    {echoes : List Bytes} (receives : Receives world operations echoes) :
    ∀ echo ∈ echoes, IsAnswer echo := by
  induction receives with
  | nil => exact List.forall_mem_nil _
  | silent _ _ _ ih => exact ih
  | echo _ filled sized carries _ _ ih =>
      refine List.forall_mem_cons.mpr ⟨.inr ⟨_, Nat.pos_of_ne_zero filled, ?_⟩, ih⟩
      exact sized ▸ carries.isEcho

namespace Transaction

/-- **Stale replies are never spliced into data.** The queue of a scripted device without faults is
what is left of a stream of whole answers after any number of octets are dropped. A transaction that
succeeds on it has started at an acknowledgement of the stream and has consumed consecutive answers
of it: the acknowledgement, one echo for each operation that exchanges octets, and another
acknowledgement. Every target holds what its own echo carries when its operation ends. -/
theorem receives_whole_answers (release : Bool) (world : World)
    (operations : List (Operation Operand)) (opened : world.device.isOpen)
    (replays : world.device.Replays) {answers : List Bytes} {dropped : Nat}
    (whole : ∀ answer ∈ answers, IsAnswer answer)
    (queued : world.device.queue = answers.flatten.drop dropped) :
    let prepared := Session.prepare (Session.fresh world) operations
    let selected := (ChipSelect.toggle.result prepared.2).2
    let finished := (run release prepared.1).result prepared.2
    finished.1 = .ok () →
      ∃ before echoes later,
        answers = before ++ (ChipSelect.acknowledgement :: echoes ++
          [ChipSelect.acknowledgement]) ++ later ∧
        dropped = before.flatten.length ∧ finished.2.device.queue = later.flatten ∧
        List.Forall₂ Frame.IsEcho (Operation.sizes prepared.1) echoes ∧
        Operation.Receives selected prepared.1 echoes := by
  intro prepared selected finished succeeded
  have ready : prepared.2.device.isOpen := opened
  have still : prepared.2.device.Replays := replays
  have ran : (run release prepared.1).result prepared.2 = (.ok (), finished.2) :=
    Prod.ext succeeded rfl
  obtain ⟨-, echoes, receives, talk⟩ :=
    run_received ready (Session.prepare_within world operations) ran
  have stale : prepared.2.device.queue = answers.flatten.drop dropped := queued
  have gave : prepared.2.device.queue = (ChipSelect.acknowledgement :: echoes ++
      [ChipSelect.acknowledgement]).flatten ++ finished.2.device.queue := by
    have heard := talk.talked.gave
    rw [still.answers, List.append_nil] at heard
    simpa using heard
  obtain ⟨before, left, rfl, aligned⟩ := exists_aligned whole (stale.symm.trans gave)
  rw [stale, aligned, List.flatten_append, List.drop_left] at gave
  have others : ∀ answer ∈ left, IsAnswer answer := fun answer member =>
    whole answer (List.mem_append_right _ member)
  have taken : ∀ answer ∈ ChipSelect.acknowledgement :: echoes ++ [ChipSelect.acknowledgement],
      IsAnswer answer := by
    intro answer member
    simp only [List.cons_append, List.mem_cons, List.mem_append, List.not_mem_nil, or_false]
      at member
    rcases member with rfl | echo | rfl
    · exact .inl rfl
    · exact receives.isAnswer answer echo
    · exact .inl rfl
  obtain ⟨later, rfl, rest⟩ := exists_later others taken gave
  exact ⟨before, echoes, later, (List.append_assoc _ _ _).symm, aligned, rest, receives.isEcho,
    receives⟩

/-- What is left of a stream of answers once its first echo is gone: an acknowledgement, an echo and
two acknowledgements. -/
def leftOver : World where
  device := .scripted
    { script := threeAtMost
      queue := [0x4F, 0x4B, 0x0D, 0x0A, 0x61, 0x42, 0x78, 0x0A, 0x4F, 0x4B, 0x0D, 0x0A, 0x4F, 0x4B,
        0x0D, 0x0A] }
  store := [(.named "a", [7])]

/-- The stream whose first six octets are gone from the queue. -/
def stream : List Bytes :=
  [[0x31, 0x32, 0x33, 0x34, 0x0D, 0x0A], ChipSelect.acknowledgement, [0x61, 0x42, 0x78, 0x0A],
    ChipSelect.acknowledgement, ChipSelect.acknowledgement]

/-- The stream is made of whole answers. -/
theorem isAnswer_stream : ∀ answer ∈ stream, IsAnswer answer := by
  have gone : IsAnswer [0x31, 0x32, 0x33, 0x34, 0x0D, 0x0A] :=
    .inr ⟨2, by decide, [0x31, 0x32, 0x33, 0x34], Frame.lineTerminator, rfl, rfl,
      List.all_eq_true.mp (by decide), .inr rfl⟩
  have echo : IsAnswer [0x61, 0x42, 0x78, 0x0A] :=
    .inr ⟨1, by decide, [0x61, 0x42], Frame.terminator, rfl, rfl,
      List.all_eq_true.mp (by decide), .inl rfl⟩
  have acknowledged : IsAnswer ChipSelect.acknowledgement := .inl rfl
  simp only [stream, List.forall_mem_cons]
  exact ⟨gone, acknowledged, echo, acknowledged, acknowledged, List.forall_mem_nil _⟩

/-- An exchange in place receives the one echo that is left. -/
theorem receives_leftOver :
    let prepared := Session.prepare (Session.fresh leftOver) [.inPlace (.whole "a")]
    let selected := (ChipSelect.toggle.result prepared.2).2
    let finished := (run false prepared.1).result prepared.2
    leftOver.device.isOpen ∧ leftOver.device.Replays ∧
      leftOver.device.queue = stream.flatten.drop 6 ∧ finished.1 = .ok () ∧
        ∃ before echoes later,
          stream = before ++ (ChipSelect.acknowledgement :: echoes ++
            [ChipSelect.acknowledgement]) ++ later ∧
          6 = before.flatten.length ∧ finished.2.device.queue = later.flatten ∧
          Operation.Receives selected prepared.1 echoes := by
  intro prepared selected finished
  have succeeded : finished.1 = .ok () := by
    decide +kernel
  obtain ⟨before, echoes, later, split, aligned, rest, -, receives⟩ :=
    receives_whole_answers false leftOver [.inPlace (.whole "a")] rfl faultless_threeAtMost
      isAnswer_stream (show leftOver.device.queue = stream.flatten.drop 6 from rfl) succeeded
  exact ⟨rfl, faultless_threeAtMost, rfl, succeeded, before, echoes, later, split, aligned, rest,
    receives⟩

end Transaction

end Hexwire
