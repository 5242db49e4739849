import Hexwire.Proofs.Frame.Codec
import Hexwire.Proofs.Sequence.Chunks
import Hexwire.Proofs.Transaction.Acceptance
import Hexwire.Proofs.Transaction.Candid
import Hexwire.Proofs.Transaction.Refinement
import Hexwire.Proofs.Transaction.Remains

/-! # Exchanges piece by piece

An exchange of any size cuts the payload into pieces and sends each in a frame that carries it.
Whatever the device makes of it, an exchange that succeeds has received one echo for each frame, and
its result is what the echoes carry, in order (`Hexwire.Transaction.exchange_carries`). On a bridge
that serves a function of the peripheral, the result is what the function makes of each piece, so
that a function of single octets cannot tell how the payload was cut
(`Hexwire.Transaction.pieces_unseen`).
-/

namespace Hexwire

/-- A payload is handed over without a change to the buffers. -/
theorem Exchange.store_payload (data : Bytes) (world : World) :
    ((payload data).result world).2.store = world.store := by
  by_cases opened : world.device.isOpen
  · obtain ⟨received, outcome, after, ran, -, store, -⟩ := payload_dialogue opened data
    rw [ran]
    exact store
  · rw [world_payload_of_closed opened]

namespace Transaction

variable {world after : World} {release : Bool} {data result : Bytes} {pieceSize : Int}
  {pieces frames answers : List Bytes}

/-- Exchanges of pieces leave the buffers alone. -/
theorem store_exchangeAll (pieces : List Bytes) (world : World) :
    ((exchangeAll pieces).result world).2.store = world.store := by
  induction pieces generalizing world with
  | nil => rfl
  | cons first rest ih =>
      have kept := Exchange.store_payload first world
      rw [exchangeAll]
      rcases ran : (Exchange.payload first).result world with ⟨raised | received, middle⟩
      · rw [ran] at kept
        rw [Action.result_bind_of_error ran]
        exact kept
      · rw [ran] at kept
        have later := ih middle
        rw [Action.result_bind_of_ok ran, Action.result_bind]
        rcases more : (exchangeAll rest).result middle with ⟨raised | others, finished⟩ <;>
        · rw [more] at later
          exact later.trans kept

/-- An exchange of any size leaves the buffers alone, whether it succeeds or not. -/
theorem store_exchange (release : Bool) (data : Bytes) (pieceSize : Int) (world : World) :
    ((exchange release data pieceSize).result world).2.store = world.store := by
  by_cases fits : 0 < pieceSize ∧ pieceSize ≤ Frame.maxPayload
  · let pieces := chunks pieceSize.toNat data
    let noted := { world with
      events := world.events ++ [Event.exchanging data.length pieces.length] }
    rw [result_exchange_of_fits fits]
    change ((bracketed release (exchangeAll pieces)).result noted).2.store = world.store
    have kept := ChipSelect.store_toggle noted
    rcases toggled : ChipSelect.toggle.result noted with ⟨raised | ⟨⟩, selected⟩ <;>
      rw [toggled] at kept
    · rw [result_bracketed_of_unselected toggled]
      exact kept
    · rw [store_bracketed release _ toggled, store_exchangeAll]
      exact kept
  · rw [exchange, if_neg fits]
    rfl

/-- What is sent in a transaction: frames between two commands. -/
def selected (frames : List Bytes) : List Bytes :=
  chipSelectCommand :: frames ++ [chipSelectCommand]

/-- **An exchange over a line:** the pieces of the payload, the frames they went out in, the echoes
that were received for them, and what the echoes carried. -/
structure Exchanged (size : Nat) (data result : Bytes) (before after : Device)
    (pieces frames answers echoes : List Bytes) : Prop where
  cut : IsCut size data pieces
  framed : List.Forall₂ Frame.Carries pieces frames
  written : after.written = before.written ++ selected frames
  /-- Two acknowledgements were received, with the echoes between them and nothing else. -/
  received : before.queue ++ before.answers (selected frames) =
    ChipSelect.acknowledgement ++ echoes.flatten ++ ChipSelect.acknowledgement ++ after.queue
  carried : List.Forall₂ Frame.Echoes answers echoes
  sized : answers.map List.length = pieces.map List.length
  joined : result = answers.flatten

/-- What is received in pieces has the length of what was sent. -/
theorem Exchanged.length {size : Nat} {before after : Device} {echoes : List Bytes}
    (exchanged : Exchanged size data result before after pieces frames answers echoes) :
    result.length = data.length := by
  rw [exchanged.joined, ← exchanged.cut.whole, List.length_flatten, List.length_flatten,
    exchanged.sized]

/-- Pieces that fit are exchanged one by one, each for what its echo carries. -/
theorem exchangeAll_dialogue (opened : world.device.isOpen) (filled : ∀ piece ∈ pieces, piece ≠ [])
    (ran : (exchangeAll pieces).result world = (.ok answers, after)) :
    ∃ echoes, List.Forall₂ Frame.Echoes answers echoes ∧
      answers.map List.length = pieces.map List.length ∧
        Dialogue world (pieces.map Frame.encode) echoes.flatten
          (.ok answers : Except Raised (List Bytes)) after := by
  induction pieces generalizing world answers with
  | nil =>
      cases ran
      exact ⟨[], .nil, rfl, Dialogue.silent _ _⟩
  | cons first rest ih =>
      obtain ⟨present, others⟩ := List.forall_mem_cons.mp filled
      obtain ⟨received, outcome, middle, exchanged, talk, -, answered⟩ :=
        Exchange.payload_dialogue opened first
      rw [exchangeAll] at ran
      cases outcome with
      | error raised =>
          rw [Action.result_bind_of_error exchanged] at ran
          cases ran
      | ok answer =>
          rw [Action.result_bind_of_ok exchanged] at ran
          rcases more : (exchangeAll rest).result middle with ⟨raised | more', finished⟩
          · rw [Action.result_bind_of_error more] at ran
            cases ran
          · rw [Action.result_bind_of_ok more] at ran
            cases ran
            obtain ⟨echoes, carried, sized, later⟩ := ih (talk.isOpen opened) others more
            obtain ⟨fits, answers⟩ := answered answer rfl
            have size : first.length ≠ 0 := fun zero => present (List.eq_nil_of_length_eq_zero zero)
            rw [Exchange.Answers, if_neg size] at answers
            rw [Exchange.frames_of_fits present fits] at talk
            refine ⟨received :: echoes, .cons answers.2 carried, ?_, ?_⟩
            · rw [List.map_cons, List.map_cons, answers.1, sized]
            · exact (talk.trans later).congr rfl rfl (by rintro - _ ⟨⟩)

/-- An exchange that succeeds has exchanged all its pieces. -/
theorem exchanged_of_ok (fits : 0 < pieceSize ∧ pieceSize ≤ Frame.maxPayload)
    (ran : (exchange release data pieceSize).result world = (.ok result, after)) :
    ∃ pieces frames answers echoes,
      Exchanged pieceSize.toNat data result world.device after.device pieces frames answers
        echoes := by
  have cut := chunks_isCut (by omega : 0 < pieceSize.toNat) data
  let pieces := chunks pieceSize.toNat data
  let noted := { world with
    events := world.events ++ [Event.exchanging data.length pieces.length] }
  rw [result_exchange_of_fits fits] at ran
  rcases bracket : (bracketed release (exchangeAll pieces)).result noted with
    ⟨raised | answers, finished⟩
  · rw [bracket] at ran
    cases ran
  · rw [bracket] at ran
    cases ran
    obtain ⟨selected, worked, toggled, exchanged, closed⟩ := result_bracketed_eq_ok_iff.mp bracket
    have opened := ChipSelect.isOpen_of_toggle toggled
    obtain ⟨opening, -⟩ := ChipSelect.toggle_acknowledged opened toggled
    obtain ⟨echoes, carried, sized, talk⟩ :=
      exchangeAll_dialogue (opening.isOpen opened) cut.filled exchanged
    have joined := opening.trans talk
    obtain ⟨closing, -⟩ := ChipSelect.toggle_acknowledged (joined.isOpen opened) closed
    have whole := (joined.trans closing).talked
    -- No call has failed, so the device has recorded everything that it was handed.
    have candid : ∀ start, (exchangeAll pieces).Candid (.talking fun _ => False) start :=
      candid_exchangeAll pieces
    have calm : noted.device.Untroubled finished.device := calm_bracketed candid bracket
    have framed : List.Forall₂ Frame.Carries pieces (pieces.map Frame.encode) :=
      List.forall₂_map_right_iff.mpr
        (List.forall₂_same.mpr fun piece _ => Frame.carries_encode piece)
    exact ⟨pieces, pieces.map Frame.encode, answers, echoes, cut, framed,
      calm.written whole.took, whole.gave, carried, sized, rfl⟩

/-- **An exchange neither loses nor adds nor reorders.** On every device and for every payload, a
step that exchanges leaves all buffers alone. Pieces of a size that no frame has are refused before
the device is called. Otherwise, if the step succeeds, its result is as long as the payload, which
was cut into as many pieces as the size goes into it, rounded up; what was written between the two
commands is a frame for each piece that carries it, and the result is what the echoes received for
them carry, in the same order. -/
theorem exchange_carries (bridge : Bridge) (world : World) (source : Operand) (pieceSize : Int) :
    let bound := source.bind world.store world.store.length
    let data := bound.2.load bound.1
    let taken := Session.step bridge world (.exchange source pieceSize)
    taken.2.2.store = bound.2 ∧
      if 0 < pieceSize ∧ pieceSize ≤ Frame.maxPayload then
        ∀ value, taken.1.1 = .ok value → ∃ result pieces frames answers echoes,
          value = .bytes result ∧ result.length = data.length ∧
            pieces.length = data.length ⌈/⌉ pieceSize.toNat ∧
              Exchanged pieceSize.toNat data result world.device taken.2.2.device pieces frames
                answers echoes
      else taken.1.1 = .error (unfit pieceSize).raised ∧ taken.2.2.device = world.device := by
  rcases bound : source.bind world.store world.store.length with ⟨view, buffers⟩
  let started := { world with store := buffers }
  have store := store_exchange bridge.releaseOnError (buffers.load view) pieceSize started
  simp only [Session.step, bound, Session.step.plain]
  rw [Action.result_bind_of_ok (Action.result_get _), Action.result_map]
  refine ⟨store, ?_⟩
  by_cases fits : 0 < pieceSize ∧ pieceSize ≤ Frame.maxPayload
  · rw [if_pos fits]
    intro value succeeded
    rcases ran : (exchange bridge.releaseOnError (buffers.load view) pieceSize).result started with
      ⟨raised | result, after⟩
    · rw [ran] at succeeded
      cases succeeded
    · rw [ran] at succeeded
      cases succeeded
      obtain ⟨pieces, frames, answers, echoes, exchanged⟩ := exchanged_of_ok fits ran
      exact ⟨result, pieces, frames, answers, echoes, rfl, exchanged.length,
        exchanged.cut.length, exchanged⟩
  · rw [if_neg fits, exchange, if_neg fits]
    exact ⟨rfl, rfl⟩

/-- A device that returns at most three octets at a time. The acknowledgements and the echoes for a
payload of three octets in two pieces are queued, and an octet is left over. -/
def twoEchoes : World where
  device := .scripted
    { script := threeAtMost
      queue := [0x4F, 0x4B, 0x0D, 0x0A, 0x61, 0x42, 0x30, 0x46, 0x0D, 0x0A, 0x31, 0x32, 0x78, 0x0A,
        0x4F, 0x4B, 0x0D, 0x0A, 0x4F] }
  store := [(.named "a", [1, 2, 3])]

/-- Three octets go out in two frames, and the echoes carry three others, which are the result. -/
theorem exchange_twoEchoes :
    let taken := Session.step ⟨⟨"COM1", Line.defaultBaudRate⟩, false⟩ twoEchoes
      (.exchange (.whole "a") 2)
    taken.1.1 = .ok (.bytes [0xAB, 0x0F, 0x12]) ∧
      taken.2.2.store = [(.named "a", [1, 2, 3])] ∧
      taken.2.2.device.written = [[0x43, 0x53, 0x3D, 0x30, 0x0A],
        [0x30, 0x31, 0x30, 0x32, 0x78, 0x0A], [0x30, 0x33, 0x78, 0x0A],
        [0x43, 0x53, 0x3D, 0x30, 0x0A]] ∧
      ∃ answers echoes, Exchanged 2 [1, 2, 3] [0xAB, 0x0F, 0x12] twoEchoes.device
        taken.2.2.device [[1, 2], [3]]
        [[0x30, 0x31, 0x30, 0x32, 0x78, 0x0A], [0x30, 0x33, 0x78, 0x0A]] answers echoes := by
  intro taken
  have written : taken.2.2.device.written = selected
      [[0x30, 0x31, 0x30, 0x32, 0x78, 0x0A], [0x30, 0x33, 0x78, 0x0A]] := by
    decide +kernel
  have succeeded : taken.1.1 = .ok (.bytes [0xAB, 0x0F, 0x12]) := by
    decide +kernel
  obtain ⟨store, carries⟩ := exchange_carries ⟨⟨"COM1", Line.defaultBaudRate⟩, false⟩ twoEchoes
    (.whole "a") 2
  rw [if_pos (by decide)] at carries
  obtain ⟨result, pieces, frames, answers, echoes, same, -, -, exchanged⟩ := carries _ succeeded
  cases same
  have cut : pieces = [[1, 2], [3]] := exchanged.cut.eq_chunks.trans (by decide +kernel)
  have between := written.symm.trans exchanged.written
  obtain rfl : _ = frames := List.append_cancel_right (List.cons_inj_right _ |>.mp between)
  rw [cut] at exchanged
  exact ⟨succeeded, store, written, answers, echoes, exchanged⟩

variable {answer : Bytes → Bytes}

/-- With a function for the peripheral, pieces that fit are exchanged for what it makes of them. -/
theorem mapM_ofFunction (length : ∀ payload, (answer payload).length = payload.length)
    (fits : ∀ piece ∈ pieces, piece.length ≤ Frame.maxPayload) :
    pieces.mapM (Exchange.serve (.ofFunction answer)) = .ok (pieces.map answer) := by
  induction pieces with
  | nil => rfl
  | cons first rest ih =>
      obtain ⟨now, others⟩ := List.forall_mem_cons.mp fits
      rw [List.mapM_cons, Operation.exchange_ofFunction length now, ih others]
      rfl

/-- An exchange on a bridge that serves succeeds with what the peripheral makes of each piece. -/
theorem exchange_served (opened : world.device.isOpen) (serves : world.device.Serves answer)
    (fits : 0 < pieceSize ∧ pieceSize ≤ Frame.maxPayload) (release : Bool) (data : Bytes) :
    ∃ pieces, IsCut pieceSize.toNat data pieces ∧ ∃ after,
      (exchange release data pieceSize).result world = (.ok (pieces.map answer).flatten, after) ∧
        after.device.queue = [] ∧ after.device.toggles = world.device.toggles + 2 := by
  have cut := chunks_isCut (by omega : 0 < pieceSize.toNat) data
  obtain ⟨behaviour, toggles, behaves, idle⟩ := serves.exists_idle opened
  obtain ⟨after, ran, -, left⟩ := exchange_idle behaves.conforms idle release data pieceSize
  have small : ∀ piece ∈ chunks pieceSize.toNat data, piece.length ≤ Frame.maxPayload := by
    intro piece member
    have bounded := cut.bounded piece member
    omega
  have served : serveExchange behaviour.clocks data pieceSize =
      .ok ((chunks pieceSize.toNat data).map answer).flatten := by
    rw [serveExchange, if_pos fits, behaves.clocks, mapM_ofFunction behaves.length small]
    rfl
  rw [served] at ran left
  rw [if_pos fits] at left
  refine ⟨_, cut, after, ran, left.queue, ?_⟩
  rw [left.toggles_eq, idle.toggles_eq]
  rfl

/-- **The size of pieces is not seen.** On an open emulated bridge that serves a function of the
peripheral and has nothing queued, exchanges of one payload in pieces of two sizes both succeed with
what the function makes of each piece, toggle chip select twice and leave nothing queued. A function
that acts on each octet by itself makes the same of both. -/
theorem pieces_unseen (bridge : Bridge) (world : World) (source : Operand) (answer : Bytes → Bytes)
    (first second : Int) (opened : world.device.isOpen) (serves : world.device.Serves answer)
    (fits : 0 < first ∧ first ≤ Frame.maxPayload)
    (fits' : 0 < second ∧ second ≤ Frame.maxPayload) :
    let bound := source.bind world.store world.store.length
    let data := bound.2.load bound.1
    let taken (pieceSize : Int) := Session.step bridge world (.exchange source pieceSize)
    (∀ pieceSize ∈ [first, second], ∃ pieces, IsCut pieceSize.toNat data pieces ∧
      (taken pieceSize).1.1 = .ok (.bytes (pieces.map answer).flatten) ∧
        (taken pieceSize).2.2.device.queue = [] ∧
          (taken pieceSize).2.2.device.toggles = world.device.toggles + 2) ∧
    ∀ change, answer = List.map change →
      (taken first).1.1 = .ok (.bytes (data.map change)) ∧
        (taken second).1.1 = .ok (.bytes (data.map change)) := by
  intro bound data taken
  have served (pieceSize : Int) (fits : 0 < pieceSize ∧ pieceSize ≤ Frame.maxPayload) :
      ∃ pieces, IsCut pieceSize.toNat data pieces ∧
        (taken pieceSize).1.1 = .ok (.bytes (pieces.map answer).flatten) ∧
          (taken pieceSize).2.2.device.queue = [] ∧
            (taken pieceSize).2.2.device.toggles = world.device.toggles + 2 := by
    have ready : { world with store := bound.2 }.device.isOpen := opened
    have still : { world with store := bound.2 }.device.Serves answer := serves
    obtain ⟨pieces, cut, after, ran, queue, toggles⟩ :=
      exchange_served ready still fits bridge.releaseOnError data
    have ended : taken pieceSize = ((.ok (.bytes (pieces.map answer).flatten), none), bridge,
        after) := by
      simp only [taken, Session.step, Session.step.plain]
      rw [Action.result_bind_of_ok (Action.result_get _), Action.result_map, ran]
      rfl
    rw [ended]
    exact ⟨pieces, cut, rfl, queue, toggles⟩
  have bytewise {change : UInt8 → UInt8} {size : Nat} {pieces : List Bytes}
      (cut : IsCut size data pieces) :
      (pieces.map (List.map change)).flatten = data.map change := by
    rw [← List.map_flatten, cut.whole]
  refine ⟨?_, ?_⟩
  · exact List.forall_mem_cons.mpr
      ⟨served first fits, List.forall_mem_singleton.mpr (served second fits')⟩
  · rintro change rfl
    obtain ⟨pieces, cut, outcome, -⟩ := served first fits
    obtain ⟨pieces', cut', outcome', -⟩ := served second fits'
    rw [bytewise cut] at outcome
    rw [bytewise cut'] at outcome'
    exact ⟨outcome, outcome'⟩

/-- Four octets come back inverted, whether they go out one by one or in pieces of three. -/
theorem pieces_inverted :
    let taken (pieceSize : Int) := Session.step ⟨⟨"COM1", Line.defaultBaudRate⟩, false⟩ inverted
      (.exchange (.whole "a") pieceSize)
    inverted.device.isOpen ∧ inverted.device.Serves (List.map (· ^^^ 0xFF)) ∧
      (taken 1).1.1 = .ok (.bytes [0xFE, 0xFD, 0xFC, 0xFB]) ∧
        (taken 3).1.1 = .ok (.bytes [0xFE, 0xFD, 0xFC, 0xFB]) ∧
          (taken 1).2.2.device.toggles = 2 ∧ (taken 3).2.2.device.toggles = 2 := by
  intro taken
  have serves : inverted.device.Serves (List.map (· ^^^ 0xFF)) :=
    ⟨_, rfl, ⟨rfl, .inr rfl, .inl rfl, fun _ => List.length_map _⟩, rfl⟩
  obtain ⟨both, bytewise⟩ := pieces_unseen ⟨⟨"COM1", Line.defaultBaudRate⟩, false⟩ inverted
    (.whole "a") _ 1 3 rfl serves (by decide) (by decide)
  obtain ⟨first, second⟩ := bytewise _ rfl
  obtain ⟨⟨-, -, -, -, once⟩, later⟩ := List.forall_mem_cons.mp both
  obtain ⟨-, -, -, -, again⟩ := List.forall_mem_singleton.mp later
  exact ⟨rfl, serves, first, second, once, again⟩

end Transaction

end Hexwire
