import Hexwire.Proofs.Transaction.Pieces
import Hexwire.Proofs.Transaction.Plan

/-! # What is sent does not depend on what is answered

Operations that send from no octets that an earlier one receives are separate
(`Hexwire.Operation.Separate`); they follow the frames that they have in the buffers they start
with. So two runs of one transaction send the same as far as both go, whatever their devices do
(`Hexwire.Transaction.sends_independently`).
-/

namespace Hexwire

namespace Exchange

/-- Data goes out in one frame at most. -/
theorem length_frames (data : Bytes) : (frames data).length ≤ 1 := by
  unfold frames
  split
  · exact Nat.zero_le _
  · exact Nat.le_refl _

/-- A frame is never the command of chip select. -/
theorem ne_of_mem_frames {data frame : Bytes} (member : frame ∈ frames data) :
    frame ≠ chipSelectCommand := by
  unfold frames at member
  split at member
  · cases member
  · rw [List.mem_singleton.mp member]
    exact Emulator.encode_ne_chipSelectCommand data

/-- An exchange follows the plan of its frames. -/
theorem payload_follows {world : World} (opened : world.device.isOpen) (data : Bytes) :
    (payload data).Follows (frames data) world := by
  obtain ⟨received, outcome, after, ran, talk, -, -⟩ := payload_dialogue opened data
  exact .of_dialogue ran talk (length_frames data) (candid_payload data world)

end Exchange

namespace Operation

/-- The buffer that an operation sends, if it sends one. -/
def source? {α : Type} : Operation α → Option α
  | write source => some source
  | read _ => none
  | transfer _ source => some source
  | inPlace target => some target
  | delay _ => none
  | unsupported _ => none

/-- No operation sends octets that an earlier one receives. -/
def Separate (operations : List (Operation View)) : Prop :=
  operations.Pairwise fun earlier later =>
    ∀ target ∈ earlier.target?, ∀ source ∈ later.source?, source.Apart target

/-- The frames that operations have in the buffers as they stand. -/
def plan (store : Store) (operations : List (Operation View)) : List Bytes :=
  operations.flatMap (·.frames store)

variable {world : World} {operation : Operation View} {operations : List (Operation View)}

/-- What an operation sends depends on what it sends from only. -/
theorem frames_congr {before after : Store}
    (same : ∀ source ∈ operation.source?, after.load source = before.load source) :
    operation.frames after = operation.frames before := by
  have outgoing : operation.outgoing after = operation.outgoing before := by
    cases operation with
    | read target => rfl
    | delay nanoseconds => rfl
    | unsupported value => rfl
    | _ => exact same _ rfl
  rw [frames, frames, outgoing]

/-- A planned frame is never the command of chip select. -/
theorem ne_of_mem_plan {store : Store} {frame : Bytes} (member : frame ∈ plan store operations) :
    frame ≠ chipSelectCommand := by
  obtain ⟨operation, -, found⟩ := List.mem_flatMap.mp member
  unfold frames at found
  split at found
  · cases found
  · exact Exchange.ne_of_mem_frames found

/-- An operation follows the plan of its frames. -/
theorem run_follows (opened : world.device.isOpen) (within : operation.Within world.store) :
    operation.run.Follows (operation.frames world.store) world := by
  obtain ⟨received, outcome, after, ran, talk, -⟩ := operation.run_dialogue opened within
  refine .of_dialogue ran talk ?_ (candid_run (fun _ _ => trivial) world)
  unfold frames
  split
  · exact Nat.zero_le _
  · exact Exchange.length_frames _

/-- **Separate operations follow the frames of the buffers that they start with.** What an operation
receives lies apart from everything that is still to be sent. -/
theorem runAll_follows (opened : world.device.isOpen) (separate : Separate operations)
    (within : ∀ operation ∈ operations, operation.Within world.store) :
    (runAll operations).Follows (plan world.store operations) world := by
  induction operations generalizing world with
  | nil => exact .pure () world
  | cons first rest ih =>
      obtain ⟨apart, separate⟩ := List.pairwise_cons.mp separate
      have inside := within first List.mem_cons_self
      refine (run_follows opened inside).bind ?_
      intro value after ran
      obtain ⟨received, outcome, reached, ran', talk, kept, -⟩ := first.run_dialogue opened inside
      have changed := first.run_sameOutside opened inside
      rw [ran] at ran' changed
      cases ran'
      -- Frames are planned in the buffers at the start, but sent from those that are left here.
      have unchanged : plan after.store rest = plan world.store rest := by
        refine List.flatMap_congr ?_
        intro operation member
        refine frames_congr fun source sends => changed.load ?_
        intro target receives
        exact apart operation member target (Option.mem_toList.mp receives) source sends
      have follows := ih (talk.isOpen opened) separate (within_rest within kept)
      rwa [unchanged] at follows

end Operation

namespace Transaction

/-- Exchanges of pieces follow the plan of their frames. -/
theorem exchangeAll_follows {world : World} {pieces : List Bytes} (opened : world.device.isOpen) :
    (exchangeAll pieces).Follows (pieces.flatMap Exchange.frames) world := by
  induction pieces generalizing world with
  | nil => exact .pure [] world
  | cons first rest ih =>
      refine (Exchange.payload_follows opened first).bind ?_
      intro received after ran
      obtain ⟨heard, outcome, reached, ran', talk, -⟩ := Exchange.payload_dialogue opened first
      rw [ran] at ran'
      cases ran'
      have last (others : List Bytes) (after : World) :
          (pure (received :: others) : Action (List Bytes)).Follows [] after := .pure _ after
      have follows := (ih (talk.isOpen opened)).bind fun others after _ => last others after
      rwa [List.append_nil] at follows

/-- A transaction of separate operations adds to their frames nothing but commands. -/
theorem run_planned {world : World} {operations : List (Operation View)}
    (separate : Operation.Separate operations)
    (within : ∀ operation ∈ operations, operation.Within world.store) (release : Bool) :
    ∃ handed recorded, Planned (Operation.plan world.store operations) world
      ((run release operations).result world) handed recorded := by
  refine bracketed_planned ?_ (fun _ => Operation.ne_of_mem_plan) release
  intro selected store opened
  rw [← store] at within ⊢
  exact Operation.runAll_follows opened separate within

/-- The frames of a payload that is exchanged piece by piece; none if the pieces fit no frame. -/
def pieceFrames (data : Bytes) (pieceSize : Int) : List Bytes :=
  if 0 < pieceSize ∧ pieceSize ≤ Frame.maxPayload then
    (chunks pieceSize.toNat data).flatMap Exchange.frames
  else []

/-- Whatever the device does, an exchange in pieces sends as planned. -/
theorem exchange_planned (release : Bool) (data : Bytes) (pieceSize : Int) (world : World) :
    ∃ handed recorded, Planned (pieceFrames data pieceSize) world
      ((exchange release data pieceSize).result world) handed recorded := by
  unfold pieceFrames
  by_cases fits : 0 < pieceSize ∧ pieceSize ≤ Frame.maxPayload
  · rw [if_pos fits, result_exchange_of_fits fits]
    let noted := { world with events :=
      world.events ++ [Event.exchanging data.length (chunks pieceSize.toNat data).length] }
    have frames : ∀ frame ∈ (chunks pieceSize.toNat data).flatMap Exchange.frames,
        frame ≠ chipSelectCommand := by
      intro frame member
      obtain ⟨piece, -, found⟩ := List.mem_flatMap.mp member
      exact Exchange.ne_of_mem_frames found
    obtain ⟨handed, recorded, planned⟩ := @bracketed_planned _
      (exchangeAll (chunks pieceSize.toNat data)) _ noted
      (fun selected _ opened => exchangeAll_follows opened) frames release
    have quiet : Sent world ((.ok (), noted) : Except Raised Unit × World) [] [] :=
      .nothing rfl (by simp [noted, World.handed, Event.handed?])
    refine ⟨handed, recorded, (quiet.trans planned.sent).congr rfl rfl, planned.framed,
      planned.kept, ?_⟩
    intro value succeeded
    dsimp only at succeeded
    rcases ended : (bracketed release (exchangeAll (chunks pieceSize.toNat data))).result noted with
      ⟨raised | answers, after⟩
    · rw [ended] at succeeded
      cases succeeded
    · exact planned.complete answers (congrArg Prod.fst ended)
  · rw [if_neg fits, exchange, if_neg fits]
    exact ⟨[], [], .nothing rfl rfl, List.prefix_rfl, List.prefix_rfl, by rintro _ ⟨⟩⟩

/-- Two lists have the same items as far as both go. -/
def Agree (left right : List Bytes) : Prop :=
  ∀ (index : Nat) (frame frame' : Bytes), left[index]? = some frame → right[index]? = some frame' →
    frame = frame'

/-- Two beginnings of one plan agree as far as both go. -/
theorem agree_of_prefix {plan left right : List Bytes} (early : left <+: plan)
    (early' : right <+: plan) : Agree left right := by
  have planned {writes : List Bytes} (early : writes <+: plan) {index : Nat} {frame : Bytes}
      (found : writes[index]? = some frame) : plan[index]? = some frame := by
    obtain ⟨rest, rfl⟩ := early
    obtain ⟨inside, -⟩ := List.getElem?_eq_some_iff.mp found
    rw [List.getElem?_append_left inside, found]
  intro index frame frame' found found'
  have same := (planned early found).symm.trans (planned early' found')
  exact Option.some.inj same

/-- Two runs have handed over the same frames, one by one, as far as both went, and their devices
have recorded the same frames as far as both did; if both have succeeded, all writes are the
same. -/
def SendAlike {α : Type} (before before' : World) (ended ended' : Except Raised α × World) : Prop :=
  ∃ handed recorded handed' recorded', Sent before ended handed recorded ∧
    Sent before' ended' handed' recorded' ∧ Agree (dataFrames handed) (dataFrames handed') ∧
      Agree (dataFrames recorded) (dataFrames recorded') ∧
        ∀ value value', ended.1 = .ok value → ended'.1 = .ok value' →
          handed = handed' ∧ recorded = recorded'

/-- Runs with one plan send alike. -/
theorem Planned.sendAlike {α : Type} {plan handed recorded handed' recorded' : List Bytes}
    {before before' : World} {ended ended' : Except Raised α × World}
    (first : Planned plan before ended handed recorded)
    (second : Planned plan before' ended' handed' recorded') :
    SendAlike before before' ended ended' := by
  refine ⟨handed, recorded, handed', recorded', first.sent, second.sent,
    agree_of_prefix first.framed second.framed, agree_of_prefix first.kept second.kept, ?_⟩
  intro value value' succeeded succeeded'
  obtain ⟨rfl, rfl⟩ := first.complete value succeeded
  exact (second.complete value' succeeded').imp Eq.symm Eq.symm

/-- **What is sent does not depend on what is answered.** Whatever two devices do, two runs of one
transaction of separate operations that start with the same buffers send alike, and so do two
exchanges of one payload in pieces of one size. What a read sends is zeros, whatever its target held
before. -/
theorem sends_independently :
    (∀ (release release' : Bool) (world world' : World) (operations : List (Operation Operand)),
      world.store.named = world'.store.named →
      let prepared := Session.prepare (Session.fresh world) operations
      let prepared' := Session.prepare (Session.fresh world') operations
      Operation.Separate prepared.1 →
        SendAlike prepared.2 prepared'.2 ((run release prepared.1).result prepared.2)
          ((run release' prepared'.1).result prepared'.2)) ∧
    (∀ (release release' : Bool) (data : Bytes) (pieceSize : Int) (world world' : World),
      SendAlike world world' ((exchange release data pieceSize).result world)
        ((exchange release' data pieceSize).result world')) ∧
    ∀ (world : World) (target : View), world.device.isOpen → target.Within world.store →
      ∃ recorded, Sent world ((Operation.read target).run.result world)
        (Exchange.frames (List.replicate target.size 0)) recorded := by
  refine ⟨?_, ?_, ?_⟩
  · intro release release' world world' operations same prepared prepared' separate
    have bound : prepared'.1 = prepared.1 ∧ prepared'.2.store = prepared.2.store := by
      simp only [prepared, prepared', Session.prepare, Session.fresh, same, and_self]
    have within : ∀ operation ∈ prepared.1, operation.Within prepared.2.store :=
      Session.prepare_within world operations
    obtain ⟨_, _, planned⟩ := run_planned separate within release
    rw [← bound.2] at within
    obtain ⟨_, _, planned'⟩ := run_planned separate within release'
    rw [bound.2] at planned'
    rw [bound.1]
    exact planned.sendAlike planned'
  · intro release release' data pieceSize world world'
    obtain ⟨_, _, planned⟩ := exchange_planned release data pieceSize world
    obtain ⟨_, _, planned'⟩ := exchange_planned release' data pieceSize world'
    exact planned.sendAlike planned'
  · intro world target opened within
    obtain ⟨received, outcome, after, ran, talk, -⟩ :=
      (Operation.read target).run_dialogue opened fun view member =>
        List.mem_singleton.mp member ▸ within
    have took := talk.talked.took
    obtain ⟨recorded, written, -⟩ := took.exists_recorded (Exchange.length_frames _)
    rw [ran]
    exact ⟨recorded, talk.handed, took, written⟩

/-- A scripted device has echoes queued for a read of two octets and a write of one, and an emulated
bridge answers the same operations with other octets. Read on its own, the buffer that held two
sevens is sent as two zeros. -/
theorem sends_independently_scripted :
    let store : Store := [(.named "a", [7, 7]), (.named "b", [1])]
    let queue : Bytes := [0x4F, 0x4B, 0x0D, 0x0A, 0x61, 0x42, 0x30, 0x46, 0x0D, 0x0A, 0x31, 0x32,
      0x78, 0x0A, 0x4F, 0x4B, 0x0D, 0x0A]
    let world : World := ⟨.scripted { script := threeAtMost, queue := queue }, store, [], []⟩
    let bridge : Emulator := { behaviour := { peripheral := some .inverting } }
    let world' : World := ⟨.emulated bridge, store, [], []⟩
    let operations : List (Operation Operand) := [.read (.whole "a"), .write (.whole "b")]
    let prepared := Session.prepare (Session.fresh world) operations
    let prepared' := Session.prepare (Session.fresh world') operations
    Operation.Separate prepared.1 ∧
      ((run false prepared.1).result prepared.2).2.handed =
        ((run true prepared'.1).result prepared'.2).2.handed ∧
      ((Operation.read ⟨.named "a", 0, 2⟩).run.result world).2.handed =
        [Frame.encode [0, 0]] := by
  intro store queue world bridge world' operations prepared prepared'
  have separate : Operation.Separate prepared.1 := by
    refine .cons ?_ (List.pairwise_singleton _ _)
    intro operation member target receives source sends buffer index covers covered
    cases List.mem_singleton.mp member
    cases receives
    cases sends
    exact absurd (covers.1.symm.trans covered.1) (by decide)
  refine ⟨separate, ?_, ?_⟩
  · obtain ⟨handed, recorded, handed', recorded', sent, sent', -, -, whole⟩ :=
      sends_independently.1 false true world world' operations rfl separate
    obtain ⟨rfl, -⟩ := whole () () (by decide +kernel) (by decide +kernel)
    rw [sent.calls]
    exact sent'.calls.symm
  · obtain ⟨_, zeros⟩ := sends_independently.2.2 world ⟨.named "a", 0, 2⟩ rfl (by decide)
    exact zeros.calls

end Transaction

end Hexwire
