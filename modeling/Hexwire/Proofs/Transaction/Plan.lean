import Hexwire.Proofs.Transaction.Candid
import Hexwire.Proofs.Transaction.Trace

/-! # Work that follows a plan

Work follows a plan when it hands over frames of the plan in order, all of them if it succeeds, and
the device records the first of them (`Hexwire.Action.Follows`). Steps that follow plans follow the
plan that joins them, and two toggles around work add nothing but commands
(`Hexwire.Transaction.bracketed_planned`).
-/

namespace Hexwire

/-- The writes among some that are not commands. -/
def dataFrames (writes : List Bytes) : List Bytes := writes.filter (· ≠ chipSelectCommand)

/-- Frames that were sent early in a plan are all frames of data. -/
theorem dataFrames_of_prefix {writes plan : List Bytes} (early : writes <+: plan)
    (frames : ∀ frame ∈ plan, frame ≠ chipSelectCommand) : dataFrames writes = writes :=
  List.filter_eq_self.mpr fun frame member => decide_eq_true (frames frame (early.subset member))

/-- Commands around frames are none of them. -/
theorem dataFrames_between {opening writes closing : List Bytes} (before : dataFrames opening = [])
    (after : dataFrames closing = []) :
    dataFrames (opening ++ writes ++ closing) = dataFrames writes := by
  unfold dataFrames at before after ⊢
  rw [List.filter_append, List.filter_append, before, after, List.nil_append, List.append_nil]

/-- From a world on, writes were handed to the device, and the device recorded some of them. -/
structure Sent {α : Type} (before : World) (ended : Except Raised α × World)
    (handed recorded : List Bytes) : Prop where
  calls : ended.2.handed = before.handed ++ handed
  took : before.device.Took handed ended.2.device
  written : ended.2.device.written = before.device.written ++ recorded

namespace Sent

variable {α β : Type} {before middle after : World} {outcome : Except Raised α}
  {handed recorded more further : List Bytes}

/-- A way on which nothing is handed over sends nothing. -/
theorem nothing {ended : Except Raised α × World} (device : ended.2.device = before.device)
    (same : ended.2.handed = before.handed) : Sent before ended [] [] where
  calls := by rw [same, List.append_nil]
  took := device ▸ .refl _
  written := by rw [device, List.append_nil]

theorem trans {ended : Except Raised β × World}
    (first : Sent before (outcome, middle) handed recorded)
    (second : Sent middle ended more further) :
    Sent before ended (handed ++ more) (recorded ++ further) where
  calls := by rw [second.calls, first.calls, List.append_assoc]
  took := first.took.trans second.took
  written := by rw [second.written, first.written, List.append_assoc]

/-- Only the device and what was handed to it matter. -/
theorem congr {ended : Except Raised α × World} {other : Except Raised β × World}
    (sent : Sent before ended handed recorded) (device : other.2.device = ended.2.device)
    (same : other.2.handed = ended.2.handed) : Sent before other handed recorded where
  calls := same.trans sent.calls
  took := device ▸ sent.took
  written := device ▸ sent.written

end Sent

/-- A device that has taken one write at most has recorded it or nothing. -/
theorem Device.Took.exists_recorded {before after : Device} {sent : List Bytes}
    (took : before.Took sent after) (single : sent.length ≤ 1) :
    ∃ recorded, after.written = before.written ++ recorded ∧ recorded <+: sent := by
  cases took with
  | emulated _ _ written _ => exact ⟨sent, written, List.prefix_rfl⟩
  | scripted _ _ _ written =>
      refine ⟨_, written, ?_⟩
      match sent, single with
      | [], _ => exact List.prefix_rfl
      | [data], _ =>
          unfold Script.recorded
          split
          · exact List.nil_prefix
          · exact List.prefix_rfl

namespace Action

/-- Work hands over frames of a plan, in order, and all of them if it succeeds; what the device
records of them are the first of them. -/
def Follows {α : Type} (action : Action α) (plan : List Bytes) (world : World) : Prop :=
  ∃ handed recorded, Sent world (action.result world) handed recorded ∧ handed <+: plan ∧
    recorded <+: handed ∧
      ∀ value, (action.result world).1 = .ok value → handed = plan ∧ recorded = plan

namespace Follows

variable {α β : Type} {action : Action α} {next : α → Action β} {plan rest : List Bytes}
  {world : World}

theorem pure (value : α) (world : World) : Follows (Pure.pure value : Action α) [] world :=
  ⟨[], [], .nothing rfl rfl, List.prefix_rfl, List.prefix_rfl, fun _ _ => ⟨rfl, rfl⟩⟩

/-- Work that follows one plan and then another follows both, one after the other. -/
theorem bind (first : action.Follows plan world)
    (later : ∀ value after, action.result world = (.ok value, after) →
      (next value).Follows rest after) : (action >>= next).Follows (plan ++ rest) world := by
  obtain ⟨handed, recorded, sent, before, early, whole⟩ := first
  unfold Follows
  rw [result_bind]
  rcases ran : action.result world with ⟨raised | value, middle⟩
  · rw [ran] at sent
    refine ⟨handed, recorded, sent.congr rfl rfl, before.trans (List.prefix_append _ _), early, ?_⟩
    intro value succeeded
    cases succeeded
  · rw [ran] at sent whole
    obtain ⟨rfl, rfl⟩ := whole value rfl
    obtain ⟨more, further, continued, ahead, early, whole⟩ := later value middle ran
    refine ⟨_, _, sent.trans continued, ?_, ?_, ?_⟩
    · exact (List.prefix_append_right_inj _).mpr ahead
    · exact (List.prefix_append_right_inj _).mpr early
    · intro result succeeded
      obtain ⟨all, written⟩ := whole result succeeded
      rw [all, written]
      exact ⟨rfl, rfl⟩

/-- Work with a dialogue of one write at most follows the plan of this write. -/
theorem of_dialogue {received : Bytes} {outcome : Except Raised α} {after : World}
    (ran : action.result world = (outcome, after))
    (talk : Dialogue world plan received outcome after)
    (single : plan.length ≤ 1) (candid : action.Candid (.talking fun _ => True) world) :
    action.Follows plan world := by
  have took := talk.talked.took
  unfold Follows
  rw [ran]
  cases outcome with
  | ok value =>
      refine ⟨plan, plan, ⟨talk.handed, took, (candid.calm ran).written took⟩, List.prefix_rfl,
        List.prefix_rfl, fun _ _ => ⟨rfl, rfl⟩⟩
  | error raised =>
      obtain ⟨recorded, written, early⟩ := took.exists_recorded single
      refine ⟨plan, recorded, ⟨talk.handed, took, written⟩, List.prefix_rfl, early, ?_⟩
      intro value succeeded
      cases succeeded

end Follows

end Action

namespace Transaction

/-- A toggle hands over commands only: one, which is recorded, if it succeeds. -/
theorem toggle_sent (world : World) :
    ∃ handed recorded, Sent world (ChipSelect.toggle.result world) handed recorded ∧
      (dataFrames handed = [] ∧ dataFrames recorded = []) ∧
        ∀ after, ChipSelect.toggle.result world = (.ok (), after) →
          handed = [chipSelectCommand] ∧ recorded = [chipSelectCommand] := by
  by_cases opened : world.device.isOpen
  · obtain ⟨received, outcome, after, ran, talk, -, -⟩ := ChipSelect.toggle_dialogue opened
    have follows : ChipSelect.toggle.Follows [chipSelectCommand] world :=
      .of_dialogue ran talk (Nat.le_refl 1) (ChipSelect.candid_toggle world)
    obtain ⟨handed, recorded, sent, before, early, whole⟩ := follows
    have only {writes : List Bytes} (some : writes <+: [chipSelectCommand]) :
        dataFrames writes = [] := by
      refine List.filter_eq_nil_iff.mpr fun data member => ?_
      rw [List.mem_singleton.mp (some.subset member)]
      exact fun other => absurd rfl (of_decide_eq_true other)
    refine ⟨handed, recorded, sent, ⟨only before, only (early.trans before)⟩, ?_⟩
    intro after succeeded
    exact whole () (congrArg Prod.fst succeeded)
  · have refused := ChipSelect.result_toggle_of_closed opened
    refine ⟨[], [], ?_, ⟨rfl, rfl⟩, ?_⟩
    · rw [refused]
      exact .nothing rfl (by simp [World.handed, Event.handed?])
    · intro after succeeded
      rw [refused] at succeeded
      cases succeeded

/-- Releasing chip select hands over commands only. -/
theorem release_sent (world : World) :
    ∃ handed recorded, Sent world (Transaction.release.result world) handed recorded ∧
      dataFrames handed = [] ∧ dataFrames recorded = [] := by
  obtain ⟨handed, recorded, sent, quiet, -⟩ := toggle_sent world
  refine ⟨handed, recorded, ?_, quiet⟩
  rw [result_release]
  generalize ChipSelect.toggle.result world = toggled at sent
  rcases toggled with ⟨raised | ⟨⟩, after⟩
  · dsimp only
    split
    · exact sent.congr rfl (by simp [World.handed, Event.handed?])
    · exact sent.congr rfl rfl
  · exact sent.congr rfl rfl

/-- What a run handed over and recorded in which the frames were those of a plan. -/
structure Planned {α : Type} (plan : List Bytes) (world : World) (ended : Except Raised α × World)
    (handed recorded : List Bytes) : Prop where
  sent : Sent world ended handed recorded
  framed : dataFrames handed <+: plan
  kept : dataFrames recorded <+: plan
  complete : ∀ value, ended.1 = .ok value →
    handed = chipSelectCommand :: plan ++ [chipSelectCommand] ∧
      recorded = chipSelectCommand :: plan ++ [chipSelectCommand]

/-- Commands around writes that follow a plan leave the plan as it is. -/
theorem Planned.around {α : Type} {world : World} {ended : Except Raised α × World}
    {plan opening opened handed recorded closing closed : List Bytes}
    (sent : Sent world ended (opening ++ handed ++ closing) (opened ++ recorded ++ closed))
    (frames : ∀ frame ∈ plan, frame ≠ chipSelectCommand) (before : handed <+: plan)
    (early : recorded <+: plan) (quiet : dataFrames opening = [] ∧ dataFrames opened = [])
    (silent : dataFrames closing = [] ∧ dataFrames closed = [])
    (complete : ∀ value, ended.1 = .ok value →
      opening ++ handed ++ closing = chipSelectCommand :: plan ++ [chipSelectCommand] ∧
        opened ++ recorded ++ closed = chipSelectCommand :: plan ++ [chipSelectCommand]) :
    Planned plan world ended (opening ++ handed ++ closing) (opened ++ recorded ++ closed) := by
  refine ⟨sent, ?_, ?_, complete⟩
  · rw [dataFrames_between quiet.1 silent.1, dataFrames_of_prefix before frames]
    exact before
  · rw [dataFrames_between quiet.2 silent.2, dataFrames_of_prefix early frames]
    exact early

/-- **Work between two toggles** adds to its plan nothing but commands. -/
theorem bracketed_planned {α : Type} {work : Action α} {plan : List Bytes} {world : World}
    (follows : ∀ selected, selected.store = world.store → selected.device.isOpen →
      work.Follows plan selected)
    (frames : ∀ frame ∈ plan, frame ≠ chipSelectCommand) (release : Bool) :
    ∃ handed recorded,
      Planned plan world ((bracketed release work).result world) handed recorded := by
  obtain ⟨opening, opened, toggle, quiet, selects⟩ := toggle_sent world
  have store := ChipSelect.store_toggle world
  rcases toggled : ChipSelect.toggle.result world with ⟨raised | ⟨⟩, selected⟩
  · rw [result_bracketed_of_unselected toggled]
    rw [toggled] at toggle
    refine ⟨opening, opened, toggle.congr rfl rfl, ?_, ?_, by rintro _ ⟨⟩⟩
    · rw [quiet.1]
      exact List.nil_prefix
    · rw [quiet.2]
      exact List.nil_prefix
  · -- From here on writes of three parts are joined: two toggles, and the work between them.
    rw [toggled] at toggle store
    have ready : selected.device.isOpen := by
      rw [toggle.took.isOpen]
      exact ChipSelect.isOpen_of_toggle toggled
    obtain ⟨handed, recorded, worked, before, early, whole⟩ := follows selected store ready
    have joined := toggle.trans worked
    rcases ran : work.result selected with ⟨raised | value, finished⟩
    · rw [ran] at joined
      rw [result_bracketed_of_error toggled ran]
      by_cases released : (release && raised.failure.isOrdinary) = true
      · obtain ⟨closing, closed, freed, silent⟩ := release_sent finished
        rw [if_pos released]
        generalize Transaction.release.result finished = ended at freed
        rcases ended with ⟨other | ⟨⟩, after⟩
        · exact ⟨_, _, .around ((joined.trans freed).congr rfl rfl) frames before
            (early.trans before) quiet silent (by rintro _ ⟨⟩)⟩
        · exact ⟨_, _, .around ((joined.trans freed).congr rfl rfl) frames before
            (early.trans before) quiet silent (by rintro _ ⟨⟩)⟩
      · rw [if_neg released]
        exact ⟨_, _, .around (joined.trans (.nothing rfl rfl)) frames before (early.trans before)
          quiet ⟨rfl, rfl⟩ (by rintro _ ⟨⟩)⟩
    · rw [ran] at joined whole
      obtain ⟨closing, closed, toggle', silent, closes⟩ := toggle_sent finished
      rw [result_bracketed_of_ok toggled ran]
      refine ⟨_, _, .around ((joined.trans toggle').congr rfl rfl) frames before
        (early.trans before) quiet silent ?_⟩
      intro result succeeded
      obtain ⟨rfl, rfl⟩ := selects selected toggled
      obtain ⟨rfl, rfl⟩ := whole value rfl
      rcases ended : ChipSelect.toggle.result finished with ⟨other | ⟨⟩, after⟩
      · rw [ended] at succeeded
        cases succeeded
      · obtain ⟨rfl, rfl⟩ := closes after ended
        exact ⟨rfl, rfl⟩

end Transaction

end Hexwire
