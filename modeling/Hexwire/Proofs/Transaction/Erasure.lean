import Hexwire.Proofs.Paired
import Hexwire.Proofs.Transaction.Trace
import Mathlib.Data.List.Forall2

/-! # Operations that can be left out

A delay pauses and does nothing else, and an operation on no octets does nothing at all
(`Hexwire.Operation.isIdle`). Worlds that differ in pauses, and in their buffers as far as no
operation can tell, stay so whatever runs in both (`Hexwire.World.kept_rested`). Operations
therefore run as those of them that are not idle do (`Hexwire.Operation.paired_busy`).
-/

namespace Hexwire

/-- In related stores corresponding views show the same, and writes through them lead to related
stores. -/
structure Store.Kept (stores : Store → Store → Prop) (shows : View → View → Prop) : Prop where
  size : ∀ {view view'}, shows view view' → view.size = view'.size
  load : ∀ {store store' view view'}, stores store store' → shows view view' →
    store.load view = store'.load view'
  save : ∀ {store store' view view'} (data : Bytes), stores store store' → shows view view' →
    stores (store.save view data) (store'.save view' data)

/-- Equal stores stay equal under whatever is done through equal views. -/
theorem Store.kept_eq : Store.Kept Eq Eq where
  size same := congrArg View.size same
  load same shows := by rw [same, shows]
  save data same shows := by rw [same, shows]

/-- Two worlds with related buffers differ otherwise only in how often an operation has paused. -/
structure World.Rested (stores : Store → Store → Prop) (world other : World) : Prop where
  device : world.device = other.device
  store : stores world.store other.store
  events : world.events = other.events
  sleeps : world.sleeps.filter (· ≠ Operation.pause) = other.sleeps.filter (· ≠ Operation.pause)

open Hexwire.Action

namespace World.Rested

variable {stores : Store → Store → Prop}

/-- The same device call is paired, as the buffers do not matter to it. -/
theorem onDevice {α : Type} (call : Device → Except Raised α × Device) :
    Paired (World.Rested stores) (Action.onDevice call) (Action.onDevice call) := by
  intro world other rested
  rw [result_onDevice, result_onDevice, rested.device]
  exact ⟨rfl, rfl, rested.store, rested.events, rested.sleeps⟩

theorem note (event : Event) :
    Paired (World.Rested stores) (Action.note event) (Action.note event) :=
  .modify fun rested =>
    ⟨rested.device, rested.store, congrArg (· ++ [event]) rested.events, rested.sleeps⟩

theorem sleep (nanoseconds : Nat) :
    Paired (World.Rested stores) (Action.sleep nanoseconds) (Action.sleep nanoseconds) := by
  refine .modify fun rested => ⟨rested.device, rested.store, rested.events, ?_⟩
  rw [List.filter_append, List.filter_append, rested.sleeps]

/-- The same write is paired. -/
theorem write (data : Bytes) :
    Paired (World.Rested stores) (Action.write data) (Action.write data) := by
  refine .reading fun rested => ?_
  rw [rested.device]
  split
  · exact (note _).bind fun _ => onDevice _
  · exact onDevice _

/-- The same read is paired. -/
theorem read (count : Nat) :
    Paired (World.Rested stores) (Action.read count) (Action.read count) := by
  refine (onDevice _).bind fun data => .reading fun rested => ?_
  rw [rested.device]
  split
  · exact (note _).bind fun _ => .pure _
  · exact .pure _

/-- Collecting the same count is paired. -/
theorem collect (count : Nat) :
    Paired (World.Rested stores) (Line.collect count) (Line.collect count) := by
  induction count using Nat.strongRecOn with
  | ind count ih =>
      rw [Line.collect]
      split
      · exact .pure _
      · refine (read count).bind fun segment => ?_
        split
        · exact .pure _
        · exact (ih _ (by omega)).bind fun rest => .pure _

end World.Rested

/-- The calls of a line do not depend on pauses. -/
theorem World.kept_rested {stores : Store → Store → Prop} {shows : View → View → Prop}
    (kept : Store.Kept stores shows) : World.Kept (World.Rested stores) shows where
  isOpen rested := congrArg Device.isOpen rested.device
  size := kept.size
  load rested same := kept.load rested.store same
  save data rested same :=
    ⟨rested.device, kept.save data rested.store same, rested.events, rested.sleeps⟩
  note := Rested.note
  sleep := Rested.sleep
  write := Rested.write
  flush := Rested.onDevice _
  collect := Rested.collect

/-- An empty view shows nothing. -/
theorem Store.load_of_empty (store : Store) {view : View} (empty : view.size = 0) :
    store.load view = [] := by
  rw [Store.load, empty, List.take_zero]

/-- Nothing is exchanged through an empty view. -/
theorem Exchange.result_through_of_empty (world : World) {view : View} (empty : view.size = 0) :
    (through view).result world = (.ok (), world) := by
  rw [Operation.result_through, Store.load_of_empty _ empty, payload_nil, result_pure]
  exact congrArg (fun store => (Except.ok (), { world with store := store }))
    (Store.save_nil world.store view)

namespace Operation

/-- Operations that exchange nothing: delays, and those whose buffers are empty. -/
def isIdle : Operation View → Bool
  | write source => source.size = 0
  | read target => target.size = 0
  | transfer target source => target.size = 0 ∧ source.size = 0
  | inPlace target => target.size = 0
  | delay _ => true
  | unsupported _ => false

/-- The operations that exchange something or are refused. -/
def busy (operations : List (Operation View)) : List (Operation View) :=
  operations.filter fun operation => !operation.isIdle

variable {world : World} {operation : Operation View}

/-- Filling with nothing changes nothing. -/
theorem result_fill_nil (target : View) (world : World) :
    (fill target []).result world = (.ok (), world) :=
  congrArg (fun store => (Except.ok (), { world with store := store }))
    (Store.save_nil world.store target)

/-- **An idle operation** succeeds and does no more than to pause. -/
theorem run_of_idle (idle : operation.isIdle) (world : World) :
    ∃ after, operation.run.result world = (.ok (), after) ∧ world.Rested Eq after := by
  have still : world.Rested Eq world := ⟨rfl, rfl, rfl, rfl⟩
  cases operation with
  | write source =>
      have empty : source.size = 0 := of_decide_eq_true idle
      refine ⟨world, ?_, still⟩
      rw [run, result_bind_of_ok (result_get _), Store.load_of_empty _ empty, Exchange.payload_nil]
      rfl
  | read target =>
      have empty : target.size = 0 := of_decide_eq_true idle
      refine ⟨world, ?_, still⟩
      rw [run, empty, List.replicate_zero, result_bind_of_ok (result_fill_nil target world)]
      exact Exchange.result_through_of_empty world empty
  | transfer target source =>
      obtain ⟨empty, empty'⟩ : target.size = 0 ∧ source.size = 0 := of_decide_eq_true idle
      refine ⟨world, ?_, still⟩
      rw [run, if_pos (empty.trans empty'.symm), result_bind_of_ok (result_get _),
        Store.load_of_empty _ empty', result_bind_of_ok (result_fill_nil target world)]
      exact Exchange.result_through_of_empty world empty
  | inPlace target =>
      have empty : target.size = 0 := of_decide_eq_true idle
      exact ⟨world, Exchange.result_through_of_empty world empty, still⟩
  | delay nanoseconds =>
      refine ⟨_, rfl, rfl, rfl, rfl, ?_⟩
      rw [List.filter_append]
      exact (List.append_nil _).symm
  | unsupported value => cases idle

/-- **Operations run as those of them that are busy do.** -/
theorem paired_busy {stores : Store → Store → Prop} {shows : View → View → Prop}
    (kept : Store.Kept stores shows) {operations others : List (Operation View)}
    (correspond : List.Forall₂ (Corresponds shows) (busy operations) others) :
    Paired (World.Rested stores) (runAll operations) (runAll others) := by
  induction operations generalizing others with
  | nil =>
      cases correspond
      exact .pure ()
  | cons first rest ih =>
      by_cases idle : first.isIdle
      · rw [busy, List.filter_cons_of_neg (by simp [idle])] at correspond
        intro world other rested
        obtain ⟨after, ran, paused⟩ := run_of_idle idle world
        rw [result_runAll_cons_of_ok ran]
        -- Only the left run steps, and the relation does not see its pause.
        refine ih correspond after other ⟨?_, ?_, ?_, ?_⟩
        · exact paused.device.symm.trans rested.device
        · exact paused.store ▸ rested.store
        · exact paused.events.symm.trans rested.events
        · exact paused.sleeps.symm.trans rested.sleeps
      · rw [busy, List.filter_cons_of_pos (by simp [idle])] at correspond
        cases correspond with
        | cons same correspond =>
            exact ((World.kept_rested kept).run same).bind fun _ => ih correspond

/-- Operations that are busy correspond to themselves. -/
theorem corresponds_busy (operations : List (Operation View)) :
    List.Forall₂ (Corresponds Eq) (busy operations) (busy operations) :=
  List.forall₂_same.mpr fun operation _ => operation.corresponds_self

end Operation

namespace Transaction

/-- Two transactions have ended the same way after the same calls of the device, have told the same
and slept the same but for the pauses of delays. -/
structure AlikeButPauses (taken taken' : Except Raised Unit × World) : Prop where
  outcome : taken.1 = taken'.1
  device : taken.2.device = taken'.2.device
  events : taken.2.events = taken'.2.events
  sleeps : taken.2.sleeps.filter (· ≠ Operation.pause) =
    taken'.2.sleeps.filter (· ≠ Operation.pause)

/-- Being alike but for pauses works both ways. -/
theorem AlikeButPauses.symm {taken taken' : Except Raised Unit × World}
    (alike : AlikeButPauses taken taken') : AlikeButPauses taken' taken :=
  ⟨alike.outcome.symm, alike.device.symm, alike.events.symm, alike.sleeps.symm⟩

/-- Being alike but for pauses goes on along a chain. -/
theorem AlikeButPauses.trans {taken taken' taken'' : Except Raised Unit × World}
    (first : AlikeButPauses taken taken') (second : AlikeButPauses taken' taken'') :
    AlikeButPauses taken taken'' :=
  ⟨first.outcome.trans second.outcome, first.device.trans second.device,
    first.events.trans second.events, first.sleeps.trans second.sleeps⟩

/-- Busy operations on buffers that correspond end alike. -/
theorem run_rested {stores : Store → Store → Prop} {shows : View → View → Prop}
    (kept : Store.Kept stores shows) {operations others : List (Operation View)}
    (correspond :
      List.Forall₂ (Operation.Corresponds shows) (Operation.busy operations) others)
    (release : Bool) {world world' : World} (rested : World.Rested stores world world') :
    AlikeButPauses ((run release operations).result world)
        ((run release others).result world') ∧
      stores ((run release operations).result world).2.store
        ((run release others).result world').2.store := by
  have paired := (World.kept_rested kept).bracketed (Operation.paired_busy kept correspond) release
  obtain ⟨outcome, after⟩ := paired world world' rested
  exact ⟨⟨outcome, after.device, after.events, after.sleeps⟩, after.store⟩

/-- Delays and empty operations can be left out of what runs in a world. -/
theorem run_erased (release : Bool) (world : World) {operations others : List (Operation View)}
    (same : Operation.busy operations = Operation.busy others) :
    AlikeButPauses ((run release operations).result world)
        ((run release others).result world) ∧
      ((run release operations).result world).2.store =
        ((run release others).result world).2.store := by
  have still : World.Rested Eq world world := ⟨rfl, rfl, rfl, rfl⟩
  obtain ⟨alike, store⟩ :=
    run_rested Store.kept_eq (Operation.corresponds_busy operations) release still
  obtain ⟨alike', store'⟩ :=
    run_rested Store.kept_eq (Operation.corresponds_busy others) release still
  rw [same] at alike store
  exact ⟨alike.trans alike'.symm, store.trans store'.symm⟩

end Transaction

end Hexwire
