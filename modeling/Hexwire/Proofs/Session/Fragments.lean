import Hexwire.Proofs.Line.Fragments
import Hexwire.Session

/-! # Sessions on a line that cuts up what it brings

On a scripted device without faults no step of a session depends on how the reads cut up the queue:
exchanges, operations and transactions are impartial, a step takes worlds that are alike to worlds
that are alike (`Hexwire.Session.step_alike`), and so does a session. Its reports are therefore
those of a session whose reads bring all they are asked for
(`Hexwire.Session.fragments_unobservable`).
-/

namespace Hexwire

open Hexwire.Action

namespace Exchange

/-- The exchange of a payload does not show how octets are cut. -/
theorem impartial_payload (data : Bytes) : (payload data).Impartial :=
  World.kept_alike.payload data

/-- An exchange through a view does not show how octets are cut. -/
theorem impartial_through (view : View) : (through view).Impartial := World.kept_alike.through rfl

end Exchange

namespace Operation

/-- An operation does not show how octets are cut. -/
theorem impartial_run (operation : Operation View) : operation.run.Impartial :=
  World.kept_alike.run operation.corresponds_self

/-- Operations in a row do not show how octets are cut. -/
theorem impartial_runAll (operations : List (Operation View)) :
    (runAll operations).Impartial := by
  induction operations with
  | nil => exact .pure _
  | cons first rest ih => exact first.impartial_run.bind fun _ => ih

end Operation

namespace Transaction

variable {release : Bool}

/-- Impartial work between toggles is impartial. -/
theorem impartial_bracketed {α : Type} {work : Action α} (impartial : work.Impartial) :
    (bracketed release work).Impartial := World.kept_alike.bracketed impartial release

/-- A transaction does not show how octets are cut. -/
theorem impartial_run (operations : List (Operation View)) :
    (run release operations).Impartial := impartial_bracketed (Operation.impartial_runAll _)

/-- Exchanges of pieces do not show how octets are cut. -/
theorem impartial_exchangeAll (pieces : List Bytes) : (exchangeAll pieces).Impartial := by
  induction pieces with
  | nil => exact .pure _
  | cons first rest ih =>
      exact (Exchange.impartial_payload first).bind fun _ => ih.bind fun _ => .pure _

/-- An exchange in pieces does not show how octets are cut. -/
theorem impartial_exchange (data : Bytes) (pieceSize : Int) :
    (exchange release data pieceSize).Impartial := by
  unfold exchange
  split
  · exact (Impartial.note _).bind fun _ =>
      (impartial_bracketed (impartial_exchangeAll _)).bind fun _ => .pure _
  · exact .fail _

end Transaction

namespace Session

variable {world other : World} {bridge : Bridge}

/-- Impartial work is so too when it is done silently. -/
theorem impartial_silently {work : Action Unit} (impartial : work.Impartial) :
    (silently work).Impartial := impartial.bind fun _ => .pure _

/-- Two steps have ended the same way, in worlds that are alike. -/
structure EndsAlike (taken taken' : (Except Raised Value × Option Value) × Bridge × World) :
    Prop where
  told : taken.1 = taken'.1
  bridge : taken.2.1 = taken'.2.1
  world : taken.2.2.Alike taken'.2.2

/-- A plain step of impartial work ends alike. -/
theorem plain_alike {work : Action Value} (impartial : work.Impartial)
    (alike : world.Alike other) :
    EndsAlike (step.plain bridge work world) (step.plain bridge work other) := by
  obtain ⟨outcome, after⟩ := impartial world other alike
  exact ⟨congrArg (·, none) outcome, rfl, after⟩

/-- A step of many operations whose work is impartial ends alike. -/
theorem many_alike {work : Action Unit} (impartial : work.Impartial)
    (operations : List (Operation View)) (alike : world.Alike other) :
    EndsAlike (step.many bridge operations work world)
      (step.many bridge operations work other) := by
  obtain ⟨outcome, after⟩ := impartial_silently impartial world other alike
  refine ⟨?_, rfl, after⟩
  simp only [step.many, outcome, after.store]

/-- Buffers are the same in worlds that are alike, and so is what operands become. -/
theorem prepare_alike (alike : world.Alike other) (operations : List (Operation Operand)) :
    (prepare world operations).1 = (prepare other operations).1 ∧
      (prepare world operations).2.Alike (prepare other operations).2 := by
  simp only [prepare, alike.store, true_and]
  exact ⟨alike.device, rfl, alike.sleeps, alike.events⟩

/-- **A step does not tell how reads cut up the queue.** -/
theorem step_alike (alike : world.Alike other) (bridge : Bridge) (next : Step) :
    EndsAlike (step bridge world next) (step bridge other next) := by
  cases next with
  | toggle => exact plain_alike (impartial_silently ChipSelect.impartial_toggle) alike
  | command request expected =>
      exact plain_alike (impartial_silently (Line.impartial_command _ _)) alike
  | exchangeFrame target =>
      rcases bound : target.bind other.store other.store.length with ⟨view, buffers⟩
      have ready : { world with store := buffers }.Alike { other with store := buffers } :=
        ⟨alike.device, rfl, alike.sleeps, alike.events⟩
      obtain ⟨outcome, after⟩ :=
        impartial_silently (Exchange.impartial_through view) _ _ ready
      simp only [step, alike.store, bound]
      refine ⟨?_, rfl, after⟩
      simp only [outcome, after.store]
  | single operation =>
      obtain ⟨same, ready⟩ := prepare_alike alike [operation]
      obtain ⟨outcome, after⟩ := impartial_silently
        (Transaction.impartial_run (prepare other [operation]).1) _ _ ready
      simp only [step, same]
      refine ⟨?_, rfl, after⟩
      simp only [outcome, after.store]
  | transaction operations =>
      obtain ⟨same, ready⟩ := prepare_alike alike operations
      simp only [step, same]
      exact many_alike (Transaction.impartial_run _) _ ready
  | closingTransaction operations =>
      obtain ⟨same, ready⟩ := prepare_alike alike operations
      simp only [step, same]
      exact many_alike (Line.impartial_closing (Transaction.impartial_run _)) _ ready
  | closingCall data count =>
      exact plain_alike (Line.impartial_closing ((Line.impartial_send data).bind fun _ =>
        (Line.impartial_receive count).map _)) alike
  | exchange source pieceSize =>
      rcases bound : source.bind other.store other.store.length with ⟨view, buffers⟩
      have ready : { world with store := buffers }.Alike { other with store := buffers } :=
        ⟨alike.device, rfl, alike.sleeps, alike.events⟩
      simp only [step, alike.store, bound]
      exact plain_alike (Impartial.reading (fun alike => by rw [alike.store]) fun _ =>
        (Transaction.impartial_exchange _ pieceSize).map _) ready
  | send data => exact plain_alike (impartial_silently (Line.impartial_send data)) alike
  | receive count => exact plain_alike ((Line.impartial_receive count).map _) alike
  | flush => exact plain_alike (impartial_silently Line.impartial_flush) alike
  | close => exact plain_alike (impartial_silently Line.impartial_close) alike
  | isOpen => exact plain_alike (Line.impartial_isOpen.map _) alike
  | describe => exact plain_alike (.pure _) alike
  | feed data => exact ⟨rfl, rfl, alike.device.feed data, alike.store, alike.sleeps, alike.events⟩
  | reopen => exact ⟨rfl, rfl, alike.device.reopen, alike.store, alike.sleeps, alike.events⟩
  | setRelease release => exact ⟨rfl, rfl, alike⟩

/-- Worlds that are alike stay so without their records. -/
theorem fresh_alike (alike : world.Alike other) : (fresh world).Alike (fresh other) :=
  ⟨alike.device, congrArg Store.named alike.store, rfl, rfl⟩

/-- Nothing that is observed tells how reads cut up the queue. -/
theorem observe_alike (alike : world.Alike other) (writesBefore : Nat) :
    observe world writesBefore = observe other writesBefore := by
  obtain ⟨device, store, sleeps, events⟩ := world
  obtain ⟨device', store', sleeps', events'⟩ := other
  obtain ⟨devices, rfl, rfl, rfl⟩ := alike
  have queue := devices.queue_eq
  have opened := devices.isOpen_eq
  have written := devices.written_eq
  cases devices with
  | scripted _ _ _ _ _ _ _ => simp only [observe, queue, opened, written]

/-- Sessions in worlds that are alike report the same. -/
theorem run_alike (alike : world.Alike other) (bridge : Bridge) (steps : List Step) :
    run bridge world steps = run bridge other steps := by
  induction steps generalizing bridge world other with
  | nil => rfl
  | cons first rest ih =>
      obtain ⟨told, kept, after⟩ := step_alike (fresh_alike alike) bridge first
      have before : (fresh world).device.written = (fresh other).device.written :=
        alike.device.written_eq
      simp only [run, told, kept, before, observe_alike after, ih after]

end Session

/-- What a report says of a timeout. -/
def Report.timeout? (told : Report) : Option String :=
  match told.outcome with
  | .error ⟨.bridge .timeout text, _⟩ => text
  | _ => none

/-- A device without faults. Each of its reads returns at most as many octets as given, or all that
are asked for. -/
def Script.serving (limits : Nat → Option Nat) : Script where
  onOpen := none
  onWrite _ := none
  onRead call := .give (limits call)
  onFlush _ := none
  onClose _ := none

/-- A script that always gives something never fails. -/
theorem Script.faultless_serving {limits : Nat → Option Nat}
    (positive : ∀ call, limits call ≠ some 0) : (serving limits).Faultless :=
  ⟨fun _ => rfl, fun _ => rfl, fun call => ⟨limits call, rfl, positive call⟩⟩

namespace Session

/-- **Fragments are not seen.** On a scripted device without faults, every session reports step for
step the same, however few octets at a time the reads return, as if they returned all that are asked
for. -/
theorem fragments_unobservable (line : Line) (limits : Nat → Option Nat) (incoming : Bytes)
    (store : Store) (bridge : Bridge) (steps : List Step)
    (positive : ∀ call, limits call ≠ some 0) :
    ∃ world other,
      start line (.scripted (.serving limits) incoming) store = .connected (.ok ()) world ∧
        start line (.scripted (.serving fun _ => none) incoming) store =
            .connected (.ok ()) other ∧
          observe world 0 = observe other 0 ∧ run bridge world steps = run bridge other steps := by
  let opened (script : Script) : World :=
    { device := .scripted { script := script, queue := incoming, flushes := 1 }
      store := store
      events := [.opened line.port line.baudRate] }
  have unlimited : (Script.serving fun _ => none).Faultless :=
    Script.faultless_serving fun _ => by rintro ⟨⟩
  have alike : (opened (.serving limits)).Alike (opened (.serving fun _ => none)) := by
    refine ⟨?_, rfl, rfl, rfl⟩
    exact .scripted (Script.faultless_serving positive) (fun _ => rfl) unlimited (fun _ => rfl)
      rfl rfl rfl
  exact ⟨_, _, rfl, rfl, observe_alike alike 0, run_alike alike bridge steps⟩

/-- Octet by octet a session reports as much: a toggle that is acknowledged, one for which too few
octets are queued, and one that is acknowledged again once more have arrived. What is said of a
timeout and whether the step succeeded stands with the count of octets that are queued after it. -/
theorem fragments_toggles :
    let line : Line := ⟨"COM1", Line.defaultBaudRate⟩
    let steps : List Step :=
      [.toggle, .toggle, .feed ChipSelect.acknowledgement, .toggle, .receive 0]
    let incoming := ChipSelect.acknowledgement ++ [0x4F, 0x4B]
    ∃ world other,
      start line (.scripted (.serving fun _ => some 1) incoming) [] = .connected (.ok ()) world ∧
        start line (.scripted (.serving fun _ => none) incoming) [] =
            .connected (.ok ()) other ∧
          run ⟨line, false⟩ world steps = run ⟨line, false⟩ other steps ∧
            (run ⟨line, false⟩ world steps).map
                (fun told => (told.timeout?, told.outcome.toBool, told.observation.pending)) =
              [(none, true, 2), (some "Received 2 of 4 bytes within 500 ms", false, 0),
                (none, true, 4), (none, true, 0), (none, true, 0)] := by
  intro line steps incoming
  obtain ⟨world, other, limited, unlimited, -, same⟩ := fragments_unobservable line
    (fun _ => some 1) incoming [] ⟨line, false⟩ steps fun _ => by rintro ⟨⟩
  refine ⟨world, other, limited, unlimited, same, ?_⟩
  rw [same]
  cases unlimited
  decide +kernel

end Session

end Hexwire
