import Hexwire.Console.Program
import Hexwire.Proofs.Session.Blame
import Hexwire.Proofs.Transaction.Pieces

/-! # Exchanges of the program

The program opens the bridge of its host for an exchange and closes it afterwards. Such an exchange
ends in one of five ways (`Hexwire.Console.Bridged`), which the program only passes on
(`Hexwire.Console.Bridged.result`). An answer is as long as what was sent
(`Hexwire.Console.Bridged.length`), and a failure is one of the bridge or one that the host or the
device may have (`Hexwire.Console.Bridged.reason`).
-/

namespace Hexwire

namespace Console

namespace Program

variable {α β : Type} {program : Program α} {run after : Run}

/-- What becomes of work that starts with a run. -/
def result (program : Program α) (run : Run) : Except Halt α × Run := program.run run

/-- What follows runs on what was reached, unless a halt ends both. -/
theorem result_bind (program : Program α) (next : α → Program β) (run : Run) :
    (program >>= next).result run =
      match program.result run with
      | (.ok value, after) => (next value).result after
      | (.error halt, after) => (.error halt, after) := by
  change (match program.result run with
    | (outcome, after) => (ExceptT.bindCont next outcome).run after) = _
  rcases program.result run with ⟨outcome, after⟩
  cases outcome <;> rfl

/-- After a success the rest runs from where that led. -/
theorem result_bind_of_ok {value : α} (ran : program.result run = (.ok value, after))
    (next : α → Program β) : (program >>= next).result run = (next value).result after := by
  rw [result_bind, ran]

/-- After a halt nothing else runs. -/
theorem result_bind_of_error {halt : Halt} (ran : program.result run = (.error halt, after))
    (next : α → Program β) : (program >>= next).result run = (.error halt, after) := by
  rw [result_bind, ran]

end Program

variable {host : Host} {settings : Settings} {data received : Bytes}
  {outcome : Except Raised Bytes}

/-- The line of settings. -/
def lineOf (settings : Settings) : Line := Line.withSpeed settings.port settings.baudRate

/-- The exchange of a payload in one transaction. -/
def exchanging (settings : Settings) (data : Bytes) : Action Bytes :=
  Transaction.exchange settings.releaseOnError data Frame.maxPayload

/-- **How an exchange over the bridge of a host ends:** the port is not opened, the device fails the
flush that completes the opening, the exchange fails, closing fails after it, or all succeed. -/
inductive Bridged (host : Host) (settings : Settings) (data : Bytes) :
    Except Raised Bytes → Prop where
  | refused {raised : Raised}
      (refused : Session.start (lineOf settings) host.peer [] = .refused raised) :
      Bridged host settings data (.error raised)
  | unflushed {raised : Raised} {world : World}
      (unflushed : Session.start (lineOf settings) host.peer [] =
        .connected (.error raised) world) : Bridged host settings data (.error raised)
  | failed {raised : Raised} {world reached after : World}
      (opened : Session.start (lineOf settings) host.peer [] = .connected (.ok ()) world)
      (failed : (exchanging settings data).result world = (.error raised, reached))
      (closed : Line.close.result reached = (.ok (), after)) :
      Bridged host settings data (.error raised)
  | unclosed {outcome : Except Raised Bytes} {raised : Raised} {world reached after : World}
      (opened : Session.start (lineOf settings) host.peer [] = .connected (.ok ()) world)
      (worked : (exchanging settings data).result world = (outcome, reached))
      (unclosed : Line.close.result reached = (.error raised, after)) :
      Bridged host settings data (.error raised)
  | answered {received : Bytes} {world reached after : World}
      (opened : Session.start (lineOf settings) host.peer [] = .connected (.ok ()) world)
      (answered : (exchanging settings data).result world = (.ok received, reached))
      (closed : Line.close.result reached = (.ok (), after)) :
      Bridged host settings data (.ok received)

/-- An exchange over the bridge always comes to some outcome. -/
theorem exists_bridged (host : Host) (settings : Settings) (data : Bytes) :
    ∃ outcome, Bridged host settings data outcome := by
  cases opening : Session.start (lineOf settings) host.peer [] with
  | refused raised => exact ⟨_, .refused opening⟩
  | connected started world =>
      cases started with
      | error raised => exact ⟨_, .unflushed opening⟩
      | ok =>
          rcases worked : (exchanging settings data).result world with ⟨outcome, reached⟩
          rcases closed : Line.close.result reached with ⟨raised | ⟨⟩, after⟩
          · exact ⟨_, .unclosed opening worked closed⟩
          · cases outcome with
            | error raised => exact ⟨_, .failed opening worked closed⟩
            | ok received => exact ⟨_, .answered opening worked closed⟩

/-- What is received is as long as what is sent. -/
theorem Bridged.length (bridged : Bridged host settings data (.ok received)) :
    received.length = data.length := by
  cases bridged with
  | answered opened answered closed =>
      obtain ⟨pieces, frames, answers, echoes, exchanged⟩ :=
        Transaction.exchanged_of_ok (by decide) answered
      exact exchanged.length

namespace Program

variable {α : Type} {action : Action α} {raised : Raised} {world after : World}

/-- A port that is refused halts the program with what refused it. -/
theorem result_overBridge_of_refused
    (refused : Session.start (lineOf settings) host.peer [] = .refused raised) (run : Run) :
    (overBridge host settings action).result run = (.error (.failed raised), run) := by
  unfold lineOf at refused
  unfold overBridge
  simp only [refused]
  rfl

/-- A run after the world behind the line of settings is kept. -/
def kept (settings : Settings) (world : World) (run : Run) : Run :=
  { run.note (world.events.map Event.record) with connection := some (lineOf settings, world) }

/-- A port whose first flush fails halts the program with this failure. -/
theorem result_overBridge_of_unflushed
    (unflushed : Session.start (lineOf settings) host.peer [] = .connected (.error raised) world)
    (run : Run) : (overBridge host settings action).result run =
      (.error (.failed raised), kept settings world run) := by
  unfold lineOf at unflushed
  unfold overBridge
  simp only [unflushed]
  rfl

/-- On an open port the program ends as the action does once the port is closed. -/
theorem result_overBridge_of_opened {outcome : Except Raised α}
    (opened : Session.start (lineOf settings) host.peer [] = .connected (.ok ()) world)
    (ended : (Line.closing action).result world = (outcome, after)) (run : Run) :
    (overBridge host settings action).result run =
      (outcome.mapError .failed, kept settings after run) := by
  unfold lineOf at opened
  unfold overBridge
  simp only [opened, ended]
  cases outcome <;> rfl

end Program

/-- The program exchanges a payload as the bridge of its host does, and prints nothing. -/
theorem Bridged.result (bridged : Bridged host settings data outcome) (run : Run) :
    ∃ after, (Program.exchange host settings data).result run =
        (outcome.mapError .failed, after) ∧ after.output = run.output := by
  cases bridged with
  | refused refused => exact ⟨_, Program.result_overBridge_of_refused refused run, rfl⟩
  | unflushed unflushed => exact ⟨_, Program.result_overBridge_of_unflushed unflushed run, rfl⟩
  | failed opened failed closed =>
      have ended := Line.result_closing_of_closed failed closed
      exact ⟨_, Program.result_overBridge_of_opened opened ended run, rfl⟩
  | unclosed opened worked unclosed =>
      have ended := Line.result_closing_of_unclosed worked unclosed
      exact ⟨_, Program.result_overBridge_of_opened opened ended run, rfl⟩
  | answered opened answered closed =>
      have ended := Line.result_closing_of_closed answered closed
      exact ⟨_, Program.result_overBridge_of_opened opened ended run, rfl⟩

/-- **Why an exchange over the bridge fails:** with a failure of the transport, or with one that the
host or the device fails with. -/
theorem Bridged.reason {wanted : Failure → Prop} {raised : Raised}
    (only : host.peer.FailsOnly wanted) (bridged : Bridged host settings data (.error raised)) :
    (∃ kind description, raised.failure = .bridge kind description) ∨ wanted raised.failure := by
  have line {device : Device} (connected : host.peer.connect = .ok device)
      (blamed : device.Blamed raised) :
      (∃ kind description, raised.failure = .bridge kind description) ∨ wanted raised.failure := by
    rcases blamed.isTransport_or (only.2 device connected) with ⟨kind, text, -, same⟩ | known
    · exact .inl ⟨kind, text, same⟩
    · exact .inr known
  have closing {world after : World}
      (opened : Session.start (lineOf settings) host.peer [] = .connected (.ok ()) world)
      (ended : (Line.closing (exchanging settings data)).result world = (.error raised, after)) :
      (∃ kind description, raised.failure = .bridge kind description) ∨ wanted raised.failure := by
    obtain ⟨device, connected, opening⟩ := Session.traced_start opened
    have whole : 0 < (Frame.maxPayload : Int) ∧ (Frame.maxPayload : Int) ≤ Frame.maxPayload := by
      decide
    have exchanged := Transaction.traced_exchange whole settings.releaseOnError data world
    have closed := (Line.traced_closing exchanged).later opening.leads
    apply line connected
    exact closed.blamed raised (congrArg Prod.fst ended)
  cases bridged with
  | refused refused =>
      obtain ⟨failure, unconnected, rfl⟩ := Session.refused_start refused
      rcases Line.ofHostOpen_cases (lineOf settings).port failure with bridge | same
      · exact .inl bridge
      · rw [same]
        exact .inr (only.1 failure unconnected)
  | unflushed unflushed =>
      obtain ⟨device, connected, opening⟩ := Session.traced_start unflushed
      exact line connected (opening.blamed raised rfl)
  | failed opened failed closed =>
      exact closing opened (Line.result_closing_of_closed failed closed)
  | unclosed opened worked unclosed =>
      exact closing opened (Line.result_closing_of_unclosed worked unclosed)

end Console

end Hexwire
