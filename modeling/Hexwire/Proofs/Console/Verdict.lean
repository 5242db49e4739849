import Hexwire.Proofs.Console.Bridge
import Hexwire.Proofs.Ping

/-! # The verdict of a ping

A command line that asks for a ping (`Hexwire.Console.pingOf?`) is carried out as that ping, from a
run that has opened and printed nothing (`Hexwire.Console.run_of_ping`). What the ping ends with
decides what is printed and the exit code (`Hexwire.Console.ping_verdict`).
-/

namespace Hexwire

namespace Console

variable {host : Host} {arguments : List String} {settings : Settings} {size filler : Int}
  {data received : Bytes}

/-- How a ping of a size and a filler that fit ends: the host has no room for the payload, or it is
exchanged. -/
inductive Pinged (host : Host) (settings : Settings) (size filler : Int) :
    Except Raised Bytes → Prop where
  | oversized {failure : Failure}
      (oversized : Ping.payload host.memory size filler = .error failure) :
      Pinged host settings size filler (.error failure.raised)
  | bridged {data : Bytes} {outcome : Except Raised Bytes}
      (made : Ping.payload host.memory size filler = .ok data)
      (bridged : Bridged host settings data outcome) :
      Pinged host settings size filler outcome

/-- A ping always comes to some outcome. -/
theorem exists_pinged (host : Host) (settings : Settings) (size filler : Int) :
    ∃ outcome, Pinged host settings size filler outcome := by
  cases made : Ping.payload host.memory size filler with
  | error failure => exact ⟨_, .oversized made⟩
  | ok data =>
      obtain ⟨outcome, bridged⟩ := exists_bridged host settings data
      exact ⟨outcome, .bridged made bridged⟩

/-- The exit code of a run that a failure ends. -/
inductive ExitsWith : Failure → Int → Prop where
  | chosen {text : Option String} {code : Int} (proper : 0 < code ∧ code < 256) :
      ExitsWith (.application text code) code
  | improper {text : Option String} {code : Int} (improper : ¬ (0 < code ∧ code < 256)) :
      ExitsWith (.application text code) 1
  | expected {failure : Failure} (foreign : ∀ text code, failure ≠ .application text code)
      (expected : failure.isPackage ∨ failure.isHost .assertion) : ExitsWith failure 2
  | unexpected {failure : Failure}
      (unexpected : ¬ (failure.isPackage ∨ failure.isHost .assertion)) : ExitsWith failure 3

/-- A failure never exits with the code of success. -/
theorem ExitsWith.ne_zero {failure : Failure} {code : Int} (exits : ExitsWith failure code) :
    code ≠ 0 := by
  cases exits with
  | chosen proper => omega
  | _ => decide

/-- The ending for a failure has the code that the failure exits with. -/
theorem exitsWith_code (failure : Failure) :
    ExitsWith failure (Ending.ofFailure failure).code := by
  cases failure with
  | application text code =>
      unfold Ending.ofFailure Ending.exitCode
      dsimp only
      split
      · next proper => exact .chosen proper
      · next improper => exact .improper improper
  | _ =>
      unfold Ending.ofFailure
      dsimp only
      split
      · next known => exact .expected (by rintro _ _ ⟨⟩) (Bool.or_eq_true_iff.mp known)
      · next unknown => exact .unexpected fun known => unknown (Bool.or_eq_true_iff.mpr known)

/-- An ordinary failure that does not tell of the end of the input. -/
def IsPlain (failure : Failure) : Prop := failure.isOrdinary ∧ failure.isHost .endOfFile = false

/-- A plain failure does not abort the program by itself. -/
theorem isAbort_of_plain {failure : Failure} (plain : IsPlain failure) :
    isAbort failure = false := by
  obtain ⟨ordinary, further⟩ := plain
  have calm : failure.isHost .keyboardInterrupt = false := by
    cases failure with
    | host kind arguments =>
        cases kind with
        | keyboardInterrupt => cases ordinary
        | _ => rfl
    | package kind description => cases kind <;> rfl
    | bridge kind description => cases kind <;> rfl
    | _ => rfl
  rw [isAbort, calm, further, Bool.or_false]

/-- A failure of the transport does not abort the program by itself. -/
theorem isAbort_bridge (kind : BridgeKind) (description : Option String) :
    isAbort (.bridge kind description) = false := by
  cases kind <;> rfl

namespace Run

variable {raised : Raised}

/-- A program that a failure halts ends with the ending for this failure. -/
theorem halted_failed (calm : isAbort raised.failure = false) (run : Run)
    (debugLog : Option String) :
    run.halted debugLog (.failed raised) =
      ((Ending.ofFailure raised.failure).code,
        run.conclude debugLog (Ending.ofFailure raised.failure)) := by
  simp only [halted, calm, Bool.false_eq_true, ↓reduceIte]

/-- A run that a failure ends is over with the code of the failure, unless it was aborted. -/
theorem exitsWith_halted (calm : isAbort raised.failure = false) (run : Run)
    (debugLog : Option String) :
    ExitsWith raised.failure (run.halted debugLog (.failed raised)).1 := by
  rw [halted_failed calm]
  exact exitsWith_code raised.failure

/-- The end of a program leaves the connection as it is. -/
theorem connection_conclude (run : Run) (debugLog : Option String) (ending : Ending) :
    (run.conclude debugLog ending).connection = run.connection := by
  unfold conclude
  dsimp only
  split
  · split <;> rfl
  · split <;> rfl

/-- A ping that fails with its verdict only has nothing more to tell. -/
theorem halted_silently (run : Run) (debugLog : Option String) :
    run.halted debugLog (.failed (Failure.application none 1).raised) = (1, run) := by
  have silent : Ending.ofFailure (.application none 1) = ⟨1, none, none, none⟩ := by rfl
  have calm : isAbort (Failure.application none 1).raised.failure = false := by rfl
  rw [halted_failed calm]
  dsimp only [Failure.raised]
  rw [silent]
  cases debugLog <;> rfl

end Run

namespace Program

/-- What is left of a ping that the host has no room for, or whose size or filler does not fit. -/
theorem result_ping_of_error {failure : Failure}
    (refused : Ping.payload host.memory size filler = .error failure) (run : Run) :
    (ping host settings size filler).result run = (.error (.failed failure.raised), run) := by
  unfold ping
  rw [refused]
  rfl

/-- A ping fails as its exchange does, and reports nothing. -/
theorem result_ping_of_raised {raised : Raised} {run after : Run}
    (made : Ping.payload host.memory size filler = .ok data)
    (failed : (exchange host settings data).result run = (.error (.failed raised), after)) :
    (ping host settings size filler).result run = (.error (.failed raised), after) := by
  unfold ping
  rw [made]
  exact result_bind_of_error failed _

/-- A ping reports what was received and fails unless that is the payload. -/
theorem result_ping_of_received {run after : Run}
    (made : Ping.payload host.memory size filler = .ok data)
    (exchanged : (exchange host settings data).result run = (.ok received, after)) :
    (ping host settings size filler).result run =
      (if Ping.succeeded data received then .ok ()
        else .error (.failed (Failure.application none 1).raised),
        after.say (Ping.report data received)) := by
  unfold ping
  rw [made]
  have said : (say (Ping.report data received)).result after =
      (.ok (), after.say (Ping.report data received)) := rfl
  refine ((result_bind_of_ok exchanged _).trans (result_bind_of_ok said _)).trans ?_
  split
  · rfl
  · rfl

end Program

/-- The settings, the size and the filler of the ping that a command line asks for, if it asks for
one. -/
def pingOf? (host : Host) (arguments : List String) : Option (Settings × Int × Int) :=
  match Program.readProgram host arguments with
  | .error _ => none
  | .ok (line, choice) =>
    match line.operands with
    | [] => none
    | name :: rest =>
      match Command.ofName? name, Options.read (some .ping) rest,
          ((Program.prepare host arguments line choice).result (Run.start host.tree)).1 with
      | some .ping, .ok inner, .ok settings =>
        match Options.ping inner, inner.operands with
        | .ok (size, filler), [] => some (settings, size, filler)
        | _, _ => none
      | _, _, _ => none

/-- A command line that asks for a ping has arguments. -/
theorem arguments_of_ping {asked : Settings × Int × Int}
    (asks : pingOf? host arguments = some asked) : arguments.isEmpty = false := by
  cases arguments with
  | nil => cases asks
  | cons _ _ => rfl

namespace Program

/-- What is done before a command runs prints nothing and leaves the connection alone. -/
theorem prepare_kept (host : Host) (arguments : List String) (line : CommandLine)
    (choice : Settings.Choice) (run : Run) :
    ((prepare host arguments line choice).result run).2.output = run.output ∧
      ((prepare host arguments line choice).result run).2.connection = run.connection := by
  have got (run : Run) : (get : Program Run).result run = (.ok run, run) := rfl
  unfold prepare
  extract_lets installation settle
  have settled (run : Run) : ((settle ()).result run).2.output = run.output ∧
      ((settle ()).result run).2.connection = run.connection := by
    simp only [settle]
    rw [result_bind_of_ok (got run)]
    rcases Settings.ofChoice run.journal.tree choice with ⟨raised | settings, records⟩
    · exact ⟨rfl, rfl⟩
    · exact ⟨rfl, rfl⟩
  clear_value settle
  rw [result_bind_of_ok (got run)]
  rcases installation.apply run.journal with ⟨failure | failure, journal⟩
  · exact settled { run with journal := journal }
  · exact ⟨rfl, rfl⟩

/-- The ping command with options that can be read and no operands does the ping. -/
theorem result_perform_ping {rest : List String} {inner : CommandLine}
    (read : Options.read (some .ping) rest = .ok inner)
    (sized : Options.ping inner = .ok (size, filler)) (bare : inner.operands = []) (run : Run) :
    (perform host settings .ping rest).result run =
      (ping host settings size filler).result run := by
  have line : (ofReading (Options.read (some .ping) rest)).result run = (.ok inner, run) := by
    rw [read]
    rfl
  have chosen : (ofReading (Options.ping inner)).result run = (.ok (size, filler), run) := by
    rw [sized]
    rfl
  have left : (ofReading (Options.noArgument .ping inner)).result run = (.ok (), run) := by
    rw [Options.noArgument, bare]
    rfl
  unfold perform
  rw [if_neg (by rintro ⟨⟨⟩, -⟩), result_bind_of_ok line]
  dsimp only
  rw [result_bind_of_ok chosen]
  dsimp only
  rw [result_bind_of_ok left]

/-- A command line that asks for a ping is carried out as that ping. -/
theorem result_main_of_ping (asks : pingOf? host arguments = some (settings, size, filler)) :
    ∃ ready : Run, ready.output = "" ∧ ready.connection = none ∧
      (main host arguments).result (Run.start host.tree) =
        (ping host settings size filler).result ready := by
  have given := arguments_of_ping asks
  have kept (line : CommandLine) (choice : Settings.Choice) :=
    prepare_kept host arguments line choice (Run.start host.tree)
  unfold pingOf? at asks
  split at asks
  · cases asks
  · rename_i line choice read
    split at asks
    · cases asks
    · rename_i name rest operands
      split at asks
      · rename_i inner _ named inside settled
        split at asks
        · rename_i sized bare
          cases asks
          let ready := ((prepare host arguments line choice).result (Run.start host.tree)).2
          refine ⟨ready, (kept line choice).1, (kept line choice).2, ?_⟩
          have first : (ofReading (readProgram host arguments)).result (Run.start host.tree) =
              (.ok (line, choice), Run.start host.tree) := by
            rw [read]
            rfl
          have found : (ofReading (findCommand host name rest)).result (Run.start host.tree) =
              (.ok .ping, Run.start host.tree) := by
            rw [findCommand, named]
            rfl
          have prepared : (prepare host arguments line choice).result (Run.start host.tree) =
              (.ok settings, ready) := Prod.ext settled rfl
          unfold main
          rw [given, if_neg Bool.false_ne_true, result_bind_of_ok first]
          dsimp only
          rw [operands]
          dsimp only
          rw [result_bind_of_ok found, result_bind_of_ok prepared]
          exact result_perform_ping inside sized bare ready
        · cases asks
      · cases asks

end Program

/-- The exit code of work that has ended, and the run after what is shown about it. -/
def concluded (host : Host) : Except Halt Unit × Run → Int × Run
  | (.ok _, after) => (0, after)
  | (.error halt, after) => after.halted host.debugLog halt

/-- A ping that starts with a run: the exit code and the run at its end. -/
def pingFrom (host : Host) (settings : Settings) (size filler : Int) (ready : Run) : Int × Run :=
  concluded host ((Program.ping host settings size filler).result ready)

/-- A run that asks for a ping is that ping, from a run that has printed nothing yet. -/
theorem run_of_ping (asks : pingOf? host arguments = some (settings, size, filler)) :
    ∃ ready : Run, ready.output = "" ∧ ready.connection = none ∧
      run host arguments = pingFrom host settings size filler ready := by
  obtain ⟨ready, blank, unconnected, same⟩ := Program.result_main_of_ping asks
  refine ⟨ready, blank, unconnected, ?_⟩
  rw [pingFrom, ← same]
  rfl

variable {raised : Raised}

/-- A size or a filler that does not fit is refused before anything is opened. -/
theorem pingFrom_of_unfit (unfit : ¬ Ping.Fits size filler) (host : Host) (settings : Settings)
    (ready : Run) :
    (pingFrom host settings size filler ready).1 = 1 ∧
      (pingFrom host settings size filler ready).2.connection = ready.connection := by
  obtain ⟨text, refused⟩ := Ping.payload_of_unfit unfit
  have calm : isAbort (Failure.application (some text) 1).raised.failure = false := rfl
  rw [pingFrom, Program.result_ping_of_error refused, concluded, Run.halted_failed calm]
  exact ⟨rfl, ready.connection_conclude _ _⟩

/-- What a ping that fits fails with does not abort the program. -/
theorem Pinged.calm (pinged : Pinged host settings size filler (.error raised))
    (fits : Ping.Fits size filler) (plain : host.peer.FailsOnly IsPlain) :
    isAbort raised.failure = false := by
  cases pinged with
  | oversized oversized =>
      rcases Ping.payload_of_fits fits with made | ⟨failure, refused, rfl | rfl⟩
      · rw [made] at oversized
        cases oversized
      · rw [refused] at oversized
        cases oversized
        rfl
      · rw [refused] at oversized
        cases oversized
        rfl
  | bridged made bridged =>
      rcases bridged.reason plain with ⟨kind, description, bridge⟩ | known
      · rw [bridge]
        exact isAbort_bridge kind description
      · exact isAbort_of_plain known

/-- A ping that fails ends with the exit code of its failure. -/
theorem Pinged.exitsWith (pinged : Pinged host settings size filler (.error raised))
    (calm : isAbort raised.failure = false) (ready : Run) :
    ExitsWith raised.failure (pingFrom host settings size filler ready).1 := by
  cases pinged with
  | oversized oversized =>
      rw [pingFrom, Program.result_ping_of_error oversized]
      exact Run.exitsWith_halted calm ready host.debugLog
  | bridged made bridged =>
      obtain ⟨after, exchanged, -⟩ := bridged.result ready
      rw [pingFrom, Program.result_ping_of_raised made exchanged]
      exact Run.exitsWith_halted calm after host.debugLog

/-- A ping that is answered has received as much as it was asked for, reports it, and succeeds if
it is what was sent. -/
theorem Pinged.answered (pinged : Pinged host settings size filler (.ok received))
    (fits : Ping.Fits size filler) (ready : Run) :
    received.length = size.toNat ∧
      (pingFrom host settings size filler ready).2.output =
        ready.output ++ ("Sent " ++ toString size.toNat ++ " bytes, " ++
          toString (received.count (Ping.octet filler)) ++ " bytes echoed back unchanged" ++ "\n") ∧
      (pingFrom host settings size filler ready).1 =
        if received = List.replicate size.toNat (Ping.octet filler) then 0 else 1 := by
  cases pinged with
  | bridged made bridged =>
      rename_i data
      have sent : data = List.replicate size.toNat (Ping.octet filler) := by
        rcases Ping.payload_of_fits fits with made' | ⟨failure, refused, -⟩
        · exact Except.ok.inj (made.symm.trans made')
        · rw [refused] at made
          cases made
      have sized : received.length = data.length := bridged.length
      have length : received.length = size.toNat := by
        rw [sized, sent, List.length_replicate]
      obtain ⟨after, exchanged, quiet⟩ := bridged.result ready
      have told : pingFrom host settings size filler ready =
          (if received = data then 0 else 1, after.say (Ping.report data received)) := by
        have judged := Ping.succeeded_iff sized
        rw [pingFrom, Program.result_ping_of_received made exchanged]
        by_cases back : received = data
        · rw [if_pos back, if_pos (judged.mpr back)]
          rfl
        · rw [if_neg back, if_neg fun passed => back (judged.mp passed)]
          exact Run.halted_silently _ host.debugLog
      refine ⟨length, ?_, ?_⟩
      · rw [told]
        change after.output ++ Text.withoutControls (Ping.report data received ++ "\n") = _
        rw [Ping.withoutControls_report, quiet, sent, ← length, Ping.report_replicate]
      · rw [told, sent]

/-- **The verdict of a ping.** A size or a filler that does not fit is refused with one, and nothing
is opened. Otherwise the ping is answered or fails. An answer has the size that was asked for; the
count of its octets that are the filler is printed, and the program ends with zero if all are and
with one if any is not. A failure ends it with the code of the failure, which is never zero: the
program ends with zero only if all that was sent has come back unchanged. -/
theorem ping_verdict (asks : pingOf? host arguments = some (settings, size, filler))
    (plain : host.peer.FailsOnly IsPlain) :
    let ended := run host arguments
    let sent := List.replicate size.toNat (Ping.octet filler)
    (¬ Ping.Fits size filler → ended.1 = 1 ∧ ended.2.connection = none) ∧
    (Ping.Fits size filler →
      (∃ outcome, Pinged host settings size filler outcome) ∧
      (∀ received, Pinged host settings size filler (.ok received) →
        received.length = size.toNat ∧
        ended.2.output = "Sent " ++ toString size.toNat ++ " bytes, " ++
          toString (received.count (Ping.octet filler)) ++ " bytes echoed back unchanged" ++ "\n" ∧
        ended.1 = if received = sent then 0 else 1) ∧
      ∀ raised, Pinged host settings size filler (.error raised) →
        ExitsWith raised.failure ended.1) ∧
    (ended.1 = 0 → Ping.Fits size filler ∧ Pinged host settings size filler (.ok sent)) := by
  intro ended sent
  obtain ⟨ready, blank, unconnected, same⟩ := run_of_ping asks
  change ended = _ at same
  clear_value ended
  subst same
  have unfit (refused : ¬ Ping.Fits size filler) := pingFrom_of_unfit refused host settings ready
  have answered (fits : Ping.Fits size filler) {received : Bytes}
      (pinged : Pinged host settings size filler (.ok received)) := pinged.answered fits ready
  have failed (fits : Ping.Fits size filler) {raised : Raised}
      (pinged : Pinged host settings size filler (.error raised)) :=
    pinged.exitsWith (pinged.calm fits plain) ready
  rw [unconnected] at unfit
  simp only [blank, String.empty_append] at answered
  refine ⟨unfit, fun fits => ⟨exists_pinged host settings size filler, ?_, ?_⟩, fun zero => ?_⟩
  · intro received pinged
    exact answered fits pinged
  · intro raised pinged
    exact failed fits pinged
  · by_cases fits : Ping.Fits size filler
    · obtain ⟨raised | received, pinged⟩ := exists_pinged host settings size filler
      · exact absurd zero (failed fits pinged).ne_zero
      · obtain ⟨-, -, code⟩ := answered fits pinged
        by_cases back : received = sent
        · exact ⟨fits, back ▸ pinged⟩
        · rw [zero, if_neg back] at code
          cases code
    · rw [(unfit fits).1] at zero
      cases zero

/-- A host with a device that gives what is queued, unless its second read fails. -/
def queueing (incoming : Bytes) (second : Option Failure) : Host where
  peer := .scripted
    { onOpen := none
      onWrite := fun _ => none
      onRead := fun call => match call, second with
        | 1, some failure => .fail failure
        | _, _ => .give none
      onFlush := fun _ => none
      onClose := fun _ => none } incoming
  moment := "2024-05-06 07:08:09"

/-- A device that answers a queue and fails plainly once fails plainly only. -/
theorem failsOnly_queueing {second : Option Failure}
    (plain : ∀ failure, second = some failure → IsPlain failure) (incoming : Bytes) :
    (queueing incoming second).peer.FailsOnly IsPlain := by
  apply Peer.failsOnly_scripted
  refine ⟨by rintro _ ⟨⟩, by rintro _ _ ⟨⟩, ?_, by rintro _ _ ⟨⟩, by rintro _ _ ⟨⟩⟩
  intro call failure planned
  dsimp only at planned
  split at planned
  · cases planned
    exact plain _ rfl
  · cases planned

/-- Two octets come back unchanged, with the acknowledgements of chip select around them. -/
theorem ping_verdict_unchanged :
    let host := queueing [0x4F, 0x4B, 0x0D, 0x0A, 0x30, 0x36, 0x30, 0x36, 0x0D, 0x0A,
      0x4F, 0x4B, 0x0D, 0x0A] none
    (run host ["ping", "-s", "2"]).1 = 0 ∧ Pinged host {} 2 6 (.ok [6, 6]) ∧
      (run host ["ping", "-s", "2"]).2.output =
        "Sent 2 bytes, 2 bytes echoed back unchanged\n" := by
  intro host
  have asks : pingOf? host ["ping", "-s", "2"] = some ({}, 2, 6) := by decide +kernel
  have zero : (run host ["ping", "-s", "2"]).1 = 0 := by decide +kernel
  have plain : host.peer.FailsOnly IsPlain := failsOnly_queueing (by rintro _ ⟨⟩) _
  obtain ⟨-, verdict, unchanged⟩ := ping_verdict asks plain
  obtain ⟨fits, pinged⟩ := unchanged zero
  obtain ⟨-, told, -⟩ := (verdict fits).2.1 _ pinged
  exact ⟨zero, pinged, told⟩

/-- A failure of the package that brings its own code ends the program with that code. -/
theorem exits_with_chosen_code :
    let host := queueing [0x4F, 0x4B, 0x0D, 0x0A] (some (.application (some "odd") 7))
    pingOf? host ["ping", "-s", "1"] = some ({}, 1, 6) ∧ host.peer.FailsOnly IsPlain ∧
      ∃ raised, Pinged host {} 1 6 (.error raised) ∧ raised.failure.isPackage ∧
        (run host ["ping", "-s", "1"]).1 = 7 := by
  intro host
  have asks : pingOf? host ["ping", "-s", "1"] = some ({}, 1, 6) := by decide +kernel
  have code : (run host ["ping", "-s", "1"]).1 = 7 := by decide +kernel
  have plain : host.peer.FailsOnly IsPlain := by
    apply failsOnly_queueing
    rintro _ ⟨⟩
    exact ⟨rfl, rfl⟩
  have fits : Ping.Fits 1 6 := by
    unfold Ping.Fits
    decide
  obtain ⟨ready, -, -, same⟩ := run_of_ping asks
  refine ⟨asks, plain, ?_⟩
  obtain ⟨raised | received, pinged⟩ := exists_pinged host {} 1 6
  · refine ⟨raised, pinged, ?_, code⟩
    have exits := pinged.exitsWith (pinged.calm fits plain) ready
    rw [← same, code] at exits
    generalize raised.failure = failure at exits
    cases exits with
    | chosen proper => rfl
  · obtain ⟨-, -, verdict⟩ := pinged.answered fits ready
    rw [← same, code] at verdict
    split at verdict <;> cases verdict

end Console

end Hexwire
