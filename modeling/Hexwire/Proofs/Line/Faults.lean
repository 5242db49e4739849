import Hexwire.Proofs.Line.Closed

/-! # Failures of the line

A failure of a host call becomes a failure of the transport. If no call of a device fails otherwise,
every failure of a toggle of chip select is a failure of the transport
(`Hexwire.ChipSelect.isBridge_of_toggle_error`).
-/

namespace Hexwire

/-- Whatever a call fails with while chip select is toggled is a failure of the host's system. An
emulated bridge takes the command without fault. -/
def Device.TogglesAsHost : Device → Prop
  | scripted d =>
    (∀ call failure, d.script.onWrite call = some failure → failure.isHost .os) ∧
      (∀ call failure, d.script.onRead call = .fail failure → failure.isHost .os) ∧
      ∀ call failure, d.script.onFlush call = some failure → failure.isHost .os
  | emulated _ => True

namespace Device.TogglesAsHost

variable {device after : Device} {sent : List Bytes} {raised : Raised}

/-- A device whose toggles fail as the host's system does goes on doing so. -/
theorem took (host : device.TogglesAsHost) (took : device.Took sent after) :
    after.TogglesAsHost := by
  cases took with
  | scripted script _ _ _ => simpa only [TogglesAsHost, script] using host
  | emulated _ _ _ _ => trivial

/-- The write of a toggle fails as the host's system does. -/
theorem write (host : device.TogglesAsHost)
    (failed : (device.write chipSelectCommand).1 = .error raised) : raised.failure.isHost .os := by
  cases device with
  | scripted d => exact host.1 _ _ (ScriptedDevice.onWrite_of_error failed)
  | emulated e => cases failed

/-- A read after a toggle fails as the host's system does. -/
theorem read (host : device.TogglesAsHost) {count : Nat}
    (failed : (device.read count).1 = .error raised) : raised.failure.isHost .os := by
  cases device with
  | scripted d => exact host.2.1 _ _ (ScriptedDevice.onRead_of_error failed)
  | emulated e => cases failed

/-- The flush after a toggle fails as the host's system does. -/
theorem flush (host : device.TogglesAsHost) (failed : device.flush.1 = .error raised) :
    raised.failure.isHost .os := by
  cases device with
  | scripted d => exact host.2.2 _ _ (ScriptedDevice.onFlush_of_error failed)
  | emulated e => cases failed

end Device.TogglesAsHost

namespace Failure

/-- Failures of the transport are known as such. -/
theorem isBridge_ofBridge (kind : BridgeKind) (description : Option String) :
    (ofBridge kind description).isBridge := by
  obtain ⟨shown, bridge⟩ := ofBridge_eq kind description
  rw [bridge]
  rfl

/-- A failure of the transport is raised as one. -/
theorem isBridge_raised_ofBridge (kind : BridgeKind) (description : Option String) :
    (ofBridge kind description).raised.failure.isBridge := isBridge_ofBridge kind description

/-- A failure of the transport with a cause is raised as one. -/
theorem isBridge_raisedFrom_ofBridge (kind : BridgeKind) (description : Option String)
    (cause : Failure) : ((ofBridge kind description).raisedFrom cause).failure.isBridge :=
  isBridge_ofBridge kind description

end Failure

namespace Line

variable {world after : World} {raised : Raised}

/-- A failed call of the host's system comes out as a failure of the transport. -/
theorem isBridge_ofHost (host : raised.failure.isHost .os) : (ofHost raised).failure.isBridge := by
  rw [ofHost, if_pos host]
  exact Failure.isBridge_raisedFrom_ofBridge _ _ _

/-- A failed write of the host's system comes out as a failure of the transport. -/
theorem isBridge_ofHostWrite (host : raised.failure.isHost .os) :
    (ofHostWrite raised).failure.isBridge := by
  unfold ofHostWrite
  split
  · exact Failure.isBridge_raisedFrom_ofBridge _ _ _
  · exact isBridge_ofHost host

/-- The command of chip select fails to be sent as the transport fails. -/
theorem isBridge_of_send_error (opened : world.device.isOpen) (host : world.device.TogglesAsHost)
    (failed : (send chipSelectCommand).result world = (.error raised, after)) :
    raised.failure.isBridge := by
  rw [result_send opened] at failed
  dsimp only at failed
  cases wrote : (world.device.write chipSelectCommand).1 with
  | error fault =>
      rw [wrote] at failed
      cases failed
      exact isBridge_ofHostWrite (host.write wrote)
  | ok _ =>
      rw [wrote] at failed
      cases flushed : (world.device.write chipSelectCommand).2.flush.1 with
      | ok _ =>
          rw [flushed] at failed
          cases failed
      | error fault =>
          have still := host.took (world.device.write_talked chipSelectCommand).took
          rw [flushed] at failed
          cases failed
          exact isBridge_ofHostWrite (still.flush flushed)

/-- Collecting fails only as one of its reads does. The induction is on the count that is still
missing. -/
theorem isHost_of_collect_error (count : Nat) (world : World)
    (host : world.device.TogglesAsHost)
    (failed : (collect count).result world = (.error raised, after)) :
    raised.failure.isHost .os := by
  induction count using Nat.strongRecOn generalizing world with
  | ind count ih =>
      rw [collect] at failed
      by_cases done : count = 0
      · rw [if_pos done] at failed
        cases failed
      · rw [if_neg done] at failed
        rcases ran : (Action.read count).result world with ⟨fault | segment, middle⟩
        · rw [Action.result_bind_of_error ran] at failed
          cases failed
          rw [Action.result_read] at ran
          exact host.read (congrArg Prod.fst ran)
        · rw [Action.result_bind_of_ok ran] at failed
          obtain ⟨received, _, _, ran', talk, -⟩ := read_dialogue world count
          rw [ran] at ran'
          cases ran'
          by_cases empty : segment.length = 0
          · rw [if_pos empty] at failed
            cases failed
          · rw [if_neg empty] at failed
            rcases more : (collect (count - segment.length)).result middle with
              ⟨fault | rest, later⟩
            · rw [Action.result_bind_of_error more] at failed
              cases failed
              exact ih _ (by omega) middle (host.took talk.talked.took) more
            · rw [Action.result_bind_of_ok more] at failed
              cases failed

/-- Its acknowledgement fails to be received as the transport fails. -/
theorem isBridge_of_receive_error (opened : world.device.isOpen)
    (host : world.device.TogglesAsHost) (count : Nat)
    (failed : (receive count).result world = (.error raised, after)) :
    raised.failure.isBridge := by
  rw [result_receive opened] at failed
  rcases ran : (collect (count : Int).toNat).result world with ⟨fault | data, middle⟩
  · rw [ran] at failed
    cases failed
    exact isBridge_ofHost (isHost_of_collect_error _ world host ran)
  · rw [ran] at failed
    dsimp only at failed
    split at failed
    · cases failed
      exact Failure.isBridge_raised_ofBridge _ _
    · cases failed

end Line

/-- **A toggle fails as the transport does** if the device fails as the host's system does. -/
theorem ChipSelect.isBridge_of_toggle_error {world after : World} {raised : Raised}
    (host : world.device.TogglesAsHost)
    (failed : toggle.result world = (.error raised, after)) : raised.failure.isBridge := by
  by_cases opened : world.device.isOpen
  · unfold toggle Line.command at failed
    rw [Action.result_bind_of_ok (Action.result_note _ _)] at failed
    have noted : { world with events := world.events ++ [Event.toggling] }.device.isOpen := opened
    have still : { world with events := world.events ++ [Event.toggling] }.device.TogglesAsHost :=
      host
    obtain ⟨outcome, middle, sent, talk, -⟩ := Line.send_dialogue noted chipSelectCommand
    cases outcome with
    | error fault =>
        rw [Action.result_bind_of_error sent] at failed
        cases failed
        exact Line.isBridge_of_send_error noted still sent
    | ok _ =>
        rw [Action.result_bind_of_ok sent] at failed
        rcases heard : (Line.receive acknowledgement.length).result middle with
          ⟨fault | answer, later⟩
        · rw [Action.result_bind_of_error heard] at failed
          cases failed
          exact Line.isBridge_of_receive_error (talk.isOpen noted)
            (still.took talk.talked.took) _ heard
        · rw [Action.result_bind_of_ok heard] at failed
          by_cases right : answer = acknowledgement
          · rw [if_pos right] at failed
            cases failed
          · rw [if_neg right] at failed
            cases failed
            exact Failure.isBridge_raised_ofBridge _ _
  · rw [result_toggle_of_closed opened] at failed
    cases failed
    exact Failure.isBridge_raised_ofBridge _ _

end Hexwire
