import AlarmMesh.Proofs.Gateway.Run
import AlarmMesh.Proofs.Gateway.Session

/-!
# What changes the current SID map

The current map is the last one that a SID map frame told.  Nothing else changes it, and above all
not the maps that the gateway sends.

* `Move.tellsMap` — the move is such a frame;
* `Discovery.TestStep.current` — the steps of the missing-node test leave it;
* `Discovery.current_setLearnMode`, … — so do the other parts of discovery;
* `Engine.current_receive`, `current_expire` — frames that tell no map, and timers.
-/

namespace AlarmMesh.Gateway

open Radio (Identity Report)

/-- The move is a frame that tells the SID map. -/
def Move.tellsMap : Move → Bool
  | .receive frame =>
    match Report.decode frame with
    | .ok (.sidMap _) => true
    | _ => false
  | _ => false

theorem Move.decode_ne_of_not_tellsMap {frame : List UInt8}
    (h : (Move.receive frame).tellsMap = false) (map : Radio.SidMap) :
    Report.decode frame ≠ .ok (.sidMap map) := by
  intro hdecode
  simp [tellsMap, hdecode] at h

namespace Discovery

variable (d : Discovery)

theorem TestStep.current {d d' : Discovery} (h : d.TestStep d') : d'.current = d.current :=
  congrArg (fun network => network.current) h.network

theorem current_refresh : d.refresh.current = d.current := by
  unfold refresh
  dsimp only
  split <;> rfl

theorem current_continueInterrogation : d.continueInterrogation.current = d.current := by
  unfold continueInterrogation
  split
  · dsimp only
    split <;> rfl
  · rfl

theorem current_suspendInterrogation : d.suspendInterrogation.current = d.current := by
  unfold suspendInterrogation
  split <;> rfl

theorem current_receiveIdentity (identity : Identity) (presence : Shadow.Presence) (real : Bool) :
    (d.receiveIdentity identity presence real).current = d.current := by
  have hcount : d.countKnown.current = d.current := by
    unfold countKnown
    split <;> rfl
  unfold receiveIdentity register
  split
  · rfl
  split
  · dsimp only
    split
    · exact hcount
    · exact hcount
  split <;> rfl

theorem current_receiveRemoteId (identity : Identity) :
    (d.receiveRemoteId identity).current = d.current := by
  have hidentity := current_receiveIdentity d identity .online false
  unfold receiveRemoteId
  dsimp only
  split
  · exact (current_continueInterrogation _).trans hidentity
  · exact hidentity

theorem current_setLearnMode (enabled : Bool) (seconds : Nat) :
    (d.setLearnMode enabled seconds).current = d.current := by
  unfold setLearnMode
  split
  · rfl
  split
  · unfold enterLearnMode
    dsimp only
    split <;> split <;> rfl
  · rfl

theorem current_onTimer (kind : TimerKind) : (d.onTimer kind).current = d.current := by
  cases kind with
  | retrieveSidMap => exact current_refresh _
  | testMissingInit =>
    exact (testStep_beginSession { d with missingTimer := none, scan := _ }).current
  | testMissingTimeout | testMissingContinue =>
    exact (testStep_probe { d with missingTimer := none }).current
  | testMissingUpdateMap => exact (testStep_updateMap { d with missingTimer := none }).current
  | learnModeTimeout => exact current_setLearnMode _ false 0
  | interrogate => exact current_continueInterrogation _
  | faultTimeout | alarmTimeout => rfl

end Discovery

namespace Engine

variable (engine : Engine)

theorem current_dispatch {report : Report} (h : ∀ map, report ≠ .sidMap map)
    (frame : List UInt8) :
    (engine.dispatch report frame).network.current = engine.network.current := by
  unfold dispatch
  cases report with
  | sidMap map => exact absurd rfl (h map)
  | missingNodes map => exact (engine.discovery.testStep_receiveMissing map).current
  | deviceTested identity => exact engine.discovery.current_receiveIdentity identity .unknown true
  | remoteId identity => exact engine.discovery.current_receiveRemoteId identity
  | _ => rfl

/-- A frame that tells no SID map leaves the current one. -/
theorem current_receive {frame : List UInt8} (h : ∀ map, Report.decode frame ≠ .ok (.sidMap map)) :
    (engine.receive frame).network.current = engine.network.current := by
  have hcheck (engine : Engine) (report : Report) :
      (engine.checkRepetition report).2.network = engine.network := by
    unfold checkRepetition checkSequence
    split
    · dsimp only
      split <;> rfl
    · rfl
  unfold receive
  split
  · rfl
  · next report hreport =>
    have hchecked := hcheck (engine.counted frame) report
    dsimp only
    split
    · next heq =>
      rw [counted, heq] at hchecked
      exact congrArg Network.current hchecked
    · next heq =>
      rw [counted, heq] at hchecked
      exact (current_dispatch _ (fun map hmap => h map (hmap ▸ hreport)) frame).trans
        (congrArg Network.current hchecked)

theorem current_expire : engine.expire.network.current = engine.network.current := by
  unfold expire
  split
  · rfl
  · next kind rest hpop =>
    have hrest : rest.network = engine.network :=
      (congrArg (fun popped => popped.2.network) hpop).symm
    rw [← hrest]
    cases kind with
    | faultTimeout | alarmTimeout => rfl
    | _ => exact rest.discovery.current_onTimer _

end Engine

end AlarmMesh.Gateway
