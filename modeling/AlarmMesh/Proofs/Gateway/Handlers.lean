import AlarmMesh.Proofs.Gateway.Aside

/-!
# Handlers beside the missing-node test

Everything that the engine does but for a report of missing slots, the start and the stop of a
test, the removal of devices and the timers of the test is beside the test.

* `Discovery.aside_receiveSidMap`, … — members, interrogation, learn mode;
* `Correlator.aside_receiveFault`, … — faults and alarms.
-/

namespace AlarmMesh.Gateway

open Radio (AlarmReport Command DeviceId FaultFlag FaultReport)
open Shadow (Property Table Value)

namespace Discovery

variable (d : Discovery) (incidents : Incidents)

/-! ### The regular request -/

theorem aside_refresh : Aside (d.among incidents) (d.refresh.among incidents) := by
  unfold refresh
  refine .trans ?_ (aside_restartRefresh _ incidents _)
  split
  · exact .refl _
  · exact aside_transmit d incidents rfl

/-! ### Interrogation -/

theorem aside_setInterrogating (active : Bool) :
    Aside (d.among incidents) ((d.setInterrogating active).among incidents) :=
  aside_silent (Site.silent_report _ _ _ _) rfl rfl rfl

variable {d} in
/-- The slot that is found is asked. -/
theorem continueInterrogation_of_some {sid : UInt8} (hactive : d.interrogation.active)
    (hfound : d.nextUnknown.1 = some sid) : d.continueInterrogation =
      ({ d with interrogation := d.nextUnknown.2 }.transmit
        (.requestRemoteId sid)).restartInterrogate d.settings.interrogationPeriod := by
  unfold continueInterrogation
  rw [if_pos hactive]
  dsimp only
  rw [hfound]

variable {d} in
/-- If no slot is found, the interrogation ends. -/
theorem continueInterrogation_of_none (hactive : d.interrogation.active)
    (hfound : d.nextUnknown.1 = none) : d.continueInterrogation =
      { d with interrogation := d.nextUnknown.2 }.setInterrogating false := by
  unfold continueInterrogation
  rw [if_pos hactive]
  dsimp only
  rw [hfound]

theorem aside_continueInterrogation :
    Aside (d.among incidents) (d.continueInterrogation.among incidents) := by
  unfold continueInterrogation
  split
  · dsimp only
    have hnext : Aside (d.among incidents)
        ({ d with interrogation := d.nextUnknown.2 }.among incidents) :=
      aside_silent (.refl _) rfl rfl rfl
    split
    · exact hnext.trans ((aside_transmit _ incidents rfl).trans
        (aside_restartInterrogate _ incidents _))
    · exact hnext.trans (aside_setInterrogating _ incidents _)
  · exact .refl _

theorem aside_checkInterrogation :
    Aside (d.among incidents) (d.checkInterrogation.among incidents) := by
  unfold checkInterrogation
  split
  · exact .refl _
  split
  · split
    · exact .refl _
    · have hcursor : Aside (d.among incidents)
          ({ d with interrogation := { d.interrogation with cursor := 0 } }.among incidents) :=
        aside_silent (.refl _) rfl rfl rfl
      exact hcursor.trans ((aside_setInterrogating _ incidents _).trans
        (aside_continueInterrogation _ incidents))
  split
  · exact (aside_cancelInterrogate d incidents).trans (aside_setInterrogating _ incidents _)
  · exact .refl _

theorem aside_suspendInterrogation :
    Aside (d.among incidents) (d.suspendInterrogation.among incidents) := by
  unfold suspendInterrogation
  refine .trans ?_ (aside_setInterrogating _ incidents _)
  split
  · exact aside_cancelInterrogate d incidents
  · exact .refl _

/-! ### Members -/

theorem aside_setUnknown (unknown : Nat) :
    Aside (d.among incidents) ((d.setUnknown unknown).among incidents) :=
  aside_silent ((Site.silent_report _ _ _ _).trans ⟨rfl, rfl, rfl, rfl⟩) rfl rfl rfl

theorem aside_requestDiagnostics :
    Aside (d.among incidents) (d.requestDiagnostics.among incidents) := by
  unfold requestDiagnostics
  have hsend : Aside (d.among incidents) ((d.send .radioDiagnosticRequest).2.among incidents) :=
    aside_transmit d incidents rfl
  split
  · split
    · next heq =>
      rw [heq] at hsend
      exact hsend.trans (aside_silent (.refl _) rfl rfl rfl)
    · next heq =>
      rw [heq] at hsend
      exact hsend
  · exact .refl _

theorem aside_receiveSidMap (map : Radio.SidMap) :
    Aside (d.among incidents) ((d.receiveSidMap map).among incidents) := by
  have hjoined : Aside (d.among incidents)
      (({ d with inNetwork := map.inNetwork }.report .inNetwork (.bool map.inNetwork)).among
        incidents) :=
    aside_silent (Site.silent_report _ _ _ _) rfl rfl rfl
  have hcurrent (d : Discovery) :
      Aside (d.among incidents) ({ d with current := map }.among incidents) :=
    aside_silent (.refl _) rfl rfl rfl
  exact hjoined.trans ((aside_requestDiagnostics _ incidents).trans
    ((aside_setUnknown _ incidents _).trans
      ((hcurrent _).trans (aside_checkInterrogation _ incidents))))

theorem aside_receiveSidMapUpdate (map : Radio.SidMap) :
    Aside (d.among incidents) ((d.receiveSidMapUpdate map).among incidents) :=
  aside_onSite d incidents (.foldl (Site.silent_markUnlessIn map) _ _)

theorem aside_receiveDiagnostic (status : Radio.RadioStatus) :
    Aside (d.among incidents) ((d.receiveDiagnostic status).among incidents) :=
  aside_silent ((Site.silent_report _ _ _ _).trans (Site.silent_report _ _ _ _)) rfl rfl rfl

theorem aside_receiveRumourTarget :
    Aside (d.among incidents) (d.receiveRumourTarget.among incidents) :=
  aside_transmit d incidents rfl

theorem aside_register (identity : Radio.Identity) (presence : Shadow.Presence) :
    Aside (d.among incidents) ((d.register identity presence).among incidents) := by
  have hcount : Aside (d.among incidents) (d.countKnown.among incidents) := by
    unfold countKnown
    split
    · exact aside_setUnknown d incidents _
    · exact .refl _
  unfold register
  refine hcount.trans ?_
  dsimp only
  split
  · exact .refl _
  · next platform _ =>
    refine aside_onSite d.countKnown incidents (f := fun _ => _) ?_
    have hset : d.countKnown.site.Silent { d.countKnown.site with platform := platform } :=
      ⟨rfl, rfl, rfl, rfl⟩
    exact hset.trans ((Site.silent_count _ (by decide)).trans
      ((Site.silent_initDevice _ _).trans (Site.silent_writeIdentity _ _ _)))

theorem aside_receiveIdentity (identity : Radio.Identity) (presence : Shadow.Presence)
    (real : Bool) :
    Aside (d.among incidents) ((d.receiveIdentity identity presence real).among incidents) := by
  unfold receiveIdentity
  split
  · exact .refl _
  split
  · exact aside_register d incidents identity presence
  split
  · exact aside_onSite d incidents (Site.silent_writeIdentity _ identity presence)
  · exact .refl _

theorem aside_receiveRemoteId (identity : Radio.Identity) :
    Aside (d.among incidents) ((d.receiveRemoteId identity).among incidents) := by
  unfold receiveRemoteId
  refine (aside_receiveIdentity d incidents identity .online false).trans ?_
  dsimp only
  split
  · exact (aside_cancelInterrogate _ incidents).trans (aside_continueInterrogation _ incidents)
  · exact .refl _

/-! ### Learn mode -/

theorem aside_setLearnMode (enabled : Bool) (seconds : Nat) :
    Aside (d.among incidents) ((d.setLearnMode enabled seconds).among incidents) := by
  unfold setLearnMode
  split
  · exact .refl _
  split
  · have hon : Aside (d.among incidents)
        (({ d with learning := true }.report .mode Shadow.Mode.learning.value).among incidents) :=
      aside_silent (Site.silent_report _ _ _ _) rfl rfl rfl
    have hjoin (d : Discovery) : Aside (d.among incidents)
        ((if d.inNetwork then d else d.transmit .learnIn).among incidents) := by
      split
      · exact .refl _
      · exact aside_transmit d incidents rfl
    have hlimit (d : Discovery) : Aside (d.among incidents)
        ((if 0 < seconds then d.restartLearn (.ofSeconds seconds) else d.cancelLearn).among
          incidents) := by
      split
      · exact aside_restartLearn d incidents _
      · exact aside_cancelLearn d incidents
    exact hon.trans ((hjoin _).trans ((aside_restartRefresh _ incidents _).trans (hlimit _)))
  · have hoff : Aside (d.among incidents)
        (({ d with learning := false }.report .mode Shadow.Mode.running.value).among incidents) :=
      aside_silent (Site.silent_report _ _ _ _) rfl rfl rfl
    exact hoff.trans ((aside_restartRefresh _ incidents _).trans (aside_cancelLearn _ incidents))

end Discovery

namespace Correlator

variable (c : Correlator) (network : Network)

/-! ### Faults -/

theorem aside_onSite {f : Site → Site} (h : c.site.Silent (f c.site)) :
    Aside (c.within network) ((c.onSite f).within network) :=
  aside_silent h rfl rfl rfl

theorem aside_writeFault (id : DeviceId) (active : Bool) (fault : FlagFault) :
    Aside (c.within network) ((c.writeFault id active fault).within network) :=
  aside_onSite c network (Site.silent_writeFault _ _ _ _ _)

theorem aside_beginFault (id : DeviceId) (report : List UInt8) (awaiting : FollowUp)
    {question : Command} (h : mapOf? question = none) :
    Aside (c.within network) ((c.beginFault id report awaiting question).2.within network) := by
  unfold beginFault
  split
  · exact .refl _
  · next hnew =>
    have hnone : c.faults.get? id = none := by simpa [Table.has] using hnew
    have hpark := c.site.silent_park report .pendingFault h
    split
    · next heq =>
      rw [heq] at hpark
      exact aside_silent hpark rfl rfl rfl
    · next buffer site heq =>
      rw [heq] at hpark
      have hparked : Aside (c.within network) ({ c with site := site }.within network) :=
        aside_silent hpark rfl rfl rfl
      exact hparked.trans (aside_schedule (.faultTimeout id) c.settings.transactionTimeout
        (by simp [TimerKind.place]) (by simp [within, held, TimerKind.place, hnone]) rfl rfl rfl
        (held_putFault network _ id _))

theorem aside_clearDetails (id : DeviceId) (table : UInt8) :
    Aside (c.within network) ((c.clearDetails id table).within network) :=
  (aside_onSite c network (Site.silent_writeDetails _ _ _ _)).trans
    (aside_writeFault _ network _ _ _)

theorem aside_applyGeneral (table : UInt8) (report : FaultReport) (frame : List UInt8) :
    Aside (c.within network) ((c.applyGeneral table report frame).within network) := by
  have hbegin := aside_beginFault c network report.id frame .faultDetails
    (show mapOf? (.requestFaultDetails report.id report.model) = none from rfl)
  unfold applyGeneral
  dsimp only
  split
  · exact aside_writeFault c network _ _ _
  split
  · split
    · next heq =>
      rw [heq] at hbegin
      exact hbegin
    · next heq =>
      rw [heq] at hbegin
      exact hbegin.trans (aside_writeFault _ network _ _ _)
  · exact aside_clearDetails c network _ _

theorem aside_applyBattery (readsVolts : Bool) (report : FaultReport) (frame : List UInt8) :
    Aside (c.within network) ((c.applyBattery readsVolts report frame).within network) := by
  have hbegin := aside_beginFault c network report.id frame .volts
    (show mapOf? (.readVolts report.id report.model) = none from rfl)
  unfold applyBattery
  dsimp only
  split
  · split
    · next heq =>
      rw [heq] at hbegin
      exact hbegin
    · next heq =>
      rw [heq] at hbegin
      exact hbegin.trans (aside_writeFault _ network _ _ _)
  · exact aside_writeFault c network _ _ _

theorem aside_applyFlag (profile : Option Device.Profile) (report : FaultReport)
    (frame : List UInt8) (flag : FaultFlag) :
    Aside (c.within network) ((applyFlag profile report frame c flag).within network) := by
  unfold applyFlag
  cases flag with
  | faulty => exact aside_applyGeneral c network _ _ _
  | detectorBattery => exact aside_applyBattery c network _ _ _
  | unassigned6 | unassigned7 => exact .refl _
  | _ => exact aside_writeFault c network _ _ _

theorem aside_receiveFault (report : FaultReport) (frame : List UInt8) :
    Aside (c.within network) ((c.receiveFault report frame).within network) := by
  unfold receiveFault
  generalize c.site.profileOf report.id = profile
  induction FaultFlag.all generalizing c with
  | nil => exact .refl _
  | cons flag flags ih => exact (aside_applyFlag c network profile report frame flag).trans (ih _)

theorem aside_takeFault {id : DeviceId} {pending : PendingFault}
    (h : c.faults.get? id = some pending) :
    Aside (c.within network) ((c.takeFault id pending).within network) :=
  aside_cancel (.fault id) (by simp) (by simp [within, held, h, takeFault]) rfl rfl
    (held_eraseFault network _ id)

theorem aside_receiveFaultDetails (id : DeviceId) (faults : UInt16) :
    Aside (c.within network) ((c.receiveFaultDetails id faults).within network) := by
  unfold receiveFaultDetails
  split
  · next pending hget =>
    split
    · have htake := (aside_takeFault c network hget).trans
        (aside_onSite _ network (f := fun site => site.release pending.frame)
          (Site.silent_release _ _))
      dsimp only
      split
      · exact htake
      · exact htake.trans (aside_onSite _ network (Site.silent_writeDetails _ _ _ _))
    · exact .refl _
  · exact .refl _

/-! ### Alarms -/

theorem aside_writeAlarm (id : DeviceId) (state : Nat) (temperature : Option UInt16) :
    Aside (c.within network)
      ((c.onSite fun site => site.writeAlarm id state temperature).within network) :=
  aside_onSite c network (Site.silent_writeAlarm _ _ _ _)

theorem aside_beginAlarm (id : DeviceId) (report : List UInt8) :
    Aside (c.within network) ((c.beginAlarm id report).2.within network) := by
  unfold beginAlarm
  split
  · exact .refl _
  · next hnew =>
    have hnone : c.alarms.get? id = none := by simpa [Table.has] using hnew
    have hpark := c.site.silent_park report .pendingAlarm
      (show mapOf? (.readTemperature id (c.site.modelOf id)) = none from rfl)
    split
    · next heq =>
      rw [heq] at hpark
      exact aside_silent hpark rfl rfl rfl
    · next buffer site heq =>
      rw [heq] at hpark
      have hparked : Aside (c.within network) ({ c with site := site }.within network) :=
        aside_silent hpark rfl rfl rfl
      exact hparked.trans (aside_schedule (.alarmTimeout id) c.settings.transactionTimeout
        (by simp [TimerKind.place]) (by simp [within, held, TimerKind.place, hnone]) rfl rfl rfl
        (held_putAlarm network _ id _))

theorem aside_receiveAlarm (report : AlarmReport) (frame : List UInt8) :
    Aside (c.within network) ((c.receiveAlarm report frame).within network) := by
  unfold receiveAlarm
  generalize ((c.site.profileOf report.id).map Device.Profile.readsTemperature).getD false = wanted
  have hbegin : Aside (c.within network)
      ((if wanted then c.beginAlarm report.id frame else (false, c)).2.within network) := by
    cases wanted with
    | true => exact aside_beginAlarm c network _ _
    | false => exact .refl _
  dsimp only
  generalize (if wanted then c.beginAlarm report.id frame else (false, c)) = begun at hbegin ⊢
  split
  · exact hbegin
  · exact hbegin.trans (aside_writeAlarm _ network _ _ _)

/-- What is written for an alarm that waited, once its record is gone. -/
theorem aside_resolveAlarm {engine : Engine} (id : DeviceId) (pending : PendingAlarm)
    (temperature : Option UInt16)
    (h : Aside engine ({ c with alarms := c.alarms.erase id }.within network)) :
    Aside engine ((c.resolveAlarm id pending temperature).within network) := by
  refine h.trans (aside_silent (.trans ?_ (Site.silent_release _ pending.frame)) rfl rfl rfl)
  split
  · exact Site.silent_writeAlarm _ _ _ _
  · exact .refl _

theorem aside_receiveTemperature (id : DeviceId) (value : UInt16) :
    Aside (c.within network) ((c.receiveTemperature id value).within network) := by
  unfold receiveTemperature
  split
  · next pending hget =>
    exact aside_resolveAlarm _ network id pending (some value) (aside_cancel (.alarm id) (by simp)
      (by simp [within, held, hget, onSite]) rfl rfl (held_eraseAlarm network _ id))
  · exact .refl _

theorem aside_receiveSlotValue (id : DeviceId) (value : UInt16) :
    Aside (c.within network) ((c.receiveSlotValue id value).within network) := by
  unfold receiveSlotValue
  split
  · next pending hget =>
    split
    · exact (aside_takeFault c network hget).trans (aside_onSite _ network
        ((Site.silent_writeFault _ _ _ _ _).trans (Site.silent_release _ _)))
    · exact aside_receiveTemperature c network id value
  · exact aside_receiveTemperature c network id value

theorem aside_receiveHush :
    Aside (c.within network) (c.receiveHush.within network) :=
  aside_onSite c network (.foldl Site.silent_silence _ _)

/-! ### Diagnostics -/

theorem aside_receiveDetectorFault (id : DeviceId) :
    Aside (c.within network) ((c.receiveDetectorFault id).within network) :=
  aside_onSite c network (Site.silent_after _ _)

theorem aside_receiveRemoteStatus (status : Radio.RadioStatus) :
    Aside (c.within network) ((c.receiveRemoteStatus status).within network) :=
  aside_onSite c network ((Site.silent_report _ _ _ _).trans
    ((Site.silent_report _ _ _ _).trans (Site.silent_report _ _ _ _)))

end Correlator

end AlarmMesh.Gateway
