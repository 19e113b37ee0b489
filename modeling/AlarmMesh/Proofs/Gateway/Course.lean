import AlarmMesh.Proofs.Gateway.TestMove

/-!
# The course of a test

The test goes on in small steps, and some of them end a session.  Whatever is to be said of the test
as a whole is said of these steps; how the handlers are made of them is said here, once.

* `Discovery.Course d d' ends` — the steps from one state to another, with the sessions that end;
* `course_updateMap`, `course_receiveMissing`, `course_stopTest`, `course_flush`, … — the handlers
  of the test.
-/

namespace AlarmMesh.Gateway

open Radio (DeviceId SidMap)
open Shadow (Value)

namespace Discovery

/-- How the test goes on from one state to another, and the sessions that end on the way. -/
inductive Course : Discovery → Discovery → List Discovery → Prop
  /-- Nothing is reported, and neither learn mode nor the deletion of all devices goes on. -/
  | quiet {d d' : Discovery} (hplatform : d'.site.platform = d.site.platform)
      (hlearning : d'.learning = d.learning)
      (hleft : d'.scan.flushingAll = d.scan.flushingAll) : Course d d' []
  /-- The devices are judged by the reports. -/
  | mark (d : Discovery) : Course d d.markDevices []
  /-- A device is reported to be there or not. -/
  | present (d : Discovery) (id : DeviceId) (value : Value) :
      Course d (d.onSite fun site => site.report id .presence value) []
  | finish (d : Discovery) : Course d d.finishSession [d]
  /-- A session that deletes devices, and that is the last one needed to delete them all. -/
  | finishAll (d : Discovery) (hdeletes : d.deletesAtEnd)
      (hleft : 0 < d.finishSession.scan.flushingAll) :
      Course d d.finishSession.completeFlushAll [d]
  | trans {a b c : Discovery} {ends ends' : List Discovery} (h : Course a b ends)
      (h' : Course b c ends') : Course a c (ends ++ ends')

theorem TestStep.learning {d d' : Discovery} (h : d.TestStep d') : d'.learning = d.learning :=
  (congrArg Network.learning h.network :)

variable (d : Discovery)

theorem course_restartMissing (kind : TimerKind) (delay : Duration) :
    d.Course (d.restartMissing kind delay) [] :=
  .quiet (restartMissing_platform d kind delay) rfl rfl

theorem course_cancelMissing : d.Course d.cancelMissing [] :=
  .quiet (cancelMissing_platform d) rfl rfl

/-! ### The second phase -/

theorem course_pushMap : d.Course d.pushMap [] :=
  .quiet (pushMap_platform d) (testStep_pushMap d).learning (by rw [pushMap_scan])

theorem course_updateMap : d.Course d.updateMap d.updateMapEnds := by
  have hcancel := course_cancelMissing d
  by_cases hover : d.isOver
  · rw [updateMap_of_over d hover, updateMapEnds_of_over d hover]
    exact hcancel.trans (.finish _)
  by_cases hn : d.scan.updateCount = 0
  · by_cases hsome : d.someMissing
    · rw [updateMap_of_some d hover hn hsome,
        updateMapEnds_of_goesOn d hover fun hnone => hnone.2 hsome]
      have hreduced : d.cancelMissing.Course d.cancelMissing.reduced [] := .quiet rfl rfl rfl
      exact (hcancel.trans hreduced).trans (course_pushMap _)
    · rw [updateMap_of_none d hover hn hsome, updateMapEnds_of_none d hover hn hsome]
      have hunreduced : d.cancelMissing.Course d.cancelMissing.unreduced [] := .quiet rfl rfl rfl
      have hquiet := hcancel.trans hunreduced
      split
      · -- nothing had to be sent, and the sessions that are left are not waited for
        next hleft =>
        have hdeletes : d.cancelMissing.unreduced.deletesAtEnd := by
          simp only [isOver, Bool.or_eq_true, not_or, Bool.not_eq_true, Bool.not_eq_true'] at hover
          simp [deletesAtEnd, unreduced, cancelMissing, hover]
        refine hquiet.trans (.finishAll _ hdeletes ?_)
        rw [finishSession_scan]
        exact hleft
      · exact hquiet.trans (.finish _)
  · rw [updateMap_of_sent d hover hn, updateMapEnds_of_goesOn d hover fun hnone => hn hnone.1]
    exact hcancel.trans (course_pushMap _)

/-! ### The end of a session -/

theorem course_runOut : d.Course d.runOut [d.ranOut] := by
  have hout : d.Course d.ranOut [] := .quiet (Site.cancel_platform _ _) rfl rfl
  rw [runOut_eq]
  exact hout.trans (.finish _)

theorem course_cancelSession : d.Course d.cancelSession d.cancelEnds := by
  unfold cancelEnds
  by_cases hactive : d.scan.active
  · rw [cancelSession_of_active d hactive, if_pos hactive]
    exact course_runOut d
  · rw [cancelSession_of_idle d hactive, if_neg hactive]
    exact .quiet rfl rfl rfl

theorem course_stopTest :
    d.Course (d.setTestMode false false) (d.testModeEnds false false) := by
  let chosen : Discovery := { d with scan := { d.scan with delete := false } }
  have hchosen : d.Course chosen [] := .quiet rfl rfl rfl
  by_cases hactive : d.scan.active
  · have hstop : d.setTestMode false false = chosen.cancelSession := by
      unfold setTestMode
      exact (if_neg (by simp [hactive])).trans (if_neg (by simp))
    have hends : d.testModeEnds false false = chosen.cancelEnds := if_neg (by simp [hactive])
    rw [hstop, hends]
    exact hchosen.trans (course_cancelSession _)
  · have hstay : d.setTestMode false false = chosen := if_pos (by simp [hactive])
    have hends : d.testModeEnds false false = [] := if_pos (by simp [hactive])
    rw [hstay, hends]
    exact hchosen

/-! ### Probing -/

theorem course_probe : d.Course d.probe d.probeEnds := by
  unfold probeEnds
  by_cases hdue : d.isOverdue
  · rw [probe_of_overdue d hdue, if_pos hdue]
    exact course_runOut d
  have hsent : d.Course (d.transmit (.updateSidMap d.current)) [] :=
    .quiet (transmit_platform d _) rfl rfl
  have hprobed : d.Course d.probed [] := .quiet (transmit_platform d _) rfl rfl
  rw [probe_of_due d hdue, if_neg hdue]
  split
  · exact hprobed.trans (course_restartMissing _ _ _)
  · exact hsent.trans (course_restartMissing _ _ _)

theorem course_probeWhenDue : d.Course d.probeWhenDue d.probeWhenDueEnds := by
  unfold probeWhenDue probeWhenDueEnds
  split
  · exact course_probe d
  · exact course_restartMissing d _ _

theorem course_receiveMissing (map : SidMap) :
    d.Course (d.receiveMissing map) (d.reportEnds map) := by
  rcases Nat.eq_zero_or_pos d.scan.outstanding with ho | ho
  · unfold reportEnds
    rw [if_neg (by omega)]
    by_cases hconfirmed : d.isConfirmedBy map
    · have hstart : d.Course d.confirmed [] := .quiet rfl rfl rfl
      rw [receiveMissing_of_confirmed d ho hconfirmed, if_pos hconfirmed]
      exact hstart.trans (course_updateMap _)
    · rw [receiveMissing_of_ignored d ho hconfirmed, if_neg hconfirmed]
      exact .quiet rfl rfl rfl
  by_cases hdue : d.isOverdue
  · unfold reportEnds
    rw [receiveMissing_of_overdue d ho hdue, if_pos ho, if_pos hdue]
    exact course_runOut d
  have hcount : d.Course (d.countReport map) [] := .quiet (cancelMissing_platform d) rfl rfl
  rw [receiveMissing_of_counted d map ho hdue, reportEnds_of_counted d ho hdue]
  split
  · exact (hcount.trans (.mark _)).trans (course_updateMap _)
  · exact hcount.trans (course_probeWhenDue _)

/-! ### The removal of a device -/

/-- It ends the session that is running, and begins with the second phase of another. -/
theorem course_flush (id : DeviceId) : d.Course (d.flush id) (d.flushEnds id) := by
  unfold flush flushEnds
  cases d.site.slotOf id with
  | none => exact .quiet rfl rfl rfl
  | some sid =>
    have haimed : d.cancelSession.Course (d.beginFlush id sid) [] :=
      (Course.present _ id _).trans (.quiet rfl rfl rfl)
    exact (course_cancelSession d).trans (haimed.trans (course_updateMap _))

end Discovery

end AlarmMesh.Gateway
