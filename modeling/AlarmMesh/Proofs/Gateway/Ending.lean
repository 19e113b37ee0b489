import AlarmMesh.Proofs.Gateway.Footprint
import AlarmMesh.Proofs.Gateway.Presence
import AlarmMesh.Proofs.Gateway.Turn

/-!
# How sessions end

Every session ends in the same way, whatever leads to it: `finishSession` deletes what is offline
if the session does so and has not run out of time.  So what a step of the test removes is told by
the states in which it ends a session.

* `Discovery.updateMapEnds`, `reportEnds`, `flushEnds`, … — these states, for each step;
* `completed_updateMap`, … — each of them is counted as the end of a session, and nothing else is;
* `Covers f ends` — a footprint allows what these ends delete;
* `edits_updateMap`, … — a step changes the shadow within every footprint that covers its ends;
* `deletes_updateMapEnds`, … — what a step that deletes something has found.
-/

namespace AlarmMesh.Gateway

open Radio (DeviceId SidMap)
open Shadow (Edit Footprint)

namespace Site

variable {f : Footprint} {site : Site} {id other : DeviceId}

/-! ### Deleting -/

/-- Deleting a device makes no other one offline. -/
theorem isOffline_of_deleteIfOffline (h : (site.deleteIfOffline other).isOffline id) :
    site.isOffline id := by
  unfold deleteIfOffline at h
  split at h
  · next hoffline =>
    split at h
    · next platform hdelete =>
      by_cases hid : other = id
      · exact hid ▸ hoffline
      · obtain ⟨store, hstore, rfl⟩ := Shadow.Platform.updated_eq_ok hdelete
        have hread : (store.getReported id .presence).toOption =
            (site.platform.store.getReported id .presence).toOption :=
          (Shadow.Store.getReported_delete hstore id .presence).trans (if_neg hid)
        have hsame : Site.reported { site with platform := { site.platform with store := store } }
            id .presence = site.reported id .presence := reported_congr rfl hread
        unfold isOffline at h ⊢
        rw [← hsame]
        exact h
    · exact h
  · exact h

theorem edits_deleteIfOffline (site : Site) (h : site.isOffline id → f.removes id) :
    site.Edits f (site.deleteIfOffline id) := by
  unfold deleteIfOffline
  split
  · next hoffline =>
    split
    · next platform hdelete =>
      have hdeleted : site.Edits f { site with platform := platform } :=
        edits_updated (.delete id) hdelete (h hoffline)
      exact hdeleted.trans (edits_of_platform rfl)
    · exact .refl f site
  · exact .refl f site

theorem edits_foldl_deleteIfOffline (ids : List DeviceId) (site : Site)
    (h : ∀ id ∈ ids, site.isOffline id → f.removes id) :
    site.Edits f (ids.foldl deleteIfOffline site) := by
  induction ids generalizing site with
  | nil => exact .refl f site
  | cons first ids ih =>
    refine (edits_deleteIfOffline site (h first List.mem_cons_self)).trans (ih _ ?_)
    exact fun id hid hoffline =>
      h id (List.mem_cons_of_mem _ hid) (isOffline_of_deleteIfOffline hoffline)

end Site

/-- A footprint allows the removal of what these ends delete: the mesh devices that are offline
then, if the session deletes any. -/
def Covers (f : Footprint) (ends : List Discovery) : Prop :=
  ∀ d ∈ ends, d.deletesAtEnd → ∀ id : DeviceId, id.isGateway = false → d.site.isOffline id →
    f.removes id

/-- Mesh devices may be removed, and none registered. -/
def sweeping : Footprint where
  admits _ := False
  removes id := id.isGateway = false
  writes _ _ := False

theorem covers_sweeping (ends : List Discovery) : Covers sweeping ends :=
  fun _ _ _ _ hmesh _ => hmesh

theorem Covers.append_right {f : Footprint} {ends ends' : List Discovery}
    (h : Covers f (ends ++ ends')) : Covers f ends' :=
  fun d hd => h d (List.mem_append_right _ hd)

namespace Discovery

variable {f : Footprint} (d : Discovery) {e : Discovery}

/-! ### The end of a session -/

theorem edits_markDevices : d.site.Edits f d.markDevices.site :=
  .foldl (fun site id _ => Site.edits_markDevice d.scan.removal site id) _

theorem edits_endTestMode : d.site.Edits f d.endTestMode.site :=
  Site.edits_reportGroup _ (by simp [Shadow.Property.isRoutine])

theorem edits_completeFlushAll : d.site.Edits f d.completeFlushAll.site := by
  unfold completeFlushAll
  dsimp only
  split
  · exact Site.edits_report _ (.inl rfl) _
  · exact .refl f _

theorem edits_countFlushAll : d.site.Edits f d.countFlushAll.site := by
  unfold countFlushAll
  split
  · exact .refl f _
  · exact edits_completeFlushAll d
  · exact .refl f _

theorem edits_closing (h : Covers f [d]) : d.site.Edits f d.closing.site := by
  have hdeleted : d.site.Edits f (if d.deletesAtEnd then d.deleteOffline else d).site := by
    split
    · next hdeletes =>
      refine Site.edits_foldl_deleteIfOffline d.site.meshDevices d.site fun id hid hoffline => ?_
      have hmesh : id.isGateway = false := by
        have hfilter := (List.mem_filter.1 hid).2
        simpa using hfilter
      exact h d (List.mem_singleton_self d) hdeletes id hmesh hoffline
    · exact .refl f _
  exact (hdeleted.trans (edits_countFlushAll _)).trans (Site.edits_of_platform rfl)

/-- The end of a session removes nothing but what it deletes. -/
theorem edits_finishSession (h : Covers f [d]) : d.site.Edits f d.finishSession.site := by
  rw [finishSession_eq]
  have hclosed : d.site.Edits f { d.closing with scan := d.finished }.site := edits_closing d h
  exact (hclosed.trans (edits_restartMissing _ _ _)).trans (edits_endTestMode _)

/-! ### The second phase -/

/-- The states in which the next step of the second phase ends the session. -/
def updateMapEnds : List Discovery :=
  if d.isOver then [d.cancelMissing]
  else if d.scan.updateCount = 0 ∧ ¬ d.someMissing then [d.cancelMissing.unreduced]
  else []

theorem updateMapEnds_of_over (h : d.isOver) : d.updateMapEnds = [d.cancelMissing] := if_pos h

theorem updateMapEnds_of_none (h : ¬ d.isOver) (hn : d.scan.updateCount = 0)
    (hs : ¬ d.someMissing) : d.updateMapEnds = [d.cancelMissing.unreduced] :=
  (if_neg h).trans (if_pos ⟨hn, hs⟩)

theorem updateMapEnds_of_goesOn (h : ¬ d.isOver)
    (hgoes : ¬ (d.scan.updateCount = 0 ∧ ¬ d.someMissing)) : d.updateMapEnds = [] :=
  (if_neg h).trans (if_neg hgoes)

theorem completed_updateMap :
    d.updateMap.site.completed = d.site.completed + d.updateMapEnds.length := by
  by_cases hover : d.isOver
  · rw [updateMapEnds_of_over d hover]
    exact (ended_updateMap d (.inl hover)).completed
  by_cases hnone : d.scan.updateCount = 0 ∧ ¬ d.someMissing
  · rw [updateMapEnds_of_none d hover hnone.1 hnone.2]
    exact (ended_updateMap d (.inr hnone)).completed
  rw [updateMapEnds_of_goesOn d hover hnone]
  by_cases hn : d.scan.updateCount = 0
  · have hs : d.someMissing := by simpa [hn] using hnone
    rw [updateMap_of_some d hover hn hs, pushMap_completed]
    exact cancelMissing_completed d
  · rw [updateMap_of_sent d hover hn, pushMap_completed]
    exact cancelMissing_completed d

theorem edits_updateMap (h : Covers f d.updateMapEnds) : d.site.Edits f d.updateMap.site := by
  have hcancel : d.site.Edits f d.cancelMissing.site := edits_cancelMissing d
  have hpush (d : Discovery) : d.site.Edits f d.pushMap.site :=
    Site.edits_of_platform (pushMap_platform d)
  by_cases hover : d.isOver
  · rw [updateMap_of_over d hover]
    rw [updateMapEnds_of_over d hover] at h
    exact hcancel.trans (edits_finishSession _ h)
  by_cases hn : d.scan.updateCount = 0
  · by_cases hs : d.someMissing
    · rw [updateMap_of_some d hover hn hs]
      exact hcancel.trans (hpush d.cancelMissing.reduced)
    · rw [updateMap_of_none d hover hn hs]
      rw [updateMapEnds_of_none d hover hn hs] at h
      have hfinish : d.site.Edits f d.cancelMissing.unreduced.finishSession.site :=
        hcancel.trans (edits_finishSession d.cancelMissing.unreduced h)
      split
      · exact hfinish.trans (edits_completeFlushAll _)
      · exact hfinish
  · rw [updateMap_of_sent d hover hn]
    exact hcancel.trans (hpush _)

/-- The end is the one of the session that is found, and it deletes what that one deletes. -/
theorem scan_of_mem_updateMapEnds (h : e ∈ d.updateMapEnds) :
    e.scan.active = d.scan.active ∧ e.deletesAtEnd = d.deletesAtEnd := by
  unfold updateMapEnds at h
  split at h
  · obtain rfl := List.mem_singleton.1 h
    exact ⟨rfl, rfl⟩
  split at h
  · obtain rfl := List.mem_singleton.1 h
    exact ⟨rfl, rfl⟩
  · exact absurd h List.not_mem_nil

/-! ### Running out of time -/

/-- The state in which a session ends that runs out of time or is given up. -/
def ranOut : Discovery :=
  { d with scan := { d.scan with ranOutOfTime := true } }.cancelMissing

theorem runOut_eq : d.runOut = d.ranOut.finishSession :=
  updateMap_of_over _ (by simp [isOver])

theorem deletesAtEnd_ranOut : d.ranOut.deletesAtEnd = false := by
  simp [deletesAtEnd, ranOut, cancelMissing]

/-- A session that is given up removes nothing. -/
theorem covers_ranOut (f : Footprint) : Covers f [d.ranOut] := by
  intro e he hdeletes
  obtain rfl := List.mem_singleton.1 he
  simp [deletesAtEnd_ranOut] at hdeletes

theorem edits_runOut : d.site.Edits f d.runOut.site := by
  rw [runOut_eq]
  have hcancel : d.site.Edits f d.ranOut.site :=
    Site.edits_of_platform (Site.cancel_platform d.site d.missingTimer)
  exact hcancel.trans (edits_finishSession _ (covers_ranOut d f))

/-- The states in which a session ends that is given up. -/
def cancelEnds : List Discovery := if d.scan.active then [d.ranOut] else []

theorem completed_cancelSession :
    d.cancelSession.site.completed = d.site.completed + d.cancelEnds.length := by
  unfold cancelEnds
  by_cases h : d.scan.active
  · rw [cancelSession_of_active d h, if_pos h]
    exact (ended_runOut d).completed
  · rw [cancelSession_of_idle d h, if_neg h]
    rfl

theorem edits_cancelSession : d.site.Edits f d.cancelSession.site := by
  by_cases h : d.scan.active
  · rw [cancelSession_of_active d h]
    exact edits_runOut d
  · rw [cancelSession_of_idle d h]
    exact .refl f _

theorem not_deletes_cancelEnds (h : e ∈ d.cancelEnds) : e.deletesAtEnd = false := by
  unfold cancelEnds at h
  split at h
  · obtain rfl := List.mem_singleton.1 h
    exact deletesAtEnd_ranOut d
  · exact absurd h List.not_mem_nil

/-! ### Probing -/

/-- The states in which a probe ends the session. -/
def probeEnds : List Discovery := if d.isOverdue then [d.ranOut] else []

theorem completed_probe : d.probe.site.completed = d.site.completed + d.probeEnds.length := by
  unfold probeEnds
  by_cases h : d.isOverdue
  · rw [probe_of_overdue d h, if_pos h]
    exact (ended_runOut d).completed
  rw [probe_of_due d h, if_neg h]
  split
  · rw [restartMissing_completed]
    exact transmit_completed d _
  · rw [restartMissing_completed]
    exact transmit_completed d _

theorem edits_probe : d.site.Edits f d.probe.site := by
  by_cases h : d.isOverdue
  · rw [probe_of_overdue d h]
    exact edits_runOut d
  rw [probe_of_due d h]
  split
  · have hprobed : d.site.Edits f d.probed.site := edits_transmit d _
    exact hprobed.trans (edits_restartMissing _ _ _)
  · exact (edits_transmit d _).trans (edits_restartMissing _ _ _)

theorem not_deletes_probeEnds (h : e ∈ d.probeEnds) : e.deletesAtEnd = false := by
  unfold probeEnds at h
  split at h
  · obtain rfl := List.mem_singleton.1 h
    exact deletesAtEnd_ranOut d
  · exact absurd h List.not_mem_nil

/-- The states in which a probe that may be put off ends the session. -/
def probeWhenDueEnds : List Discovery :=
  if d.settings.minSpacing ≤ d.sinceProbe then d.probeEnds else []

theorem completed_probeWhenDue :
    d.probeWhenDue.site.completed = d.site.completed + d.probeWhenDueEnds.length := by
  unfold probeWhenDue probeWhenDueEnds
  split
  · exact completed_probe d
  · exact restartMissing_completed d _ _

theorem edits_probeWhenDue : d.site.Edits f d.probeWhenDue.site := by
  unfold probeWhenDue
  split
  · exact edits_probe d
  · exact edits_restartMissing d _ _

theorem not_deletes_probeWhenDueEnds (h : e ∈ d.probeWhenDueEnds) :
    e.deletesAtEnd = false := by
  unfold probeWhenDueEnds at h
  split at h
  · exact not_deletes_probeEnds d h
  · exact absurd h List.not_mem_nil

/-! ### Reports -/

/-- The map counts as sent often enough. -/
def confirmed : Discovery :=
  { d with scan := { d.scan with updateCount := d.settings.updateDeleteCount } }

/-- The states in which a report of missing slots ends a session. -/
def reportEnds (map : SidMap) : List Discovery :=
  if 0 < d.scan.outstanding then
    if d.isOverdue then [d.ranOut]
    else if (d.countReport map).isDecided then (d.countReport map).markDevices.updateMapEnds
    else (d.countReport map).probeWhenDueEnds
  else if d.isConfirmedBy map then d.confirmed.updateMapEnds
  else []

theorem reportEnds_of_counted {map : SidMap} (ho : 0 < d.scan.outstanding)
    (hdue : ¬ d.isOverdue) : d.reportEnds map = if (d.countReport map).isDecided then
      (d.countReport map).markDevices.updateMapEnds
    else (d.countReport map).probeWhenDueEnds :=
  (if_pos ho).trans (if_neg hdue)

theorem completed_receiveMissing (map : SidMap) :
    (d.receiveMissing map).site.completed = d.site.completed + (d.reportEnds map).length := by
  rcases Nat.eq_zero_or_pos d.scan.outstanding with ho | ho
  · unfold reportEnds
    rw [if_neg (by omega)]
    by_cases hconfirmed : d.isConfirmedBy map
    · rw [receiveMissing_of_confirmed d ho hconfirmed, if_pos hconfirmed]
      exact completed_updateMap d.confirmed
    · rw [receiveMissing_of_ignored d ho hconfirmed, if_neg hconfirmed]
      rfl
  by_cases hdue : d.isOverdue
  · unfold reportEnds
    rw [receiveMissing_of_overdue d ho hdue, if_pos ho, if_pos hdue]
    exact (ended_runOut d).completed
  have hcount : (d.countReport map).site.completed = d.site.completed :=
    cancelMissing_completed d
  rw [receiveMissing_of_counted d map ho hdue, reportEnds_of_counted d ho hdue]
  split
  · rw [completed_updateMap, (silent_markDevices _).completed, hcount]
  · rw [completed_probeWhenDue, hcount]

theorem edits_receiveMissing {map : SidMap} (h : Covers f (d.reportEnds map)) :
    d.site.Edits f (d.receiveMissing map).site := by
  rcases Nat.eq_zero_or_pos d.scan.outstanding with ho | ho
  · unfold reportEnds at h
    rw [if_neg (by omega)] at h
    by_cases hconfirmed : d.isConfirmedBy map
    · rw [if_pos hconfirmed] at h
      rw [receiveMissing_of_confirmed d ho hconfirmed]
      exact edits_updateMap d.confirmed h
    · rw [receiveMissing_of_ignored d ho hconfirmed]
      exact .refl f _
  by_cases hdue : d.isOverdue
  · rw [receiveMissing_of_overdue d ho hdue]
    exact edits_runOut d
  have hcount : d.site.Edits f (d.countReport map).site := edits_cancelMissing d
  rw [reportEnds_of_counted d ho hdue] at h
  rw [receiveMissing_of_counted d map ho hdue]
  by_cases hdecided : (d.countReport map).isDecided
  · rw [if_pos hdecided] at h ⊢
    exact (hcount.trans (edits_markDevices _)).trans (edits_updateMap _ h)
  · rw [if_neg hdecided]
    exact hcount.trans (edits_probeWhenDue _)

/-- A report that deletes something was counted or confirmed a map, and the session that it ends
is the one that it found. -/
theorem scan_of_mem_reportEnds {map : SidMap} (h : e ∈ d.reportEnds map)
    (hdeletes : e.deletesAtEnd) : e.scan.active = d.scan.active ∧
      d.deletesAtEnd ∧ (0 < d.scan.outstanding ∨ 0 < d.scan.updateCount) := by
  rcases Nat.eq_zero_or_pos d.scan.outstanding with ho | ho
  · unfold reportEnds at h
    rw [if_neg (by omega)] at h
    split at h
    · next hconfirmed =>
      obtain ⟨hactive, hsame⟩ := scan_of_mem_updateMapEnds _ h
      have hsent : 0 < d.scan.updateCount := by
        simp only [isConfirmedBy, Bool.and_eq_true, decide_eq_true_eq] at hconfirmed
        exact hconfirmed.1
      exact ⟨hactive, hsame ▸ hdeletes, .inr hsent⟩
    · exact absurd h List.not_mem_nil
  by_cases hdue : d.isOverdue
  · have hend : e ∈ [d.ranOut] := by
      unfold reportEnds at h
      rwa [if_pos ho, if_pos hdue] at h
    obtain rfl := List.mem_singleton.1 hend
    simp [deletesAtEnd_ranOut] at hdeletes
  rw [reportEnds_of_counted d ho hdue] at h
  split at h
  · obtain ⟨hactive, hsame⟩ := scan_of_mem_updateMapEnds _ h
    exact ⟨hactive, hsame ▸ hdeletes, .inl ho⟩
  · simp [not_deletes_probeWhenDueEnds _ h] at hdeletes

/-! ### Requests -/

theorem edits_beginSession : d.site.Edits f d.beginSession.site := by
  have hlater (d : Discovery) : d.site.Edits f d.postpone.site := edits_restartMissing _ _ _
  have hstarted (d : Discovery) : d.site.Edits f d.sessionStarted.site :=
    edits_restartMissing { d with scan := _ } _ _
  by_cases hactive : d.scan.active
  · rw [beginSession_of_active d hactive]
    exact .refl f _
  by_cases hn : d.inNetwork
  · by_cases hl : d.learning
    · rw [beginSession_of_learning d hactive hn hl]
      exact hlater d.cleared
    · have hsent : d.site.Edits f (d.cleared.transmit (.updateSidMap d.current)).site :=
        edits_transmit d.cleared _
      rw [beginSession_of_joined d hactive hn hl]
      split
      · exact hsent.trans (hstarted _)
      · exact hsent.trans (hlater _)
  · rw [beginSession_of_apart d hactive hn]
    refine .trans ?_ (hlater _)
    split
    · exact edits_completeFlushAll d.cleared
    · exact .refl f _

theorem completed_beginSession : d.beginSession.site.completed = d.site.completed := by
  have hlater (d : Discovery) : d.postpone.site.completed = d.site.completed :=
    restartMissing_completed _ _ _
  have hstarted (d : Discovery) : d.sessionStarted.site.completed = d.site.completed :=
    Site.cancel_completed _ _
  by_cases hactive : d.scan.active
  · rw [beginSession_of_active d hactive]
  by_cases hn : d.inNetwork
  · by_cases hl : d.learning
    · rw [beginSession_of_learning d hactive hn hl]
      exact hlater d.cleared
    · have hsent : (d.cleared.transmit (.updateSidMap d.current)).site.completed =
          d.site.completed := transmit_completed d.cleared _
      rw [beginSession_of_joined d hactive hn hl]
      split
      · exact (hstarted _).trans hsent
      · exact (hlater _).trans hsent
  · rw [beginSession_of_apart d hactive hn, hlater]
    split
    · exact (silent_completeFlushAll d.cleared).completed
    · rfl

theorem edits_startTest : d.site.Edits f d.startTest.site := by
  let cleared := d.suspendInterrogation.clearTestResult
  have hcleared : d.site.Edits f cleared.site :=
    (edits_suspendInterrogation d).trans (Site.edits_forget _ (.inl rfl))
  have hstart : d.startTest =
      if cleared.inNetwork then cleared.cancelMissing.beginSession else cleared.endTestMode := rfl
  rw [hstart]
  split
  · exact (hcleared.trans (edits_cancelMissing _)).trans (edits_beginSession _)
  · exact hcleared.trans (edits_endTestMode _)

/-- The states in which a request for a test, or to stop one, ends the session. -/
def testModeEnds (enabled delete : Bool) : List Discovery :=
  if enabled = d.scan.active || enabled then []
  else { d with scan := { d.scan with delete := delete } }.cancelEnds

theorem completed_startTest : d.startTest.site.completed = d.site.completed := by
  let cleared := d.suspendInterrogation.clearTestResult
  have hsuspend : d.suspendInterrogation.site.completed = d.site.completed := by
    unfold suspendInterrogation
    refine (Site.silent_report _ _ _ _).completed.trans ?_
    split
    · exact Site.cancel_completed _ _
    · rfl
  have hcleared : cleared.site.completed = d.site.completed :=
    (Site.silent_after _ _).completed.trans hsuspend
  have hstart : d.startTest =
      if cleared.inNetwork then cleared.cancelMissing.beginSession else cleared.endTestMode := rfl
  rw [hstart]
  split
  · rw [completed_beginSession, cancelMissing_completed, hcleared]
  · rw [(silent_endTestMode cleared).completed, hcleared]

theorem completed_setTestMode (enabled delete : Bool) :
    (d.setTestMode enabled delete).site.completed =
      d.site.completed + (d.testModeEnds enabled delete).length := by
  let chosen : Discovery := { d with scan := { d.scan with delete := delete } }
  unfold setTestMode testModeEnds
  by_cases hsame : enabled = d.scan.active
  · simp [hsame]
  · cases enabled with
    | true =>
      simp only [hsame, if_false, if_true]
      simpa using completed_startTest chosen
    | false =>
      simp only [hsame, if_false]
      simpa using completed_cancelSession chosen

/-- Starting and stopping a test removes nothing. -/
theorem edits_setTestMode (enabled delete : Bool) :
    d.site.Edits f (d.setTestMode enabled delete).site := by
  let chosen : Discovery := { d with scan := { d.scan with delete := delete } }
  unfold setTestMode
  dsimp only
  split
  · exact .refl f _
  split
  · exact edits_startTest chosen
  · exact edits_cancelSession chosen

/-- The states in which the removal of a device ends sessions: the one that is running, and the
one that removes the device if there is nothing to send. -/
def flushEnds (id : DeviceId) : List Discovery :=
  match d.site.slotOf id with
  | none => []
  | some sid => d.cancelEnds ++ (d.beginFlush id sid).updateMapEnds

theorem edits_beginFlush (id : DeviceId) (sid : UInt8) :
    d.site.Edits f (d.beginFlush id sid).site :=
  (edits_cancelSession d).trans (Site.edits_report _ (.inl rfl) _)

theorem edits_flush {id : DeviceId} (h : Covers f (d.flushEnds id)) :
    d.site.Edits f (d.flush id).site := by
  unfold flush
  unfold flushEnds at h
  split
  · exact .refl f _
  · next sid hsid =>
    simp only [hsid] at h
    exact (edits_beginFlush d id sid).trans (edits_updateMap _ h.append_right)

theorem completed_flush (id : DeviceId) :
    (d.flush id).site.completed = d.site.completed + (d.flushEnds id).length := by
  unfold flush flushEnds
  cases d.site.slotOf id with
  | none => rfl
  | some sid =>
    have hbegin : (d.beginFlush id sid).site.completed = d.cancelSession.site.completed :=
      (Site.silent_report d.cancelSession.site id .presence _).completed
    dsimp only
    rw [completed_updateMap, hbegin, completed_cancelSession, List.length_append, Nat.add_assoc]

/-- What is deleted at once belongs to the session that removes the device. -/
theorem active_of_mem_flushEnds {id : DeviceId} (h : e ∈ d.flushEnds id)
    (hdeletes : e.deletesAtEnd) : e.scan.active := by
  unfold flushEnds at h
  split at h
  · exact absurd h List.not_mem_nil
  rcases List.mem_append.1 h with h | h
  · simp [not_deletes_cancelEnds d h] at hdeletes
  · exact (scan_of_mem_updateMapEnds _ h).1

/-- The states in which the removal of every device ends sessions. -/
def flushAllEnds : List Discovery :=
  if 0 < d.scan.flushingAll then [] else d.cancelEnds ++ d.beginFlushAll.updateMapEnds

theorem edits_beginFlushAll : d.site.Edits f d.beginFlushAll.site :=
  (edits_cancelSession d).trans (.foldl (fun _ _ _ => Site.edits_report _ (.inl rfl) _) _)

theorem edits_flushAll (h : Covers f d.flushAllEnds) : d.site.Edits f d.flushAll.site := by
  unfold flushAll
  unfold flushAllEnds at h
  split
  · exact .refl f _
  · next hnone =>
    rw [if_neg hnone] at h
    exact (edits_beginFlushAll d).trans (edits_updateMap _ h.append_right)

theorem completed_flushAll :
    d.flushAll.site.completed = d.site.completed + d.flushAllEnds.length := by
  unfold flushAll flushAllEnds
  split
  · rfl
  · have hbegin : d.beginFlushAll.site.completed = d.cancelSession.site.completed :=
      (silent_offlineAll _ d.cancelSession.site).completed
    rw [completed_updateMap, hbegin, completed_cancelSession, List.length_append, Nat.add_assoc]

theorem active_of_mem_flushAllEnds (h : e ∈ d.flushAllEnds) (hdeletes : e.deletesAtEnd) :
    e.scan.active := by
  unfold flushAllEnds at h
  split at h
  · exact absurd h List.not_mem_nil
  rcases List.mem_append.1 h with h | h
  · simp [not_deletes_cancelEnds d h] at hdeletes
  · exact (scan_of_mem_updateMapEnds _ h).1

/-! ### Timers -/

/-- The states in which a timer of the test ends a session. -/
def fireEnds (kind : TimerKind) : List Discovery :=
  match kind with
  | .testMissingInit => []
  | .testMissingUpdateMap => d.updateMapEnds
  | _ => d.probeEnds

theorem completed_fireTest (kind : TimerKind) :
    (d.fireTest kind).site.completed = d.site.completed + (d.fireEnds kind).length := by
  cases kind with
  | testMissingInit =>
    exact completed_beginSession { d with scan := { d.scan with delete := true } }
  | testMissingUpdateMap => exact completed_updateMap d
  | _ => exact completed_probe d

theorem edits_fireTest {kind : TimerKind} (h : Covers f (d.fireEnds kind)) :
    d.site.Edits f (d.fireTest kind).site := by
  unfold fireTest
  unfold fireEnds at h
  split
  · exact edits_beginSession { d with scan := { d.scan with delete := true } }
  · exact edits_updateMap d h
  · exact edits_probe d

/-- Only the attempts to send the map delete something when their timer fires. -/
theorem scan_of_mem_fireEnds {kind : TimerKind} (h : e ∈ d.fireEnds kind)
    (hdeletes : e.deletesAtEnd) :
    e.scan.active = d.scan.active ∧ d.deletesAtEnd ∧ kind = .testMissingUpdateMap := by
  unfold fireEnds at h
  split at h
  · exact absurd h List.not_mem_nil
  · obtain ⟨hactive, hsame⟩ := scan_of_mem_updateMapEnds d h
    exact ⟨hactive, hsame ▸ hdeletes, rfl⟩
  · simp [not_deletes_probeEnds d h] at hdeletes

end Discovery

end AlarmMesh.Gateway
