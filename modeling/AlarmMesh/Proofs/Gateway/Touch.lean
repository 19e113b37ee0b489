import AlarmMesh.Proofs.Gateway.MapUpdate
import AlarmMesh.Proofs.Gateway.View

/-!
# What touches a subject

The few moves that change one of the subjects are told by what they deal with.  Everything else
leaves it as it is, with one reservation: a session that ends may delete the device that the
subject is about.

* `Discovery.view_updateMap`, `view_flush`, … — the steps of the test;
* `Engine.Touches s move` — a move may change the subject, whatever the test does;
* `Engine.view_receive`, `view_expire`, … — what is beside the test leaves what it does not touch.
-/

namespace AlarmMesh.Gateway

open Radio (DeviceId Report SidMap)
open Shadow (Mode Platform Property Store Value)

/-! ### Devices that stay -/

variable {s : Subject} {a b : Site}

/-- What is registered after that was so before. -/
theorem Subject.Registered.of_edits (h : s.Registered b) (hedits : a.Edits sweeping b) :
    s.Registered a := fun id hid hmesh =>
  Store.isRegistered_iff.2
    (hedits.store.mem_of_not_admits not_false (Store.isRegistered_iff.1 (h id hid hmesh)))

namespace Site

variable {site : Site} {id : DeviceId}

/-- Deleting another device changes nothing. -/
theorem view_deleteIfOffline (hmesh : id.isGateway = false)
    (h : s.Registered (site.deleteIfOffline id)) :
    (site.deleteIfOffline id).view s = site.view s := by
  unfold deleteIfOffline at h ⊢
  split
  · next hoffline =>
    rw [if_pos hoffline] at h
    split
    · next platform hdelete =>
      rw [hdelete] at h
      obtain ⟨store, hstore, rfl⟩ := Platform.updated_eq_ok hdelete
      have hedited : site.platform.store.edited (.delete id) = .ok store := hstore
      rw [view_count]
      have hother (hof : s.IsOf id) : False :=
        Store.not_mem_devices_of_delete hstore (Store.isRegistered_iff.1 (h id hof hmesh))
      refine view_of_store rfl (fun other property hs => ?_) fun hs => ?_
      · refine Store.getReported_edited hedited fun hsame => hother ?_
        obtain rfl : id = other := hsame
        by_contra hnot
        exact hs (Subject.spares_of_not_isOf hnot property)
      · exact Store.getDesired_edited hedited fun hsame => hother (hs ▸ hsame)
    · rfl
  · rfl

theorem view_foldl_deleteIfOffline {ids : List DeviceId} (hids : ∀ id ∈ ids, id.isGateway = false)
    (h : s.Registered (ids.foldl deleteIfOffline site)) :
    (ids.foldl deleteIfOffline site).view s = site.view s := by
  induction ids generalizing site with
  | nil => rfl
  | cons first ids ih =>
    obtain ⟨hmesh, hids⟩ := List.forall_mem_cons.1 hids
    have hfirst : s.Registered (site.deleteIfOffline first) :=
      h.of_edits (edits_foldl_deleteIfOffline ids _ fun id hid _ => hids id hid)
    exact (ih hids h).trans (view_deleteIfOffline hmesh hfirst)

end Site

/-! ### The steps of the test -/

namespace Discovery

variable (d : Discovery)

theorem view_markDevices (hs : ∀ id, s.Spares id .presence) :
    d.markDevices.site.view s = d.site.view s :=
  Site.view_foldl (fun site id _ => Site.view_markDevice _ site id (hs id)) _

/-- Only what is deleted may matter. -/
theorem view_deleteOffline (h : s.Registered d.deleteOffline.site) :
    d.deleteOffline.site.view s = d.site.view s :=
  Site.view_foldl_deleteIfOffline (fun _ hid => (Site.mem_meshDevices.1 hid).2) h

@[simp]
theorem view_endTestMode : d.endTestMode.site.view s = d.site.view s :=
  Site.view_reportGroup (by simp [Property.isSubject])

theorem view_completeFlushAll (hs : s ≠ .deletion) :
    d.completeFlushAll.site.view s = d.site.view s := by
  unfold completeFlushAll
  dsimp only
  split
  · exact Site.view_report_of_spares (Subject.spares_deleteAllCommand hs) _
  · rfl

theorem view_countFlushAll (hs : s = .deletion → d.scan.flushingAll ≠ 1) :
    d.countFlushAll.site.view s = d.site.view s := by
  unfold countFlushAll
  split
  · rfl
  · next hlast => exact view_completeFlushAll d fun h => hs h hlast
  · rfl

/-- Only what is deleted in the end may matter. -/
theorem view_finishSession (hs : s = .deletion → d.scan.flushingAll ≠ 1)
    (h : d.deletesAtEnd → s.Registered d.finishSession.site) :
    d.finishSession.site.view s = d.site.view s := by
  have hscan : (if d.deletesAtEnd then d.deleteOffline else d).scan = d.scan := by
    split <;> rfl
  have hcounted : d.closing.site.view s =
      (if d.deletesAtEnd then d.deleteOffline else d).site.view s :=
    (Site.view_count _ _).trans (view_countFlushAll _ (hscan.symm ▸ hs))
  rw [finishSession_eq, view_endTestMode, view_restartMissing]
  show d.closing.site.view s = d.site.view s
  rw [hcounted]
  split
  · -- what is registered in the end was so after the deletion
    next hdeletes =>
    have hclosing : s.Registered d.closing.site := by
      have hended := h hdeletes
      rw [finishSession_eq] at hended
      exact (hended.of_edits (edits_endTestMode _)).of_edits
        (edits_restartMissing { d.closing with scan := d.finished } _ _)
    have hcount : d.deleteOffline.site.Edits sweeping d.deleteOffline.countFlushAll.site :=
      edits_countFlushAll _
    refine view_deleteOffline d (hclosing.of_edits ?_)
    unfold closing
    rw [if_pos hdeletes]
    exact hcount.trans (Site.edits_of_platform rfl)
  · rfl

@[simp]
theorem view_pushMap : d.pushMap.site.view s = d.site.view s := by
  rw [pushMap_eq, view_restartMissing]
  exact view_transmit d rfl

theorem view_updateMap (hs : s ≠ .deletion)
    (h : d.deletesAtEnd → s.Registered d.updateMap.site) :
    d.updateMap.site.view s = d.site.view s := by
  by_cases hover : d.isOver
  · rw [updateMap_of_over d hover] at h ⊢
    exact (view_finishSession _ (absurd · hs) h).trans (view_cancelMissing d)
  by_cases hn : d.scan.updateCount = 0
  · by_cases hsome : d.someMissing
    · rw [updateMap_of_some d hover hn hsome]
      exact (view_pushMap _).trans (view_cancelMissing d)
    · rw [updateMap_of_none d hover hn hsome] at h ⊢
      have hfinish (h : d.deletesAtEnd →
          s.Registered d.cancelMissing.unreduced.finishSession.site) :
          d.cancelMissing.unreduced.finishSession.site.view s = d.site.view s :=
        (view_finishSession d.cancelMissing.unreduced (absurd · hs) h).trans (view_cancelMissing d)
      split
      · next hleft =>
        rw [if_pos hleft] at h
        exact (view_completeFlushAll _ hs).trans
          (hfinish fun hdeletes => (h hdeletes).of_edits (edits_completeFlushAll _))
      · next hleft =>
        rw [if_neg hleft] at h
        exact hfinish h
  · rw [updateMap_of_sent d hover hn]
    exact (view_pushMap _).trans (view_cancelMissing d)

/-- An attempt to send the map reports nothing. -/
theorem view_updateMap_of_goesOn (h : d.updateMapEnds = []) :
    d.updateMap.site.view s = d.site.view s := by
  by_cases hover : d.isOver
  · simp [updateMapEnds_of_over d hover] at h
  by_cases hn : d.scan.updateCount = 0
  · by_cases hsome : d.someMissing
    · rw [updateMap_of_some d hover hn hsome]
      exact (view_pushMap _).trans (view_cancelMissing d)
    · simp [updateMapEnds_of_none d hover hn hsome] at h
  · rw [updateMap_of_sent d hover hn]
    exact (view_pushMap _).trans (view_cancelMissing d)

/-- A session that is given up deletes nothing. -/
theorem view_runOut (hs : s = .deletion → d.scan.flushingAll ≠ 1) :
    d.runOut.site.view s = d.site.view s := by
  rw [runOut_eq]
  refine (view_finishSession d.ranOut hs fun hdeletes => ?_).trans (view_cancelMissing _)
  simp [deletesAtEnd_ranOut] at hdeletes

theorem view_cancelSession (hs : s = .deletion → d.scan.flushingAll ≠ 1) :
    d.cancelSession.site.view s = d.site.view s := by
  by_cases hactive : d.scan.active
  · rw [cancelSession_of_active d hactive]
    exact view_runOut d hs
  · rw [cancelSession_of_idle d hactive]

theorem view_probe (hs : s = .deletion → d.scan.flushingAll ≠ 1) :
    d.probe.site.view s = d.site.view s := by
  by_cases hdue : d.isOverdue
  · rw [probe_of_overdue d hdue]
    exact view_runOut d hs
  rw [probe_of_due d hdue]
  split
  · exact (view_restartMissing _ _ _).trans (view_transmit d rfl)
  · exact (view_restartMissing _ _ _).trans (view_transmit d rfl)

theorem view_receiveMissing (map : SidMap) (hs : s.Apart)
    (h : s.Registered (d.receiveMissing map).site) :
    (d.receiveMissing map).site.view s = d.site.view s := by
  rcases Nat.eq_zero_or_pos d.scan.outstanding with ho | ho
  · by_cases hconfirmed : d.isConfirmedBy map
    · rw [receiveMissing_of_confirmed d ho hconfirmed] at h ⊢
      exact view_updateMap { d with scan := _ } hs.ne_deletion fun _ => h
    · rw [receiveMissing_of_ignored d ho hconfirmed]
  by_cases hdue : d.isOverdue
  · rw [receiveMissing_of_overdue d ho hdue]
    exact view_runOut d (absurd · hs.ne_deletion)
  have hcount : (d.countReport map).site.view s = d.site.view s := view_cancelMissing d
  rw [receiveMissing_of_counted d map ho hdue] at h ⊢
  split
  · next hdecided =>
    rw [if_pos hdecided] at h
    exact (view_updateMap _ hs.ne_deletion fun _ => h).trans
      ((view_markDevices _ fun _ => hs.spares_presence).trans hcount)
  unfold probeWhenDue
  split
  · exact (view_probe _ (absurd · hs.ne_deletion)).trans hcount
  · exact (view_restartMissing _ _ _).trans hcount

/-- In the second phase a report of missing slots is ignored, unless it ends the session. -/
theorem receiveMissing_of_goesOn {map : SidMap} (ho : d.scan.outstanding = 0)
    (h : d.reportEnds map = []) : d.receiveMissing map = d := by
  by_cases hconfirmed : d.isConfirmedBy map
  · have hover : d.confirmed.isOver := by simp [isOver, mapUpdated, confirmed]
    unfold reportEnds at h
    rw [if_neg (by omega), if_pos hconfirmed, updateMapEnds_of_over _ hover] at h
    cases h
  · exact receiveMissing_of_ignored d ho hconfirmed

/-- In a network nothing is reported when a session begins. -/
theorem view_beginSession (hs : s = .deletion → d.inNetwork) :
    d.beginSession.site.view s = d.site.view s := by
  have hlater (d : Discovery) : d.postpone.site.view s = d.site.view s := view_restartMissing _ _ _
  have hstarted (d : Discovery) : d.sessionStarted.site.view s = d.site.view s :=
    view_restartMissing { d with scan := _ } _ _
  have hsent : (d.cleared.transmit (.updateSidMap d.current)).site.view s = d.site.view s :=
    view_transmit d.cleared rfl
  by_cases hactive : d.scan.active
  · rw [beginSession_of_active d hactive]
  by_cases hn : d.inNetwork
  · by_cases hl : d.learning
    · rw [beginSession_of_learning d hactive hn hl]
      exact hlater d.cleared
    · rw [beginSession_of_joined d hactive hn hl]
      split
      · exact (hstarted _).trans hsent
      · exact (hlater _).trans hsent
  · rw [beginSession_of_apart d hactive hn, hlater]
    split
    · exact view_completeFlushAll d.cleared fun h => hn (hs h)
    · rfl

@[simp]
theorem view_startTest : d.startTest.site.view s = d.site.view s := by
  let cleared := d.suspendInterrogation.clearTestResult
  have hcleared : cleared.site.view s = d.site.view s :=
    (Site.view_forget rfl).trans (view_suspendInterrogation d)
  show (if cleared.inNetwork then cleared.cancelMissing.beginSession
    else cleared.endTestMode).site.view s = d.site.view s
  split
  · next hn =>
    have hbegin : cleared.cancelMissing.beginSession.site.view s =
        cleared.cancelMissing.site.view s := view_beginSession _ fun _ => hn
    rw [hbegin, view_cancelMissing, hcleared]
  · rw [view_endTestMode, hcleared]

/-- To ask for a test while a session is running only says what becomes of missing devices. -/
theorem setTestMode_of_active (h : d.scan.active) (delete : Bool) :
    d.setTestMode true delete = { d with scan := { d.scan with delete := delete } } :=
  if_pos h.symm

theorem setTestMode_of_waiting (hidle : d.scan.active = false) (delete : Bool) :
    d.setTestMode true delete =
      ({ d with scan := { d.scan with delete := delete } } : Discovery).startTest := by
  unfold setTestMode
  exact (if_neg (by simp [hidle])).trans (if_pos rfl)

@[simp]
theorem view_requestTest (delete : Bool) :
    (d.setTestMode true delete).site.view s = d.site.view s := by
  unfold setTestMode
  dsimp only
  split
  · rfl
  · exact view_startTest { d with scan := _ }

theorem view_stopTest (hs : s = .deletion → d.scan.flushingAll ≠ 1) :
    (d.setTestMode false false).site.view s = d.site.view s := by
  unfold setTestMode
  dsimp only
  split
  · rfl
  · exact view_cancelSession { d with scan := _ } hs

theorem view_flush (id : DeviceId) (h : s.Apart ∧ s.Registered (d.flush id).site ∨
    d.scan.active ∧ d.flushEnds id = []) : (d.flush id).site.view s = d.site.view s := by
  unfold flush at h ⊢
  unfold flushEnds at h
  split
  · rfl
  · next sid hsid =>
    simp only [hsid] at h
    rcases h with ⟨hs, hregistered⟩ | ⟨hactive, hends⟩
    · exact (view_updateMap _ hs.ne_deletion fun _ => hregistered).trans
        ((Site.view_report_of_spares hs.spares_presence _).trans
          (view_cancelSession d (absurd · hs.ne_deletion)))
    · simp [cancelEnds, hactive] at hends

theorem view_beginFlushAll (hspares : ∀ id, s.Spares id .presence)
    (hs : s = .deletion → d.scan.flushingAll ≠ 1) :
    d.beginFlushAll.site.view s = d.site.view s :=
  (Site.view_foldl (fun _ id _ => Site.view_report_of_spares (hspares id) _) _).trans
    (view_cancelSession d hs)

theorem view_flushAll (h : s.Apart ∧ s.Registered d.flushAll.site ∨
    d.scan.active ∧ d.flushAllEnds = []) : d.flushAll.site.view s = d.site.view s := by
  unfold flushAll at h ⊢
  unfold flushAllEnds at h
  split
  · rfl
  · next hfirst =>
    rw [if_neg hfirst, if_neg hfirst] at h
    rcases h with ⟨hs, hregistered⟩ | ⟨hactive, hends⟩
    · exact (view_updateMap _ hs.ne_deletion fun _ => hregistered).trans
        (view_beginFlushAll d (fun _ => hs.spares_presence) (absurd · hs.ne_deletion))
    · simp [cancelEnds, hactive] at hends

theorem view_fireTest (kind : TimerKind) (h : s.Apart ∧ s.Registered (d.fireTest kind).site ∨
    kind = .testMissingUpdateMap ∧ d.fireEnds kind = []) :
    (d.fireTest kind).site.view s = d.site.view s := by
  rcases h with ⟨hs, hregistered⟩ | ⟨rfl, hends⟩
  · cases kind with
    | testMissingInit => exact view_beginSession { d with scan := _ } (absurd · hs.ne_deletion)
    | testMissingUpdateMap => exact view_updateMap d hs.ne_deletion fun _ => hregistered
    | _ => exact view_probe d (absurd · hs.ne_deletion)
  · exact view_updateMap_of_goesOn d hends

end Discovery

/-! ### Moves -/

/-- The report may change the subject. -/
def Engine.TouchedBy (s : Subject) (engine : Engine) : Report → Prop
  | .sidMap _ => s = .questions ∧ engine.network.scan.active = false
  | .sidMapUpdate map => ∃ id ∈ engine.site.meshDevices, s.IsOf id ∧ engine.site.isLeftOut map id
  | .deviceTested identity => ¬ s.Spares identity.id .presence
  | .remoteId identity => ¬ s.Spares identity.id .presence ∨
      s = .questions ∧ engine.network.interrogation.active
  | _ => False

/-- The move may change the subject, whatever the test does. -/
def Engine.Touches (s : Subject) (engine : Engine) : Move → Prop
  | .receive frame => ∃ report, engine.accepted? frame = some report ∧ engine.TouchedBy s report
  | .expire => engine.popDue.1 = some .interrogate ∧
      s = .questions ∧ engine.network.interrogation.active
  | .desire id property _ => s = .wish ∧ id = .gateway ∧ property = .deleteAllCommand
  | _ => False

namespace Engine

variable (engine : Engine)

theorem view_report {property : Property} (h : property.isSubject = false) (value : Value) :
    (engine.report property value).site.view s = engine.site.view s :=
  Site.view_report h value

theorem view_transmit {command : Radio.Command} (h : slotAsked? command = none) :
    (engine.transmit command).site.view s = engine.site.view s :=
  Site.view_transmit engine.site h

/-! ### Frames -/

theorem view_noted (frame : List UInt8) (report : Report) :
    (engine.noted frame report).site.view s = engine.site.view s := by
  have hcount : (engine.counted frame).site.view s = engine.site.view s := Site.view_count _ _
  unfold noted checkRepetition checkSequence
  split
  · dsimp only
    split
    · exact (Site.view_report rfl _).trans hcount
    · exact hcount
  · exact hcount

theorem view_receive_ignored {frame : List UInt8} (h : engine.accepted? frame = none) :
    (engine.receive frame).site.view s = engine.site.view s := by
  obtain ⟨reason, hreceive⟩ | ⟨report, -, hreceive⟩ := receive_ignored_cases engine h
  · rw [hreceive]
    exact Site.view_count _ _
  · rw [hreceive]
    exact (Site.view_count _ _).trans (view_noted engine frame report)

/-- A report beside the test leaves what it does not touch. -/
theorem view_dispatch {report : Report} (frame : List UInt8)
    (hother : ∀ map, report ≠ .missingNodes map) (h : ¬ engine.TouchedBy s report) :
    (engine.dispatch report frame).site.view s = engine.site.view s := by
  unfold dispatch
  cases report with
  | ack | nack | remoteIdNotice => rfl
  | statusRequest => exact view_transmit engine rfl
  | sidMap map =>
    refine engine.discovery.view_receiveSidMap map fun hs => ?_
    by_contra hidle
    exact h ⟨hs, eq_false_of_ne_true hidle⟩
  | missingNodes map => exact absurd rfl (hother map)
  | sidMapUpdate map =>
    refine engine.discovery.view_receiveSidMapUpdate map fun id hid hof => ?_
    by_contra hout
    exact h ⟨id, hid, hof, eq_true_of_ne_false hout⟩
  | remoteStatus status => exact Correlator.view_receiveRemoteStatus ⟨engine.incidents, _⟩ status
  | rumourTarget => exact engine.discovery.view_receiveRumourTarget
  | deviceTested identity =>
    exact engine.discovery.view_receiveIdentity identity .unknown true (not_not.1 h)
  | remoteId identity =>
    obtain ⟨hspares, hquiet⟩ := not_or.1 h
    refine engine.discovery.view_receiveRemoteId identity (not_not.1 hspares) fun hs => ?_
    exact eq_false_of_ne_true fun hactive => hquiet ⟨hs, hactive⟩
  | fault report => exact Correlator.view_receiveFault ⟨engine.incidents, _⟩ report frame
  | alarm report => exact Correlator.view_receiveAlarm ⟨engine.incidents, _⟩ report frame
  | slotValue report =>
    exact Correlator.view_receiveSlotValue ⟨engine.incidents, _⟩ report.id report.value
  | faultDetails report =>
    exact Correlator.view_receiveFaultDetails ⟨engine.incidents, _⟩ report.id report.faults
  | alarmStop report => exact Site.view_writeAlarm _ report.id _ none
  | hush => exact Correlator.view_receiveHush ⟨engine.incidents, _⟩
  | locate report => exact Site.view_silence _ report.id
  | radioDiagnostic status => exact engine.discovery.view_receiveDiagnostic status
  | detectorFault report =>
    exact Correlator.view_receiveDetectorFault ⟨engine.incidents, _⟩ report.id

/-- Taking note of a frame does not tell what its report touches. -/
theorem touchedBy_noted {frame : List UInt8} {report : Report}
    (h : (engine.noted frame report).TouchedBy s report) : engine.TouchedBy s report := by
  cases report <;> exact h

theorem view_receive {frame : List UInt8} (h : ¬ engine.Touches s (.receive frame))
    (hother : ∀ map, Report.decode frame ≠ .ok (.missingNodes map)) :
    (engine.receive frame).site.view s = engine.site.view s := by
  cases haccepted : engine.accepted? frame with
  | none => exact view_receive_ignored engine haccepted
  | some report =>
    rw [receive_of_accepted engine haccepted]
    refine (view_dispatch _ frame (fun map hmap => ?_) fun htouched => ?_).trans
      (view_noted engine frame report)
    · exact hother map (hmap ▸ decode_of_accepted engine haccepted)
    · exact h ⟨report, haccepted, touchedBy_noted engine htouched⟩

/-! ### Timers -/

/-- A timer that is none of the test leaves what it does not touch. -/
theorem view_fire {kind : TimerKind} (hplace : kind.place ≠ .missing)
    (h : ¬ (kind = .interrogate ∧ s = .questions ∧ engine.network.interrogation.active)) :
    (engine.fire kind).site.view s = engine.site.view s := by
  cases kind with
  | retrieveSidMap => exact Discovery.view_refresh { engine.discovery with refreshTimer := none }
  | learnModeTimeout =>
    exact Discovery.view_setLearnMode { engine.discovery with learnTimer := none } false 0
  | interrogate =>
    refine Discovery.view_continueInterrogation
      { engine.discovery with interrogateTimer := none } fun hs => ?_
    exact eq_false_of_ne_true fun hactive => h ⟨rfl, hs, hactive⟩
  | faultTimeout | alarmTimeout => exact Correlator.view_onTimeout ⟨engine.incidents, _⟩ _
  | _ => simp [TimerKind.place] at hplace

theorem view_expire (htouches : ¬ engine.Touches s .expire)
    (h : ∀ kind, engine.popDue.1 = some kind → kind.place ≠ .missing) :
    engine.expire.site.view s = engine.site.view s := by
  cases hpop : engine.site.timers.popExpired engine.site.clock.now with
  | mk popped rest =>
    have hdue := popDue_eq engine hpop
    cases popped with
    | none => rw [expire_of_none hdue]
    | some timer =>
      have hpopped : (engine.popped rest).site.view s = engine.site.view s := Site.view_of rfl rfl
      have hkind : engine.popDue.1 = some timer.kind := by rw [hdue]; rfl
      rw [expire_of_some hdue, ← hpopped]
      exact view_fire (engine.popped rest) (h _ hkind) fun ⟨hasks, hs⟩ =>
        htouches ⟨hasks ▸ hkind, hs⟩

/-! ### Operations and wishes -/

theorem view_issueTest : engine.issueTest.site.view s = engine.site.view s := by
  unfold issueTest
  split
  · rfl
  split
  · exact view_transmit engine rfl
  · rfl

theorem view_identify (id : DeviceId) :
    (engine.identify id).site.view s = engine.site.view s := by
  unfold identify
  split
  · exact view_transmit engine rfl
  · rfl

theorem view_setLearnMode (enabled : Bool) (seconds : Nat) :
    (engine.onNetwork fun d => d.setLearnMode enabled seconds).site.view s =
      engine.site.view s :=
  engine.discovery.view_setLearnMode enabled seconds

theorem view_wishTest (wish : Value) : (engine.wishTest wish).site.view s = engine.site.view s := by
  unfold wishTest
  split
  · rfl
  · next delete _ =>
    have hstart (engine : Engine) :
        (engine.onNetwork fun d => d.setTestMode true delete).site.view s = engine.site.view s :=
      engine.discovery.view_requestTest delete
    dsimp only
    rw [view_report _ rfl, view_report _ rfl, hstart]
    exact view_report engine rfl _

/-- To stop the test ends the session that is running. -/
theorem testModeEnds_of_active (hactive : engine.network.scan.active) :
    engine.discovery.testModeEnds false false ≠ [] := by
  unfold Discovery.testModeEnds Discovery.cancelEnds
  simp [discovery, hactive]

end Engine

end AlarmMesh.Gateway
