import AlarmMesh.Proofs.Gateway.Aside

/-!
# Steps of the missing-node test

What the functions of the missing-node test do to the test itself, to the maps sent and to the
sessions that ended.

* `TestStep d d'` — a step of the test changes its record, its timer and the site, and keeps the
  timers tied;
* `Awaits d kind` — the test goes on with a timer of this kind;
* `finishSession_…`, `pushMap_…` — the end of a session, and one attempt to send the reduced map;
* `updateMap_of_over`, `updateMap_of_none`, `updateMap_of_some`, `updateMap_of_sent` — the cases of
  the second phase.
-/

namespace AlarmMesh.Gateway

open Radio (Command DeviceId SidMap)
open Shadow (Property Value)

namespace Discovery

/-- A step of the missing-node test. -/
structure TestStep (d d' : Discovery) : Prop where
  network : d'.toNetwork = { d.toNetwork with scan := d'.scan, missingTimer := d'.missingTimer }
  clock : d'.site.clock = d.site.clock
  completed : d.site.completed ≤ d'.site.completed
  tied : ∀ incidents, (d.among incidents).Tied → (d'.among incidents).Tied

/-- The test goes on when a timer of this kind fires. -/
structure Awaits (d : Discovery) (kind : TimerKind) : Prop where
  isSome : d.missingTimer.isSome
  kind_eq : ∀ timer ∈ d.site.timers.live, timer.kind.place = .missing → timer.kind = kind

variable {a b c : Discovery} {kind : TimerKind}

theorem TestStep.refl (d : Discovery) : TestStep d d :=
  ⟨rfl, rfl, Nat.le_refl _, fun _ h => h⟩

theorem TestStep.trans (h : TestStep a b) (h' : TestStep b c) : TestStep a c where
  network := by rw [h'.network, h.network]
  clock := h'.clock.trans h.clock
  completed := Nat.le_trans h.completed h'.completed
  tied incidents ht := h'.tied incidents (h.tied incidents ht)

theorem TestStep.settings_eq (h : TestStep a b) : b.settings = a.settings :=
  congrArg (fun network => network.settings) h.network

variable (d : Discovery)

/-! ### What the steps are made of -/

/-- The record of the test changes, and something silent happens at the site. -/
theorem testStep_silent {scan : Scan} {site : Site} (h : d.site.Silent site) :
    TestStep d { d with scan := scan, site := site } where
  network := rfl
  clock := h.clock
  completed := Nat.le_of_eq h.completed.symm
  tied incidents ht := by
    show site.timers.Tied (held d.toNetwork incidents)
    rw [h.timers]
    exact ht

theorem testStep_scan (scan : Scan) : TestStep d { d with scan := scan } :=
  testStep_silent d (.refl d.site)

theorem testStep_onSite {f : Site → Site} (h : d.site.Silent (f d.site)) :
    TestStep d (d.onSite f) :=
  testStep_silent d h

theorem testStep_report (property : Property) (value : Value) :
    TestStep d (d.report property value) :=
  testStep_onSite d (Site.silent_report _ _ _ _)

theorem testStep_send (command : Command) : TestStep d (d.send command).2 where
  network := rfl
  clock := Site.send_clock d.site command
  completed := Nat.le_of_eq (Site.send_completed d.site command).symm
  tied incidents ht := by
    show (d.site.send command).2.timers.Tied (held d.toNetwork incidents)
    rw [Site.send_timers]
    exact ht

theorem testStep_countCompleted :
    TestStep d (d.onSite fun site => site.count .scanCompleted) where
  network := rfl
  clock := rfl
  completed := (Site.completed_count d.site).symm ▸ Nat.le_succ _
  tied _ ht := ht

theorem testStep_restartMissing (h : kind.place = .missing) (delay : Duration) :
    TestStep d (d.restartMissing kind delay) where
  network := rfl
  clock := Site.cancel_clock _ _
  completed := Nat.le_of_eq (Site.cancel_completed _ _).symm
  tied incidents ht := by
    have hrestart := Site.tied_restart ht kind delay
    simp only [h] at hrestart
    rw [← held_missing] at hrestart
    exact hrestart

theorem testStep_cancelMissing : TestStep d d.cancelMissing where
  network := rfl
  clock := Site.cancel_clock _ _
  completed := Nat.le_of_eq (Site.cancel_completed _ _).symm
  tied incidents ht := by
    have hcancel := Site.tied_cancel ht .missing
    rw [← held_missing] at hcancel
    exact hcancel

/-- After a restart the test goes on with the timer that was started. -/
theorem awaits_restartMissing (h : kind.place = .missing) (delay : Duration) {incidents : Incidents}
    (ht : (d.among incidents).Tied) : (d.restartMissing kind delay).Awaits kind where
  isSome := rfl
  kind_eq timer htimer hplace := by
    have htied : (d.restartMissing kind delay).site.timers.Tied _ :=
      (testStep_restartMissing d h delay).tied incidents ht
    obtain ⟨new, hnew, hkind, hhandle⟩ := d.site.exists_restart d.missingTimer kind delay
    have hsame : timer.handle = new.handle :=
      (htied.handle_eq htimer hplace rfl).trans hhandle.symm
    rw [htied.eq_of_handle htimer hnew hsame, hkind]

/-- Something silent leaves the timer of the test alone. -/
theorem Awaits.silent (h : a.Awaits kind) (hsite : a.site.Silent b.site)
    (hhandle : b.missingTimer = a.missingTimer) : b.Awaits kind where
  isSome := hhandle ▸ h.isSome
  kind_eq timer htimer := h.kind_eq timer (hsite.timers ▸ htimer)

@[simp]
theorem restartMissing_maps (kind : TimerKind) (delay : Duration) :
    (d.restartMissing kind delay).site.maps = d.site.maps :=
  Site.cancel_maps _ _

@[simp]
theorem restartMissing_completed (kind : TimerKind) (delay : Duration) :
    (d.restartMissing kind delay).site.completed = d.site.completed :=
  Site.cancel_completed _ _

@[simp]
theorem restartMissing_platform (kind : TimerKind) (delay : Duration) :
    (d.restartMissing kind delay).site.platform = d.site.platform :=
  Site.cancel_platform _ _

@[simp]
theorem cancelMissing_maps : d.cancelMissing.site.maps = d.site.maps := Site.cancel_maps _ _

@[simp]
theorem cancelMissing_completed : d.cancelMissing.site.completed = d.site.completed :=
  Site.cancel_completed _ _

@[simp]
theorem cancelMissing_platform : d.cancelMissing.site.platform = d.site.platform :=
  Site.cancel_platform _ _

@[simp]
theorem cancelMissing_hasBuffer : d.cancelMissing.site.hasBuffer = d.site.hasBuffer :=
  Site.cancel_hasBuffer _ _

/-! ### The end of a session -/

theorem silent_deleteOffline : d.site.Silent d.deleteOffline.site :=
  .foldl Site.silent_deleteIfOffline _ _

theorem silent_endTestMode : d.site.Silent d.endTestMode.site := Site.silent_reportGroup _ _ _

theorem completeFlushAll_toNetwork : d.completeFlushAll.toNetwork =
    { d.toNetwork with scan := { d.scan with flushingAll := 0 } } := by
  unfold completeFlushAll
  dsimp only
  split <;> rfl

theorem silent_completeFlushAll : d.site.Silent d.completeFlushAll.site := by
  unfold completeFlushAll
  dsimp only
  split
  · exact Site.silent_report _ _ _ _
  · exact .refl _

theorem testStep_completeFlushAll : TestStep d d.completeFlushAll := by
  unfold completeFlushAll
  dsimp only
  split
  · exact (testStep_scan d _).trans (testStep_report _ _ _)
  · exact testStep_scan d _

theorem countFlushAll_toNetwork : d.countFlushAll.toNetwork =
    { d.toNetwork with scan := { d.scan with flushingAll := d.scan.flushingAll - 1 } } := by
  unfold countFlushAll
  split
  · next h =>
    cases hscan : d.scan
    cases hnetwork : d.toNetwork
    simp_all
  · next h => rw [completeFlushAll_toNetwork, h]
  · next h => simp [h]

theorem silent_countFlushAll : d.site.Silent d.countFlushAll.site := by
  unfold countFlushAll
  split
  · exact .refl _
  · exact silent_completeFlushAll d
  · exact .refl _

theorem testStep_countFlushAll : TestStep d d.countFlushAll := by
  unfold countFlushAll
  split
  · exact .refl d
  · exact testStep_completeFlushAll d
  · exact testStep_scan d _

/-- Delete what is offline, if the session does so, and count its end. -/
def closing : Discovery :=
  (if d.deletesAtEnd then d.deleteOffline else d).countFlushAll.onSite fun site =>
    site.count .scanCompleted

/-- The record of a session after its end. -/
def finished : Scan :=
  { d.scan with
    updateCount := 0, active := false, delete := false, rerun := false
    flushingAll := d.scan.flushingAll - 1 }

theorem silent_deleted :
    d.site.Silent (if d.deletesAtEnd then d.deleteOffline else d).site := by
  split
  · exact silent_deleteOffline d
  · exact .refl _

theorem closing_toNetwork : d.closing.toNetwork =
    { d.toNetwork with scan := { d.scan with flushingAll := d.scan.flushingAll - 1 } } := by
  show (if d.deletesAtEnd then d.deleteOffline else d).countFlushAll.toNetwork = _
  rw [countFlushAll_toNetwork]
  split <;> rfl

theorem finishSession_eq : d.finishSession =
    ({ d.closing with scan := d.finished }.restartMissing .testMissingInit
      (if d.scan.rerun then rerunDelay else d.settings.missingTestPeriod)).endTestMode := by
  have hclosing := closing_toNetwork d
  have hscan : d.closing.scan = _ := congrArg Network.scan hclosing
  have hsettings : d.closing.settings = _ := congrArg Network.settings hclosing
  show ({ d.closing with scan := { d.closing.scan with
    updateCount := 0, active := false, delete := false, rerun := false } }.restartMissing
      .testMissingInit (if d.closing.scan.rerun then rerunDelay
        else d.closing.settings.missingTestPeriod)).endTestMode = _
  rw [hscan, hsettings]
  rfl

theorem testStep_closing : TestStep d d.closing := by
  have hdeleted : TestStep d (if d.deletesAtEnd then d.deleteOffline else d) := by
    split
    · exact testStep_onSite d (silent_deleteOffline d)
    · exact .refl d
  exact hdeleted.trans ((testStep_countFlushAll _).trans (testStep_countCompleted _))

theorem testStep_finishSession : TestStep d d.finishSession := by
  rw [finishSession_eq]
  exact (testStep_closing d).trans ((testStep_scan _ _).trans
    ((testStep_restartMissing _ rfl _).trans (testStep_onSite _ (silent_endTestMode _))))

theorem closing_maps : d.closing.site.maps = d.site.maps :=
  ((silent_deleted d).trans (silent_countFlushAll _)).maps

theorem closing_completed : d.closing.site.completed = d.site.completed + 1 := by
  rw [← ((silent_deleted d).trans (silent_countFlushAll _)).completed]
  exact Site.completed_count _

@[simp]
theorem finishSession_maps : d.finishSession.site.maps = d.site.maps := by
  rw [finishSession_eq, (silent_endTestMode _).maps, restartMissing_maps]
  exact closing_maps d

@[simp]
theorem finishSession_completed : d.finishSession.site.completed = d.site.completed + 1 := by
  rw [finishSession_eq, (silent_endTestMode _).completed, restartMissing_completed]
  exact closing_completed d

@[simp]
theorem finishSession_scan : d.finishSession.scan = d.finished := by
  rw [finishSession_eq]
  rfl

theorem deleteOffline_hasBuffer : d.deleteOffline.site.hasBuffer = d.site.hasBuffer := by
  refine Site.foldl_hasBuffer (fun site id => ?_) _ _
  unfold Site.deleteIfOffline
  split
  · split <;> rfl
  · rfl

theorem countFlushAll_hasBuffer : d.countFlushAll.site.hasBuffer = d.site.hasBuffer := by
  unfold countFlushAll
  split
  · rfl
  · unfold completeFlushAll
    dsimp only
    split
    · exact Site.after_hasBuffer _ _
    · rfl
  · rfl

/-- The end of a session takes no buffer. -/
theorem finishSession_hasBuffer : d.finishSession.site.hasBuffer = d.site.hasBuffer := by
  have hclosing : d.closing.site.hasBuffer = d.site.hasBuffer := by
    refine (countFlushAll_hasBuffer _).trans ?_
    split
    · exact deleteOffline_hasBuffer d
    · rfl
  rw [finishSession_eq]
  exact (Site.cancel_hasBuffer _ _).trans hclosing

theorem awaits_finishSession {incidents : Incidents} (ht : (d.among incidents).Tied) :
    d.finishSession.Awaits .testMissingInit := by
  have hended := (testStep_closing d).trans (testStep_scan _ d.finished)
  rw [finishSession_eq]
  exact (awaits_restartMissing _ rfl _ (hended.tied incidents ht)).silent (silent_endTestMode _) rfl

/-! ### Sending a map -/

theorem send_eq (command : Command) : d.send command = (d.site.hasBuffer, d.transmit command) :=
  Prod.ext (Site.send_fst d.site command) rfl

theorem testStep_transmit (command : Command) : TestStep d (d.transmit command) :=
  testStep_send d command

@[simp]
theorem transmit_maps (map : SidMap) : (d.transmit (.updateSidMap map)).site.maps =
    if d.site.hasBuffer then map :: d.site.maps else d.site.maps := by
  refine (Site.maps_send d.site (.updateSidMap map)).trans ?_
  split <;> rfl

@[simp]
theorem transmit_completed (command : Command) :
    (d.transmit command).site.completed = d.site.completed :=
  Site.send_completed d.site command

@[simp]
theorem transmit_platform (command : Command) :
    (d.transmit command).site.platform = d.site.platform :=
  Site.send_platform d.site command

/-- The count of maps sent after one attempt more. -/
def pushed : Nat := if d.site.hasBuffer then d.scan.updateCount + 1 else d.scan.updateCount

theorem pushMap_eq : d.pushMap =
    { d.transmit (.updateSidMap d.scan.removal) with
      scan := { d.scan with updateCount := d.pushed } }.restartMissing .testMissingUpdateMap
        d.settings.updateDeletePeriod := by
  unfold pushMap pushed
  rw [send_eq]
  cases d.site.hasBuffer <;> rfl

theorem testStep_pushMap : TestStep d d.pushMap := by
  rw [pushMap_eq]
  exact (testStep_transmit d _).trans ((testStep_scan _ _).trans (testStep_restartMissing _ rfl _))

@[simp]
theorem pushMap_scan : d.pushMap.scan = { d.scan with updateCount := d.pushed } := by
  rw [pushMap_eq]
  rfl

@[simp]
theorem pushMap_maps : d.pushMap.site.maps =
    if d.site.hasBuffer then d.scan.removal :: d.site.maps else d.site.maps := by
  rw [pushMap_eq, restartMissing_maps]
  exact transmit_maps d d.scan.removal

@[simp]
theorem pushMap_completed : d.pushMap.site.completed = d.site.completed := by
  rw [pushMap_eq, restartMissing_completed]
  exact transmit_completed d _

@[simp]
theorem pushMap_platform : d.pushMap.site.platform = d.site.platform := by
  rw [pushMap_eq, restartMissing_platform]
  exact transmit_platform d _

theorem awaits_pushMap {incidents : Incidents} (ht : (d.among incidents).Tied) :
    d.pushMap.Awaits .testMissingUpdateMap := by
  have hsent := (testStep_transmit d (.updateSidMap d.scan.removal)).trans
    (testStep_scan _ { d.scan with updateCount := d.pushed })
  rw [pushMap_eq]
  exact awaits_restartMissing _ rfl _ (hsent.tied incidents ht)

/-! ### The second phase -/

/-- The second phase has nothing left to do. -/
def isOver : Bool := d.scan.ranOutOfTime || d.mapUpdated || !d.scan.delete

/-- Probing is over: the mask of missing slots gives way to the map that is left. -/
def reduced : Discovery :=
  { d with scan := { d.scan with outstanding := 0, removal := d.keptMap } }

/-- No slot is missing, and so the map counts as sent. -/
def unreduced : Discovery :=
  { d with scan := { d.scan with
    outstanding := 0, removal := d.keptMap, updateCount := d.settings.updateDeleteCount } }

theorem updateMap_of_over (h : d.isOver) : d.updateMap = d.cancelMissing.finishSession := by
  unfold updateMap
  exact if_pos h

theorem updateMap_of_sent (h : ¬ d.isOver) (hn : d.scan.updateCount ≠ 0) :
    d.updateMap = d.cancelMissing.pushMap := by
  unfold updateMap
  exact (if_neg h).trans (if_neg hn)

theorem updateMap_of_some (h : ¬ d.isOver) (hn : d.scan.updateCount = 0) (hs : d.someMissing) :
    d.updateMap = d.cancelMissing.reduced.pushMap := by
  unfold updateMap
  exact (if_neg h).trans ((if_pos hn).trans (if_pos hs))

theorem updateMap_of_none (h : ¬ d.isOver) (hn : d.scan.updateCount = 0) (hs : ¬ d.someMissing) :
    d.updateMap = if 0 < d.scan.flushingAll - 1 then
      d.cancelMissing.unreduced.finishSession.completeFlushAll
    else d.cancelMissing.unreduced.finishSession := by
  have hleft : d.cancelMissing.unreduced.finishSession.scan.flushingAll =
      d.scan.flushingAll - 1 := by
    rw [finishSession_scan]
    rfl
  unfold updateMap
  refine (if_neg h).trans ((if_pos hn).trans ((if_neg hs).trans ?_))
  rw [← hleft]
  rfl

theorem testStep_unreduced : TestStep d (if 0 < d.scan.flushingAll - 1 then
      d.cancelMissing.unreduced.finishSession.completeFlushAll
    else d.cancelMissing.unreduced.finishSession) := by
  have hfinish : TestStep d d.cancelMissing.unreduced.finishSession :=
    (testStep_cancelMissing d).trans ((testStep_scan _ _).trans (testStep_finishSession _))
  split
  · exact hfinish.trans (testStep_completeFlushAll _)
  · exact hfinish

theorem testStep_updateMap : TestStep d d.updateMap := by
  by_cases hover : d.isOver
  · rw [updateMap_of_over d hover]
    exact (testStep_cancelMissing d).trans (testStep_finishSession _)
  by_cases hn : d.scan.updateCount = 0
  · by_cases hs : d.someMissing
    · rw [updateMap_of_some d hover hn hs]
      exact (testStep_cancelMissing d).trans ((testStep_scan _ _).trans (testStep_pushMap _))
    · rw [updateMap_of_none d hover hn hs]
      exact testStep_unreduced d
  · rw [updateMap_of_sent d hover hn]
    exact (testStep_cancelMissing d).trans (testStep_pushMap _)

/-- The session has ended, without another map sent. -/
structure Ended (d' : Discovery) : Prop where
  maps : d'.site.maps = d.site.maps
  completed : d'.site.completed = d.site.completed + 1
  active : d'.scan.active = false
  awaits : ∀ incidents, (d.among incidents).Tied → d'.Awaits .testMissingInit

theorem ended_cancelMissing : d.Ended d.cancelMissing.finishSession where
  maps := by simp
  completed := by simp
  active := by simp [finished]
  awaits _ ht := awaits_finishSession _ ((testStep_cancelMissing d).tied _ ht)

theorem ended_unreduced : d.Ended (if 0 < d.scan.flushingAll - 1 then
      d.cancelMissing.unreduced.finishSession.completeFlushAll
    else d.cancelMissing.unreduced.finishSession) := by
  have hcleared := (testStep_cancelMissing d).trans (testStep_scan _ d.cancelMissing.unreduced.scan)
  have hfinish : d.Ended d.cancelMissing.unreduced.finishSession :=
    { maps := (finishSession_maps _).trans (cancelMissing_maps d)
      completed := (finishSession_completed _).trans (congrArg (· + 1) (cancelMissing_completed d))
      active := by simp [finished]
      awaits := fun _ ht => awaits_finishSession _ (hcleared.tied _ ht) }
  split
  · have hsilent := silent_completeFlushAll d.cancelMissing.unreduced.finishSession
    have hnetwork := completeFlushAll_toNetwork d.cancelMissing.unreduced.finishSession
    exact
      { maps := hsilent.maps.trans hfinish.maps
        completed := hsilent.completed.trans hfinish.completed
        active := (congrArg (fun network => network.scan.active) hnetwork).trans hfinish.active
        awaits := fun _ ht => (hfinish.awaits _ ht).silent hsilent
          (congrArg (fun network => network.missingTimer) hnetwork :) }
  · exact hfinish

/-- The second phase ends the session when it has nothing left to do, or nothing to do at all. -/
theorem ended_updateMap (h : d.isOver ∨ d.scan.updateCount = 0 ∧ ¬ d.someMissing) :
    d.Ended d.updateMap := by
  by_cases hover : d.isOver
  · rw [updateMap_of_over d hover]
    exact ended_cancelMissing d
  · obtain ⟨hn, hs⟩ := h.resolve_left hover
    rw [updateMap_of_none d hover hn hs]
    exact ended_unreduced d

/-- The test rests until a timer fires, which does not start a session while one is running. -/
def Rests : Prop :=
  ∃ kind, d.Awaits kind ∧ (d.scan.active → kind ≠ .testMissingInit)

variable {incidents : Incidents}

theorem Ended.rests {d d' : Discovery} (h : d.Ended d') (ht : (d.among incidents).Tied) :
    d'.Rests :=
  ⟨_, h.awaits incidents ht, fun hactive => by simp [h.active] at hactive⟩

theorem rests_updateMap (ht : (d.among incidents).Tied) : d.updateMap.Rests := by
  by_cases hended : d.isOver ∨ d.scan.updateCount = 0 ∧ ¬ d.someMissing
  · exact (ended_updateMap d hended).rests ht
  · obtain ⟨hover, hsome⟩ := not_or.1 hended
    have hcancel := testStep_cancelMissing d
    by_cases hn : d.scan.updateCount = 0
    · have hs : d.someMissing := by simpa [hn] using hsome
      rw [updateMap_of_some d hover hn hs]
      exact ⟨_, awaits_pushMap _ ((hcancel.trans (testStep_scan _ _)).tied _ ht), fun _ => by simp⟩
    · rw [updateMap_of_sent d hover hn]
      exact ⟨_, awaits_pushMap _ (hcancel.tied _ ht), fun _ => by simp⟩

/-! ### Giving up -/

theorem testStep_runOut : TestStep d d.runOut := (testStep_scan d _).trans (testStep_updateMap _)

theorem ended_runOut : d.Ended d.runOut := by
  have h := ended_updateMap { d with scan := { d.scan with ranOutOfTime := true } }
    (.inl (by simp [isOver]))
  exact ⟨h.maps, h.completed, h.active, h.awaits⟩

theorem cancelSession_of_active (h : d.scan.active) : d.cancelSession = d.runOut := if_pos h

theorem cancelSession_of_idle (h : ¬ d.scan.active) : d.cancelSession = d := if_neg h

theorem cancelSession_maps : d.cancelSession.site.maps = d.site.maps := by
  by_cases h : d.scan.active
  · rw [cancelSession_of_active d h]
    exact d.ended_runOut.maps
  · rw [cancelSession_of_idle d h]

theorem cancelSession_hasBuffer : d.cancelSession.site.hasBuffer = d.site.hasBuffer := by
  by_cases h : d.scan.active
  · rw [cancelSession_of_active d h, runOut, updateMap_of_over _ (by simp [isOver]),
      finishSession_hasBuffer, cancelMissing_hasBuffer]
  · rw [cancelSession_of_idle d h]

theorem testStep_cancelSession : TestStep d d.cancelSession := by
  by_cases h : d.scan.active
  · rw [cancelSession_of_active d h]
    exact testStep_runOut d
  · rw [cancelSession_of_idle d h]
    exact .refl d

theorem rests_cancelSession (ht : (d.among incidents).Tied) (h : d.Rests) :
    d.cancelSession.Rests := by
  by_cases hactive : d.scan.active
  · rw [cancelSession_of_active d hactive]
    exact (ended_runOut d).rests ht
  · rw [cancelSession_of_idle d hactive]
    exact h

/-! ### Probing -/

/-- A probe was sent. -/
def probed : Discovery :=
  let sent := d.transmit (.updateSidMap d.current)
  { sent with scan := { d.scan with
    lastRequest := some sent.site.clock.now, outstanding := d.scan.outstanding + 1 } }

theorem testStep_probed : TestStep d d.probed :=
  (testStep_transmit d _).trans (testStep_scan _ _)

theorem probe_of_overdue (h : d.isOverdue) : d.probe = d.runOut := if_pos h

theorem probe_of_due (h : ¬ d.isOverdue) : d.probe = if d.site.hasBuffer then
      d.probed.restartMissing .testMissingTimeout d.settings.replyTimeout
    else (d.transmit (.updateSidMap d.current)).restartMissing .testMissingTimeout
      probeRetryDelay := by
  unfold probe
  rw [if_neg h, send_eq]
  cases d.site.hasBuffer <;> rfl

theorem testStep_probe : TestStep d d.probe := by
  by_cases h : d.isOverdue
  · rw [probe_of_overdue d h]
    exact testStep_runOut d
  rw [probe_of_due d h]
  split
  · exact (testStep_probed d).trans (testStep_restartMissing _ rfl _)
  · exact (testStep_transmit d _).trans (testStep_restartMissing _ rfl _)

theorem rests_probe (ht : (d.among incidents).Tied) : d.probe.Rests := by
  by_cases h : d.isOverdue
  · rw [probe_of_overdue d h]
    exact (ended_runOut d).rests ht
  rw [probe_of_due d h]
  split
  · exact ⟨_, awaits_restartMissing _ rfl _ ((testStep_probed d).tied _ ht), fun _ => by simp⟩
  · exact ⟨_, awaits_restartMissing _ rfl _ ((testStep_transmit d _).tied _ ht), fun _ => by simp⟩

theorem testStep_probeWhenDue : TestStep d d.probeWhenDue := by
  unfold probeWhenDue
  split
  · exact testStep_probe d
  · exact testStep_restartMissing d rfl _

theorem rests_probeWhenDue (ht : (d.among incidents).Tied) : d.probeWhenDue.Rests := by
  unfold probeWhenDue
  split
  · exact rests_probe d ht
  · exact ⟨_, awaits_restartMissing d rfl _ ht, fun _ => by simp⟩

/-! ### Reports -/

theorem testStep_countReport (map : SidMap) : TestStep d (d.countReport map) :=
  (testStep_cancelMissing d).trans (testStep_scan _ _)

theorem silent_markDevices : d.site.Silent d.markDevices.site :=
  .foldl (Site.silent_markDevice d.scan.removal) _ _

theorem testStep_markDevices : TestStep d d.markDevices := testStep_onSite d (silent_markDevices d)

/-- What becomes of a report that is counted. -/
theorem receiveMissing_of_counted (map : SidMap) (ho : 0 < d.scan.outstanding)
    (hdue : ¬ d.isOverdue) : d.receiveMissing map = if (d.countReport map).isDecided then
      (d.countReport map).markDevices.updateMap
    else (d.countReport map).probeWhenDue := by
  unfold receiveMissing
  exact (if_pos ho).trans (if_neg hdue)

theorem receiveMissing_of_overdue {map : SidMap} (ho : 0 < d.scan.outstanding)
    (hdue : d.isOverdue) : d.receiveMissing map = d.runOut := by
  unfold receiveMissing
  exact (if_pos ho).trans (if_pos hdue)

/-- A report confirms a map that was sent. -/
def isConfirmedBy (map : SidMap) : Bool := 0 < d.scan.updateCount && map.isEmpty

/-- Without an outstanding probe only the confirmation of a map means something. -/
theorem receiveMissing_of_ignored {map : SidMap} (ho : d.scan.outstanding = 0)
    (h : ¬ d.isConfirmedBy map) : d.receiveMissing map = d := by
  unfold receiveMissing
  exact (if_neg (by omega)).trans (if_neg h)

theorem receiveMissing_of_confirmed {map : SidMap} (ho : d.scan.outstanding = 0)
    (h : d.isConfirmedBy map) : d.receiveMissing map =
      { d with scan := { d.scan with
        updateCount := d.settings.updateDeleteCount } }.updateMap := by
  unfold receiveMissing
  exact (if_neg (by omega)).trans (if_pos h)

theorem ended_receiveMissing_of_confirmed {map : SidMap} (ho : d.scan.outstanding = 0)
    (h : d.isConfirmedBy map) : d.Ended (d.receiveMissing map) := by
  have hended := ended_updateMap { d with scan := { d.scan with
    updateCount := d.settings.updateDeleteCount } } (.inl (by simp [isOver, mapUpdated]))
  rw [receiveMissing_of_confirmed d ho h]
  exact ⟨hended.maps, hended.completed, hended.active, hended.awaits⟩

theorem testStep_receiveMissing (map : SidMap) : TestStep d (d.receiveMissing map) := by
  rcases Nat.eq_zero_or_pos d.scan.outstanding with ho | ho
  · by_cases hconfirmed : d.isConfirmedBy map
    · rw [receiveMissing_of_confirmed d ho hconfirmed]
      exact (testStep_scan d _).trans (testStep_updateMap _)
    · rw [receiveMissing_of_ignored d ho hconfirmed]
      exact .refl d
  by_cases hdue : d.isOverdue
  · rw [receiveMissing_of_overdue d ho hdue]
    exact testStep_runOut d
  rw [receiveMissing_of_counted d map ho hdue]
  split
  · exact (testStep_countReport d map).trans
      ((testStep_markDevices _).trans (testStep_updateMap _))
  · exact (testStep_countReport d map).trans (testStep_probeWhenDue _)

theorem rests_receiveMissing (map : SidMap) (ht : (d.among incidents).Tied) (h : d.Rests) :
    (d.receiveMissing map).Rests := by
  rcases Nat.eq_zero_or_pos d.scan.outstanding with ho | ho
  · by_cases hconfirmed : d.isConfirmedBy map
    · exact (ended_receiveMissing_of_confirmed d ho hconfirmed).rests ht
    · rw [receiveMissing_of_ignored d ho hconfirmed]
      exact h
  by_cases hdue : d.isOverdue
  · rw [receiveMissing_of_overdue d ho hdue]
    exact (ended_runOut d).rests ht
  rw [receiveMissing_of_counted d map ho hdue]
  have hcount := testStep_countReport d map
  split
  · exact rests_updateMap _ ((hcount.trans (testStep_markDevices _)).tied _ ht)
  · exact rests_probeWhenDue _ (hcount.tied _ ht)

/-! ### The beginning of a session -/

/-- Nothing is known of a session that has not begun. -/
def cleared : Discovery :=
  { d with scan := { delete := d.scan.delete, flushingAll := d.scan.flushingAll } }

theorem beginSession_of_active (h : d.scan.active) : d.beginSession = d := if_pos h

/-- A session begins with a first probe, if a buffer is free for it. -/
theorem beginSession_of_joined (h : ¬ d.scan.active) (hn : d.inNetwork) (hl : ¬ d.learning) :
    d.beginSession = if d.site.hasBuffer then
      (d.cleared.transmit (.updateSidMap d.current)).sessionStarted
    else (d.cleared.transmit (.updateSidMap d.current)).postpone := by
  unfold beginSession
  rw [if_neg h]
  dsimp only
  rw [if_neg (by simp [hn]), if_neg hl, send_eq]
  cases d.site.hasBuffer <;> rfl

/-- In learn mode no session begins. -/
theorem beginSession_of_learning (h : ¬ d.scan.active) (hn : d.inNetwork) (hl : d.learning) :
    d.beginSession = d.cleared.postpone := by
  unfold beginSession
  exact (if_neg h).trans ((if_neg (by simp [hn])).trans (if_pos hl))

/-- Outside of a network all devices count as deleted, if that was asked for. -/
theorem beginSession_of_apart (h : ¬ d.scan.active) (hn : ¬ d.inNetwork) : d.beginSession =
    (if 0 < d.scan.flushingAll then d.cleared.completeFlushAll else d.cleared).postpone := by
  unfold beginSession
  exact (if_neg h).trans (if_pos (by simp [hn]))

/-- A session begins, or the attempt is put off. -/
theorem beginSession_cases (h : ¬ d.scan.active) :
    ∃ d' left, TestStep d d' ∧ d'.scan = { delete := d.scan.delete, flushingAll := left } ∧
      (d.beginSession = d'.sessionStarted ∨ d.beginSession = d'.postpone) := by
  have hcleared : TestStep d d.cleared := testStep_scan d _
  by_cases hn : d.inNetwork
  · by_cases hl : d.learning
    · exact ⟨d.cleared, _, hcleared, rfl, .inr (beginSession_of_learning d h hn hl)⟩
    · refine ⟨_, _, hcleared.trans (testStep_transmit _ (.updateSidMap d.current)), rfl, ?_⟩
      rw [beginSession_of_joined d h hn hl]
      cases d.site.hasBuffer
      · exact .inr rfl
      · exact .inl rfl
  · rw [beginSession_of_apart d h hn]
    split
    · have hnetwork := completeFlushAll_toNetwork d.cleared
      exact ⟨_, 0, hcleared.trans (testStep_completeFlushAll _),
        congrArg (fun network => network.scan) hnetwork, .inr rfl⟩
    · exact ⟨_, _, hcleared, rfl, .inr rfl⟩

theorem testStep_beginSession : TestStep d d.beginSession := by
  by_cases h : d.scan.active
  · rw [beginSession_of_active d h]
    exact .refl d
  obtain ⟨d', left, hstep, -, hbegin | hbegin⟩ := beginSession_cases d h
  · rw [hbegin]
    exact hstep.trans ((testStep_scan _ _).trans (testStep_restartMissing _ rfl _))
  · rw [hbegin]
    exact hstep.trans (testStep_restartMissing _ rfl _)

theorem rests_beginSession (h : ¬ d.scan.active) (ht : (d.among incidents).Tied) :
    d.beginSession.Rests := by
  obtain ⟨d', left, hstep, hscan, hbegin | hbegin⟩ := beginSession_cases d h
  · rw [hbegin]
    exact ⟨_, awaits_restartMissing _ rfl _ ((hstep.trans (testStep_scan _ _)).tied _ ht),
      fun _ => by simp⟩
  · rw [hbegin]
    refine ⟨_, awaits_restartMissing _ rfl _ (hstep.tied _ ht), fun hactive => ?_⟩
    exact absurd (show d'.scan.active = true from hactive) (by simp [hscan])

/-! ### Removing devices -/

theorem silent_offlineAll (ids : List DeviceId) (site : Site) : site.Silent (ids.foldl
    (fun site id => site.report id .presence Shadow.Presence.offline.value) site) :=
  .foldl (fun _ _ => Site.silent_report _ _ _ _) ids site

theorem testStep_beginFlushAll : TestStep d d.beginFlushAll :=
  (testStep_cancelSession d).trans ((testStep_onSite _ (silent_offlineAll _ _)).trans
    ((testStep_scan _ _).trans (testStep_scan _ _)))

theorem testStep_beginFlush (id : DeviceId) (sid : UInt8) : TestStep d (d.beginFlush id sid) :=
  (testStep_cancelSession d).trans ((testStep_onSite _ (Site.silent_report _ _ _ _)).trans
    (testStep_scan _ _))

theorem beginFlushAll_maps : d.beginFlushAll.site.maps = d.site.maps :=
  (silent_offlineAll _ _).maps.trans (cancelSession_maps d)

theorem beginFlushAll_hasBuffer : d.beginFlushAll.site.hasBuffer = d.site.hasBuffer :=
  (Site.foldl_hasBuffer (fun _ _ => Site.after_hasBuffer _ _) _ _).trans (cancelSession_hasBuffer d)

theorem beginFlush_maps (id : DeviceId) (sid : UInt8) :
    (d.beginFlush id sid).site.maps = d.site.maps :=
  (Site.silent_report _ _ _ _).maps.trans (cancelSession_maps d)

theorem beginFlush_hasBuffer (id : DeviceId) (sid : UInt8) :
    (d.beginFlush id sid).site.hasBuffer = d.site.hasBuffer :=
  (Site.after_hasBuffer _ _).trans (cancelSession_hasBuffer d)

theorem testStep_flushAll : TestStep d d.flushAll := by
  unfold flushAll
  split
  · exact .refl d
  · exact (testStep_beginFlushAll d).trans (testStep_updateMap _)

theorem testStep_flush (id : DeviceId) : TestStep d (d.flush id) := by
  unfold flush
  split
  · exact .refl d
  · exact (testStep_beginFlush d id _).trans (testStep_updateMap _)

theorem rests_flushAll (ht : (d.among incidents).Tied) (h : d.Rests) : d.flushAll.Rests := by
  unfold flushAll
  split
  · exact h
  · exact rests_updateMap _ ((testStep_beginFlushAll d).tied _ ht)

theorem rests_flush (id : DeviceId) (ht : (d.among incidents).Tied) (h : d.Rests) :
    (d.flush id).Rests := by
  unfold flush
  split
  · exact h
  · exact rests_updateMap _ ((testStep_beginFlush d id _).tied _ ht)

end Discovery

end AlarmMesh.Gateway
