import AlarmMesh.Proofs.Config.Check
import AlarmMesh.Proofs.Gateway.Lifetime

/-!
# Timers that start timers

What a timer starts when it fires is one of few: each kind has the delays that it may be started
with.  All of them are positive if the periods among the settings are, and so no timer that fires
starts one that is due already.

* `Config.DiscoverySettings.PositivePeriods` — the periods that a timer may be started with again;
* `Rearms settings kind delay` — what a timer that fires may start, `Rearms.positive` that it is not
  due then;
* `Discovery.Rearmed d d'` — what timers that fire leave of the others;
* `rearmed_refresh`, `rearmed_updateMap`, … — the handlers, `rearmed_onTimer` all of them;
* `Engine.rearmed_fire` — the engine deals with a timer.
-/

namespace AlarmMesh.Config

/-- No period that a timer may be started with again is zero. -/
structure DiscoverySettings.PositivePeriods (settings : DiscoverySettings) : Prop where
  normalRefresh : settings.normalRefresh.isZero = false
  learnRefresh : settings.learnRefresh.isZero = false
  missingTestPeriod : settings.missingTestPeriod.isZero = false
  minSpacing : settings.minSpacing.isZero = false
  updateDeletePeriod : settings.updateDeletePeriod.isZero = false
  interrogationPeriod : settings.interrogationPeriod.isZero = false

end AlarmMesh.Config

namespace AlarmMesh

theorem Duration.isZero_eq_false {delay : Duration} :
    delay.isZero = false ↔ 0 < delay.nanoseconds := by
  unfold isZero
  rw [decide_eq_false_iff_not]
  exact Nat.pos_iff_ne_zero.symm

end AlarmMesh

namespace AlarmMesh.Gateway

open Radio (Command)

/-! ### What a timer starts -/

/-- A timer that fires may start one of this kind with this delay. -/
inductive Rearms (settings : Config.DiscoverySettings) : TimerKind → Duration → Prop
  | refresh : Rearms settings .retrieveSidMap settings.normalRefresh
  | learnRefresh : Rearms settings .retrieveSidMap settings.learnRefresh
  | test : Rearms settings .testMissingInit settings.missingTestPeriod
  /-- The test is put off. -/
  | retry : Rearms settings .testMissingInit settings.minSpacing
  /-- A test follows the session. -/
  | rerun : Rearms settings .testMissingInit rerunDelay
  | reply : Rearms settings .testMissingTimeout settings.replyTimeout
  /-- No buffer was free for the probe. -/
  | probe : Rearms settings .testMissingTimeout probeRetryDelay
  | update : Rearms settings .testMissingUpdateMap settings.updateDeletePeriod
  | question : Rearms settings .interrogate settings.interrogationPeriod

variable {settings : Config.DiscoverySettings} {kind : TimerKind} {delay : Duration}

/-- An answer is waited for longer than probes are apart, and so for some time. -/
theorem replyTimeout_pos (hcheck : settings.check = .ok ()) :
    0 < settings.replyTimeout.nanoseconds := by
  obtain ⟨hspacing, -⟩ := Config.DiscoverySettings.check_eq_ok.1 hcheck
  have hless : settings.minSpacing.nanoseconds < settings.replyTimeout.nanoseconds :=
    Nat.lt_of_not_le hspacing
  exact Nat.lt_of_le_of_lt (Nat.zero_le _) hless

theorem Rearms.positive (h : Rearms settings kind delay) (hcheck : settings.check = .ok ())
    (hperiods : settings.PositivePeriods) : 0 < delay.nanoseconds := by
  cases h with
  | refresh => exact Duration.isZero_eq_false.1 hperiods.normalRefresh
  | learnRefresh => exact Duration.isZero_eq_false.1 hperiods.learnRefresh
  | test => exact Duration.isZero_eq_false.1 hperiods.missingTestPeriod
  | retry => exact Duration.isZero_eq_false.1 hperiods.minSpacing
  | rerun => decide
  | reply => exact replyTimeout_pos hcheck
  | probe => decide
  | update => exact Duration.isZero_eq_false.1 hperiods.updateDeletePeriod
  | question => exact Duration.isZero_eq_false.1 hperiods.interrogationPeriod

/-- The timer is one that a timer firing now may start. -/
def RearmedAt (settings : Config.DiscoverySettings) (now : Instant) (timer : Timer) : Prop :=
  ∃ delay, Rearms settings timer.kind delay ∧ timer.deadline = now + delay.nanoseconds

theorem RearmedAt.later {now : Instant} {timer : Timer} (h : RearmedAt settings now timer)
    (hcheck : settings.check = .ok ()) (hperiods : settings.PositivePeriods) :
    now < timer.deadline := by
  obtain ⟨delay, hrearms, hdeadline⟩ := h
  rw [hdeadline]
  exact Nat.lt_add_of_pos_right (hrearms.positive hcheck hperiods)

theorem RearmedAt.deadline_lt {now : Instant} {timer : Timer} (h : RearmedAt settings now timer)
    (hfits : ∀ kind delay, Rearms settings kind delay → Instant.fits now delay) :
    timer.deadline < Instant.limit := by
  obtain ⟨delay, hrearms, hdeadline⟩ := h
  rw [hdeadline]
  exact Instant.fits_iff.1 (hfits _ delay hrearms)

namespace Discovery

/-- What is left of the timers: some are stopped, and those that are started are such that a timer
that fires may start them. -/
structure Rearmed (d d' : Discovery) : Prop where
  settings : d'.settings = d.settings
  clock : d'.site.clock = d.site.clock
  follows : d.site.timers.Follows (RearmedAt d.settings d.site.clock.now) d.site.clock.now
    d'.site.timers

variable {a b c : Discovery}

/-- No timer is started or stopped. -/
theorem Rearmed.of_eq (hsettings : b.settings = a.settings) (hclock : b.site.clock = a.site.clock)
    (htimers : b.site.timers = a.site.timers) : a.Rearmed b :=
  ⟨hsettings, hclock, htimers ▸ .refl _ _ _⟩

theorem Rearmed.refl (d : Discovery) : d.Rearmed d := .of_eq rfl rfl rfl

theorem Rearmed.trans (h : a.Rearmed b) (h' : b.Rearmed c) : a.Rearmed c where
  settings := h'.settings.trans h.settings
  clock := h'.clock.trans h.clock
  follows := by
    have hfollows := h'.follows
    rw [h.settings, h.clock] at hfollows
    exact h.follows.trans hfollows

/-- Something silent happens at the site, and the settings stay. -/
theorem Rearmed.of_silent (hsite : a.site.Silent b.site) (hsettings : b.settings = a.settings) :
    a.Rearmed b :=
  .of_eq hsettings hsite.clock hsite.timers

end Discovery

/-! ### What the handlers are made of -/

namespace Site

theorem follows_cancel (P : Timer → Prop) (site : Site) (handle : Option TimerHandle) :
    site.timers.Follows P site.clock.now (site.cancel handle).timers := by
  cases handle with
  | none => exact .refl _ _ _
  | some handle => exact TimerQueue.follows_cancel P _ _ handle

/-- A timer is started in place of another one. -/
theorem follows_restart {P : Timer → Prop} (site : Site) (handle : Option TimerHandle)
    (h : ∀ handle, P ⟨site.clock.now + delay.nanoseconds, handle, kind⟩) :
    site.timers.Follows P site.clock.now (site.restart handle kind delay).2.timers := by
  refine (follows_cancel P site handle).trans ?_
  show (site.cancel handle).timers.Follows P site.clock.now
    ((site.cancel handle).timers.schedule (site.cancel handle).clock.now kind delay).2
  rw [cancel_clock]
  exact TimerQueue.follows_schedule _ (h _)

end Site

namespace Discovery

variable (d : Discovery)

theorem rearmed_scan (scan : Scan) : d.Rearmed { d with scan := scan } := .of_eq rfl rfl rfl

theorem rearmed_onSite {f : Site → Site} (h : d.site.Silent (f d.site)) : d.Rearmed (d.onSite f) :=
  .of_silent h rfl

theorem rearmed_transmit (command : Command) : d.Rearmed (d.transmit command) :=
  .of_eq rfl (Site.send_clock d.site command) (Site.send_timers d.site command)

/-- A timer is started in place of the one at a place. -/
theorem Rearmed.restart {d d' : Discovery} {handle : Option TimerHandle}
    (h : Rearms d.settings kind delay) (hsettings : d'.settings = d.settings)
    (hsite : d'.site = (d.site.restart handle kind delay).2) : d.Rearmed d' where
  settings := hsettings
  clock := by
    rw [hsite]
    exact Site.cancel_clock _ _
  follows := by
    rw [hsite]
    exact Site.follows_restart d.site handle fun _ => ⟨delay, h, rfl⟩

theorem rearmed_restartRefresh (h : Rearms d.settings .retrieveSidMap delay) :
    d.Rearmed (d.restartRefresh delay) :=
  .restart h rfl rfl

theorem rearmed_restartMissing (h : Rearms d.settings kind delay) :
    d.Rearmed (d.restartMissing kind delay) :=
  .restart h rfl rfl

theorem rearmed_restartInterrogate (h : Rearms d.settings .interrogate delay) :
    d.Rearmed (d.restartInterrogate delay) :=
  .restart h rfl rfl

theorem rearmed_cancelMissing : d.Rearmed d.cancelMissing :=
  ⟨rfl, Site.cancel_clock _ _, Site.follows_cancel _ _ _⟩

theorem rearmed_cancelLearn : d.Rearmed d.cancelLearn :=
  ⟨rfl, Site.cancel_clock _ _, Site.follows_cancel _ _ _⟩

/-! ### Handlers -/

theorem rearms_refreshPeriod : Rearms d.settings .retrieveSidMap d.refreshPeriod := by
  unfold refreshPeriod
  split
  · exact .learnRefresh
  · exact .refresh

theorem rearmed_refresh : d.Rearmed d.refresh := by
  have hrequest : d.Rearmed (if d.scan.active then d else d.transmit .requestSidMap) := by
    split
    · exact .refl d
    · exact rearmed_transmit d _
  exact hrequest.trans (rearmed_restartRefresh _ (rearms_refreshPeriod _))

theorem rearmed_setInterrogating (active : Bool) : d.Rearmed (d.setInterrogating active) :=
  .of_silent (Site.silent_report _ _ _ _) rfl

theorem rearmed_continueInterrogation : d.Rearmed d.continueInterrogation := by
  unfold continueInterrogation
  split
  · have hfound : d.Rearmed { d with interrogation := d.nextUnknown.2 } := .of_eq rfl rfl rfl
    dsimp only
    split
    · exact hfound.trans ((rearmed_transmit _ _).trans (rearmed_restartInterrogate _ .question))
    · exact hfound.trans (rearmed_setInterrogating _ false)
  · exact .refl d

/-- Learn mode ends, if it is on. -/
theorem rearmed_learnModeOff : d.Rearmed (d.setLearnMode false 0) := by
  unfold setLearnMode
  split
  · exact .refl d
  · have hleft : d.Rearmed
        ({ d with learning := false }.report .mode Shadow.Mode.running.value) :=
      .of_silent (Site.silent_report _ _ _ _) rfl
    exact hleft.trans ((rearmed_restartRefresh _ .refresh).trans (rearmed_cancelLearn _))

/-! ### Handlers of the missing-node test -/

theorem rearmed_completeFlushAll : d.Rearmed d.completeFlushAll :=
  .of_silent (silent_completeFlushAll d) (testStep_completeFlushAll d).settings_eq

theorem rearmed_closing : d.Rearmed d.closing := by
  have hsilent := (silent_deleted d).trans (silent_countFlushAll _)
  exact .of_eq (testStep_closing d).settings_eq hsilent.clock hsilent.timers

theorem rearmed_finishSession : d.Rearmed d.finishSession := by
  have hended : d.Rearmed { d.closing with scan := d.finished } :=
    (rearmed_closing d).trans (rearmed_scan _ _)
  rw [finishSession_eq]
  refine hended.trans (.trans (rearmed_restartMissing _ ?_) (rearmed_onSite _ ?_))
  · split
    · exact .rerun
    · rw [← hended.settings]
      exact .test
  · exact silent_endTestMode _

theorem rearmed_pushMap : d.Rearmed d.pushMap := by
  rw [pushMap_eq]
  have hsent : d.Rearmed { d.transmit (.updateSidMap d.scan.removal) with
      scan := { d.scan with updateCount := d.pushed } } :=
    (rearmed_transmit d _).trans (rearmed_scan _ _)
  exact hsent.trans (rearmed_restartMissing _ .update)

theorem rearmed_updateMap : d.Rearmed d.updateMap := by
  have hcancel := rearmed_cancelMissing d
  by_cases hover : d.isOver
  · rw [updateMap_of_over d hover]
    exact hcancel.trans (rearmed_finishSession _)
  by_cases hn : d.scan.updateCount = 0
  · by_cases hs : d.someMissing
    · rw [updateMap_of_some d hover hn hs]
      exact hcancel.trans ((rearmed_scan _ _).trans (rearmed_pushMap _))
    · rw [updateMap_of_none d hover hn hs]
      have hfinish : d.Rearmed d.cancelMissing.unreduced.finishSession :=
        hcancel.trans ((rearmed_scan _ _).trans (rearmed_finishSession _))
      split
      · exact hfinish.trans (rearmed_completeFlushAll _)
      · exact hfinish
  · rw [updateMap_of_sent d hover hn]
    exact hcancel.trans (rearmed_pushMap _)

theorem rearmed_probe : d.Rearmed d.probe := by
  by_cases h : d.isOverdue
  · rw [probe_of_overdue d h]
    exact (rearmed_scan d _).trans (rearmed_updateMap _)
  rw [probe_of_due d h]
  split
  · have hprobed : d.Rearmed d.probed := (rearmed_transmit d _).trans (rearmed_scan _ _)
    exact hprobed.trans (rearmed_restartMissing _ .reply)
  · exact (rearmed_transmit d _).trans (rearmed_restartMissing _ .probe)

theorem rearmed_postpone : d.Rearmed d.postpone := by
  refine rearmed_restartMissing d ?_
  split
  · exact .retry
  · exact .test

theorem rearmed_sessionStarted : d.Rearmed d.sessionStarted :=
  (rearmed_scan d _).trans (rearmed_restartMissing _ .reply)

theorem rearmed_beginSession : d.Rearmed d.beginSession := by
  have hcleared : d.Rearmed d.cleared := rearmed_scan d _
  by_cases hactive : d.scan.active
  · rw [beginSession_of_active d hactive]
    exact .refl d
  by_cases hn : d.inNetwork
  · by_cases hl : d.learning
    · rw [beginSession_of_learning d hactive hn hl]
      exact hcleared.trans (rearmed_postpone _)
    · rw [beginSession_of_joined d hactive hn hl]
      have hsent := hcleared.trans (rearmed_transmit _ (.updateSidMap d.current))
      split
      · exact hsent.trans (rearmed_sessionStarted _)
      · exact hsent.trans (rearmed_postpone _)
  · rw [beginSession_of_apart d hactive hn]
    split
    · exact hcleared.trans ((rearmed_completeFlushAll _).trans (rearmed_postpone _))
    · exact hcleared.trans (rearmed_postpone _)

/-- Whatever fires, the timers that it starts are of these. -/
theorem rearmed_onTimer (kind : TimerKind) : d.Rearmed (d.onTimer kind) := by
  have hfired (scan : Scan) : d.Rearmed { d with missingTimer := none, scan := scan } :=
    .of_eq rfl rfl rfl
  cases kind with
  | retrieveSidMap =>
    have hfired : d.Rearmed { d with refreshTimer := none } := .of_eq rfl rfl rfl
    exact hfired.trans (rearmed_refresh _)
  | testMissingInit =>
    exact (hfired { d.scan with delete := true }).trans (rearmed_beginSession _)
  | testMissingTimeout => exact (hfired d.scan).trans (rearmed_probe _)
  | testMissingContinue => exact (hfired d.scan).trans (rearmed_probe _)
  | testMissingUpdateMap => exact (hfired d.scan).trans (rearmed_updateMap _)
  | learnModeTimeout =>
    have hfired : d.Rearmed { d with learnTimer := none } := .of_eq rfl rfl rfl
    exact hfired.trans (rearmed_learnModeOff _)
  | interrogate =>
    have hfired : d.Rearmed { d with interrogateTimer := none } := .of_eq rfl rfl rfl
    exact hfired.trans (rearmed_continueInterrogation _)
  | faultTimeout | alarmTimeout => exact .refl d

end Discovery

/-! ### Records that time out -/

namespace Correlator

variable (c : Correlator) (id : Radio.DeviceId)

theorem silent_resolveAlarm (pending : PendingAlarm) (temperature : Option UInt16) :
    c.site.Silent (c.resolveAlarm id pending temperature).site := by
  refine .trans ?_ (Site.silent_release _ _)
  split
  · exact Site.silent_writeAlarm _ _ _ _
  · exact .refl _

theorem silent_faultTimedOut : c.site.Silent (c.faultTimedOut id).site := by
  unfold faultTimedOut
  split
  · exact (Site.silent_count _ (by decide)).trans
      ((Site.silent_writeFault _ _ _ _ _).trans (Site.silent_release _ _))
  · exact .refl _

theorem silent_alarmTimedOut : c.site.Silent (c.alarmTimedOut id).site := by
  let counted := c.onSite fun site => site.count (.pendingTimeout .alarm)
  have hcount : c.site.Silent counted.site := Site.silent_count _ (by decide)
  unfold alarmTimedOut
  split
  · exact hcount.trans (counted.silent_resolveAlarm id _ none)
  · exact .refl _

end Correlator

namespace Engine

variable (engine : Engine)

/-- Every timer is one of a record, or discovery deals with it. -/
theorem discovery_fire (h : ¬ kind.place.OfRecord) :
    (engine.fire kind).discovery = engine.discovery.onTimer kind := by
  cases kind with
  | faultTimeout | alarmTimeout => exact absurd trivial h
  | _ => rfl

/-- What becomes of the timers when one fires. -/
theorem rearmed_fire (kind : TimerKind) :
    engine.discovery.Rearmed (engine.fire kind).discovery := by
  by_cases hrecord : kind.place.OfRecord
  · let c : Correlator := { toIncidents := engine.incidents, site := engine.site }
    cases kind with
    | faultTimeout id => exact .of_silent (c.silent_faultTimedOut id) rfl
    | alarmTimeout id => exact .of_silent (c.silent_alarmTimedOut id) rfl
    | _ => exact hrecord.elim
  · rw [discovery_fire engine hrecord]
    exact Discovery.rearmed_onTimer _ kind

end Engine

end AlarmMesh.Gateway
