import AlarmMesh.Proofs.Gateway.Pending

/-!
# What the gateway does beside its pending records

Discovery, operations and wishes work on a site in four ways only: they change what neither buffers
nor timers nor alarms are concerned with, they send a command, and they cancel or start a timer,
which is none of a pending record.  So what these four preserve all of them preserve.

* `Site.Quiet site site'` — no alarm is told of;
* `Site.Apart site site'` — only the shadow and what is counted may differ, `apart_report`, …;
* `Site.Chore`, `Site.Chores` — one of the four, and any number of them;
* `Discovery.chores_updateMap`, … — whatever discovery does is made of them.
-/

namespace AlarmMesh

/-- The place belongs to a pending record. -/
def TimerPlace.OfRecord : TimerPlace → Prop
  | .fault _ | .alarm _ => True
  | _ => False

/-- Everything may change but what is reported of alarms. -/
def Shadow.Footprint.tacit : Footprint where
  admits _ := True
  removes _ := True
  writes _ property := property.isAlarm = false

namespace Gateway

open Radio (Command DeviceId Report SidMap)
open Relation (ReflTransGen)
open Shadow (Footprint Property Store Value)

namespace Site

variable {site site' a b c : Site}

/-! ### No alarms -/

/-- The number of alarm events so far. -/
def alarmEvents (site : Site) : Nat := site.tally.count .alarmEvent

/-- No alarm event is written, nor anything else that is reported of alarms. -/
structure Quiet (site site' : Site) : Prop where
  store : site.platform.store.Edits .tacit site'.platform.store
  events : site'.alarmEvents = site.alarmEvents

theorem Quiet.refl (site : Site) : site.Quiet site := ⟨.refl, rfl⟩

theorem Quiet.trans (h : a.Quiet b) (h' : b.Quiet c) : a.Quiet c :=
  ⟨Relation.ReflTransGen.trans h.store h'.store, h'.events.trans h.events⟩

theorem quiet_of_platform (h : site'.platform = site.platform)
    (hevents : site'.alarmEvents = site.alarmEvents) : site.Quiet site' :=
  ⟨(edits_of_platform h).store, hevents⟩

/-- A buffer is looked for, and nothing is counted but that. -/
theorem quiet_takeBuffer (site : Site)
    (take : Link.Pool → Option Link.Buffer × Link.Pool) : site.Quiet (site.takeBuffer take).2 := by
  unfold takeBuffer
  split
  · exact quiet_of_platform rfl rfl
  · exact quiet_of_platform rfl rfl

theorem quiet_send (site : Site) (command : Command) : site.Quiet (site.send command).2 := by
  have htaken := site.quiet_takeBuffer fun pool => pool.acquireFor command
  unfold send
  split
  · next heq =>
    rw [heq] at htaken
    exact ⟨htaken.store, htaken.events⟩
  · next heq =>
    rw [heq] at htaken
    exact ⟨htaken.store, (List.count_cons_of_ne (by simp)).trans htaken.events⟩

theorem quiet_cancel (site : Site) (handle : Option TimerHandle) :
    site.Quiet (site.cancel handle) := by
  cases handle <;> exact quiet_of_platform rfl rfl

/-! ### The shadow and the counts -/

/-- Nothing but the shadow and what is counted differs, and no alarm is told of. -/
structure Apart (site site' : Site) : Prop where
  pool : site'.pool = site.pool
  contention : site'.contention = site.contention
  timers : site'.timers = site.timers
  clock : site'.clock = site.clock
  sent : site'.sent = site.sent
  quiet : site.Quiet site'

theorem Apart.refl (site : Site) : site.Apart site := ⟨rfl, rfl, rfl, rfl, rfl, .refl site⟩

theorem Apart.trans (h : a.Apart b) (h' : b.Apart c) : a.Apart c where
  pool := h'.pool.trans h.pool
  contention := h'.contention.trans h.contention
  timers := h'.timers.trans h.timers
  clock := h'.clock.trans h.clock
  sent := h'.sent.trans h.sent
  quiet := h.quiet.trans h'.quiet

theorem Apart.foldl {α : Type} {f : Site → α → Site} {as : List α}
    (h : ∀ (site : Site), ∀ a ∈ as, site.Apart (f site a)) (site : Site) :
    site.Apart (as.foldl f site) := by
  induction as generalizing site with
  | nil => exact .refl site
  | cons a as ih =>
    exact (h site a List.mem_cons_self).trans
      (ih (fun site other hother => h site other (List.mem_cons_of_mem _ hother)) (f site a))

theorem apart_count (site : Site) {counter : Metric.Counter} (h : counter ≠ .alarmEvent) :
    site.Apart (site.count counter) :=
  ⟨rfl, rfl, rfl, rfl, rfl, .refl, List.count_cons_of_ne h⟩

theorem apart_platform (site : Site) {platform : Shadow.Platform}
    (h : site.Edits .tacit { site with platform := platform }) :
    site.Apart { site with platform := platform } :=
  ⟨rfl, rfl, rfl, rfl, rfl, h.store, rfl⟩

theorem apart_after (site : Site) {outcome : Except Shadow.StoreError Shadow.Platform}
    (h : site.Edits .tacit (site.after outcome)) : site.Apart (site.after outcome) := by
  cases outcome with
  | ok platform => exact apart_platform site h
  | error error => exact .refl site

theorem apart_report (site : Site) (id : DeviceId) {property : Property}
    (h : property.isAlarm = false) (value : Value) : site.Apart (site.report id property value) :=
  apart_after site (edits_report site (.inr h) value)

theorem apart_reportGroup (site : Site) (id : DeviceId) {values : List (Property × Value)}
    (h : ∀ entry ∈ values, entry.1.isAlarm = false) : site.Apart (site.reportGroup id values) :=
  apart_platform site (edits_reportGroup site fun entry hentry => .inr (h entry hentry))

theorem apart_subscribe (site : Site) (id : DeviceId) (property : Property) :
    site.Apart (site.subscribe id property) :=
  apart_after site (edits_subscribe site id property)

theorem apart_initDevice (site : Site) (id : DeviceId) : site.Apart (site.initDevice id) := by
  unfold initDevice
  refine .trans ?_ (.foldl (fun site property _ => apart_subscribe site id property) _)
  refine .trans (.trans ?_ (apart_report _ _ rfl _)) (apart_report _ _ rfl _)
  split
  · exact (apart_report _ _ rfl _).trans (apart_report _ _ rfl _)
  · exact apart_report _ _ rfl _

theorem apart_markUnlessIn (map : SidMap) (site : Site) (id : DeviceId) :
    site.Apart (site.markUnlessIn map id) := by
  unfold markUnlessIn
  split
  · split
    · exact .refl site
    · exact (apart_report _ _ rfl _).trans (apart_report _ _ rfl _)
  · exact .refl site

theorem apart_markDevice (missing : SidMap) (site : Site) (id : DeviceId) :
    site.Apart (site.markDevice missing id) := by
  unfold markDevice
  split
  · exact apart_report _ _ rfl _
  · exact .refl site

theorem apart_deleteIfOffline (site : Site) (id : DeviceId) :
    site.Apart (site.deleteIfOffline id) := by
  unfold deleteIfOffline
  split
  · split
    · next platform hdelete =>
      have hdeleted : site.Edits .tacit { site with platform := platform } :=
        edits_updated (.delete id) hdelete trivial
      exact (apart_platform site hdeleted).trans (apart_count _ (by simp))
    · exact .refl site
  · exact .refl site

theorem apart_writeIdentity (site : Site) (identity : Radio.Identity)
    (presence : Shadow.Presence) : site.Apart (site.writeIdentity identity presence) :=
  apart_reportGroup site identity.id (by simp [Property.isAlarm])

theorem apart_writeFault (site : Site) (id : DeviceId) (active : Bool) (code : UInt8)
    (millivolts : Option UInt16) : site.Apart (site.writeFault id active code millivolts) := by
  unfold writeFault
  split
  · exact .refl site
  split
  · exact .refl site
  · refine .trans ?_ ((apart_reportGroup _ _ (by simp [Property.isAlarm])).trans
      (apart_count _ (by simp)))
    cases millivolts with
    | none => exact .refl site
    | some _ => exact apart_report _ _ rfl _

theorem apart_writeDetails (site : Site) (id : DeviceId) (table : UInt8) (faults : UInt16) :
    site.Apart (site.writeDetails id table faults) :=
  .foldl (fun site _ _ => apart_writeFault site _ _ _ _) _

/-! ### Chores -/

/-- One thing that is done at a site beside pending records. -/
inductive Chore (site : Site) : Site → Prop
  /-- Neither buffers nor timers nor alarms are concerned. -/
  | apart {site' : Site} (pool : site'.pool = site.pool) (timers : site'.timers = site.timers)
      (clock : site'.clock = site.clock) (quiet : site.Quiet site') : Chore site site'
  | send (command : Command) : Chore site (site.send command).2
  | cancel (handle : Option TimerHandle) : Chore site (site.cancel handle)
  | schedule (kind : TimerKind) (delay : Duration) (place : ¬ kind.place.OfRecord) :
      Chore site (site.schedule kind delay).2

theorem Chore.quiet (h : site.Chore site') : site.Quiet site' := by
  cases h with
  | apart _ _ _ quiet => exact quiet
  | send command => exact quiet_send site command
  | cancel handle => exact quiet_cancel site handle
  | schedule => exact quiet_of_platform rfl rfl

/-- Any number of them. -/
def Chores : Site → Site → Prop := ReflTransGen Chore

theorem Chores.refl (site : Site) : site.Chores site := ReflTransGen.refl

theorem Chores.trans (h : a.Chores b) (h' : b.Chores c) : a.Chores c := ReflTransGen.trans h h'

theorem Chore.chores (h : site.Chore site') : site.Chores site' := ReflTransGen.single h

theorem Apart.chores (h : site.Apart site') : site.Chores site' :=
  (Chore.apart h.pool h.timers h.clock h.quiet).chores

theorem chores_send (site : Site) (command : Command) : site.Chores (site.send command).2 :=
  (Chore.send command).chores

theorem chores_cancel (site : Site) (handle : Option TimerHandle) :
    site.Chores (site.cancel handle) := (Chore.cancel handle).chores

theorem chores_restart (site : Site) (handle : Option TimerHandle) (kind : TimerKind)
    (h : ¬ kind.place.OfRecord) (delay : Duration) :
    site.Chores (site.restart handle kind delay).2 :=
  (chores_cancel site handle).trans (Chore.schedule kind delay h).chores

end Site

/-! ### Discovery -/

namespace Discovery

variable (d : Discovery)

theorem chores_report {property : Property} (h : property.isAlarm = false) (value : Value) :
    d.site.Chores (d.report property value).site := (Site.apart_report _ _ h _).chores

theorem chores_transmit (command : Command) : d.site.Chores (d.transmit command).site :=
  Site.chores_send d.site command

theorem chores_restartRefresh (delay : Duration) :
    d.site.Chores (d.restartRefresh delay).site :=
  Site.chores_restart d.site _ .retrieveSidMap not_false delay

theorem chores_restartMissing {kind : TimerKind} (h : kind.place = .missing) (delay : Duration) :
    d.site.Chores (d.restartMissing kind delay).site :=
  Site.chores_restart d.site _ kind (by rw [h]; exact not_false) delay

theorem chores_cancelMissing : d.site.Chores d.cancelMissing.site := Site.chores_cancel _ _

theorem chores_restartLearn (delay : Duration) : d.site.Chores (d.restartLearn delay).site :=
  Site.chores_restart d.site _ .learnModeTimeout not_false delay

theorem chores_cancelLearn : d.site.Chores d.cancelLearn.site := Site.chores_cancel _ _

theorem chores_restartInterrogate (delay : Duration) :
    d.site.Chores (d.restartInterrogate delay).site :=
  Site.chores_restart d.site _ .interrogate not_false delay

theorem chores_cancelInterrogate : d.site.Chores d.cancelInterrogate.site :=
  Site.chores_cancel _ _

theorem chores_refresh : d.site.Chores d.refresh.site := by
  unfold refresh
  refine .trans ?_ (chores_restartRefresh _ _)
  split
  · exact .refl _
  · exact chores_transmit d _

/-! ### Interrogation and members -/

theorem chores_setInterrogating (active : Bool) :
    d.site.Chores (d.setInterrogating active).site := (Site.apart_report _ _ rfl _).chores

theorem chores_continueInterrogation : d.site.Chores d.continueInterrogation.site := by
  unfold continueInterrogation
  split
  · dsimp only
    split
    · have hasked (sid : UInt8) : d.site.Chores
          ({ d with interrogation := d.nextUnknown.2 }.transmit (.requestRemoteId sid)).site :=
        Site.chores_send d.site _
      exact (hasked _).trans (chores_restartInterrogate _ _)
    · exact chores_setInterrogating { d with interrogation := d.nextUnknown.2 } false
  · exact .refl _

theorem chores_checkInterrogation : d.site.Chores d.checkInterrogation.site := by
  unfold checkInterrogation
  split
  · exact .refl _
  split
  · split
    · exact .refl _
    · let begun : Discovery := { d with interrogation := { d.interrogation with cursor := 0 } }
      have hon : d.site.Chores (begun.setInterrogating true).site :=
        chores_setInterrogating begun true
      exact hon.trans (chores_continueInterrogation _)
  split
  · exact (chores_cancelInterrogate d).trans (chores_setInterrogating _ _)
  · exact .refl _

theorem chores_suspendInterrogation : d.site.Chores d.suspendInterrogation.site := by
  unfold suspendInterrogation
  refine .trans ?_ (chores_setInterrogating _ _)
  split
  · exact chores_cancelInterrogate d
  · exact .refl _

theorem chores_setUnknown (unknown : Nat) : d.site.Chores (d.setUnknown unknown).site := by
  have hgauge (site : Site) : site.Apart { site with unknownGauge := some unknown } :=
    ⟨rfl, rfl, rfl, rfl, rfl, .refl, rfl⟩
  exact ((Site.apart_report _ _ rfl _).trans (hgauge _)).chores

theorem chores_requestDiagnostics : d.site.Chores d.requestDiagnostics.site := by
  unfold requestDiagnostics
  rw [send_eq]
  split
  · cases d.site.hasBuffer
    · exact chores_transmit d _
    · exact chores_transmit d _
  · exact .refl _

theorem chores_receiveSidMap (map : SidMap) : d.site.Chores (d.receiveSidMap map).site := by
  let joined := { d with inNetwork := map.inNetwork }.report .inNetwork (.bool map.inNetwork)
  have hjoined : d.site.Chores joined.site := (Site.apart_report _ _ rfl _).chores
  have hasked := hjoined.trans (chores_requestDiagnostics joined)
  exact (hasked.trans (chores_setUnknown _ _)).trans
    (chores_checkInterrogation { joined.requestDiagnostics.setUnknown _ with current := map })

theorem chores_receiveSidMapUpdate (map : SidMap) :
    d.site.Chores (d.receiveSidMapUpdate map).site :=
  (Site.Apart.foldl (fun site id _ => Site.apart_markUnlessIn map site id) _).chores

theorem chores_receiveDiagnostic (status : Radio.RadioStatus) :
    d.site.Chores (d.receiveDiagnostic status).site :=
  ((Site.apart_report _ _ rfl _).trans (Site.apart_report _ _ rfl _)).chores

theorem chores_register (identity : Radio.Identity) (presence : Shadow.Presence) :
    d.site.Chores (d.register identity presence).site := by
  have hcount : d.site.Chores d.countKnown.site := by
    unfold countKnown
    split
    · exact chores_setUnknown d _
    · exact .refl _
  unfold register
  dsimp only
  split
  · exact hcount
  · next platform hregister =>
    let registered : Site := { d.countKnown.site with platform := platform }
    have hregistered : d.countKnown.site.Apart registered :=
      Site.apart_platform _ (Site.edits_updated (.register identity.id _) hregister trivial)
    have hcounted : registered.Apart (registered.count .deviceRegistered) :=
      Site.apart_count _ (by simp)
    exact hcount.trans ((hregistered.trans hcounted).trans ((Site.apart_initDevice _ _).trans
      (Site.apart_writeIdentity _ _ _))).chores

theorem chores_receiveIdentity (identity : Radio.Identity) (presence : Shadow.Presence)
    (real : Bool) : d.site.Chores (d.receiveIdentity identity presence real).site := by
  unfold receiveIdentity
  split
  · exact .refl _
  split
  · exact chores_register d identity presence
  split
  · exact (Site.apart_writeIdentity _ _ _).chores
  · exact .refl _

theorem chores_receiveRemoteId (identity : Radio.Identity) :
    d.site.Chores (d.receiveRemoteId identity).site := by
  unfold receiveRemoteId
  refine (chores_receiveIdentity d identity .online false).trans ?_
  dsimp only
  split
  · exact (chores_cancelInterrogate _).trans (chores_continueInterrogation _)
  · exact .refl _

/-! ### Learn mode -/

theorem chores_setLearnMode (enabled : Bool) (seconds : Nat) :
    d.site.Chores (d.setLearnMode enabled seconds).site := by
  have hmode (d : Discovery) (value : Value) : d.site.Chores (d.report .mode value).site :=
    chores_report d rfl _
  unfold setLearnMode
  split
  · exact .refl _
  split
  · unfold enterLearnMode
    have hlearn (d : Discovery) : d.site.Chores
        (if 0 < seconds then d.restartLearn (.ofSeconds seconds) else d.cancelLearn).site := by
      split
      · exact chores_restartLearn d _
      · exact chores_cancelLearn d
    refine .trans (.trans ?_ (chores_restartRefresh _ _)) (hlearn _)
    have hentered := hmode { d with learning := true } Shadow.Mode.learning.value
    split
    · exact hentered
    · exact hentered.trans (chores_transmit _ _)
  · have hleft := hmode { d with learning := false } Shadow.Mode.running.value
    exact hleft.trans ((chores_restartRefresh _ _).trans (chores_cancelLearn _))

/-! ### The end of a session -/

theorem chores_endTestMode : d.site.Chores d.endTestMode.site :=
  (Site.apart_reportGroup _ _ (by simp [Property.isAlarm])).chores

theorem chores_completeFlushAll : d.site.Chores d.completeFlushAll.site := by
  unfold completeFlushAll
  dsimp only
  split
  · exact (Site.apart_report _ _ rfl _).chores
  · exact .refl _

theorem chores_countFlushAll : d.site.Chores d.countFlushAll.site := by
  unfold countFlushAll
  split
  · exact .refl _
  · exact chores_completeFlushAll d
  · exact .refl _

theorem chores_closing : d.site.Chores d.closing.site := by
  have hdeleted : d.site.Chores (if d.deletesAtEnd then d.deleteOffline else d).site := by
    split
    · exact (Site.Apart.foldl (fun site id _ => Site.apart_deleteIfOffline site id) _).chores
    · exact .refl _
  exact (hdeleted.trans (chores_countFlushAll _)).trans (Site.apart_count _ (by simp)).chores

theorem chores_finishSession : d.site.Chores d.finishSession.site := by
  rw [finishSession_eq]
  have hwaits : d.closing.site.Chores
      ({ d.closing with scan := d.finished }.restartMissing .testMissingInit
        (if d.scan.rerun then rerunDelay else d.settings.missingTestPeriod)).site :=
    chores_restartMissing _ rfl _
  exact ((chores_closing d).trans hwaits).trans (chores_endTestMode _)

/-! ### The two phases -/

theorem chores_pushMap : d.site.Chores d.pushMap.site := by
  rw [pushMap_eq]
  have hsent := chores_transmit d (.updateSidMap d.scan.removal)
  exact hsent.trans (chores_restartMissing _ rfl _)

theorem chores_updateMap : d.site.Chores d.updateMap.site := by
  have hcancel := chores_cancelMissing d
  by_cases hover : d.isOver
  · rw [updateMap_of_over d hover]
    exact hcancel.trans (chores_finishSession _)
  by_cases hn : d.scan.updateCount = 0
  · by_cases hs : d.someMissing
    · rw [updateMap_of_some d hover hn hs]
      exact hcancel.trans (chores_pushMap d.cancelMissing.reduced)
    · have hfinish := hcancel.trans (chores_finishSession d.cancelMissing.unreduced)
      rw [updateMap_of_none d hover hn hs]
      split
      · exact hfinish.trans (chores_completeFlushAll _)
      · exact hfinish
  · rw [updateMap_of_sent d hover hn]
    exact hcancel.trans (chores_pushMap _)

theorem chores_runOut : d.site.Chores d.runOut.site :=
  chores_updateMap { d with scan := { d.scan with ranOutOfTime := true } }

theorem chores_cancelSession : d.site.Chores d.cancelSession.site := by
  unfold cancelSession
  split
  · exact chores_runOut d
  · exact .refl _

theorem chores_probe : d.site.Chores d.probe.site := by
  by_cases h : d.isOverdue
  · rw [probe_of_overdue d h]
    exact chores_runOut d
  have hsent := chores_transmit d (.updateSidMap d.current)
  rw [probe_of_due d h]
  split
  · exact hsent.trans (chores_restartMissing d.probed rfl _)
  · exact hsent.trans (chores_restartMissing _ rfl _)

theorem chores_probeWhenDue : d.site.Chores d.probeWhenDue.site := by
  unfold probeWhenDue
  split
  · exact chores_probe d
  · exact chores_restartMissing d rfl _

theorem chores_receiveMissing (map : SidMap) : d.site.Chores (d.receiveMissing map).site := by
  rcases Nat.eq_zero_or_pos d.scan.outstanding with ho | ho
  · by_cases hconfirmed : d.isConfirmedBy map
    · rw [receiveMissing_of_confirmed d ho hconfirmed]
      exact chores_updateMap { d with scan := { d.scan with
        updateCount := d.settings.updateDeleteCount } }
    · rw [receiveMissing_of_ignored d ho hconfirmed]
      exact .refl _
  by_cases hdue : d.isOverdue
  · rw [receiveMissing_of_overdue d ho hdue]
    exact chores_runOut d
  have hcounted : d.site.Chores (d.countReport map).site := chores_cancelMissing d
  rw [receiveMissing_of_counted d map ho hdue]
  split
  · have hmarked : (d.countReport map).site.Chores (d.countReport map).markDevices.site :=
      (Site.Apart.foldl (fun site id _ => Site.apart_markDevice _ site id) _).chores
    exact (hcounted.trans hmarked).trans (chores_updateMap _)
  · exact hcounted.trans (chores_probeWhenDue _)

theorem chores_postpone : d.site.Chores d.postpone.site := chores_restartMissing d rfl _

theorem chores_beginSession : d.site.Chores d.beginSession.site := by
  by_cases h : d.scan.active
  · rw [beginSession_of_active d h]
    exact .refl _
  by_cases hn : d.inNetwork
  · by_cases hl : d.learning
    · rw [beginSession_of_learning d h hn hl]
      exact chores_postpone d.cleared
    · have hsent := chores_transmit d.cleared (.updateSidMap d.current)
      rw [beginSession_of_joined d h hn hl]
      split
      · exact hsent.trans (chores_restartMissing { d.cleared.transmit _ with scan := _ } rfl _)
      · exact hsent.trans (chores_postpone _)
  · rw [beginSession_of_apart d h hn]
    split
    · exact (chores_completeFlushAll d.cleared).trans (chores_postpone _)
    · exact chores_postpone d.cleared

/-! ### Removing devices -/

theorem apart_reportOffline (site : Site) (id : DeviceId) :
    site.Apart (site.report id .presence Shadow.Presence.offline.value) :=
  Site.apart_report _ _ rfl _

theorem chores_beginFlushAll : d.site.Chores d.beginFlushAll.site := by
  refine (chores_cancelSession d).trans (Site.Apart.chores ?_)
  exact Site.Apart.foldl (fun site id _ => apart_reportOffline site id) _

theorem chores_flushAll : d.site.Chores d.flushAll.site := by
  unfold flushAll
  split
  · exact .refl _
  · exact (chores_beginFlushAll d).trans (chores_updateMap _)

theorem chores_flush (id : DeviceId) : d.site.Chores (d.flush id).site := by
  unfold flush
  split
  · exact .refl _
  · have hbegun := (chores_cancelSession d).trans (apart_reportOffline _ id).chores
    exact hbegun.trans (chores_updateMap (d.beginFlush id _))

/-! ### Requests and timers -/

theorem chores_startTest : d.site.Chores d.startTest.site := by
  have hcleared : d.site.Chores d.suspendInterrogation.clearTestResult.site :=
    (chores_suspendInterrogation d).trans
      (Site.apart_after _ (Site.edits_forget _ (.inl rfl))).chores
  unfold startTest
  dsimp only
  split
  · exact hcleared.trans ((chores_cancelMissing _).trans (chores_beginSession _))
  · exact hcleared.trans (chores_endTestMode _)

theorem chores_setTestMode (enabled delete : Bool) :
    d.site.Chores (d.setTestMode enabled delete).site := by
  let chosen : Discovery := { d with scan := { d.scan with delete := delete } }
  unfold setTestMode
  dsimp only
  split
  · exact .refl _
  split
  · exact chores_startTest chosen
  · exact chores_cancelSession chosen

theorem chores_onTimer (kind : TimerKind) : d.site.Chores (d.onTimer kind).site := by
  unfold onTimer
  split
  · exact chores_refresh { d with refreshTimer := none }
  · exact chores_beginSession { d with missingTimer := none, scan := _ }
  · exact chores_probe { d with missingTimer := none }
  · exact chores_probe { d with missingTimer := none }
  · exact chores_updateMap { d with missingTimer := none }
  · exact chores_setLearnMode { d with learnTimer := none } false 0
  · exact chores_continueInterrogation { d with interrogateTimer := none }
  · exact .refl _
  · exact .refl _

theorem chores_start : d.site.Chores d.start.site := by
  have hunstarted : d.site.Chores d.unstarted.site :=
    ((Site.apart_report _ _ rfl _).trans (Site.apart_report _ _ rfl _)).chores
  have hwaiting : d.site.Chores d.waiting.site :=
    (hunstarted.trans (chores_restartRefresh _ _)).trans (chores_restartMissing _ rfl _)
  exact hwaiting.trans (Site.Apart.foldl (fun site id _ => Site.apart_initDevice site id) _).chores

end Discovery

end Gateway

end AlarmMesh
