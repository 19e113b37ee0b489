import AlarmMesh.Proofs.Gateway.MapUpdate
import AlarmMesh.Proofs.Gateway.Rearming
import Mathlib.Data.List.Perm.Subperm

/-!
# Timers that are due have fired at some time

While the timers that are due fire, the clock stands still.  That ends, with no more timers fired
than were due, in every reachable engine exactly if no period among the settings is zero.  If they
are positive, a timer that fires leaves one fewer that is due.  If one is zero, some engine has a
timer that is due and is started anew by itself, due again.

It is another matter whether there are instants for the deadlines of the timers that are started.
If there are at the time, no deadline that is asked for overruns the queue.

* `Engine.due`, `Engine.SettlesTimers` — the timers that are due, and that firing them ends;
* `due_expire`, `settlesTimers_of_positive` — one timer fewer each time, and so the end;
* `intact_expire`, `intact_fireUpTo` — there is an instant for each deadline that is asked for;
* `Discovery.StartsDue`, `Engine.Recurs` — a handler starts a timer that is due already, and so does
  every timer of a kind;
* `Engine.later_of_settles` — where such timers fire one after the other there is no end;
* `newcomer`, `learner`, … — an engine whose shadow takes no reports, and from it one for each
  period;
* `settlesTimers_iff` — the result.
-/

namespace AlarmMesh.Gateway

open Config (Settings)
open Radio (DeviceId Report SidMap)
open Shadow (Property Value)
open TimerQueue (live_of_popExpired deadline_le_of_popExpired)

namespace Engine

/-- The live timers that are due. -/
def due (engine : Engine) : List Timer :=
  engine.site.timers.live.filter fun timer => timer.deadline ≤ engine.site.clock.now

/-- Firing every timer that is due comes to an end. -/
structure SettlesTimers (engine : Engine) : Prop where
  /-- The clock stands still meanwhile. -/
  now : ∀ rounds, (engine.fireUpTo rounds).site.clock = engine.site.clock
  /-- No timer that fires starts one that is due already. -/
  later : ∀ rounds kind rest, (engine.fireUpTo rounds).popDue = (some kind, rest) →
    ∀ timer ∈ (rest.fire kind).site.timers.live,
      timer ∈ rest.site.timers.live ∨ engine.site.clock.now < timer.deadline
  /-- No more timers fire than were due, and then none is. -/
  stops : ∃ fired ≤ engine.due.length, (engine.fireUpTo fired).popDue.1 = none ∧
    engine.fireDue = engine.fireUpTo fired

variable {settings : Settings} {engine : Engine} {timer : Timer} {rest : TimerQueue}

theorem mem_due : timer ∈ engine.due ↔
    timer ∈ engine.site.timers.live ∧ timer.deadline ≤ engine.site.clock.now := by
  unfold due
  rw [List.mem_filter, decide_eq_true_iff]

theorem fireUpTo_succ (rounds : Nat) (engine : Engine) :
    engine.fireUpTo (rounds + 1) = engine.expire.fireUpTo rounds := by
  rw [fireUpTo_eq, fireUpTo_eq, List.replicate_succ, moves_cons]
  rfl

theorem clock_expire (engine : Engine) : engine.expire.site.clock = engine.site.clock := by
  cases hpop : engine.site.timers.popExpired engine.site.clock.now with
  | mk popped rest =>
    have hdue := popDue_eq engine hpop
    cases popped with
    | none => rw [expire_of_none hdue]
    | some timer =>
      rw [expire_of_some hdue]
      exact (rearmed_fire (engine.popped rest) timer.kind).clock

theorem clock_fireUpTo (rounds : Nat) (engine : Engine) :
    (engine.fireUpTo rounds).site.clock = engine.site.clock := by
  induction rounds generalizing engine with
  | zero => rfl
  | succ rounds ih =>
    rw [fireUpTo_succ]
    exact (ih engine.expire).trans (clock_expire engine)

/-! ### One timer -/

section Positive

variable (hcheck : settings.check = .ok ()) (hperiods : settings.discovery.PositivePeriods)
include hcheck hperiods

/-- What a timer that fires starts is not due. -/
theorem later_of_fire (h : Reachable settings engine) {kind : TimerKind} :
    ∀ timer ∈ ((engine.popped rest).fire kind).site.timers.live,
      timer ∈ rest.live ∨ engine.site.clock.now < timer.deadline := by
  intro timer htimer
  have hrearmed := rearmed_fire (engine.popped rest) kind
  rcases hrearmed.follows.live timer htimer with hlive | ⟨-, hstarted⟩
  · exact .inl hlive
  · have hsettings : (engine.popped rest).discovery.settings = settings.discovery := h.settings_eq
    rw [hsettings] at hstarted
    exact .inr (hstarted.later (Config.Settings.check_eq_ok.1 hcheck).2.1 hperiods)

/-- A timer that fires leaves fewer timers that are due. -/
theorem due_expire (h : Reachable settings engine)
    (hpop : engine.site.timers.popExpired engine.site.clock.now = (some timer, rest)) :
    engine.expire.due.length < engine.due.length := by
  obtain ⟨hlive, -⟩ := live_of_popExpired hpop
  have hnow : engine.expire.site.clock = engine.site.clock := clock_expire engine
  have hexpire : engine.expire = (engine.popped rest).fire timer.kind :=
    expire_of_some (popDue_eq engine hpop)
  -- what is due afterwards was due before, and is not the timer that fired
  have hleft : engine.expire.due ⊆ rest.live.filter fun other =>
      other.deadline ≤ engine.site.clock.now := by
    intro other hother
    obtain ⟨hother, hdue⟩ := mem_due.1 hother
    rw [hnow] at hdue
    rw [hexpire] at hother
    rcases later_of_fire hcheck hperiods h other hother with hrest | hlater
    · exact List.mem_filter.2 ⟨hrest, decide_eq_true hdue⟩
    · exact absurd hdue (Nat.not_le_of_lt hlater)
  have hdistinct : engine.expire.due.Nodup := by
    have htied : engine.expire.Tied := (h.move .expire).tended.tied
    exact htied.distinct.of_map.filter _
  have hlength := (hdistinct.subperm hleft).length_le
  have hfirst : engine.due = timer :: rest.live.filter fun other =>
      other.deadline ≤ engine.site.clock.now := by
    unfold due
    rw [hlive]
    exact List.filter_cons_of_pos (decide_eq_true (deadline_le_of_popExpired hpop))
  rw [hfirst, List.length_cons]
  omega

/-! ### All that are due -/

/-- After so many rounds as timers are due, or more, none is. -/
theorem stops_of_due_le (h : Reachable settings engine) {rounds : Nat}
    (hrounds : engine.due.length ≤ rounds) : ∃ fired ≤ engine.due.length,
      (engine.fireUpTo fired).popDue.1 = none ∧
        engine.fireUpTo rounds = engine.fireUpTo fired := by
  induction rounds generalizing engine with
  | zero =>
    refine ⟨0, Nat.zero_le _, ?_, rfl⟩
    have hnone : engine.due = [] := List.eq_nil_of_length_eq_zero (Nat.le_zero.1 hrounds)
    cases hpop : engine.site.timers.popExpired engine.site.clock.now with
    | mk popped rest =>
      cases popped with
      | none => exact congrArg Prod.fst (popDue_eq engine hpop)
      | some timer =>
        have hfewer := due_expire hcheck hperiods h hpop
        rw [hnone] at hfewer
        exact absurd hfewer (Nat.not_lt_zero _)
  | succ rounds ih =>
    cases hpop : engine.site.timers.popExpired engine.site.clock.now with
    | mk popped rest =>
      have hdue := popDue_eq engine hpop
      cases popped with
      | none =>
        refine ⟨0, Nat.zero_le _, congrArg Prod.fst hdue, ?_⟩
        unfold fireUpTo
        rw [hdue]
        rfl
      | some timer =>
        have hfewer := due_expire hcheck hperiods h hpop
        obtain ⟨fired, hfired, hnone, hsame⟩ :=
          ih (h.move .expire) (show engine.expire.due.length ≤ rounds by omega)
        have hless : fired + 1 ≤ engine.due.length := Nat.lt_of_le_of_lt hfired hfewer
        refine ⟨fired + 1, hless, ?_, ?_⟩
        · rw [fireUpTo_succ]
          exact hnone
        · rw [fireUpTo_succ, fireUpTo_succ]
          exact hsame

/-- If no period is zero, firing every timer that is due comes to an end. -/
theorem settlesTimers_of_positive (h : Reachable settings engine) : engine.SettlesTimers where
  now rounds := clock_fireUpTo rounds engine
  later rounds kind rest hdue := by
    intro timer htimer
    have hreachable : Reachable settings (engine.fireUpTo rounds) :=
      fireUpTo_eq rounds engine ▸ h.moves _
    cases hpop : (engine.fireUpTo rounds).site.timers.popExpired
        (engine.fireUpTo rounds).site.clock.now with
    | mk popped left =>
      rw [popDue_eq _ hpop] at hdue
      obtain ⟨-, rfl⟩ := Prod.mk.inj hdue
      have hlater := later_of_fire hcheck hperiods hreachable timer htimer
      rw [clock_fireUpTo] at hlater
      exact hlater
  stops := by
    have hlimit : engine.due.length ≤ engine.fireLimit := by
      have hsize : engine.due.length ≤ engine.site.timers.size := List.length_filter_le _ _
      unfold fireLimit
      omega
    exact stops_of_due_le hcheck hperiods h hlimit

end Positive

/-! ### Deadlines that there are instants for -/

/-- A timer that fires starts no timer that is to be due when there is no instant. -/
theorem intact_expire
    (hfits : ∀ kind delay, Rearms engine.network.settings kind delay →
      Instant.fits engine.site.clock.now delay)
    (hintact : engine.site.timers.overrun = false) :
    engine.expire.site.timers.overrun = false := by
  cases hpop : engine.site.timers.popExpired engine.site.clock.now with
  | mk popped rest =>
    have hdue := popDue_eq engine hpop
    have hrest : rest.overrun = false := by
      have hsame := engine.site.timers.overrun_popExpired engine.site.clock.now
      rw [hpop] at hsame
      exact hsame.trans hintact
    cases popped with
    | none =>
      rw [expire_of_none hdue]
      exact hintact
    | some timer =>
      rw [expire_of_some hdue]
      have hrearmed := rearmed_fire (engine.popped rest) timer.kind
      exact hrearmed.follows.intact (fun _ hstarted => hstarted.deadline_lt hfits) hrest

/-- Nor do all that fire. -/
theorem intact_fireUpTo (rounds : Nat) (h : Reachable settings engine)
    (hfits : ∀ kind delay, Rearms settings.discovery kind delay →
      Instant.fits engine.site.clock.now delay)
    (hintact : engine.site.timers.overrun = false) :
    (engine.fireUpTo rounds).site.timers.overrun = false := by
  induction rounds generalizing engine with
  | zero => exact hintact
  | succ rounds ih =>
    rw [fireUpTo_succ]
    refine ih (h.move .expire) ?_ ?_
    · rw [show engine.expire.site.clock = engine.site.clock from clock_expire engine]
      exact hfits
    · exact intact_expire (h.settings_eq ▸ hfits) hintact

end Engine

/-! ### Timers that are due again -/

/-- A handler starts a timer that is due already. -/
def Discovery.StartsDue (d d' : Discovery) : Prop :=
  ∃ new ∈ d'.site.timers.live,
    d.site.timers.scheduled ≤ new.handle.number ∧ new.deadline ≤ d.site.clock.now

namespace Discovery

variable {a b c d d' : Discovery} {kind : TimerKind} {delay : Duration}

theorem StartsDue.after (h : b.StartsDue c) (h' : a.Rearmed b) : a.StartsDue c := by
  obtain ⟨new, hnew, hnumber, hdue⟩ := h
  rw [h'.clock] at hdue
  exact ⟨new, hnew, Nat.le_trans h'.follows.scheduled hnumber, hdue⟩

/-- A timer that is started without delay is due. -/
theorem StartsDue.restart {handle : Option TimerHandle} (hdelay : delay.isZero)
    (hsite : d'.site = (d.site.restart handle kind delay).2) : d.StartsDue d' := by
  have hzero : delay.nanoseconds = 0 := of_decide_eq_true hdelay
  have hscheduled := (Site.follows_cancel (fun _ => True) d.site handle).scheduled
  refine ⟨⟨(d.site.cancel handle).clock.now + delay.nanoseconds,
    ⟨(d.site.cancel handle).timers.scheduled⟩, kind⟩, ?_, hscheduled, ?_⟩
  · rw [hsite]
    exact TimerQueue.mem_schedule.2 (.inl rfl)
  · rw [hzero, Site.cancel_clock]
    exact Nat.le_refl _

theorem startsDue_refresh (h : d.refreshPeriod.isZero) : d.StartsDue d.refresh := by
  by_cases hactive : d.scan.active
  · have hrefresh : d.refresh = d.restartRefresh d.refreshPeriod := by
      unfold refresh
      rw [if_pos hactive]
    rw [hrefresh]
    exact .restart h rfl
  · have hrefresh : d.refresh =
        (d.transmit .requestSidMap).restartRefresh d.refreshPeriod := by
      unfold refresh
      rw [if_neg hactive]
      rfl
    rw [hrefresh]
    exact .after (.restart h rfl) (rearmed_transmit d _)

theorem startsDue_postpone
    (h : (if d.inNetwork then d.settings.minSpacing else d.settings.missingTestPeriod).isZero) :
    d.StartsDue d.postpone :=
  .restart h rfl

/-- In no network the test is put off by its period. -/
theorem startsDue_beginSession_apart (hidle : ¬ d.scan.active) (hn : ¬ d.inNetwork)
    (h : d.settings.missingTestPeriod.isZero) : d.StartsDue d.beginSession := by
  have hcleared : d.Rearmed d.cleared := rearmed_scan d _
  rw [beginSession_of_apart d hidle hn]
  split
  · have hnetwork := completeFlushAll_toNetwork d.cleared
    have hcounted := rearmed_completeFlushAll d.cleared
    refine .after (startsDue_postpone ?_) (hcleared.trans hcounted)
    have hapart : d.cleared.completeFlushAll.inNetwork = d.inNetwork := by rw [hnetwork]; rfl
    rw [hapart, if_neg hn, hcounted.settings]
    exact h
  · refine .after (startsDue_postpone ?_) hcleared
    rw [show d.cleared.inNetwork = d.inNetwork from rfl, if_neg hn]
    exact h

/-- In learn mode the test is put off by the time between two probes. -/
theorem startsDue_beginSession_learning (hidle : ¬ d.scan.active) (hn : d.inNetwork)
    (hl : d.learning) (h : d.settings.minSpacing.isZero) : d.StartsDue d.beginSession := by
  have hcleared : d.Rearmed d.cleared := rearmed_scan d _
  rw [beginSession_of_learning d hidle hn hl]
  refine .after (startsDue_postpone ?_) hcleared
  rw [show d.cleared.inNetwork = d.inNetwork from rfl, if_pos hn]
  exact h

theorem startsDue_updateMap (hover : ¬ d.isOver) (hn : d.scan.updateCount = 0) (hs : d.someMissing)
    (h : d.settings.updateDeletePeriod.isZero) : d.StartsDue d.updateMap := by
  let reduced := d.cancelMissing.reduced
  let sent : Discovery := { reduced.transmit (.updateSidMap reduced.scan.removal) with
    scan := { reduced.scan with updateCount := reduced.pushed } }
  have hsent : d.Rearmed sent := (rearmed_cancelMissing d).trans ((rearmed_scan _ _).trans
    ((rearmed_transmit reduced _).trans (rearmed_scan _ _)))
  have hpush : d.updateMap =
      sent.restartMissing .testMissingUpdateMap d.settings.updateDeletePeriod := by
    rw [updateMap_of_some d hover hn hs, pushMap_eq]
    rfl
  rw [hpush]
  exact .after (.restart h rfl) hsent

theorem startsDue_continueInterrogation (hactive : d.interrogation.active)
    (hfound : d.nextUnknown.1.isSome) (h : d.settings.interrogationPeriod.isZero) :
    d.StartsDue d.continueInterrogation := by
  obtain ⟨sid, hsid⟩ := Option.isSome_iff_exists.1 hfound
  have hlooked : d.Rearmed { d with interrogation := d.nextUnknown.2 } := .of_eq rfl rfl rfl
  rw [continueInterrogation_of_some hactive hsid]
  exact .after (.restart h rfl) (hlooked.trans (rearmed_transmit _ _))

end Discovery

namespace Engine

/-- Whatever else is in the queue, a timer of this kind that fires starts one that is due. -/
def Recurs (engine : Engine) (kind : TimerKind) : Prop :=
  ∀ rest, (engine.popped rest).discovery.StartsDue ((engine.popped rest).fire kind).discovery

variable {settings : Settings} {engine : Engine}

/-- If only such timers are due, some of them are due for ever. -/
theorem later_of_settles (h : Reachable settings engine) (hsettles : engine.SettlesTimers)
    (hrecurs : ∀ timer ∈ engine.due, engine.Recurs timer.kind) :
    ∀ timer ∈ engine.site.timers.live, engine.site.clock.now < timer.deadline := by
  intro timer htimer
  by_contra hnot
  have hdue : timer.deadline ≤ engine.site.clock.now := Nat.le_of_not_lt hnot
  obtain ⟨first, rest, hpop, -⟩ :=
    TimerQueue.popExpired_of_within (TimerQueue.within_of_mem h.sorted htimer) hdue
  obtain ⟨hlive, hscheduled⟩ := live_of_popExpired hpop
  have hfirst : first ∈ engine.due := by
    refine mem_due.2 ⟨?_, deadline_le_of_popExpired hpop⟩
    rw [hlive]
    exact List.mem_cons_self
  obtain ⟨new, hnew, hnumber, hagain⟩ := hrecurs first hfirst rest
  rcases hsettles.later 0 first.kind _ (popDue_eq engine hpop) new hnew with hold | hlater
  · -- its handle is none that was given out before
    have hbefore : new ∈ engine.site.timers.live := by
      rw [hlive]
      exact List.mem_cons_of_mem _ hold
    have hfresh := h.tended.tied.fresh new hbefore
    rw [← hscheduled] at hfresh
    exact absurd hnumber (Nat.not_le_of_lt hfresh)
  · exact absurd hagain (Nat.not_le_of_lt hlater)

/-! ### Kinds of timers -/

theorem recurs_refresh (h : engine.discovery.refreshPeriod.isZero) :
    engine.Recurs .retrieveSidMap := by
  intro rest
  let fired : Discovery := { (engine.popped rest).discovery with refreshTimer := none }
  have hfired : (engine.popped rest).discovery.Rearmed fired := .of_eq rfl rfl rfl
  exact .after (fired.startsDue_refresh h) hfired

theorem recurs_init_apart (hidle : ¬ engine.network.scan.active) (hn : ¬ engine.network.inNetwork)
    (h : engine.network.settings.missingTestPeriod.isZero) : engine.Recurs .testMissingInit := by
  intro rest
  let fired : Discovery := { (engine.popped rest).discovery with
    missingTimer := none, scan := { engine.network.scan with delete := true } }
  have hfired : (engine.popped rest).discovery.Rearmed fired := .of_eq rfl rfl rfl
  exact .after (fired.startsDue_beginSession_apart hidle hn h) hfired

theorem recurs_init_learning (hidle : ¬ engine.network.scan.active) (hn : engine.network.inNetwork)
    (hl : engine.network.learning) (h : engine.network.settings.minSpacing.isZero) :
    engine.Recurs .testMissingInit := by
  intro rest
  let fired : Discovery := { (engine.popped rest).discovery with
    missingTimer := none, scan := { engine.network.scan with delete := true } }
  have hfired : (engine.popped rest).discovery.Rearmed fired := .of_eq rfl rfl rfl
  exact .after (fired.startsDue_beginSession_learning hidle hn hl h) hfired

theorem recurs_update (hover : ¬ engine.discovery.isOver)
    (hn : engine.network.scan.updateCount = 0) (hs : engine.discovery.someMissing)
    (h : engine.network.settings.updateDeletePeriod.isZero) :
    engine.Recurs .testMissingUpdateMap := by
  intro rest
  let fired : Discovery := { (engine.popped rest).discovery with missingTimer := none }
  have hfired : (engine.popped rest).discovery.Rearmed fired := .of_eq rfl rfl rfl
  exact .after (fired.startsDue_updateMap hover hn hs h) hfired

theorem recurs_interrogate (hactive : engine.network.interrogation.active)
    (hfound : engine.discovery.nextUnknown.1.isSome)
    (h : engine.network.settings.interrogationPeriod.isZero) : engine.Recurs .interrogate := by
  intro rest
  let fired : Discovery := { (engine.popped rest).discovery with interrogateTimer := none }
  have hfired : (engine.popped rest).discovery.Rearmed fired := .of_eq rfl rfl rfl
  exact .after (fired.startsDue_continueInterrogation hactive hfound h) hfired

/-- The delay of a timer that was started just now is positive, if the timer would recur otherwise
and no other one is due. -/
theorem delay_of_settles (h : Reachable settings engine) (hsettles : engine.SettlesTimers)
    {kept : TimerQueue} {now : Instant} {kind : TimerKind} {delay : Duration}
    (hnow : engine.site.clock.now = now)
    (htimers : engine.site.timers = (kept.schedule now kind delay).2)
    (hkept : ∀ timer ∈ kept.live, now < timer.deadline)
    (hrecurs : delay.isZero → engine.Recurs kind) : delay.isZero = false := by
  by_contra hzero
  rw [Bool.not_eq_false] at hzero
  have hlater := later_of_settles h hsettles fun timer htimer => by
    obtain ⟨hlive, hdue⟩ := mem_due.1 htimer
    rw [htimers] at hlive
    rw [hnow] at hdue
    rcases TimerQueue.mem_schedule.1 hlive with rfl | hother
    · exact hrecurs hzero
    · exact absurd hdue (Nat.not_le_of_lt (hkept timer hother))
  rw [htimers, hnow] at hlater
  have hnew := hlater _ (TimerQueue.mem_schedule.2 (.inl rfl))
  have hnanoseconds : delay.nanoseconds = 0 := of_decide_eq_true hzero
  rw [hnanoseconds] at hnew
  exact Nat.lt_irrefl _ hnew

end Engine

/-! ### An engine for each period -/

/-- A shadow of the three devices that can be read and takes no reports. -/
def readOnly : Shadow.Platform :=
  { threeDevices with outages := [⟨.register, none⟩, ⟨.setReported, none⟩, ⟨.subscribe, none⟩] }

/-- The slots of the three devices. -/
def threeSlots : SidMap := ⟨0xe0⟩

namespace Site

variable {site : Site} (h : site.platform = readOnly)
include h

theorem report_readOnly (id : DeviceId) (property : Property) (value : Value) :
    site.report id property value = site := by
  unfold report Shadow.Platform.setReported
  rw [h]
  rfl

theorem subscribe_readOnly (id : DeviceId) (property : Property) :
    site.subscribe id property = site := by
  unfold subscribe Shadow.Platform.subscribe
  rw [h]
  rfl

theorem initDevice_readOnly (id : DeviceId) : site.initDevice id = site := by
  unfold initDevice
  dsimp only
  rw [report_readOnly h, report_readOnly h, ite_self, report_readOnly h, report_readOnly h]
  exact List.foldl_fixed' (fun property => subscribe_readOnly h id property) _

theorem greeted_readOnly : greeted site = site := by
  have hregister : Engine.registerGateway site = site := by
    unfold Engine.registerGateway Shadow.Platform.register
    rw [h]
    rfl
  have hinitial (entry : Property × Value) : Engine.reportInitial site entry = site := by
    unfold Engine.reportInitial
    rw [report_readOnly h, ite_self]
  unfold greeted
  rw [hregister, List.foldl_fixed' hinitial, report_readOnly h]
  exact List.foldl_fixed' (fun property => subscribe_readOnly h .gateway property) _

theorem knownSids_readOnly : site.knownSids = threeSlots := by
  unfold knownSids meshDevices devices slotOf
  rw [h]
  decide +kernel

end Site

section Engines

variable (settings : Settings)

/-- The two regular timers, from the start on. -/
def regularTimers : TimerQueue :=
  ((({} : TimerQueue).schedule 0 .retrieveSidMap settings.discovery.startupFetch).2.schedule 0
    .testMissingInit settings.discovery.missingTestPeriod).2

/-- An engine after its start that has no buffers, and whose shadow takes no reports. -/
def newcomer : Engine where
  site :=
    { platform := readOnly, pool := .ofSlots 0, clock := { unix := 0 }
      timers := regularTimers settings }
  network :=
    { settings := settings.discovery, refreshTimer := some ⟨0⟩, missingTimer := some ⟨1⟩ }
  incidents := { settings := settings.events }

theorem started_readOnly :
    Engine.started settings readOnly (.ofSlots 0) { unix := 0 } [] = newcomer settings := by
  unfold Engine.started
  rw [start_eq, Site.greeted_readOnly rfl]
  unfold Discovery.start Discovery.report Discovery.onSite
  dsimp only
  rw [Site.report_readOnly rfl, Site.report_readOnly rfl,
    List.foldl_fixed' (Site.initDevice_readOnly rfl)]
  rfl

/-- In learn mode, and in no network so far. -/
def learner : Engine := (newcomer settings).move (.control (.learn true 0))

/-- Learn mode is over again. -/
def resumed : Engine := (learner settings).move (.control (.learn false 0))

/-- A SID map arrives that has these of the first eight slots and no others. -/
def mapFrame (slots : UInt8) : List UInt8 := [0xd4, 3, slots, 0, 0, 0, 0, 0, 0, 0]

/-- The slots of the three devices are in the network. -/
def joinedLearner : Engine := (learner settings).move (.receive (mapFrame 0xe1))

/-- A test was asked for, which learn mode puts off. -/
def puttingOff : Engine := (joinedLearner settings).move (.control (.beginScan true))

/-- A device is to be removed, and the map without it cannot be sent. -/
def retrying : Engine := (joinedLearner settings).move (.control (.flush (.ofNat 7)))

/-- Beside the slots of the three devices others are in the network, which are asked. -/
def asking : Engine := (learner settings).move (.receive (mapFrame 0xff))

theorem reachable_learner : Reachable settings (learner settings) := by
  have hnewcomer : Reachable settings (newcomer settings) := by
    rw [← started_readOnly]
    exact .start _ _ _ _
  exact hnewcomer.move _

theorem reachable_joinedLearner : Reachable settings (joinedLearner settings) :=
  .move _ (reachable_learner settings)

theorem learner_eq :
    (learner settings).site.clock.now = 0 ∧
      (learner settings).site.timers =
        (((regularTimers settings).cancel ⟨0⟩).2.schedule 0 .retrieveSidMap
          settings.discovery.learnRefresh).2 ∧
      (learner settings).discovery.refreshPeriod = settings.discovery.learnRefresh ∧
      (learner settings).network.scan.active = false ∧
      (learner settings).network.inNetwork = false :=
  ⟨rfl, rfl, rfl, rfl, rfl⟩

theorem mem_learner {timer : Timer} : timer ∈ (learner settings).site.timers.live ↔
    timer = ⟨settings.discovery.learnRefresh.nanoseconds, ⟨2⟩, .retrieveSidMap⟩ ∨
      timer = ⟨settings.discovery.missingTestPeriod.nanoseconds, ⟨1⟩, .testMissingInit⟩ := by
  obtain ⟨-, htimers, -⟩ := learner_eq settings
  rw [htimers, TimerQueue.mem_schedule, TimerQueue.mem_cancel]
  unfold regularTimers
  rw [TimerQueue.mem_schedule, TimerQueue.mem_schedule]
  simp only [Nat.zero_add]
  constructor
  · rintro (rfl | ⟨rfl | rfl | hnone, hne⟩)
    · exact .inl rfl
    · exact .inr rfl
    · exact absurd rfl hne
    · cases hnone
  · rintro (rfl | rfl)
    · exact .inl rfl
    · exact .inr ⟨.inl rfl, nofun⟩

theorem resumed_eq :
    (resumed settings).site.clock.now = 0 ∧
      (resumed settings).site.timers =
        (((learner settings).site.timers.cancel ⟨2⟩).2.schedule 0 .retrieveSidMap
          settings.discovery.normalRefresh).2 ∧
      (resumed settings).discovery.refreshPeriod = settings.discovery.normalRefresh :=
  ⟨rfl, rfl, rfl⟩

/-- The learner has taken a SID map over and is about to look for unknown slots. -/
def told (frame : List UInt8) (map : SidMap) (unknown : Nat) : Discovery :=
  let joined := { ((learner settings).counted frame).discovery with inNetwork := true }
  let asked := joined.requestDiagnostics
  { asked with
    current := map, unknown := unknown, site := { asked.site with unknownGauge := some unknown } }

theorem receive_learner (frame : List UInt8) (map : SidMap) (unknown : Nat)
    (hframe : Report.decode frame = .ok (.sidMap map)) (hjoined : map.inNetwork)
    (hunknown : (map.difference threeSlots).count - 1 = unknown) :
    (learner settings).receive frame =
      (told settings frame map unknown).checkInterrogation.among (learner settings).incidents := by
  rw [Engine.receive_sidMap _ hframe]
  unfold Engine.onNetwork Discovery.receiveSidMap Discovery.setUnknown Discovery.report
    Discovery.onSite
  dsimp only
  rw [Site.report_readOnly rfl, Site.knownSids_readOnly rfl, Site.report_readOnly rfl, hjoined,
    hunknown]
  rfl

/-- No slot is unknown. -/
theorem joinedLearner_eq : joinedLearner settings =
    (told settings (mapFrame 0xe1) ⟨0xe1⟩ 0).among (learner settings).incidents :=
  receive_learner settings (mapFrame 0xe1) ⟨0xe1⟩ 0 (by decide) (by decide +kernel)
    (by decide +kernel)

theorem puttingOff_eq :
    (puttingOff settings).site.clock.now = 0 ∧
      (puttingOff settings).site.timers =
        (((learner settings).site.timers.cancel ⟨1⟩).2.schedule 0 .testMissingInit
          settings.discovery.minSpacing).2 ∧
      (puttingOff settings).network.scan.active = false ∧
      (puttingOff settings).network.inNetwork = true ∧
      (puttingOff settings).network.learning = true := by
  unfold puttingOff
  rw [joinedLearner_eq]
  exact ⟨rfl, rfl, rfl, rfl, rfl⟩

variable {settings}

theorem retrying_eq (h : settings.discovery.updateDeleteCount ≠ 0) :
    (retrying settings).site.clock.now = 0 ∧
      (retrying settings).site.timers =
        (((learner settings).site.timers.cancel ⟨1⟩).2.schedule 0 .testMissingUpdateMap
          settings.discovery.updateDeletePeriod).2 ∧
      (retrying settings).discovery.isOver = false ∧
      (retrying settings).network.scan.updateCount = 0 ∧
      (retrying settings).discovery.someMissing = true := by
  let begun := (told settings (mapFrame 0xe1) ⟨0xe1⟩ 0).aimAt (.ofList [7])
  have hover : begun.isOver = false := by
    have hnone : begun.mapUpdated = false :=
      decide_eq_false (Nat.not_le_of_lt (Nat.pos_of_ne_zero h))
    unfold Discovery.isOver
    rw [hnone]
    rfl
  have hmissing : begun.someMissing := by
    show decide (SidMap.difference ⟨0xe1⟩ (.ofList [7]) ≠ ⟨0xe1⟩) = true
    decide +kernel
  have hflush : retrying settings = begun.updateMap.among (learner settings).incidents := by
    unfold retrying
    rw [joinedLearner_eq]
    rfl
  rw [hflush, begun.updateMap_of_some (ne_true_of_eq_false hover) rfl hmissing,
    Discovery.pushMap_eq]
  refine ⟨rfl, rfl, hover, rfl, ?_⟩
  -- the map that could not be sent is now what is missing
  let kept := SidMap.difference ⟨0xe1⟩ (.ofList [7])
  show decide (SidMap.difference ⟨0xe1⟩ (if kept.count = 1 then .empty else kept) ≠ ⟨0xe1⟩) = true
  decide +kernel

/-- A slot where no device is known to be is found at once, if it was never asked. -/
theorem nextUnknown_readOnly {d : Discovery} (map : SidMap) (sid : UInt8)
    (hsite : d.site.platform = readOnly) (hcurrent : d.current = map)
    (hgateway : d.gatewaySid = Radio.unlearntSid) (hmost : d.settings.maxInterrogations ≠ 0)
    (hcursor : d.interrogation.cursor = sid)
    (hnever : d.interrogation.attempts.getD sid.toNat 0 = 0) (hoccupied : map.contains sid)
    (hunknown : sid ≠ Radio.unlearntSid && !threeSlots.contains sid) :
    d.nextUnknown = (some sid, { d.interrogation with
      cursor := (sid + 1) % 64, attempts := d.interrogation.attempts.set sid.toNat 1 }) := by
  have hfew : 0 < d.settings.maxInterrogations.toNat :=
    Nat.pos_of_ne_zero fun hzero => hmost (UInt8.toNat_inj.1 hzero)
  unfold Discovery.nextUnknown
  rw [Site.knownSids_readOnly hsite, hgateway, hcurrent]
  unfold Radio.slotCount Interrogation.next
  dsimp only
  rw [hcursor, hoccupied, hunknown, hnever, decide_eq_true hfew]
  rfl

theorem asking_eq (h : settings.discovery.maxInterrogations ≠ 0) :
    (asking settings).site.clock.now = 0 ∧
      (asking settings).site.timers =
        ((learner settings).site.timers.schedule 0 .interrogate
          settings.discovery.interrogationPeriod).2 ∧
      (asking settings).network.interrogation.active = true ∧
      (asking settings).discovery.nextUnknown.1.isSome = true := by
  let begun : Discovery :=
    { told settings (mapFrame 0xff) ⟨0xff⟩ 4 with interrogation := { active := true } }
  have hbegun : asking settings = begun.continueInterrogation.among (learner settings).incidents :=
    receive_learner settings (mapFrame 0xff) ⟨0xff⟩ 4 (by decide) (by decide +kernel)
      (by decide +kernel)
  have hfirst := nextUnknown_readOnly (d := begun) ⟨0xff⟩ 0 rfl rfl rfl h rfl rfl (by decide)
    (by decide)
  rw [hbegun, Discovery.continueInterrogation_of_some rfl (congrArg Prod.fst hfirst), hfirst]
  refine ⟨rfl, rfl, rfl, ?_⟩
  rw [nextUnknown_readOnly ⟨0xff⟩ 1 rfl rfl rfl h rfl rfl (by decide) (by decide)]
  rfl

/-- In learn mode and in no network both regular timers start themselves anew. -/
theorem positive_learner (h : (learner settings).SettlesTimers) :
    settings.discovery.learnRefresh.isZero = false ∧
      settings.discovery.missingTestPeriod.isZero = false := by
  obtain ⟨hnow, -, hperiod, hidle, hapart⟩ := learner_eq settings
  have hlater := Engine.later_of_settles (reachable_learner settings) h fun timer htimer => by
    obtain ⟨hlive, hdue⟩ := Engine.mem_due.1 htimer
    rw [hnow] at hdue
    rcases (mem_learner settings).1 hlive with rfl | rfl
    · have hzero : settings.discovery.learnRefresh.isZero := decide_eq_true (Nat.le_zero.1 hdue)
      exact Engine.recurs_refresh (hperiod ▸ hzero)
    · have hzero : settings.discovery.missingTestPeriod.isZero :=
        decide_eq_true (Nat.le_zero.1 hdue)
      refine Engine.recurs_init_apart ?_ ?_ ?_
      · exact ne_true_of_eq_false hidle
      · exact ne_true_of_eq_false hapart
      · rw [(reachable_learner settings).settings_eq]
        exact hzero
  rw [hnow] at hlater
  constructor
  · exact Duration.isZero_eq_false.2 (hlater _ ((mem_learner settings).2 (.inl rfl)))
  · exact Duration.isZero_eq_false.2 (hlater _ ((mem_learner settings).2 (.inr rfl)))

section Later

variable (hlearner : ∀ timer ∈ (learner settings).site.timers.live, 0 < timer.deadline)
include hlearner

/-- No timer of the learner's is due, whichever is stopped. -/
theorem later_cancel (handle : TimerHandle) :
    ∀ timer ∈ ((learner settings).site.timers.cancel handle).2.live, 0 < timer.deadline :=
  fun timer htimer => hlearner timer (TimerQueue.mem_cancel.1 htimer).1

/-- Outside of learn mode the regular request starts itself anew. -/
theorem positive_resumed (h : (resumed settings).SettlesTimers) :
    settings.discovery.normalRefresh.isZero = false := by
  obtain ⟨hnow, htimers, hperiod⟩ := resumed_eq settings
  have hreachable : Reachable settings (resumed settings) := .move _ (reachable_learner settings)
  refine Engine.delay_of_settles hreachable h hnow htimers (later_cancel hlearner _) ?_
  intro hzero
  exact Engine.recurs_refresh (hperiod ▸ hzero)

/-- A test that learn mode puts off starts its timer anew. -/
theorem positive_puttingOff (h : (puttingOff settings).SettlesTimers) :
    settings.discovery.minSpacing.isZero = false := by
  obtain ⟨hnow, htimers, hidle, hjoined, hlearning⟩ := puttingOff_eq settings
  have hreachable : Reachable settings (puttingOff settings) :=
    .move _ (reachable_joinedLearner settings)
  refine Engine.delay_of_settles hreachable h hnow htimers (later_cancel hlearner _) ?_
  intro hzero
  refine Engine.recurs_init_learning (ne_true_of_eq_false hidle) hjoined hlearning ?_
  rw [hreachable.settings_eq]
  exact hzero

/-- The map that cannot be sent is tried again. -/
theorem positive_retrying (hcount : settings.discovery.updateDeleteCount ≠ 0)
    (h : (retrying settings).SettlesTimers) :
    settings.discovery.updateDeletePeriod.isZero = false := by
  obtain ⟨hnow, htimers, hover, hnone, hsome⟩ := retrying_eq hcount
  have hreachable : Reachable settings (retrying settings) :=
    .move _ (reachable_joinedLearner settings)
  refine Engine.delay_of_settles hreachable h hnow htimers (later_cancel hlearner _) ?_
  intro hzero
  refine Engine.recurs_update (ne_true_of_eq_false hover) hnone hsome ?_
  rw [hreachable.settings_eq]
  exact hzero

/-- The next slot is asked. -/
theorem positive_asking (hmost : settings.discovery.maxInterrogations ≠ 0)
    (h : (asking settings).SettlesTimers) :
    settings.discovery.interrogationPeriod.isZero = false := by
  obtain ⟨hnow, htimers, hactive, hfound⟩ := asking_eq hmost
  have hreachable : Reachable settings (asking settings) := .move _ (reachable_learner settings)
  refine Engine.delay_of_settles hreachable h hnow htimers hlearner ?_
  intro hzero
  refine Engine.recurs_interrogate hactive hfound ?_
  rw [hreachable.settings_eq]
  exact hzero

end Later

end Engines

/-! ### All settings -/

/-- With settings that pass their check, firing every timer that is due comes to an end in every
reachable engine exactly if none of the periods is zero that timers are started with again.  No
deadline overruns the queue meanwhile, if at that time there are instants after all delays that
timers are started with again. -/
theorem settlesTimers_iff {settings : Settings} (hcheck : settings.check = .ok ()) :
    ((∀ engine, Reachable settings engine → engine.SettlesTimers) ↔
      settings.discovery.PositivePeriods) ∧
    ∀ engine, Reachable settings engine → engine.site.timers.overrun = false →
      (∀ kind delay, Rearms settings.discovery kind delay →
        Instant.fits engine.site.clock.now delay) →
      ∀ rounds, (engine.fireUpTo rounds).site.timers.overrun = false := by
  refine ⟨⟨?_, ?_⟩, fun engine hreachable hintact hfits rounds =>
    Engine.intact_fireUpTo rounds hreachable hfits hintact⟩
  · intro h
    obtain ⟨-, -, hcount, hmost⟩ :=
      Config.DiscoverySettings.check_eq_ok.1 (Config.Settings.check_eq_ok.1 hcheck).2.1
    have hsettles := h _ (reachable_learner settings)
    obtain ⟨hlearn, htest⟩ := positive_learner hsettles
    have hlater : ∀ timer ∈ (learner settings).site.timers.live, 0 < timer.deadline := by
      intro timer htimer
      rcases (mem_learner settings).1 htimer with rfl | rfl
      · exact Duration.isZero_eq_false.1 hlearn
      · exact Duration.isZero_eq_false.1 htest
    exact
      { normalRefresh := positive_resumed hlater (h _ (.move _ (reachable_learner settings)))
        learnRefresh := hlearn
        missingTestPeriod := htest
        minSpacing := positive_puttingOff hlater (h _ (.move _ (reachable_joinedLearner settings)))
        updateDeletePeriod :=
          positive_retrying hlater hcount (h _ (.move _ (reachable_joinedLearner settings)))
        interrogationPeriod :=
          positive_asking hlater hmost (h _ (.move _ (reachable_learner settings))) }
  · intro hperiods engine hreachable
    exact Engine.settlesTimers_of_positive hcheck hperiods hreachable

/-- Settings with which an unknown slot has no time to answer. -/
def askingAtOnce : Settings := { discovery := { interrogationPeriod := ⟨0⟩ } }

/-- An engine whose two regular timers are due after eighteen hours. -/
def overdue : Engine := joined.move (.advance (.ofSeconds 64800))

/-- The two timers fire and that is it.  Without a time to answer some engine has no such end,
though the settings pass their check. -/
theorem settlesTimers_iff_overdue :
    overdue.due.length = 2 ∧ overdue.SettlesTimers ∧
      (overdue.fireUpTo 2).site.timers.overrun = false ∧ askingAtOnce.check = .ok () ∧
      ∃ engine, Reachable askingAtOnce engine ∧ ¬ engine.SettlesTimers := by
  have hchecked : ({} : Settings).check = .ok () := by decide
  obtain ⟨hsettles, hintact⟩ := settlesTimers_iff hchecked
  have hreachable : Reachable {} overdue := reachable_joined.move _
  have hfits : ∀ kind delay, Rearms ({} : Settings).discovery kind delay →
      Instant.fits overdue.site.clock.now delay := by
    have hnow : overdue.site.clock.now = 64800000000000 := by decide +kernel
    rw [hnow]
    intro kind delay hrearms
    cases hrearms <;> decide
  have hatOnce : askingAtOnce.check = .ok () := by decide
  refine ⟨by decide +kernel, hsettles.2 ⟨rfl, rfl, rfl, rfl, rfl, rfl⟩ overdue hreachable,
    hintact overdue hreachable (by decide +kernel) hfits 2, hatOnce, ?_⟩
  by_contra hall
  have hpositive := (settlesTimers_iff hatOnce).1.1 fun engine hreachable =>
    Classical.byContradiction fun hnot => hall ⟨engine, hreachable, hnot⟩
  exact absurd hpositive.interrogationPeriod (by decide)

end AlarmMesh.Gateway
