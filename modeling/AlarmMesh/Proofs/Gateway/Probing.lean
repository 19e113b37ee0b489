import AlarmMesh.Proofs.Gateway.Lapse

/-!
# Which steps send a probe

A session sends its first probe when it begins.  A further one is sent by a timer, or at once when a
report leaves the question open, and in both cases enough time has passed since the last one: the
timer was set to that time, and a report that comes too early sets it.  Time may pass during such a
step: a probe goes out after the look at the clock that allows it and before the one that is noted.

* `Discovery.MayProbe` — what a further probe is sent by;
* `Discovery.Spaced d start last` — the session began at `start`, its last probe is noted for
  `last`, and nothing that is live sends another one too early;
* `Discovery.Spares d d'` — a step that leaves all this alone;
* `Discovery.NoSooner d d'` — a step after which no probe is sent sooner than before it;
* `Discovery.Probing d asked sent d'` — a step of the test sends no probe, the first one, or a
  further one that is allowed at the time `asked` and goes out at the time `sent`;
* `probing_updateMap`, `probing_probeWithin`, `probing_beginSession`, … — every step is one of these;
* `Engine.probing_stride` — and so is every move, however much time it takes.
-/

namespace AlarmMesh.Gateway

open Radio (DeviceId Report SidMap)
open Shadow (Mode)

namespace Discovery

variable {d d' e : Discovery} {incidents : Incidents} {kind : TimerKind} {lapse : Lapse}
  {start last asked sent : Instant}

/-- A probe is unanswered, or a timer is live that sends one. -/
def MayProbe (d : Discovery) : Prop :=
  0 < d.scan.outstanding ∨ ∃ timer ∈ d.site.timers.live, timer.kind.probes

/-- The session began at `start`, its last probe is noted for `last`, and no live timer sends
another one before its time. -/
structure Spaced (d : Discovery) (start last : Instant) : Prop where
  started : d.scan.started = some start
  lastRequest : d.scan.lastRequest = some last
  past : last ≤ d.site.clock.now
  timers : ∀ timer ∈ d.site.timers.live, timer.kind.probes →
    last + d.settings.minSpacing.nanoseconds ≤ timer.deadline

/-! ### Steps that leave the probes alone -/

/-- The step sends no map and starts no timer that sends a probe, nor is one due sooner after it,
and the session and its last probe are the same as before. -/
structure Spares (d d' : Discovery) : Prop where
  settings : d'.settings = d.settings
  current : d'.current = d.current
  now : d.site.clock.now ≤ d'.site.clock.now
  maps : d'.site.maps = d.site.maps
  active : d'.scan.active = d.scan.active
  started : d'.scan.started = d.scan.started
  lastRequest : d'.scan.lastRequest = d.scan.lastRequest
  updateCount : d'.scan.updateCount = d.scan.updateCount
  outstanding : d'.scan.outstanding ≤ d.scan.outstanding
  timers : ∀ timer ∈ d'.site.timers.live, timer.kind.probes →
    ∃ other ∈ d.site.timers.live, other.kind = timer.kind ∧ other.deadline ≤ timer.deadline

/-- What is live still is due when it was. -/
theorem exists_of_still_live {live still : List Timer} (h : ∀ timer ∈ still, timer ∈ live) :
    ∀ timer ∈ still, timer.kind.probes →
      ∃ other ∈ live, other.kind = timer.kind ∧ other.deadline ≤ timer.deadline :=
  fun timer ht _ => ⟨timer, h timer ht, rfl, Nat.le_refl _⟩

theorem Spares.refl (d : Discovery) : d.Spares d :=
  ⟨rfl, rfl, Nat.le_refl _, rfl, rfl, rfl, rfl, rfl, Nat.le_refl _,
    exists_of_still_live fun _ ht => ht⟩

theorem Spares.trans {a b c : Discovery} (h : a.Spares b) (h' : b.Spares c) : a.Spares c where
  settings := h'.settings.trans h.settings
  current := h'.current.trans h.current
  now := Nat.le_trans h.now h'.now
  maps := h'.maps.trans h.maps
  active := h'.active.trans h.active
  started := h'.started.trans h.started
  lastRequest := h'.lastRequest.trans h.lastRequest
  updateCount := h'.updateCount.trans h.updateCount
  outstanding := Nat.le_trans h'.outstanding h.outstanding
  timers timer ht hp := by
    obtain ⟨middle, hm, hkind', hle'⟩ := h'.timers timer ht hp
    obtain ⟨other, ho, hkind, hle⟩ := h.timers middle hm (hkind' ▸ hp)
    exact ⟨other, ho, hkind.trans hkind', Nat.le_trans hle hle'⟩

theorem Spares.mayProbe (h : d.Spares d') (hmay : d'.MayProbe) : d.MayProbe := by
  rcases hmay with houtstanding | ⟨timer, ht, hp⟩
  · exact .inl (Nat.lt_of_lt_of_le houtstanding h.outstanding)
  · obtain ⟨other, ho, hkind, -⟩ := h.timers timer ht hp
    exact .inr ⟨other, ho, hkind ▸ hp⟩

theorem Spares.spaced (h : d.Spares d') (hspaced : d.Spaced start last) :
    d'.Spaced start last where
  started := h.started.trans hspaced.started
  lastRequest := h.lastRequest.trans hspaced.lastRequest
  past := Nat.le_trans hspaced.past h.now
  timers timer ht hp := by
    obtain ⟨other, ho, hkind, hle⟩ := h.timers timer ht hp
    rw [h.settings]
    exact Nat.le_trans (hspaced.timers other ho (hkind ▸ hp)) hle

/-- Something silent happens at the site. -/
theorem spares_silent (d : Discovery) {site : Site} (h : d.site.Silent site) :
    d.Spares { d with site := site } :=
  ⟨rfl, rfl, Nat.le_of_eq (congrArg Clock.now h.clock.symm), h.maps, rfl, rfl, rfl, rfl,
    Nat.le_refl _, exists_of_still_live fun _ ht => h.timers ▸ ht⟩

/-- A timer is stopped. -/
theorem spares_cancel (d : Discovery) (handle : Option TimerHandle) :
    d.Spares { d with site := d.site.cancel handle } :=
  ⟨rfl, rfl, Nat.le_of_eq (congrArg Clock.now (Site.cancel_clock _ _).symm),
    Site.cancel_maps _ _, rfl, rfl, rfl, rfl, Nat.le_refl _,
    exists_of_still_live fun _ => Site.mem_cancel⟩

/-- Time passes. -/
theorem spares_pass (d : Discovery) (time : Duration) : d.Spares (d.pass time) :=
  ⟨rfl, rfl, Nat.le_add_right _ _, rfl, rfl, rfl, rfl, rfl, Nat.le_refl _,
    exists_of_still_live fun _ ht => ht⟩

/-- The clock was read later than it stands. -/
theorem spares_delayed (d : Discovery) (lapse : Lapse) :
    d.Spares (d.onSite fun site => site.delayed lapse) := by
  have hlater := TimerQueue.postponed_foldl lapse.deferrals d.site.timers
  refine ⟨rfl, rfl, Nat.le_add_right _ _, rfl, rfl, rfl, rfl, rfl, Nat.le_refl _, ?_⟩
  intro timer ht _
  obtain ⟨other, ho, -, hkind, hle⟩ := hlater.noSooner timer ht
  exact ⟨other, ho, hkind, hle⟩

theorem spares_cancelMissing (d : Discovery) : d.Spares d.cancelMissing := by
  obtain ⟨_, _, hnow, hmaps, _, _, _, _, _, htimers⟩ := d.spares_cancel d.missingTimer
  exact ⟨rfl, rfl, hnow, hmaps, rfl, rfl, rfl, rfl, Nat.le_refl _, htimers⟩

theorem spares_choose (d : Discovery) (delete : Bool) :
    d.Spares { d with scan := { d.scan with delete := delete } } :=
  ⟨rfl, rfl, Nat.le_refl _, rfl, rfl, rfl, rfl, rfl, Nat.le_refl _,
    exists_of_still_live fun _ ht => ht⟩

theorem spares_countReport (d : Discovery) (map : SidMap) : d.Spares (d.countReport map) := by
  obtain ⟨_, _, hnow, hmaps, _, _, _, _, _, htimers⟩ := d.spares_cancel d.missingTimer
  exact ⟨rfl, rfl, hnow, hmaps, rfl, rfl, rfl, rfl, Nat.sub_le _ _, htimers⟩

theorem spares_suspendInterrogation (d : Discovery) : d.Spares d.suspendInterrogation := by
  have hoff (d : Discovery) : d.Spares (d.setInterrogating false) := by
    have hreported := d.spares_silent
      (Site.silent_report d.site .gateway .interrogating (.bool false))
    obtain ⟨_, _, hnow, hmaps, _, _, _, _, _, htimers⟩ := hreported
    exact ⟨rfl, rfl, hnow, hmaps, rfl, rfl, rfl, rfl, Nat.le_refl _, htimers⟩
  unfold suspendInterrogation
  refine .trans ?_ (hoff _)
  split
  · obtain ⟨_, _, hnow, hmaps, _, _, _, _, _, htimers⟩ := d.spares_cancel d.interrogateTimer
    exact ⟨rfl, rfl, hnow, hmaps, rfl, rfl, rfl, rfl, Nat.le_refl _, htimers⟩
  · exact .refl d

/-! ### Timers that send no probe -/

/-- After a restart the timer of the test is the one that was started. -/
theorem mem_restartMissing (ht : (d.among incidents).Tied) {delay : Duration} {timer : Timer}
    (htimer : timer ∈ (d.restartMissing kind delay).site.timers.live)
    (hplace : timer.kind.place = .missing) :
    timer.kind = kind ∧ timer.deadline = d.site.clock.now + delay.nanoseconds := by
  have hclock : (d.site.cancel d.missingTimer).clock = d.site.clock := Site.cancel_clock _ _
  rcases TimerQueue.mem_schedule.1 htimer with rfl | hold
  · exact ⟨rfl, congrArg (fun clock => clock.now + delay.nanoseconds) hclock⟩
  · -- every other timer of the test was cancelled
    have htied : d.cancelMissing.site.timers.Tied _ := (testStep_cancelMissing d).tied incidents ht
    exact absurd hplace (htied.place_ne hold rfl)

theorem Awaits.not_mayProbe (h : d.Awaits kind) (hkind : kind.probes = false)
    (houtstanding : d.scan.outstanding = 0) : ¬ d.MayProbe := by
  rintro (hpos | ⟨timer, ht, hp⟩)
  · omega
  · rw [h.kind_eq timer ht (TimerKind.place_of_probes hp), hkind] at hp
    cases hp

/-! ### What a step sends -/

/-- After the step no probe is sent sooner than before it, if one is sent at all. -/
structure NoSooner (d d' : Discovery) : Prop where
  may : d'.MayProbe → d.MayProbe
  spaced : d'.MayProbe → ∀ start last, d.Spaced start last → d'.Spaced start last

theorem NoSooner.trans {a b c : Discovery} (h : a.NoSooner b) (h' : b.NoSooner c) :
    a.NoSooner c where
  may hmay := h.may (h'.may hmay)
  spaced hmay start last hs := h'.spaced hmay start last (h.spaced (h'.may hmay) start last hs)

theorem Spares.noSooner (h : d.Spares d') : d.NoSooner d' :=
  ⟨h.mayProbe, fun _ _ _ hs => h.spaced hs⟩

theorem noSooner_of_not_mayProbe (h : ¬ d'.MayProbe) : d.NoSooner d' :=
  ⟨fun hmay => absurd hmay h, fun hmay => absurd hmay h⟩

/-- If a map goes out, it is the one without the missing slots, and counts as sent. -/
def UpdatesOnly (d d' : Discovery) : Prop :=
  d'.site.maps = d.site.maps ∨
    0 < d'.scan.updateCount ∧ d'.site.maps = d'.scan.removal :: d.site.maps

/-- What a step of the test sends, a further probe being allowed at the time `asked` and out at the
time `sent`. -/
inductive Probing (d : Discovery) (asked sent : Instant) (d' : Discovery) : Prop where
  /-- No probe. -/
  | quiet (maps : d.UpdatesOnly d') (later : d.NoSooner d')
  /-- The first probe of a session, which begins when that is noted. -/
  | first {noted : Instant} (idle : d.scan.active = false) (active : d'.scan.active)
      (maps : d'.site.maps = d.current :: d.site.maps) (unsent : d'.scan.updateCount = 0)
      (spaced : d'.Spaced noted noted)
  /-- A further probe of the session: neither too early nor too late. -/
  | further {noted : Instant} (may : d.MayProbe) (active : d'.scan.active = d.scan.active)
      (maps : d'.site.maps = d.current :: d.site.maps) (unsent : d'.scan.updateCount = 0)
      (lastRequest : d'.scan.lastRequest = some noted) (past : sent ≤ noted)
      (due : ∀ start last, d.Spaced start last →
        last + d.settings.minSpacing.nanoseconds ≤ asked ∧
        asked ≤ start + d.settings.maxTestDuration.nanoseconds ∧ d'.Spaced start noted)

theorem Spares.probing (h : d.Spares d') : d.Probing asked sent d' :=
  .quiet (.inl h.maps) h.noSooner

/-- Nothing is left that could send a probe. -/
theorem probing_of_not_mayProbe (hmaps : d'.site.maps = d.site.maps) (h : ¬ d'.MayProbe) :
    d.Probing asked sent d' :=
  .quiet (.inl hmaps) (noSooner_of_not_mayProbe h)

/-- What comes before a step does not matter if it leaves the probes alone. -/
theorem Probing.of_spares {c : Discovery} (h : d.Spares d') (hp : d'.Probing asked sent c) :
    d.Probing asked sent c := by
  cases hp with
  | quiet maps later =>
    refine .quiet ?_ (h.noSooner.trans later)
    unfold UpdatesOnly
    rw [← h.maps]
    exact maps
  | first idle active maps unsent spaced =>
    rw [h.current, h.maps] at maps
    exact .first (h.active ▸ idle) active maps unsent spaced
  | further may active maps unsent lastRequest past due =>
    rw [h.current, h.maps] at maps
    refine .further (h.mayProbe may) (active.trans h.active) maps unsent lastRequest past
      fun start last hs => ?_
    rw [← h.settings]
    exact due start last (h.spaced hs)

/-- Nor does what comes after it. -/
theorem Probing.spares {c : Discovery} (hp : d.Probing asked sent d') (h : d'.Spares c)
    (hremoval : c.scan.removal = d'.scan.removal) : d.Probing asked sent c := by
  cases hp with
  | quiet maps later =>
    refine .quiet ?_ (later.trans h.noSooner)
    unfold UpdatesOnly
    rw [h.maps, h.updateCount, hremoval]
    exact maps
  | first idle active maps unsent spaced =>
    exact .first idle (h.active.trans active) (h.maps.trans maps) (h.updateCount.trans unsent)
      (h.spaced spaced)
  | further may active maps unsent lastRequest past due =>
    refine .further may (h.active.trans active) (h.maps.trans maps) (h.updateCount.trans unsent)
      (h.lastRequest.trans lastRequest) past fun start last hs => ?_
    obtain ⟨hearly, hlate, hspaced⟩ := due start last hs
    exact ⟨hearly, hlate, h.spaced hspaced⟩

/-! ### The second phase -/

/-- The second phase does not change when the session began and when it sent its last probe. -/
theorem times_updateMap (d : Discovery) : d.updateMap.scan.started = d.scan.started ∧
    d.updateMap.scan.lastRequest = d.scan.lastRequest ∧
    d.updateMap.scan.outstanding ≤ d.scan.outstanding := by
  by_cases hover : d.isOver
  · rw [updateMap_of_over d hover, finishSession_scan]
    exact ⟨rfl, rfl, Nat.le_refl _⟩
  by_cases hn : d.scan.updateCount = 0
  · by_cases hs : d.someMissing
    · rw [updateMap_of_some d hover hn hs, pushMap_scan]
      exact ⟨rfl, rfl, Nat.zero_le _⟩
    · rw [updateMap_of_none d hover hn hs]
      have hfinished := finishSession_scan d.cancelMissing.unreduced
      split
      · rw [show ∀ d : Discovery, d.completeFlushAll.scan = { d.scan with flushingAll := 0 } from
          fun d => congrArg Network.scan (completeFlushAll_toNetwork d), hfinished]
        exact ⟨rfl, rfl, Nat.zero_le _⟩
      · rw [hfinished]
        exact ⟨rfl, rfl, Nat.zero_le _⟩
  · rw [updateMap_of_sent d hover hn, pushMap_scan]
    exact ⟨rfl, rfl, Nat.le_refl _⟩

theorem updatesOnly_updateMap (d : Discovery) : d.UpdatesOnly d.updateMap := by
  unfold UpdatesOnly
  rcases d.ended_or_goesOn with hended | ⟨hgoes, -⟩
  · exact .inl hended.maps
  · rw [hgoes.maps, hgoes.scan]
    cases hb : d.site.hasBuffer with
    | false => exact .inl rfl
    | true => exact .inr ⟨by simp [pushed, hb], rfl⟩

/-- Whether the session ends or goes on, its timer sends no probe. -/
theorem probes_updateMap (ht : (d.among incidents).Tied) {timer : Timer}
    (htimer : timer ∈ d.updateMap.site.timers.live) : timer.kind.probes = false := by
  by_contra hp
  rw [Bool.not_eq_false] at hp
  have hplace := TimerKind.place_of_probes hp
  rcases d.ended_or_goesOn with hended | ⟨hgoes, -⟩
  · rw [(hended.awaits incidents ht).kind_eq timer htimer hplace] at hp
    cases hp
  · rw [(hgoes.awaits incidents ht).kind_eq timer htimer hplace] at hp
    cases hp

theorem noSooner_updateMap (ht : (d.among incidents).Tied) : d.NoSooner d.updateMap := by
  obtain ⟨hstarted, hlast, houtstanding⟩ := times_updateMap d
  have hcalm {timer : Timer} (htimer : timer ∈ d.updateMap.site.timers.live) :
      ¬ timer.kind.probes := ne_true_of_eq_false (probes_updateMap ht htimer)
  constructor
  · rintro (hpos | ⟨timer, htimer, hp⟩)
    · exact .inl (Nat.lt_of_lt_of_le hpos houtstanding)
    · exact absurd hp (hcalm htimer)
  · intro _ start last hs
    exact
      { started := hstarted.trans hs.started
        lastRequest := hlast.trans hs.lastRequest
        past := by
          rw [(testStep_updateMap d).clock]
          exact hs.past
        timers := fun timer htimer hp => absurd hp (hcalm htimer) }

/-- What comes before the second phase does not matter if it sends nothing. -/
theorem NoSooner.updateMap (h : e.NoSooner d) (hmaps : d.site.maps = e.site.maps)
    (ht : (d.among incidents).Tied) : e.Probing asked sent d.updateMap := by
  refine .quiet ?_ (h.trans (noSooner_updateMap ht))
  unfold UpdatesOnly
  rw [← hmaps]
  exact updatesOnly_updateMap d

theorem probing_updateMap (ht : (d.among incidents).Tied) : d.Probing asked sent d.updateMap :=
  (Spares.refl d).noSooner.updateMap rfl ht

theorem spares_ranOutOfTime (d : Discovery) :
    d.Spares { d with scan := { d.scan with ranOutOfTime := true } } :=
  ⟨rfl, rfl, Nat.le_refl _, rfl, rfl, rfl, rfl, rfl, Nat.le_refl _,
    exists_of_still_live fun _ ht => ht⟩

theorem noSooner_runOut (ht : (d.among incidents).Tied) : d.NoSooner d.runOut :=
  (spares_ranOutOfTime d).noSooner.trans
    (noSooner_updateMap ((testStep_scan d _).tied incidents ht))

theorem probing_runOut (ht : (d.among incidents).Tied) : d.Probing asked sent d.runOut :=
  .quiet (.inl (ended_runOut d).maps) (noSooner_runOut ht)

theorem noSooner_cancelSession (ht : (d.among incidents).Tied) :
    d.NoSooner d.cancelSession := by
  by_cases hactive : d.scan.active
  · rw [cancelSession_of_active d hactive]
    exact noSooner_runOut ht
  · rw [cancelSession_of_idle d hactive]
    exact (Spares.refl d).noSooner

/-! ### A further probe -/

/-- What is not overdue has not lasted longer than it may. -/
theorem now_le_of_not_overdue (hs : d.scan.started = some start) (h : ¬ d.isOverdue) :
    d.site.clock.now ≤ start + d.settings.maxTestDuration.nanoseconds := by
  have hle : ¬ d.settings.maxTestDuration.nanoseconds < d.elapsed.nanoseconds :=
    fun hlt => h (decide_eq_true hlt)
  rw [show d.elapsed = d.site.clock.since start by unfold elapsed; rw [hs]] at hle
  exact Nat.sub_le_iff_le_add'.1 (Nat.le_of_not_lt hle)

/-- A probe that was sent is answered, or else the next one is sent, after the least time that may
lie between the two. -/
theorem spaced_restart (ht : (d.among incidents).Tied) (hs : d.scan.started = some start)
    (hl : d.scan.lastRequest = some last) (hpast : last ≤ d.site.clock.now) {delay : Duration}
    (hlater : last + d.settings.minSpacing.nanoseconds ≤ d.site.clock.now + delay.nanoseconds) :
    (d.restartMissing kind delay).Spaced start last where
  started := hs
  lastRequest := hl
  past := by
    rw [show (d.restartMissing kind delay).site.clock = d.site.clock from Site.cancel_clock _ _]
    exact hpast
  timers timer htimer hp := by
    obtain ⟨-, hdeadline⟩ := mem_restartMissing ht htimer (TimerKind.place_of_probes hp)
    rw [hdeadline]
    exact hlater

/-- The next probe, if there is time for one, once the last one is long enough ago. -/
theorem probing_probeWithin (lapse : Lapse) (hspares : e.Spares d)
    (ht : (d.among incidents).Tied) (hcheck : e.settings.minSpacing < e.settings.replyTimeout)
    (hmay : e.MayProbe) (hn : d.scan.updateCount = 0)
    (hdue : ∀ start last, e.Spaced start last →
      last + e.settings.minSpacing.nanoseconds ≤ d.site.clock.now) :
    e.Probing d.site.clock.now (d.site.clock.now + lapse.toSend.nanoseconds)
      (d.probeWithin lapse) := by
  by_cases hover : d.isOverdue
  · rw [probeWithin_of_overdue hover]
    exact .of_spares hspares (probing_runOut ht)
  have hsent := (proceeds_sentWithin d lapse).tied incidents ht
  have hclock : (d.sentWithin lapse).site.clock.now =
      d.site.clock.now + lapse.toSend.nanoseconds + lapse.toNote.nanoseconds :=
    congrArg (fun clock : Clock => clock.now + lapse.toNote.nanoseconds)
      (testStep_transmit (d.pass lapse.toSend) (.updateSidMap d.current)).clock
  have hlater : d.site.clock.now ≤ (d.sentWithin lapse).site.clock.now := by
    rw [hclock, Nat.add_assoc]
    exact Nat.le_add_right _ _
  rw [probeWithin_of_due hover]
  cases hb : d.site.hasBuffer with
  | true =>
    rw [if_pos rfl]
    refine .further hmay hspares.active ?_ hn rfl ?_ fun start last hs => ?_
    · rw [← hspares.maps, ← hspares.current]
      refine (restartMissing_maps _ _ _).trans ?_
      exact (transmit_maps (d.pass lapse.toSend) d.current).trans (if_pos hb)
    · rw [hclock]
      exact Nat.le_add_right _ _
    · have hstarted := hspares.started.trans hs.started
      have hlate := now_le_of_not_overdue hstarted hover
      rw [hspares.settings] at hlate
      have hnoted := (testStep_scan (d.sentWithin lapse) { d.scan with
        lastRequest := some (d.sentWithin lapse).site.clock.now
        outstanding := d.scan.outstanding + 1 }).tied incidents hsent
      refine ⟨hdue start last hs, hlate, ?_⟩
      refine spaced_restart hnoted hstarted rfl (Nat.le_refl _) (Nat.add_le_add_left ?_ _)
      exact Nat.le_of_lt (hspares.settings ▸ hcheck)
  | false =>
    rw [if_neg Bool.false_ne_true]
    refine .quiet (.inl ?_) ⟨fun _ => hmay, fun _ start last hs => ?_⟩
    · rw [← hspares.maps]
      refine (restartMissing_maps _ _ _).trans ?_
      exact (transmit_maps (d.pass lapse.toSend) d.current).trans
        (if_neg (ne_true_of_eq_false hb))
    · -- the retry comes later still
      have hlong := hdue start last hs
      refine spaced_restart hsent (hspares.started.trans hs.started)
        (hspares.lastRequest.trans hs.lastRequest)
        (Nat.le_trans (hspares.spaced hs).past hlater) ?_
      show last + d.settings.minSpacing.nanoseconds ≤ _
      rw [hspares.settings]
      exact Nat.le_trans hlong (Nat.le_trans hlater (Nat.le_add_right _ _))

/-- A report that leaves the question open sends the next probe, or sets the time for it. -/
theorem probing_probeWhenDueWithin (lapse : Lapse) (hspares : e.Spares d)
    (ht : (d.among incidents).Tied) (hcheck : e.settings.minSpacing < e.settings.replyTimeout)
    (hmay : e.MayProbe) (hn : d.scan.updateCount = 0) :
    e.Probing (d.site.clock.now + lapse.toCheck.nanoseconds)
      (d.site.clock.now + lapse.toCheck.nanoseconds + lapse.toSend.nanoseconds)
      (d.probeWhenDueWithin lapse) := by
  have hsince {start last : Instant} (hs : e.Spaced start last) :
      d.sinceProbe.nanoseconds = d.site.clock.now - last := by
    unfold sinceProbe
    rw [hspares.lastRequest.trans hs.lastRequest]
    rfl
  unfold probeWhenDueWithin
  split
  · next hlong =>
    refine probing_probeWithin lapse (hspares.trans (spares_pass d lapse.toCheck)) ht hcheck hmay
      hn fun start last hs => ?_
    have hlong : d.settings.minSpacing.nanoseconds ≤ d.sinceProbe.nanoseconds := hlong
    rw [hsince hs, hspares.settings] at hlong
    exact Nat.le_trans (Nat.add_le_of_le_sub' (hspares.spaced hs).past hlong)
      (Nat.le_add_right _ _)
  · refine .quiet (.inl ((restartMissing_maps d _ _).trans hspares.maps))
      ⟨fun _ => hmay, fun _ start last hs => ?_⟩
    have hpast := (hspares.spaced hs).past
    have hrest (last spacing now : Nat) (hle : last ≤ now) :
        last + spacing ≤ now + (spacing - (now - last)) := by omega
    refine spaced_restart ht (hspares.started.trans hs.started)
      (hspares.lastRequest.trans hs.lastRequest) hpast ?_
    dsimp only
    rw [hsince hs]
    exact hrest _ _ _ hpast

/-! ### The first probe -/

/-- An attempt that was put off leaves nothing that could send a further probe. -/
theorem not_mayProbe_postpone (ht : (d.among incidents).Tied) (ho : d.scan.outstanding = 0) :
    ¬ d.postpone.MayProbe :=
  (awaits_restartMissing d rfl _ ht).not_mayProbe rfl ho

theorem spaced_sessionStarted (ht : (d.among incidents).Tied)
    (hcheck : d.settings.minSpacing < d.settings.replyTimeout) :
    d.sessionStarted.Spaced d.site.clock.now d.site.clock.now := by
  have hstarted := (testStep_scan d { d.scan with
    active := true, started := some d.site.clock.now, lastRequest := some d.site.clock.now
    outstanding := d.scan.outstanding + 1 }).tied incidents ht
  exact spaced_restart hstarted rfl rfl (Nat.le_refl _)
    (Nat.add_le_add_left (Nat.le_of_lt hcheck) _)

theorem probing_beginSession (ht : (d.among incidents).Tied)
    (hcheck : d.settings.minSpacing < d.settings.replyTimeout) :
    d.Probing asked sent d.beginSession := by
  by_cases hactive : d.scan.active
  · rw [beginSession_of_active d hactive]
    exact (Spares.refl d).probing
  have hcleared : d.TestStep d.cleared := testStep_scan d _
  by_cases hn : d.inNetwork
  · by_cases hl : d.learning
    · rw [beginSession_of_learning d hactive hn hl]
      exact probing_of_not_mayProbe (restartMissing_maps _ _ _)
        (not_mayProbe_postpone (hcleared.tied incidents ht) rfl)
    · have hsent := hcleared.trans (testStep_transmit d.cleared (.updateSidMap d.current))
      rw [beginSession_of_joined d hactive hn hl]
      cases hb : d.site.hasBuffer with
      | true =>
        have hspaced := spaced_sessionStarted (hsent.tied incidents ht) hcheck
        rw [hsent.clock] at hspaced
        refine .first (eq_false_of_ne_true hactive) rfl ?_ rfl hspaced
        rw [if_pos rfl]
        exact (restartMissing_maps _ _ _).trans ((transmit_maps d.cleared _).trans (if_pos hb))
      | false =>
        rw [if_neg Bool.false_ne_true]
        refine probing_of_not_mayProbe ?_ (not_mayProbe_postpone (hsent.tied incidents ht) rfl)
        exact (restartMissing_maps _ _ _).trans
          ((transmit_maps d.cleared _).trans (if_neg (by simp [cleared, hb])))
  · rw [beginSession_of_apart d hactive hn]
    split
    · have hcompleted := hcleared.trans (testStep_completeFlushAll d.cleared)
      have hnetwork := completeFlushAll_toNetwork d.cleared
      refine probing_of_not_mayProbe ?_ (not_mayProbe_postpone (hcompleted.tied incidents ht)
        (congrArg (fun network => network.scan.outstanding) hnetwork))
      exact (restartMissing_maps _ _ _).trans (silent_completeFlushAll d.cleared).maps
    · exact probing_of_not_mayProbe (restartMissing_maps _ _ _)
        (not_mayProbe_postpone (hcleared.tied incidents ht) rfl)

/-! ### Reports -/

/-- A report that is not open any more, or never was, sends no probe. -/
theorem probing_receiveMissing (map : SidMap) (ht : (d.among incidents).Tied)
    (hclosed : ¬ (0 < d.scan.outstanding ∧ ¬ d.isOverdue ∧ ¬ (d.countReport map).isDecided)) :
    d.Probing asked sent (d.receiveMissing map) := by
  rcases Nat.eq_zero_or_pos d.scan.outstanding with hnone | hsome
  · by_cases hconfirmed : d.isConfirmedBy map
    · -- a map that was confirmed is not sent again
      have hended := ended_receiveMissing_of_confirmed d hnone hconfirmed
      rw [receiveMissing_of_confirmed d hnone hconfirmed] at hended ⊢
      refine probing_of_not_mayProbe hended.maps
        ((hended.awaits incidents ht).not_mayProbe rfl ?_)
      have hle := (times_updateMap { d with scan := { d.scan with
        updateCount := d.settings.updateDeleteCount } }).2.2
      exact Nat.le_zero.1 (hnone ▸ hle)
    · rw [receiveMissing_of_ignored d hnone hconfirmed]
      exact (Spares.refl d).probing
  by_cases hdue : d.isOverdue
  · rw [receiveMissing_of_overdue d hsome hdue]
    exact probing_runOut ht
  have hdecided : (d.countReport map).isDecided :=
    of_not_not fun hopen => hclosed ⟨hsome, hdue, hopen⟩
  have hmarked := (spares_countReport d map).trans (spares_silent _ (silent_markDevices _))
  rw [receiveMissing_of_counted d map hsome hdue, if_pos hdecided]
  exact .of_spares hmarked (probing_updateMap
    (((testStep_countReport d map).trans (testStep_markDevices _)).tied incidents ht))

theorem probing_receiveMissingWithin (map : SidMap) (lapse : Lapse)
    (ht : (d.among incidents).Tied) (ho : d.Orderly)
    (hcheck : d.settings.minSpacing < d.settings.replyTimeout) :
    d.Probing (d.site.clock.now + lapse.toCompare.nanoseconds + lapse.toCheck.nanoseconds)
      (d.site.clock.now + lapse.toCompare.nanoseconds + lapse.toCheck.nanoseconds +
        lapse.toSend.nanoseconds)
      (d.receiveMissingWithin map lapse) := by
  unfold receiveMissingWithin
  split
  · next hopen =>
    have hcounted := (testStep_countReport d map).tied incidents ht
    have hclock : (d.countReport map).site.clock = d.site.clock :=
      (testStep_countReport d map).clock
    have hprobing := probing_probeWhenDueWithin lapse
      (d := (d.countReport map).pass lapse.toCompare)
      ((spares_countReport d map).trans (spares_pass _ _)) hcounted hcheck (.inl hopen.1)
      (ho.updateCount_eq_zero hopen.1)
    rw [show ((d.countReport map).pass lapse.toCompare).site.clock.now =
      d.site.clock.now + lapse.toCompare.nanoseconds from
        congrArg (fun clock : Clock => clock.now + lapse.toCompare.nanoseconds) hclock] at hprobing
    exact hprobing
  · next hclosed => exact probing_receiveMissing map ht hclosed

/-! ### Requests -/

theorem probing_startTest (ht : (d.among incidents).Tied)
    (hcheck : d.settings.minSpacing < d.settings.replyTimeout) :
    d.Probing asked sent d.startTest := by
  have hcleared : d.Spares d.suspendInterrogation.clearTestResult :=
    (spares_suspendInterrogation d).trans (spares_silent _ (Site.silent_after _ _))
  have htied : (d.suspendInterrogation.clearTestResult.among incidents).Tied :=
    (testStep_onSite _ (Site.silent_after _ _)).tied incidents
      ((aside_suspendInterrogation d incidents).tied ht)
  unfold startTest
  dsimp only
  split
  · have hcancel := spares_cancelMissing d.suspendInterrogation.clearTestResult
    refine .of_spares (hcleared.trans hcancel) (probing_beginSession
      ((testStep_cancelMissing _).tied incidents htied) ?_)
    rw [hcancel.settings, hcleared.settings]
    exact hcheck
  · exact (hcleared.trans (spares_silent _ (silent_endTestMode _))).probing

theorem probing_setTestMode (enabled delete : Bool) (ht : (d.among incidents).Tied)
    (hcheck : d.settings.minSpacing < d.settings.replyTimeout) :
    d.Probing asked sent (d.setTestMode enabled delete) := by
  have hchosen := spares_choose d delete
  have htied := (testStep_scan d { d.scan with delete := delete }).tied incidents ht
  unfold setTestMode
  dsimp only
  split
  · exact hchosen.probing
  split
  · exact .of_spares hchosen (probing_startTest htied hcheck)
  · have hstop := noSooner_cancelSession htied
    exact .quiet (.inl (cancelSession_maps _)) (hchosen.noSooner.trans hstop)

/-! ### Removing devices -/

/-- A session that begins in its second phase forgets nothing of the one before it. -/
theorem noSooner_aimAt (d : Discovery) (slots : SidMap) : d.NoSooner (d.aimAt slots) :=
  ⟨fun hmay => hmay, fun _ _ _ hs => ⟨hs.started, hs.lastRequest, hs.past, hs.timers⟩⟩

theorem probing_flush (id : DeviceId) (ht : (d.among incidents).Tied) :
    d.Probing asked sent (d.flush id) := by
  unfold flush
  split
  · exact (Spares.refl d).probing
  · next sid _ =>
    have hoffline := Site.silent_report d.cancelSession.site id .presence
      Shadow.Presence.offline.value
    have hbegin : d.NoSooner (d.beginFlush id sid) :=
      (noSooner_cancelSession ht).trans
        ((spares_silent d.cancelSession hoffline).noSooner.trans (noSooner_aimAt _ _))
    exact hbegin.updateMap (beginFlush_maps d id sid) ((testStep_beginFlush d id sid).tied _ ht)

theorem probing_flushAll (ht : (d.among incidents).Tied) : d.Probing asked sent d.flushAll := by
  unfold flushAll
  split
  · exact (Spares.refl d).probing
  · have hoffline := silent_offlineAll d.cancelSession.site.meshDevices d.cancelSession.site
    have hcounted (d : Discovery) :
        d.NoSooner { d with scan := { d.scan with flushingAll := 2 } } :=
      ⟨fun hmay => hmay, fun _ _ _ hs => ⟨hs.started, hs.lastRequest, hs.past, hs.timers⟩⟩
    have hbegin : d.NoSooner d.beginFlushAll :=
      (noSooner_cancelSession ht).trans
        ((spares_silent d.cancelSession hoffline).noSooner.trans
          ((hcounted _).trans (noSooner_aimAt _ _)))
    exact hbegin.updateMap (beginFlushAll_maps d) ((testStep_beginFlushAll d).tied _ ht)

end Discovery

/-! ### Moves -/

namespace Engine

variable {engine engine' : Engine} {kind : TimerKind} {d : Discovery} {move : Move} {lapse : Lapse}
  {asked sent : Instant}

/-- Time may pass beside the test. -/
theorem probing_aside (h : Aside engine engine') :
    engine.discovery.Probing asked sent engine'.discovery := by
  have hscan : engine'.discovery.scan = engine.discovery.scan := h.scan
  have htimer {timer : Timer} (ht : timer ∈ engine'.site.timers.live) (hp : timer.kind.probes) :
      timer ∈ engine.site.timers.live :=
    h.missing timer ht (TimerKind.place_of_probes hp)
  refine .quiet (.inl h.maps) ⟨?_, fun _ start last hs => ?_⟩
  · rintro (hpos | ⟨timer, ht, hp⟩)
    · exact .inl (hscan ▸ hpos)
    · exact .inr ⟨timer, htimer ht hp, hp⟩
  · exact
      { started := hscan ▸ hs.started
        lastRequest := hscan ▸ hs.lastRequest
        past := Nat.le_trans hs.past h.now
        timers := fun timer ht hp => by
          rw [show engine'.discovery.settings = engine.discovery.settings from h.settings]
          exact hs.timers timer (htimer ht hp) hp }

theorem Fires.spares (h : engine.Fires kind d) : engine.discovery.Spares d := by
  obtain ⟨hpop, -⟩ := h
  have hlive := (TimerQueue.live_of_popExpired hpop).1
  exact ⟨rfl, rfl, Nat.le_refl _, rfl, rfl, rfl, rfl, rfl, Nat.le_refl _,
    Discovery.exists_of_still_live fun _ ht => hlive ▸ List.mem_cons_of_mem _ ht⟩

/-- A timer that sends a probe fires no earlier than the next probe may be sent. -/
theorem Fires.due_of_probes (h : engine.Fires kind d) (hp : kind.probes) :
    engine.discovery.MayProbe ∧ ∀ start last, engine.discovery.Spaced start last →
      last + engine.network.settings.minSpacing.nanoseconds ≤ engine.site.clock.now := by
  obtain ⟨hpop, -⟩ := h
  rename_i timer rest
  have hlive : timer ∈ engine.discovery.site.timers.live := by
    rw [show engine.discovery.site.timers.live = timer :: rest.live from
      (TimerQueue.live_of_popExpired hpop).1]
    exact List.mem_cons_self
  exact ⟨.inr ⟨timer, hlive, hp⟩, fun start last hs =>
    Nat.le_trans (hs.timers timer hlive hp) (TimerQueue.deadline_le_of_popExpired hpop)⟩

section Move

variable (htended : engine.Tended)
  (hcheck : engine.network.settings.minSpacing < engine.network.settings.replyTimeout)
include htended hcheck

theorem probing_request (h : move.RequestsTest) :
    engine.discovery.Probing asked sent (engine.move move).discovery := by
  cases move with
  | control operation =>
    cases operation with
    | beginScan delete => exact Discovery.probing_setTestMode true delete htended.tied hcheck
    | _ => exact h.elim
  | wish delta =>
    rw [move_wish_of_request h]
    unfold wishTest
    split
    · exact (Discovery.Spares.refl _).probing
    · next delete _ =>
      let shown := engine.report .mode Mode.testMode.value
      have hreport (engine : Engine) (property : Shadow.Property) (value : Shadow.Value) :
          engine.discovery.Spares (engine.report property value).discovery :=
        Discovery.spares_silent _ (Site.silent_report _ _ _ _)
      have hshown : shown.Tied :=
        (beside_onSite engine (f := fun site => site.report .gateway .mode Mode.testMode.value)
          (Site.silent_report _ _ _ _)).tied htended.tied
      have hasked : shown.discovery.Probing asked sent (shown.discovery.setTestMode true delete) :=
        Discovery.probing_setTestMode true delete hshown hcheck
      exact (Discovery.Probing.of_spares (hreport _ _ _) hasked).spares
        ((hreport (shown.onNetwork fun d => d.setTestMode true delete) _ _).trans
          (hreport _ _ _)) rfl
  | _ => exact h.elim

/-- A timer that sends no probe fires. -/
theorem probing_fireTest (hfires : engine.Fires kind d) (hp : kind.probes = false) :
    engine.discovery.Probing asked sent (d.fireTest kind) := by
  have hspares := hfires.spares
  have htied := hfires.tied htended.tied
  have hplace : kind.place = .missing := hfires.due.2
  cases kind with
  | testMissingInit =>
    have hchosen := d.spares_choose true
    have hsettings : d.settings = engine.network.settings := hspares.settings
    exact .of_spares (hspares.trans hchosen)
      (Discovery.probing_beginSession ((d.testStep_scan _).tied _ htied) (hsettings ▸ hcheck))
  | testMissingUpdateMap => exact .of_spares hspares (Discovery.probing_updateMap htied)
  | testMissingTimeout | testMissingContinue => cases hp
  | _ => cases hplace

/-- A move that is neither a report of missing slots nor a timer that sends a probe. -/
theorem probing_prompt (hsingle : move.Single)
    (hreport : ∀ frame map, move = .receive frame →
      Report.decode frame ≠ .ok (.missingNodes map))
    (hfire : ∀ kind d, move = .expire → engine.Fires kind d → kind.probes = false) :
    engine.discovery.Probing asked sent (engine.move move).discovery := by
  cases testMove engine hsingle with
  | aside h => exact probing_aside h
  | request h => exact probing_request htended hcheck h
  | report hmove hframe => exact absurd hframe (hreport _ _ hmove)
  | stop h =>
    rw [h]
    exact Discovery.probing_setTestMode false false htended.tied hcheck
  | flush id h =>
    rw [h]
    exact Discovery.probing_flush id htended.tied
  | flushAll h =>
    rw [h]
    exact Discovery.probing_flushAll htended.tied
  | fire hmove hfires _ hexpire =>
    rw [hexpire]
    exact probing_fireTest htended hcheck hfires (hfire _ _ hmove hfires)

end Move

/-- When a further probe of a move is allowed. -/
def asksAt (engine : Engine) (stride : Stride) : Instant :=
  match stride.move with
  | .receive _ =>
    engine.site.clock.now + stride.lapse.toCompare.nanoseconds + stride.lapse.toCheck.nanoseconds
  | _ => engine.site.clock.now

/-- When a further probe of a move goes out. -/
def sendsAt (engine : Engine) (stride : Stride) : Instant :=
  engine.asksAt stride + stride.lapse.toSend.nanoseconds

section Stride

variable {settings : Config.DiscoverySettings} (hposed : engine.Poised settings)
  (hcheck : settings.minSpacing < settings.replyTimeout)
include hposed hcheck

theorem probing_within (stride : Stride)
    (hwithin : engine.Within stride.move stride.lapse engine') :
    engine.discovery.Probing (engine.asksAt stride) (engine.sendsAt stride)
      engine'.discovery := by
  have hcheck' : engine.network.settings.minSpacing < engine.network.settings.replyTimeout :=
    hposed.settings_eq.symm ▸ hcheck
  cases hwithin with
  | prompt hreport hfire =>
    exact probing_prompt hposed.tended hcheck' stride.single hreport hfire
  | @report frame map hmove hframe =>
    have hcounted : engine.discovery.Spares (engine.counted frame).discovery :=
      Discovery.spares_silent _ (Site.silent_count _ (by simp))
    have htied : (engine.counted frame).Tied :=
      (beside_onSite engine (f := fun site => site.count (.frameHandled (frame.headD 0)))
        (Site.silent_count _ (by simp))).tied hposed.tended.tied
    have horder : (engine.counted frame).discovery.Orderly := fun hn =>
      ⟨(hposed.orderly hn).1, (hposed.orderly hn).2.isSome, (hposed.orderly hn).2.kind_eq⟩
    have hasks : engine.asksAt stride = engine.site.clock.now +
        stride.lapse.toCompare.nanoseconds + stride.lapse.toCheck.nanoseconds := by
      unfold asksAt
      rw [hmove]
    unfold sendsAt
    rw [hasks]
    exact .of_spares hcounted
      (Discovery.probing_receiveMissingWithin map stride.lapse htied horder hcheck')
  | probe hmove hfires hp =>
    obtain ⟨hmay, hdue⟩ := hfires.due_of_probes hp
    have hprobing := Discovery.probing_probeWithin stride.lapse hfires.spares
      (hfires.tied hposed.tended.tied) hcheck' hmay
      (hfires.updateCount_eq_zero hposed.orderly hp)
    obtain ⟨rest, rfl⟩ := hfires.eq
    have hasks : engine.asksAt stride = engine.site.clock.now := by
      unfold asksAt
      rw [hmove]
    unfold sendsAt
    rw [hasks]
    exact hprobing hdue

/-- Every move that deals with one thing sends no probe, or the first one of a session, or a further
one that is neither too early nor too late, however much time the move takes. -/
theorem probing_stride (stride : Stride) :
    engine.discovery.Probing (engine.asksAt stride) (engine.sendsAt stride)
      (engine.stride stride).discovery :=
  (probing_within hposed hcheck stride (engine.within_moveWithin _ _)).spares
    (Discovery.spares_delayed _ stride.lapse) rfl

end Stride

end Engine

end AlarmMesh.Gateway
