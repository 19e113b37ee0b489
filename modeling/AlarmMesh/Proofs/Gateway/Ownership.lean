import AlarmMesh.Proofs.Gateway.Turn

/-!
# Who owns the timers

From the start on, the live timers of the engine are those that its parts keep the handles of, and
each part that needs a timer has one.  So neither the regular request for the SID map nor the
periodic missing-node test is ever lost, and no timer fires that another one has replaced.

* `Engine.Tended` — the invariant;
* `tended_turn`, `tended_started`, `Reachable.tended` — it holds in every reachable engine;
* `Engine.OwnsTimers`, `ownsTimers_moves` — what it says about the live timers.
-/

namespace AlarmMesh.Gateway

open Relation (ReflTransGen)

namespace Discovery

variable {d d' : Discovery}

theorem TestStep.regular (h : TestStep d d') (hd : d.toNetwork.Regular) :
    d'.toNetwork.Regular := by
  rw [h.network]
  exact ⟨hd.refresh, hd.interrogate, hd.learn⟩

/-- The test rests as before when neither its timer nor whether it is running changed. -/
theorem Rests.congr (h : d.Rests) (hhandle : d'.missingTimer = d.missingTimer)
    (hactive : d'.scan.active = d.scan.active)
    (hlive : ∀ timer ∈ d'.site.timers.live, timer.kind.place = .missing →
      timer ∈ d.site.timers.live) : d'.Rests := by
  obtain ⟨kind, hawaits, hkind⟩ := h
  exact ⟨kind, ⟨hhandle ▸ hawaits.isSome,
    fun timer ht hp => hawaits.kind_eq timer (hlive timer ht hp) hp⟩,
    fun ha => hkind (hactive ▸ ha)⟩

end Discovery

/-- Every live timer is held at its place, and whatever needs a timer has one. -/
structure Engine.Tended (engine : Engine) : Prop where
  tied : engine.Tied
  regular : engine.network.Regular
  rests : engine.discovery.Rests

namespace Engine.Tended

variable {engine engine' : Engine}

/-- A step of the test keeps the engine tended if the test rests after it. -/
theorem testStep (h : engine.Tended) {d : Discovery} (hstep : engine.discovery.TestStep d)
    (hrests : d.Rests) : (d.among engine.incidents).Tended :=
  ⟨hstep.tied _ h.tied, hstep.regular h.regular, hrests⟩

/-- What a timer of the test starts is tended again. -/
theorem fireTest (h : engine.Tended) {kind : TimerKind} {d : Discovery}
    (hfires : engine.Fires kind d) : ((d.fireTest kind).among engine.incidents).Tended := by
  have htied := hfires.tied h.tied
  have hregular : d.toNetwork.Regular := by
    cases hfires
    exact ⟨h.regular.refresh, h.regular.interrogate, h.regular.learn⟩
  obtain ⟨awaited, hawaits, hidle⟩ := h.rests
  have hkind := hfires.kind_eq hawaits
  have of {d' : Discovery} (hstep : d.TestStep d') (hrests : d'.Rests) :
      (d'.among engine.incidents).Tended :=
    ⟨hstep.tied _ htied, hstep.regular hregular, hrests⟩
  unfold Discovery.fireTest
  split
  · -- a session does not start while one is running, and so no timer is lost
    have hchoose := d.testStep_scan { d.scan with delete := true }
    have hinactive : ¬ d.scan.active := fun ha => hidle (hfires.scan ▸ ha) hkind.symm
    exact of (hchoose.trans (Discovery.testStep_beginSession _))
      (Discovery.rests_beginSession _ hinactive (hchoose.tied _ htied))
  · exact of d.testStep_updateMap (d.rests_updateMap htied)
  · exact of d.testStep_probe (d.rests_probe htied)

end Engine.Tended

/-- A turn keeps the engine tended. -/
theorem tended_turn {engine engine' : Engine} (h : engine.Tended) (ht : Turn engine engine') :
    engine'.Tended := by
  cases ht with
  | aside haside hregular =>
    exact ⟨haside.tied h.tied, hregular h.regular,
      h.rests.congr haside.handle (congrArg Scan.active haside.scan) haside.missing⟩
  | report map =>
    exact h.testStep (Discovery.testStep_receiveMissing _ map)
      (Discovery.rests_receiveMissing _ map h.tied h.rests)
  | choose delete =>
    exact h.testStep (Discovery.testStep_scan _ _) (h.rests.congr rfl rfl fun _ ht _ => ht)
  | begin hidle =>
    have hcancel := engine.discovery.testStep_cancelMissing
    exact h.testStep (hcancel.trans (Discovery.testStep_beginSession _))
      (Discovery.rests_beginSession _ (ne_true_of_eq_false hidle) (hcancel.tied _ h.tied))
  | stop =>
    exact h.testStep (Discovery.testStep_cancelSession _)
      (Discovery.rests_cancelSession _ h.tied h.rests)
  | flush id =>
    exact h.testStep (Discovery.testStep_flush _ id) (Discovery.rests_flush _ id h.tied h.rests)
  | flushAll =>
    exact h.testStep (Discovery.testStep_flushAll _) (Discovery.rests_flushAll _ h.tied h.rests)
  | fire hfires => exact h.fireTest hfires

theorem tended_moves {engine : Engine} (h : engine.Tended) (moves : List Move) :
    (engine.moves moves).Tended :=
  Turn.induct tended_turn (engine.turns_moves moves) h

/-! ### The start -/

theorem silent_reportInitial (site : Site) (entry : Shadow.Property × Shadow.Value) :
    site.Silent (Engine.reportInitial site entry) := by
  unfold Engine.reportInitial
  split
  · exact Site.silent_report _ _ _ _
  · exact .refl _

theorem silent_registerGateway (site : Site) : site.Silent (Engine.registerGateway site) := by
  unfold Engine.registerGateway
  split
  · exact .refl _
  · exact Site.silent_after _ _

/-- The site once the gateway is in the shadow, with what it reports and is told about. -/
def greeted (site : Site) : Site :=
  Engine.subscriptions.foldl (fun site => site.subscribe .gateway)
    ((Engine.initialValues.foldl Engine.reportInitial (Engine.registerGateway site)).report
      .gateway .mode Shadow.Mode.running.value)

theorem silent_greeted (site : Site) : site.Silent (greeted site) :=
  ((silent_registerGateway site).trans (.foldl silent_reportInitial _ _)).trans
    ((Site.silent_report _ _ _ _).trans (.foldl (fun _ _ => Site.silent_subscribe _ _ _) _ _))

theorem start_eq (engine : Engine) : engine.start =
    (Discovery.start { toNetwork := engine.network, site := greeted engine.site }).among
      engine.incidents := by
  unfold Engine.start greeted Engine.onSite Engine.report Engine.onNetwork Discovery.among
  dsimp only [Engine.onSite]

/-- Discovery before its first timer: in no network, and asking nobody. -/
def Discovery.unstarted (d : Discovery) : Discovery :=
  { ({ d with inNetwork := false }.report .inNetwork (.bool false)) with
    interrogation := { d.interrogation with active := false } }.report .interrogating (.bool false)

/-- Discovery with its two regular timers. -/
def Discovery.waiting (d : Discovery) : Discovery :=
  (d.unstarted.restartRefresh d.settings.startupFetch).restartMissing .testMissingInit
    d.settings.missingTestPeriod

section Start

variable {d : Discovery} {incidents : Incidents} (ht : (d.among incidents).Tied)
include ht

theorem tied_restartRefresh :
    ((d.unstarted.restartRefresh d.settings.startupFetch).among incidents).Tied := by
  have hunstarted : Aside (d.among incidents) (d.unstarted.among incidents) :=
    aside_silent ((Site.silent_report _ _ _ _).trans (Site.silent_report _ _ _ _)) rfl rfl rfl
  exact (hunstarted.trans (d.unstarted.aside_restartRefresh incidents _)).tied ht

/-- Discovery starts with the wait for the first test. -/
theorem awaits_start : d.start.Awaits .testMissingInit :=
  (Discovery.awaits_restartMissing _ rfl _ (tied_restartRefresh ht)).silent
    (a := d.waiting) (.foldl Site.silent_initDevice _ _) rfl

/-- Discovery starts its two regular timers. -/
theorem tended_start (hidle : d.scan.active = false) (hlearn : d.learnTimer = none)
    (hinterrogate : d.interrogateTimer = none) : (d.start.among incidents).Tended := by
  have hinit : d.waiting.site.Silent
      (d.waiting.site.meshDevices.foldl Site.initDevice d.waiting.site) :=
    .foldl Site.silent_initDevice _ _
  have htied : (d.waiting.among incidents).Tied :=
    (Discovery.testStep_restartMissing _ rfl _).tied incidents (tied_restartRefresh ht)
  have hidle' : d.waiting.scan.active = false := hidle
  exact
    { tied := (d.waiting.testStep_onSite
        (f := fun site => site.meshDevices.foldl Site.initDevice site) hinit).tied incidents htied
      regular := ⟨rfl, congrArg Option.isSome hinterrogate,
        fun hsome => absurd ((congrArg Option.isSome hlearn).symm.trans hsome) Bool.false_ne_true⟩
      rests := ⟨_, awaits_start ht,
        fun hactive => absurd (hidle'.symm.trans hactive) Bool.false_ne_true⟩ }

end Start

/-- No timer is live before the start, and none is held. -/
theorem tied_greeted (settings : Config.Settings) (site : Site) (h : site.timers = {}) :
    (Discovery.among { toNetwork := { settings := settings.discovery }, site := greeted site }
      { settings := settings.events }).Tied := by
  have hheld : held { settings := settings.discovery } { settings := settings.events } =
      fun _ => none := by
    funext place
    cases place <;> rfl
  unfold Engine.Tied Discovery.among
  rw [(silent_greeted _).timers, h]
  exact hheld ▸ TimerQueue.tied_empty

theorem tended_started (settings : Config.Settings) (platform : Shadow.Platform)
    (pool : Link.Pool) (clock : Clock) (contention : List Bool) :
    (Engine.started settings platform pool clock contention).Tended := by
  unfold Engine.started
  rw [start_eq]
  exact tended_start (tied_greeted settings _ rfl) rfl rfl rfl

/-- The first test is waited for from the start on. -/
theorem awaits_started (settings : Config.Settings) (platform : Shadow.Platform)
    (pool : Link.Pool) (clock : Clock) (contention : List Bool) :
    (Engine.started settings platform pool clock contention).discovery.Awaits .testMissingInit := by
  unfold Engine.started
  rw [start_eq, discovery_among]
  exact awaits_start (tied_greeted settings _ rfl)

theorem Reachable.tended {settings : Config.Settings} {engine : Engine}
    (h : Reachable settings engine) : engine.Tended := by
  induction h with
  | start platform pool clock contention =>
    exact tended_started settings platform pool clock contention
  | move move _ ih => exact tended_moves ih [move]

/-! ### The live timers -/

/-- The live timers are exactly those that the parts of the engine hold, and each part has the
timer that it needs. -/
structure Engine.OwnsTimers (engine : Engine) : Prop where
  /-- The live timers of a place are the one whose handle is kept there, if there is one. -/
  owned : ∀ place, (engine.site.timers.liveAt place).map Timer.handle =
    (held engine.network engine.incidents place).toList
  /-- What fires was not replaced by another timer. -/
  current : ∀ timer ∈ engine.site.timers.live,
    held engine.network engine.incidents timer.kind.place = some timer.handle
  refresh : engine.network.refreshTimer.isSome
  missing : engine.network.missingTimer.isSome
  /-- No session waits to be started while one is running. -/
  running : engine.network.scan.active → ∀ timer ∈ engine.site.timers.live,
    timer.kind ≠ .testMissingInit
  interrogate : engine.network.interrogateTimer.isSome = engine.network.interrogation.active
  learn : engine.network.learnTimer.isSome → engine.network.learning

/-- After its start an engine owns its timers, whatever happens to it. -/
theorem ownsTimers_moves (settings : Config.Settings) (platform : Shadow.Platform)
    (pool : Link.Pool) (clock : Clock) (contention : List Bool) (moves : List Move) :
    ((Engine.started settings platform pool clock contention).moves moves).OwnsTimers := by
  have h := tended_moves (tended_started settings platform pool clock contention) moves
  obtain ⟨kind, hawaits, hidle⟩ := h.rests
  exact
    { owned := fun place => h.tied.map_handle_liveAt place
      current := h.tied.kept
      refresh := h.regular.refresh
      missing := hawaits.isSome
      running := fun hactive timer ht hinit =>
        hidle hactive ((hawaits.kind_eq timer ht (by rw [hinit]; rfl)).symm.trans hinit)
      interrogate := h.regular.interrogate
      learn := h.regular.learn }

end AlarmMesh.Gateway
