import AlarmMesh.Proofs.Gateway.MapUpdate
import AlarmMesh.Proofs.Gateway.Presence

/-!
# The verdict of a session

A session that may delete devices and does not run out of time ends with a verdict: the devices
that are missing in every report that it counted, or were flagged as missing before, are deleted,
and every other device is reported online.

* `Verdict settings base answers site` — what has become of the devices;
* `Asking`, `Judged` — what holds while the network is asked, and once the devices are judged;
* `Session` — one of the two, and the timer that the session waits for;
* `session_move` — a move goes on with the session or ends it with a verdict;
* `session_verdict` — and so does every run;
* `not_verdict_of_outage` — no call that the verdict is made of can be spared.
-/

namespace AlarmMesh.Gateway

open Config (DiscoverySettings)
open Radio (Report SidMap)

/-- The slots that are missing in every report. -/
def missingInAll (answers : List SidMap) : SidMap := answers.foldl SidMap.intersection .full

theorem missingInAll_concat (answers : List SidMap) (map : SidMap) :
    missingInAll (answers ++ [map]) = (missingInAll answers).intersection map :=
  List.foldl_concat SidMap.intersection _ _ _

/-- The reports that a session counts are no more than it needs, and fewer only if no slot is
missing in all of them. -/
structure Enough (settings : DiscoverySettings) (answers : List SidMap) : Prop where
  most : answers.length ≤ settings.requiredScans
  fewer : answers.length < settings.requiredScans → (missingInAll answers).isEmpty

/-- What a session that counted some reports makes of the devices that it began with. -/
structure Verdict (settings : DiscoverySettings) (base : Site) (answers : List SidMap)
    (site : Site) : Prop extends Enough settings answers where
  /-- The devices that are missing are gone, and no others. -/
  meshDevices : site.meshDevices =
    base.meshDevices.filter fun id => !base.isGone (missingInAll answers) id
  online : ∀ id ∈ site.meshDevices,
    site.reported id .presence = some Shadow.Presence.online.value

namespace Discovery

/-- A session that deletes devices is running and has not run out of time. -/
structure Running (settings : DiscoverySettings) (d : Discovery) : Prop where
  settings_eq : d.settings = settings
  active : d.scan.active
  delete : d.scan.delete
  inTime : d.scan.ranOutOfTime = false

/-- The network is asked which slots are missing, and the devices are as they were. -/
structure Asking (settings : DiscoverySettings) (base : Site) (answers : List SidMap)
    (d : Discovery) : Prop extends Running settings d where
  unsent : d.scan.updateCount = 0
  replies : d.scan.replies = answers.length
  removal : d.scan.removal = missingInAll answers
  undecided : answers.length < settings.requiredScans
  keeps : base.Keeps Site.watched d.site

/-- Every device is judged, and the map is being sent or about to be. -/
structure Judged (settings : DiscoverySettings) (base : Site) (answers : List SidMap)
    (d : Discovery) : Prop extends Running settings d, Enough settings answers where
  answered : 0 < d.scan.updateCount → d.scan.outstanding = 0
  marked : base.Marked (missingInAll answers) d.site

/-- The session is over, with a verdict unless it ran out of time. -/
structure Over (settings : DiscoverySettings) (base : Site) (answers : List SidMap)
    (d : Discovery) : Prop where
  idle : d.scan.active = false
  verdict : d.scan.ranOutOfTime = false → Verdict settings base answers d.site

/-- A session, and the timer that it waits for. -/
inductive Session (settings : DiscoverySettings) (base : Site) (answers : List SidMap)
    (d : Discovery) : Prop where
  | asking {kind : TimerKind} (h : d.Asking settings base answers) (hawaits : d.Awaits kind)
      (hkind : kind = .testMissingTimeout ∨ kind = .testMissingContinue)
  | judged (h : d.Judged settings base answers) (ho : d.scan.outstanding = 0)
      (hawaits : d.Awaits .testMissingUpdateMap)

variable {settings : DiscoverySettings} {base : Site} {answers : List SidMap} {d d' : Discovery}
  {incidents : Incidents}

theorem Session.running (h : d.Session settings base answers) : d.Running settings := by
  cases h with
  | asking h => exact h.toRunning
  | judged h => exact h.toRunning

/-! ### Running out of time -/

theorem runOut_ranOutOfTime (d : Discovery) : d.runOut.scan.ranOutOfTime = true := by
  unfold runOut
  rw [updateMap_of_over _ (by simp [isOver]), finishSession_scan]
  rfl

/-- A session that runs out of time ends without a verdict. -/
theorem over_runOut (d : Discovery) : d.runOut.Over settings base answers where
  idle := d.ended_runOut.active
  verdict htime := absurd (d.runOut_ranOutOfTime.symm.trans htime) (by simp)

/-! ### Asking -/

/-- The session asks once more, or runs out of time. -/
theorem Asking.probe (h : d.Asking settings base answers) (ht : (d.among incidents).Tied) :
    d.probe.Session settings base answers ∨ d.probe.Over settings base answers := by
  by_cases hdue : d.isOverdue
  · rw [probe_of_overdue d hdue]
    exact .inr (over_runOut d)
  rw [probe_of_due d hdue]
  left
  have hsent : d.site.Keeps Site.watched (d.transmit (.updateSidMap d.current)).site :=
    Site.keeps_of_platform (transmit_platform d _)
  split
  · refine .asking { h with keeps := ?_ }
      (awaits_restartMissing _ rfl _ ((testStep_probed d).tied _ ht)) (.inl rfl)
    exact (h.keeps.trans hsent).trans (Site.keeps_of_platform (restartMissing_platform _ _ _))
  · refine .asking { h with keeps := ?_ }
      (awaits_restartMissing _ rfl _ ((testStep_transmit d _).tied _ ht)) (.inl rfl)
    exact (h.keeps.trans hsent).trans (Site.keeps_of_platform (restartMissing_platform _ _ _))

/-- The session asks once more, now or later. -/
theorem Asking.probeWhenDue (h : d.Asking settings base answers)
    (ht : (d.among incidents).Tied) : d.probeWhenDue.Session settings base answers ∨
      d.probeWhenDue.Over settings base answers := by
  unfold Discovery.probeWhenDue
  split
  · exact h.probe ht
  · left
    refine .asking { h with keeps := ?_ } (awaits_restartMissing d rfl _ ht) (.inr rfl)
    exact h.keeps.trans (Site.keeps_of_platform (restartMissing_platform _ _ _))

/-! ### Sending the map -/

/-- The session sends the map that is left, or ends with a verdict. -/
theorem Judged.updateMap (h : d.Judged settings base answers) (hsweeps : base.Sweeps)
    (ht : (d.among incidents).Tied) : d.updateMap.Session settings base answers ∨
      d.updateMap.Over settings base answers := by
  by_cases hended : d.isOver ∨ d.scan.updateCount = 0 ∧ ¬ d.someMissing
  · right
    have hswept := swept_updateMap (hsweeps.congr h.marked.outages) h.delete h.inTime hended
    obtain ⟨hleft, honline⟩ := hswept.verdict h.marked
    exact ⟨(ended_updateMap d hended).active,
      fun _ => { h.toEnough with meshDevices := hleft, online := honline }⟩
  · left
    obtain ⟨hover, hsome⟩ := not_or.1 hended
    have hgoes := goesOn_updateMap hover fun hn => by simpa [hn] using hsome
    have ho : d.updateMap.scan.outstanding = 0 := by
      rw [hgoes.scan]
      show d.unanswered = 0
      unfold unanswered
      split
      · rfl
      · exact h.answered (by omega)
    have hrunning : d.updateMap.Running settings :=
      ⟨(congrArg (fun network => network.settings) (testStep_updateMap d).network).trans
          h.settings_eq,
        by rw [hgoes.scan]; exact h.active, by rw [hgoes.scan]; exact h.delete,
        by rw [hgoes.scan]; exact h.inTime⟩
    exact .judged
      { hrunning, h.toEnough with
        answered := fun _ => ho
        marked := h.marked.keeps (Site.keeps_of_platform hgoes.platform) }
      ho (hgoes.awaits _ ht)

/-! ### Reports -/

theorem keeps_countReport (d : Discovery) (map : SidMap) :
    d.site.Keeps Site.watched (d.countReport map).site :=
  Site.keeps_of_platform (cancelMissing_platform d)

theorem Asking.replies_countReport (h : d.Asking settings base answers) (map : SidMap) :
    (d.countReport map).scan.replies = (answers ++ [map]).length := by
  rw [List.length_append, ← h.replies]
  rfl

theorem Asking.removal_countReport (h : d.Asking settings base answers) (map : SidMap) :
    (d.countReport map).scan.removal = missingInAll (answers ++ [map]) := by
  rw [missingInAll_concat, ← h.removal]
  rfl

/-- A report that answers a probe is counted. -/
theorem Asking.countReport (h : d.Asking settings base answers) (map : SidMap)
    (hopen : ¬ (d.countReport map).isDecided) :
    (d.countReport map).Asking settings base (answers ++ [map]) := by
  have hreplies := h.replies_countReport map
  have hundecided : (answers ++ [map]).length < settings.requiredScans := by
    simp only [isDecided, Bool.or_eq_true, decide_eq_true_eq, not_or, Nat.not_le] at hopen
    rw [← hreplies, ← h.settings_eq]
    exact hopen.1
  exact
    { settings_eq := h.settings_eq, active := h.active, delete := h.delete, inTime := h.inTime
      unsent := h.unsent, replies := hreplies, removal := h.removal_countReport map
      undecided := hundecided, keeps := h.keeps.trans (keeps_countReport d map) }

/-- The report that decides which slots are missing. -/
theorem Asking.markDevices (h : d.Asking settings base answers) (hsweeps : base.Sweeps)
    (hsid : ∀ id ∈ base.meshDevices, (base.slotOf id).isSome) (map : SidMap)
    (hdecided : (d.countReport map).isDecided) :
    (d.countReport map).markDevices.Judged settings base (answers ++ [map]) := by
  have hreplies := h.replies_countReport map
  have hremoval := h.removal_countReport map
  have hmost : (answers ++ [map]).length ≤ settings.requiredScans := by
    rw [List.length_append]
    exact h.undecided
  have hfewer (hlt : (answers ++ [map]).length < settings.requiredScans) :
      (missingInAll (answers ++ [map])).isEmpty := by
    simp only [isDecided, Bool.or_eq_true, decide_eq_true_eq] at hdecided
    rcases hdecided with hall | hnone
    · rw [hreplies] at hall
      have hall : settings.requiredScans ≤ (answers ++ [map]).length := h.settings_eq ▸ hall
      omega
    · exact hremoval ▸ hnone
  exact
    { settings_eq := h.settings_eq, active := h.active, delete := h.delete, inTime := h.inTime
      most := hmost, fewer := hfewer
      answered := fun hn => absurd h.unsent (Nat.ne_of_gt hn)
      marked := hremoval ▸
        marked_markDevices (h.keeps.trans (keeps_countReport d map)) hsweeps hsid }

/-- A report of missing slots while a session is running: it counts if a probe is outstanding. -/
theorem Session.receiveMissing (h : d.Session settings base answers) (hsweeps : base.Sweeps)
    (hsid : ∀ id ∈ base.meshDevices, (base.slotOf id).isSome) (ht : (d.among incidents).Tied)
    (map : SidMap) :
    (d.receiveMissing map).Session settings base
        (answers ++ if 0 < d.scan.outstanding then [map] else []) ∨
      (d.receiveMissing map).Over settings base
        (answers ++ if 0 < d.scan.outstanding then [map] else []) := by
  rcases Nat.eq_zero_or_pos d.scan.outstanding with ho | ho
  · rw [if_neg (by omega), List.append_nil]
    by_cases hconfirmed : d.isConfirmedBy map
    · cases h with
      | asking h => simp [isConfirmedBy, h.unsent] at hconfirmed
      | judged h =>
        rw [receiveMissing_of_confirmed d ho hconfirmed]
        have hjudged : Judged settings base answers { d with scan := { d.scan with
            updateCount := d.settings.updateDeleteCount } } := { h with answered := fun _ => ho }
        exact hjudged.updateMap hsweeps ht
    · rw [receiveMissing_of_ignored d ho hconfirmed]
      exact .inl h
  · rw [if_pos ho]
    cases h with
    | judged _ hnone => exact absurd hnone (Nat.ne_of_gt ho)
    | asking h =>
      by_cases hdue : d.isOverdue
      · rw [receiveMissing_of_overdue d ho hdue]
        exact .inr (over_runOut d)
      rw [receiveMissing_of_counted d map ho hdue]
      have hcount := testStep_countReport d map
      by_cases hdecided : (d.countReport map).isDecided
      · rw [if_pos hdecided]
        exact (h.markDevices hsweeps hsid map hdecided).updateMap hsweeps
          ((hcount.trans (testStep_markDevices _)).tied _ ht)
      · rw [if_neg hdecided]
        exact (h.countReport map hdecided).probeWhenDue (hcount.tied _ ht)

/-! ### Timers -/

/-- What a timer of the test does while a session is running. -/
theorem Session.fireTest {engine : Engine} {kind : TimerKind}
    (h : engine.discovery.Session settings base answers) (hsweeps : base.Sweeps)
    (ht : engine.Tied) (hfires : engine.Fires kind d) :
    (d.fireTest kind).Session settings base answers ∨
      (d.fireTest kind).Over settings base answers := by
  have htied := hfires.tied ht
  obtain ⟨rest, hd⟩ := hfires.eq
  cases h with
  | asking h hawaits hkind =>
    have hasking : d.Asking settings base answers := by
      rw [hd]
      exact { h with keeps := h.keeps.trans (Site.keeps_of_platform rfl) }
    have hprobe : d.fireTest kind = d.probe := by
      rw [hfires.kind_eq hawaits]
      rcases hkind with rfl | rfl <;> rfl
    rw [hprobe]
    exact hasking.probe htied
  | judged h _ hawaits =>
    have hjudged : d.Judged settings base answers := by
      rw [hd]
      exact { h with marked := h.marked.keeps (Site.keeps_of_platform rfl) }
    rw [hfires.kind_eq hawaits]
    exact hjudged.updateMap hsweeps htied

/-- Steps beside the test that keep what is reported of the devices. -/
theorem Session.aside {a b : Engine} (h : a.discovery.Session settings base answers)
    (haside : Aside a b) (hkeeps : a.site.Keeps Site.watched b.site) :
    b.discovery.Session settings base answers := by
  have hscan : b.discovery.scan = a.discovery.scan := haside.scan
  have hawaits {kind : TimerKind} (ha : a.discovery.Awaits kind) : b.discovery.Awaits kind :=
    ⟨haside.handle ▸ ha.isSome,
      fun timer htimer hp => ha.kind_eq timer (haside.missing timer htimer hp) hp⟩
  have hr := h.running
  have hrunning : b.discovery.Running settings :=
    ⟨haside.settings.trans hr.settings_eq, hscan ▸ hr.active, hscan ▸ hr.delete, hscan ▸ hr.inTime⟩
  cases h with
  | asking h ha hkind =>
    exact .asking
      { hrunning with
        unsent := hscan ▸ h.unsent
        replies := hscan ▸ h.replies
        removal := hscan ▸ h.removal
        undecided := h.undecided
        keeps := h.keeps.trans hkeeps }
      (hawaits ha) hkind
  | judged h ho ha =>
    exact .judged
      { hrunning, h.toEnough with
        answered := hscan ▸ h.answered
        marked := h.marked.keeps (hkeeps.mono (by simp [Site.watched])) }
      (hscan ▸ ho) (hawaits ha)

end Discovery

/-! ### Moves -/

/-- What may happen during a session: a report of missing slots arrives, a timer fires, time
passes, or the other users of the pool take and release buffers. -/
inductive Move.Awaited : Move → Prop where
  | report {frame : List UInt8} {map : SidMap}
      (h : Report.decode frame = .ok (.missingNodes map)) : Awaited (.receive frame)
  | expire : Awaited .expire
  | advance (step : Duration) : Awaited (.advance step)
  | share (pool : Link.Pool) : Awaited (.share pool)
  | contend (contention : List Bool) : Awaited (.contend contention)

theorem Network.phase_eq_idle {network : Network} :
    network.phase = .idle ↔ network.scan.active = false := by
  unfold phase Scan.phase
  cases network.scan.active
  · simp
  · simp
    split <;> simp

namespace Engine

theorem active_of_phase {engine : Engine} (h : engine.network.phase ≠ .idle) :
    engine.network.scan.active := by
  by_contra hidle
  exact h (Network.phase_eq_idle.2 (eq_false_of_ne_true hidle))

/-- What a move adds to the reports that are counted: one that arrives while a probe is
outstanding. -/
def answer (engine : Engine) : Move → List SidMap
  | .receive frame =>
    match Report.decode frame with
    | .ok (.missingNodes map) => if 0 < engine.network.scan.outstanding then [map] else []
    | _ => []
  | _ => []

/-- The reports that arrive while a probe is outstanding, in order. -/
def answers (engine : Engine) : List Move → List SidMap
  | [] => []
  | move :: moves => engine.answer move ++ (engine.move move).answers moves

/-- A session is running as long as there are moves to be made, and then it is over. -/
def SessionLasts (engine : Engine) : List Move → Prop
  | [] => engine.network.phase = .idle
  | move :: moves => engine.network.phase ≠ .idle ∧ (engine.move move).SessionLasts moves

instance decidableSessionLasts : (engine : Engine) → (moves : List Move) →
    Decidable (engine.SessionLasts moves)
  | _, [] => inferInstanceAs (Decidable (_ = _))
  | engine, move :: moves =>
    have := decidableSessionLasts (engine.move move) moves
    inferInstanceAs (Decidable (_ ∧ _))

end Engine

section Moves

variable {settings : DiscoverySettings} {base : Site} {answers : List SidMap} {engine : Engine}

/-- What fires is a timer of the test, or something that leaves alone both the test and what
devices report of their presence. -/
theorem expire_cases (engine : Engine) :
    Aside engine engine.expire ∧ engine.site.Keeps Site.watched engine.expire.site ∨
      ∃ kind d, engine.Fires kind d ∧
        engine.expire = (d.fireTest kind).among engine.incidents := by
  cases hpop : engine.site.timers.popExpired engine.site.clock.now with
  | mk popped rest =>
    have hdue := engine.popDue_eq hpop
    cases popped with
    | none =>
      rw [Engine.expire_of_none hdue]
      exact .inl ⟨.refl engine, .refl _ _⟩
    | some timer =>
      by_cases hplace : timer.kind.place = .missing
      · obtain ⟨d, hfires, hexpire⟩ := engine.expire_of_due (by rw [hdue]; rfl) hplace
        exact .inr ⟨_, d, hfires, hexpire⟩
      · have hpopped : engine.site.Keeps Site.watched (engine.popped rest).site :=
          Site.keeps_of_platform rfl
        rw [Engine.expire_of_some hdue]
        exact .inl ⟨(aside_fire hpop hplace).1, hpopped.trans (keeps_fire _ hplace)⟩

theorem session_expire (h : engine.discovery.Session settings base answers)
    (hsweeps : base.Sweeps) (ht : engine.Tied) :
    engine.expire.discovery.Session settings base answers ∨
      engine.expire.discovery.Over settings base answers := by
  rcases expire_cases engine with ⟨haside, hkeeps⟩ | ⟨kind, d, hfires, hexpire⟩
  · exact .inl (h.aside haside hkeeps)
  · rw [hexpire]
    exact h.fireTest hsweeps ht hfires

/-- A move goes on with the session, or ends it. -/
theorem session_move (h : engine.discovery.Session settings base answers) (hsweeps : base.Sweeps)
    (hsid : ∀ id ∈ base.meshDevices, (base.slotOf id).isSome) (ht : engine.Tied) {move : Move}
    (hmove : move.Awaited) :
    (engine.move move).discovery.Session settings base (answers ++ engine.answer move) ∨
      (engine.move move).discovery.Over settings base (answers ++ engine.answer move) := by
  cases hmove with
  | @report frame map hframe =>
    have hcounted : Aside engine (engine.counted frame) :=
      aside_silent (Site.silent_count _ (by simp)) rfl rfl rfl
    have hanswer : engine.answer (.receive frame) =
        if 0 < engine.network.scan.outstanding then [map] else [] := by
      simp only [Engine.answer, hframe]
    rw [hanswer]
    show (engine.receive frame).discovery.Session _ _ _ ∨
      (engine.receive frame).discovery.Over _ _ _
    rw [Engine.receive_missingNodes engine hframe]
    exact (h.aside hcounted (Site.keeps_of_platform rfl)).receiveMissing hsweeps hsid
      (hcounted.tied ht) map
  | expire =>
    rw [show engine.answer .expire = [] from rfl, List.append_nil]
    exact session_expire h hsweeps ht
  | advance | share | contend =>
    rw [show engine.answer _ = [] from rfl, List.append_nil]
    exact .inl (h.aside (Engine.beside_passive engine (by trivial)).toAside
      (Site.keeps_of_platform rfl))

/-- A session that lasts for some moves ends with a verdict, unless it runs out of time. -/
theorem session_moves (h : engine.discovery.Session settings base answers)
    (hsweeps : base.Sweeps) (hsid : ∀ id ∈ base.meshDevices, (base.slotOf id).isSome)
    (ht : engine.Tended) {moves : List Move} (hmoves : ∀ move ∈ moves, move.Awaited)
    (hlasts : engine.SessionLasts moves)
    (htime : (engine.moves moves).network.scan.ranOutOfTime = false) :
    Verdict settings base (answers ++ engine.answers moves) (engine.moves moves).site := by
  induction moves generalizing engine answers with
  | nil =>
    have hidle : engine.network.scan.active = false := Network.phase_eq_idle.1 hlasts
    exact absurd (hidle.symm.trans h.running.active) (by simp)
  | cons move moves ih =>
    have hrest (other : Move) (ho : other ∈ moves) : other.Awaited :=
      hmoves other (List.mem_cons_of_mem _ ho)
    rw [Engine.answers, ← List.append_assoc]
    rcases session_move h hsweeps hsid ht.tied (hmoves move List.mem_cons_self) with hgoes | hover
    · exact ih hgoes (tended_moves ht [move]) hrest hlasts.2 htime
    · -- nothing is left to be made of a session that is over
      cases moves with
      | nil =>
        rw [Engine.answers, List.append_nil]
        exact hover.verdict htime
      | cons next moves => exact absurd (Network.phase_eq_idle.2 hover.idle) hlasts.2.1

end Moves

/-! ### The beginning -/

namespace Discovery

/-- What a session that is asked for finds: the interrogation is off, and the last result and the
timer of the test are gone. -/
def readied (d : Discovery) : Discovery :=
  let d := { d with scan := { d.scan with delete := true } }.suspendInterrogation
  d.clearTestResult.cancelMissing

variable (d : Discovery)

theorem readied_toNetwork : d.readied.toNetwork = { d.toNetwork with
    scan := { d.scan with delete := true }
    interrogation := d.readied.interrogation
    interrogateTimer := d.readied.interrogateTimer
    missingTimer := none } := by
  unfold readied suspendInterrogation
  dsimp only
  split <;> rfl

theorem readied_hasBuffer : d.readied.site.hasBuffer = d.site.hasBuffer := by
  unfold readied suspendInterrogation
  rw [cancelMissing_hasBuffer]
  refine (Site.after_hasBuffer _ _).trans ((Site.after_hasBuffer _ _).trans ?_)
  dsimp only
  split
  · exact Site.cancel_hasBuffer _ _
  · rfl

theorem keeps_readied : d.site.Keeps Site.watched d.readied.site := by
  let chosen : Discovery := { d with scan := { d.scan with delete := true } }
  have hsuspend : d.site.Keeps Site.watched chosen.suspendInterrogation.site :=
    keeps_suspendInterrogation (d := chosen)
  exact (hsuspend.trans (Site.keeps_deleteProperty rfl)).trans
    (Site.keeps_of_platform (cancelMissing_platform _))

theorem tied_readied {incidents : Incidents} (ht : (d.among incidents).Tied) :
    (d.readied.among incidents).Tied := by
  let chosen : Discovery := { d with scan := { d.scan with delete := true } }
  have hsuspend := (chosen.aside_suspendInterrogation incidents).trans
    (aside_onSite chosen.suspendInterrogation incidents
      (f := fun site => site.after (site.platform.deleteProperty .gateway .testModeResult))
      (Site.silent_after _ _))
  exact (testStep_cancelMissing _).tied incidents (hsuspend.tied ht)

theorem setTestMode_of_idle (hidle : d.scan.active = false) (hn : d.inNetwork) :
    d.setTestMode true true = d.readied.beginSession := by
  have hnetwork := congrArg Network.inNetwork d.readied_toNetwork
  unfold setTestMode startTest
  refine (if_neg (by simp [hidle])).trans ((if_pos rfl).trans (if_pos ?_))
  exact hnetwork.trans hn

/-- A session that is asked for begins by asking. -/
theorem asking_setTestMode {incidents : Incidents} (ht : (d.among incidents).Tied)
    (hscans : d.settings.requiredScans ≠ 0) (hidle : d.scan.active = false) (hn : d.inNetwork)
    (hl : d.learning = false) (hb : d.site.hasBuffer) :
    (d.setTestMode true true).Asking d.settings d.site [] ∧
      (d.setTestMode true true).Awaits .testMissingTimeout := by
  have hnetwork := d.readied_toNetwork
  have hscan : d.readied.scan = { d.scan with delete := true } := congrArg Network.scan hnetwork
  have hsettings : d.readied.settings = d.settings := (congrArg Network.settings hnetwork :)
  have hjoined : d.readied.inNetwork = d.inNetwork := (congrArg Network.inNetwork hnetwork :)
  have hlearning : d.readied.learning = d.learning := (congrArg Network.learning hnetwork :)
  have hcommand := transmit_platform d.readied.cleared (.updateSidMap d.readied.current)
  have hsent : d.site.Keeps Site.watched
      (d.readied.cleared.transmit (.updateSidMap d.readied.current)).site :=
    d.keeps_readied.trans (Site.keeps_of_platform hcommand)
  have htied := ((testStep_scan d.readied d.readied.cleared.scan).trans
    (testStep_transmit d.readied.cleared (.updateSidMap d.readied.current))).tied incidents
      (tied_readied d ht)
  rw [setTestMode_of_idle d hidle hn, beginSession_of_joined d.readied (by simp [hscan, hidle])
    (hjoined ▸ hn) (by simp [hlearning, hl]), if_pos (d.readied_hasBuffer.trans hb)]
  refine ⟨?_, awaits_restartMissing _ rfl _ htied⟩
  exact
    { settings_eq := hsettings
      active := rfl
      delete := congrArg Scan.delete hscan
      inTime := rfl
      unsent := rfl
      replies := rfl
      removal := rfl
      undecided := Nat.pos_of_ne_zero hscans
      keeps := hsent.trans (Site.keeps_of_platform (restartMissing_platform _ _ _)) }

end Discovery

/-! ### From the beginning to the verdict -/

/-- A session that may delete devices, from the request for it to its verdict.  The gateway is in
a network and not in learn mode, no session is running, every mesh device reports a slot, and a
buffer is free; the calls by which devices are listed, judged, marked and deleted reach the store.
Then the session begins.  If only reports of missing slots arrive and timers fire until it is over,
and it does not run out of time, the mesh devices that are gone are exactly those that are missing
in every report that was counted or were flagged as missing, every other mesh device is reported
online, and the reports counted were enough. -/
theorem session_verdict {settings : Config.Settings} (hcheck : settings.check = .ok ())
    {engine : Engine} (hr : Reachable settings engine) (hidle : engine.network.phase = .idle)
    (hn : engine.network.inNetwork) (hl : engine.network.learning = false)
    (hsid : ∀ id ∈ engine.site.meshDevices, (engine.site.slotOf id).isSome)
    (hb : engine.site.hasBuffer) (hserves : engine.site.Serves) :
    (engine.control (.beginScan true)).network.phase = .probing ∧
      ∀ moves : List Move, (∀ move ∈ moves, move.Awaited) →
        (engine.control (.beginScan true)).SessionLasts moves →
        ((engine.control (.beginScan true)).moves moves).network.scan.ranOutOfTime = false →
        Verdict settings.discovery engine.site
          ((engine.control (.beginScan true)).answers moves)
          ((engine.control (.beginScan true)).moves moves).site := by
  have hsettings := hr.settings_eq
  have hscans : engine.network.settings.requiredScans ≠ 0 := by
    rw [hsettings]
    exact (Config.DiscoverySettings.check_eq_ok.1 (Config.Settings.check_eq_ok.1 hcheck).2.1).2.1
  obtain ⟨hasking, hawaits⟩ := engine.discovery.asking_setTestMode hr.tended.tied hscans
    (Network.phase_eq_idle.1 hidle) hn hl hb
  have hbegun : (engine.control (.beginScan true)).discovery.Session engine.network.settings
      engine.site [] := .asking hasking hawaits (.inl rfl)
  have htended := (hr.move (.control (.beginScan true))).tended
  refine ⟨?_, fun moves hmoves hlasts htime => ?_⟩
  · have hactive : (engine.control (.beginScan true)).network.scan.active = true := hasking.active
    have hunsent : (engine.control (.beginScan true)).network.scan.updateCount = 0 := hasking.unsent
    simp [Network.phase, Scan.phase, hactive, hunsent]
  · have hverdict := session_moves hbegun hserves.sweeps hsid htended hmoves hlasts htime
    rw [hsettings] at hverdict
    exact hverdict

/-- The report of missing slots below 8. -/
def reportOf (slots : UInt8) : Move := .receive [0xd4, 1, 0, slots, 0, 0, 0, 0, 0, 0, 0]

/-- Slot 7 is reported missing three times, with half a minute in between, and then the map
without it is confirmed. -/
def threeReports : List Move :=
  [reportOf 0x80, .advance (.ofSeconds 30), .expire, .expire, reportOf 0x80,
    .advance (.ofSeconds 30), .expire, .expire, reportOf 0xc0, reportOf 0]

theorem awaited_threeReports : ∀ move ∈ threeReports, move.Awaited := by
  have hreport (slots : UInt8) : (reportOf slots).Awaited := .report rfl
  simp only [threeReports, List.forall_mem_cons, List.not_mem_nil, false_implies, implies_true,
    and_true]
  exact ⟨hreport _, .advance _, .expire, .expire, hreport _, .advance _, .expire, .expire,
    hreport _, hreport _⟩

/-- The device at slot 7 is missing in every report, the one at slot 5 was flagged as missing, and
the one at slot 6 is left. -/
theorem session_verdict_joined :
    (joined.control (.beginScan true)).answers threeReports = [⟨0x80⟩, ⟨0x80⟩, ⟨0xc0⟩] ∧
    ((joined.control (.beginScan true)).moves threeReports).site.meshDevices = [.ofNat 6] ∧
    Verdict {} joined.site ((joined.control (.beginScan true)).answers threeReports)
      ((joined.control (.beginScan true)).moves threeReports).site := by
  have hverdict := (session_verdict (by decide) reachable_joined (by decide +kernel)
    (by decide +kernel) (by decide +kernel) (by decide +kernel) (by decide +kernel)
    (by decide +kernel)).2 threeReports awaited_threeReports (by decide +kernel) (by decide +kernel)
  exact ⟨by decide +kernel, by decide +kernel, hverdict⟩

/-- The engine when a call to the shadow begins to fail. -/
def Engine.without (engine : Engine) (call : Shadow.Call × Option Shadow.Property) : Engine :=
  engine.move (.outages [⟨call.1, call.2⟩])

section Without

variable (engine : Engine) (call : Shadow.Call × Option Shadow.Property)

theorem without_network : (engine.without call).network = engine.network := rfl

theorem without_store :
    (engine.without call).site.platform.store = engine.site.platform.store := rfl

theorem without_hasBuffer : (engine.without call).site.hasBuffer = engine.site.hasBuffer := rfl

end Without

/-- The session that is asked for while the call fails. -/
def sessionWithout (call : Shadow.Call × Option Shadow.Property) : Engine :=
  (joined.without call).control (.beginScan true)

/-- None of the calls that a verdict is made of can be spared: if one of them fails during the
session, some device that is missing is still there when all of them reach the store again. -/
theorem not_verdict_of_outage :
    ({} : Config.Settings).check = .ok () ∧ (∀ move ∈ threeReports, move.Awaited) ∧
    (∀ id ∈ joined.site.meshDevices, (joined.site.slotOf id).isSome) ∧
    ∀ call ∈ Site.verdictCalls,
      Reachable {} (joined.without call) ∧
      (joined.without call).site.platform.store = joined.site.platform.store ∧
      (joined.without call).network.phase = .idle ∧ (joined.without call).network.inNetwork ∧
      (joined.without call).network.learning = false ∧ (joined.without call).site.hasBuffer ∧
      (sessionWithout call).SessionLasts threeReports ∧
      ((sessionWithout call).moves threeReports).network.scan.ranOutOfTime = false ∧
      ¬ Verdict {} joined.site ((sessionWithout call).answers threeReports)
        (((sessionWithout call).moves threeReports).move (.outages [])).site := by
  have hlasts : ∀ call ∈ Site.verdictCalls, (sessionWithout call).SessionLasts threeReports ∧
      ((sessionWithout call).moves threeReports).network.scan.ranOutOfTime = false := by
    decide +kernel
  have hdevices : ∀ call ∈ Site.verdictCalls,
      (((sessionWithout call).moves threeReports).move (.outages [])).site.meshDevices ≠
        joined.site.meshDevices.filter fun id =>
          !joined.site.isGone (missingInAll ((sessionWithout call).answers threeReports)) id := by
    decide +kernel
  have hjoined : joined.network.phase = .idle ∧ joined.network.inNetwork ∧
      joined.network.learning = false ∧ joined.site.hasBuffer := by decide +kernel
  refine ⟨by decide, awaited_threeReports, by decide +kernel, fun call hcall => ?_⟩
  obtain ⟨hidle, hn, hl, hb⟩ := hjoined
  obtain ⟨hlast, htime⟩ := hlasts call hcall
  rw [without_network, without_hasBuffer]
  exact ⟨reachable_joined.move _, without_store joined call, hidle, hn, hl, hb, hlast, htime,
    fun hverdict => hdevices call hcall hverdict.meshDevices⟩

end AlarmMesh.Gateway
