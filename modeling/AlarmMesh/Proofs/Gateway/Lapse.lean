import AlarmMesh.Proofs.Gateway.Phases
import AlarmMesh.Proofs.Gateway.TestMove

/-!
# Moves that take time

A `Move` looks at one clock that stands still until the next move.  A clock that runs shows another
time at every look: when a further probe of the missing-node test is sent, at the look that tells
how long ago the last one was, at the check that the session has not lasted too long and at the
note of when the probe was sent; and it shows a later time for every timer that is started.

* `Lapse` — how much time passes between the looks of one move;
* `Discovery.probeWithin`, `receiveMissingWithin` — the handlers that act on what the clock shows,
  with time that passes between the looks;
* `Site.delayed` — what became of the time at the end of a move: the clock shows more, and what was
  started later is due later;
* `Stride`, `Engine.stride` — a move that takes time, `stride_prompt` being the case that it takes
  none, and `exists_strides` the runs of such moves;
* `Engine.Within` — the three kinds of moves that take time;
* `Engine.Poised`, `Poised.strides` — what holds in all runs of them.

Any live timer may be due any later than it was, so a run of the engine with a clock that runs is
such a run, and not the other way round: what holds in all of these runs holds for every clock that
does not go back.
-/

namespace AlarmMesh

/-- A timer of this kind sends a probe when it fires. -/
def TimerKind.probes : TimerKind → Bool
  | testMissingTimeout | testMissingContinue => true
  | _ => false

theorem TimerKind.place_of_probes {kind : TimerKind} (h : kind.probes) : kind.place = .missing := by
  cases kind with
  | testMissingTimeout | testMissingContinue => rfl
  | _ => simp [probes] at h

/-! ### Timers that are due later -/

namespace TimerQueue

/-- A live timer is due later than it was, and takes its place anew. -/
def defer (queue : TimerQueue) (handle : TimerHandle) (delay : Duration) : TimerQueue :=
  match queue.live.find? fun timer => timer.handle = handle with
  | some timer =>
    { queue with
      live := place { timer with deadline := timer.deadline + delay.nanoseconds }
        (queue.live.erase timer) }
  | none => queue

/-- The same timers are live, each due no sooner than before. -/
structure Postponed (queue later : TimerQueue) : Prop where
  scheduled : later.scheduled = queue.scheduled
  perm : (later.live.map fun timer => (timer.handle, timer.kind)).Perm
    (queue.live.map fun timer => (timer.handle, timer.kind))
  noSooner : ∀ timer ∈ later.live, ∃ other ∈ queue.live,
    other.handle = timer.handle ∧ other.kind = timer.kind ∧ other.deadline ≤ timer.deadline

variable {queue later : TimerQueue} {held : TimerPlace → Option TimerHandle}

theorem Postponed.refl (queue : TimerQueue) : Postponed queue queue :=
  ⟨rfl, .refl _, fun timer ht => ⟨timer, ht, rfl, rfl, Nat.le_refl _⟩⟩

theorem Postponed.trans {a b c : TimerQueue} (h : Postponed a b) (h' : Postponed b c) :
    Postponed a c where
  scheduled := h'.scheduled.trans h.scheduled
  perm := h'.perm.trans h.perm
  noSooner timer ht := by
    obtain ⟨middle, hm, hhandle', hkind', hle'⟩ := h'.noSooner timer ht
    obtain ⟨other, ho, hhandle, hkind, hle⟩ := h.noSooner middle hm
    exact ⟨other, ho, hhandle.trans hhandle', hkind.trans hkind', Nat.le_trans hle hle'⟩

theorem postponed_defer (queue : TimerQueue) (handle : TimerHandle) (delay : Duration) :
    Postponed queue (queue.defer handle delay) := by
  unfold defer
  split
  · next timer hfind =>
    have hmem : timer ∈ queue.live := List.mem_of_find?_eq_some hfind
    refine ⟨rfl, ?_, fun other ho => ?_⟩
    · refine ((place_perm _ _).map _).trans ?_
      exact ((List.perm_cons_erase hmem).map fun timer => (timer.handle, timer.kind)).symm
    · rcases mem_place.1 ho with rfl | ho
      · exact ⟨timer, hmem, rfl, rfl, Nat.le_add_right _ _⟩
      · exact ⟨other, List.mem_of_mem_erase ho, rfl, rfl, Nat.le_refl _⟩
  · exact .refl queue

theorem postponed_foldl (deferrals : List (TimerHandle × Duration)) (queue : TimerQueue) :
    Postponed queue (deferrals.foldl (fun queue deferral => queue.defer deferral.1 deferral.2)
      queue) := by
  induction deferrals generalizing queue with
  | nil => exact .refl queue
  | cons deferral deferrals ih => exact (postponed_defer queue _ _).trans (ih _)

/-- Timers that are due later are held where they were. -/
theorem Tied.postponed (h : Tied queue held) (hlater : queue.Postponed later) :
    Tied later held where
  fresh timer ht := by
    obtain ⟨other, ho, hhandle, -⟩ := hlater.noSooner timer ht
    rw [hlater.scheduled, ← hhandle]
    exact h.fresh other ho
  distinct := by
    have hperm := hlater.perm.map Prod.fst
    rw [List.map_map, List.map_map] at hperm
    exact hperm.nodup_iff.2 h.distinct
  kept timer ht := by
    obtain ⟨other, ho, hhandle, hkind, -⟩ := hlater.noSooner timer ht
    rw [← hhandle, ← hkind]
    exact h.kept other ho
  alive place handle hp := by
    obtain ⟨timer, ht, hhandle, hplace⟩ := h.alive place handle hp
    have hstill := hlater.perm.mem_iff.2
      (List.mem_map_of_mem (f := fun timer : Timer => (timer.handle, timer.kind)) ht)
    obtain ⟨other, ho, hsame⟩ := List.mem_map.1 hstill
    obtain ⟨hsameHandle, hsameKind⟩ := Prod.mk.inj hsame
    exact ⟨other, ho, hsameHandle.trans hhandle, by rw [hsameKind, hplace]⟩

end TimerQueue

end AlarmMesh

namespace AlarmMesh.Gateway

open Radio (Report SidMap)

/-! ### Looks at the clock -/

/-- How much time passes in one move from one look at the clock to the next. -/
structure Lapse where
  /-- From the first look, when a report arrives, to the one that tells how long ago the last probe
  was sent. -/
  toCompare : Duration := ⟨0⟩
  /-- From there to the check that the session has not lasted too long. -/
  toCheck : Duration := ⟨0⟩
  /-- From that check until the probe is sent. -/
  toSend : Duration := ⟨0⟩
  /-- From there to the note of when it was sent. -/
  toNote : Duration := ⟨0⟩
  /-- From there to the end of the move. -/
  toEnd : Duration := ⟨0⟩
  /-- How much later timers are due because the clock was read later for them. -/
  deferrals : List (TimerHandle × Duration) := []
  deriving DecidableEq, Repr

/-- The clock was read later than it stands. -/
def Site.delayed (site : Site) (lapse : Lapse) : Site :=
  { site with
    clock := site.clock.advance lapse.toEnd
    timers := lapse.deferrals.foldl (fun queue deferral => queue.defer deferral.1 deferral.2)
      site.timers }

theorem advance_zero (clock : Clock) : clock.advance ⟨0⟩ = clock := by
  simp [Clock.advance, Duration.seconds]

namespace Discovery

/-- Time passes. -/
def pass (d : Discovery) (time : Duration) : Discovery :=
  d.onSite fun site => { site with clock := site.clock.advance time }

/-- Note that a probe was sent, and wait for the report that answers it. -/
def noteProbe (d : Discovery) : Discovery :=
  let scan := { d.scan with
    lastRequest := some d.site.clock.now, outstanding := d.scan.outstanding + 1 }
  { d with scan := scan }.restartMissing .testMissingTimeout d.settings.replyTimeout

/-- Send a further probe, if there is time for it. -/
def probeWithin (d : Discovery) (lapse : Lapse) : Discovery :=
  if d.isOverdue then d.runOut
  else
    match (d.pass lapse.toSend).send (.updateSidMap d.current) with
    | (true, d) => (d.pass lapse.toNote).noteProbe
    | (false, d) => (d.pass lapse.toNote).restartMissing .testMissingTimeout probeRetryDelay

/-- Go on after a report that leaves the question open. -/
def probeWhenDueWithin (d : Discovery) (lapse : Lapse) : Discovery :=
  if d.settings.minSpacing ≤ d.sinceProbe then (d.pass lapse.toCheck).probeWithin lapse
  else
    d.restartMissing .testMissingContinue
      ⟨d.settings.minSpacing.nanoseconds - d.sinceProbe.nanoseconds⟩

/-- A report of missing slots arrived.  Only if it leaves the question open the clock is looked at
again. -/
def receiveMissingWithin (d : Discovery) (map : SidMap) (lapse : Lapse) : Discovery :=
  if 0 < d.scan.outstanding ∧ ¬ d.isOverdue ∧ ¬ (d.countReport map).isDecided then
    ((d.countReport map).pass lapse.toCompare).probeWhenDueWithin lapse
  else d.receiveMissing map

variable {d d' : Discovery} {incidents : Incidents} {lapse : Lapse}

theorem pass_zero (d : Discovery) : d.pass ⟨0⟩ = d := by
  show { d with site := { d.site with clock := d.site.clock.advance ⟨0⟩ } } = d
  rw [advance_zero]

theorem probeWithin_of_overdue (h : d.isOverdue) : d.probeWithin lapse = d.runOut := if_pos h

/-- The map was sent, if there was a buffer for it, and is about to be noted. -/
def sentWithin (d : Discovery) (lapse : Lapse) : Discovery :=
  ((d.pass lapse.toSend).transmit (.updateSidMap d.current)).pass lapse.toNote

theorem probeWithin_of_due (h : ¬ d.isOverdue) : d.probeWithin lapse = if d.site.hasBuffer then
      (d.sentWithin lapse).noteProbe
    else (d.sentWithin lapse).restartMissing .testMissingTimeout probeRetryDelay := by
  have hbuffer : (d.pass lapse.toSend).site.hasBuffer = d.site.hasBuffer := rfl
  unfold probeWithin
  rw [if_neg h, send_eq, hbuffer]
  cases d.site.hasBuffer <;> rfl

theorem probeWithin_prompt (d : Discovery) : d.probeWithin {} = d.probe := by
  by_cases hover : d.isOverdue
  · rw [probeWithin_of_overdue hover, probe_of_overdue d hover]
  · have hsent : d.sentWithin {} = d.transmit (.updateSidMap d.current) := by
      unfold sentWithin
      dsimp only
      rw [pass_zero, pass_zero]
    rw [probeWithin_of_due hover, probe_of_due d hover, hsent]
    rfl

theorem receiveMissingWithin_prompt (d : Discovery) (map : SidMap) :
    d.receiveMissingWithin map {} = d.receiveMissing map := by
  unfold receiveMissingWithin
  split
  · next hopen =>
    obtain ⟨hsome, hdue, hundecided⟩ := hopen
    rw [receiveMissing_of_counted d map hsome hdue, if_neg hundecided]
    unfold probeWhenDueWithin probeWhenDue
    dsimp only
    rw [pass_zero, pass_zero, probeWithin_prompt]
  · rfl

/-- The test goes on with the same timer when that is due later. -/
theorem Awaits.postponed {kind : TimerKind} (h : d.Awaits kind)
    (hlater : d.site.timers.Postponed d'.site.timers) (hhandle : d'.missingTimer = d.missingTimer) :
    d'.Awaits kind where
  isSome := hhandle ▸ h.isSome
  kind_eq timer ht hplace := by
    obtain ⟨other, ho, -, hkind, -⟩ := hlater.noSooner timer ht
    exact hkind ▸ h.kind_eq other ho (hkind ▸ hplace)

theorem fireTest_of_probes {kind : TimerKind} (hp : kind.probes) : d.fireTest kind = d.probe := by
  cases kind with
  | testMissingTimeout | testMissingContinue => rfl
  | _ => simp [TimerKind.probes] at hp

/-! ### What steps that take time keep -/

/-- A step of the test, while time may pass. -/
structure Proceeds (d d' : Discovery) : Prop where
  network : d'.toNetwork = { d.toNetwork with scan := d'.scan, missingTimer := d'.missingTimer }
  tied : ∀ incidents, (d.among incidents).Tied → (d'.among incidents).Tied

theorem Proceeds.trans {a b c : Discovery} (h : a.Proceeds b) (h' : b.Proceeds c) :
    a.Proceeds c where
  network := by rw [h'.network, h.network]
  tied incidents ht := h'.tied incidents (h.tied incidents ht)

theorem TestStep.proceeds (h : d.TestStep d') : d.Proceeds d' := ⟨h.network, h.tied⟩

theorem proceeds_pass (d : Discovery) (time : Duration) : d.Proceeds (d.pass time) :=
  ⟨rfl, fun _ ht => ht⟩

theorem testStep_noteProbe (d : Discovery) : d.TestStep d.noteProbe :=
  (testStep_scan d _).trans (testStep_restartMissing _ rfl _)

theorem proceeds_sentWithin (d : Discovery) (lapse : Lapse) : d.Proceeds (d.sentWithin lapse) :=
  ((proceeds_pass d _).trans (testStep_transmit _ _).proceeds).trans (proceeds_pass _ _)

theorem proceeds_probeWithin (d : Discovery) (lapse : Lapse) :
    d.Proceeds (d.probeWithin lapse) := by
  by_cases hover : d.isOverdue
  · rw [probeWithin_of_overdue hover]
    exact (testStep_runOut d).proceeds
  rw [probeWithin_of_due hover]
  split
  · exact (proceeds_sentWithin d lapse).trans (testStep_noteProbe _).proceeds
  · exact (proceeds_sentWithin d lapse).trans (testStep_restartMissing _ rfl _).proceeds

theorem rests_probeWithin (ht : (d.among incidents).Tied) : (d.probeWithin lapse).Rests := by
  by_cases hover : d.isOverdue
  · rw [probeWithin_of_overdue hover]
    exact (ended_runOut d).rests ht
  have hsent := (proceeds_sentWithin d lapse).tied incidents ht
  rw [probeWithin_of_due hover]
  split
  · exact ⟨_, awaits_restartMissing _ rfl _ ((testStep_scan _ _).tied incidents hsent),
      fun _ => by simp⟩
  · exact ⟨_, awaits_restartMissing _ rfl _ hsent, fun _ => by simp⟩

theorem updateCount_probeWithin (h : d.scan.updateCount = 0) :
    (d.probeWithin lapse).scan.updateCount = 0 := by
  by_cases hover : d.isOverdue
  · rw [probeWithin_of_overdue hover]
    exact updateCount_runOut d
  rw [probeWithin_of_due hover]
  split
  · exact h
  · exact h

theorem proceeds_probeWhenDueWithin (d : Discovery) (lapse : Lapse) :
    d.Proceeds (d.probeWhenDueWithin lapse) := by
  unfold probeWhenDueWithin
  split
  · exact (proceeds_pass d _).trans (proceeds_probeWithin _ _)
  · exact (testStep_restartMissing d rfl _).proceeds

theorem rests_probeWhenDueWithin (ht : (d.among incidents).Tied) :
    (d.probeWhenDueWithin lapse).Rests := by
  unfold probeWhenDueWithin
  split
  · exact rests_probeWithin ((proceeds_pass d _).tied incidents ht)
  · exact ⟨_, awaits_restartMissing d rfl _ ht, fun _ => by simp⟩

theorem updateCount_probeWhenDueWithin (h : d.scan.updateCount = 0) :
    (d.probeWhenDueWithin lapse).scan.updateCount = 0 := by
  unfold probeWhenDueWithin
  split
  · exact updateCount_probeWithin h
  · exact h

theorem proceeds_receiveMissingWithin (d : Discovery) (map : SidMap) (lapse : Lapse) :
    d.Proceeds (d.receiveMissingWithin map lapse) := by
  unfold receiveMissingWithin
  split
  · exact ((testStep_countReport d map).proceeds.trans (proceeds_pass _ _)).trans
      (proceeds_probeWhenDueWithin _ _)
  · exact (testStep_receiveMissing d map).proceeds

theorem rests_receiveMissingWithin (map : SidMap) (ht : (d.among incidents).Tied)
    (h : d.Rests) : (d.receiveMissingWithin map lapse).Rests := by
  unfold receiveMissingWithin
  split
  · have hcounted := (testStep_countReport d map).proceeds.trans (proceeds_pass _ lapse.toCompare)
    exact rests_probeWhenDueWithin (hcounted.tied incidents ht)
  · exact rests_receiveMissing d map ht h

/-- While a probe is outstanding the map was not sent without the missing slots. -/
theorem Orderly.updateCount_eq_zero (h : d.Orderly) (hsome : 0 < d.scan.outstanding) :
    d.scan.updateCount = 0 := by
  by_contra hn
  exact absurd (h (Nat.pos_of_ne_zero hn)).1 (by omega)

theorem orderly_receiveMissingWithin (map : SidMap) (ht : (d.among incidents).Tied)
    (h : d.Orderly) : (d.receiveMissingWithin map lapse).Orderly := by
  unfold receiveMissingWithin
  split
  · next hopen =>
    have hn := h.updateCount_eq_zero hopen.1
    exact orderly_of_unsent _ (updateCount_probeWhenDueWithin
      (d := (d.countReport map).pass lapse.toCompare) hn)
  · exact orderly_receiveMissing d map ht h

end Discovery

/-! ### Moves -/

/-- A move that deals with one thing, and the time that it takes. -/
structure Stride where
  move : Move
  single : move.Single
  lapse : Lapse := {}

namespace Engine

/-- Make a move while time passes. -/
def moveWithin (engine : Engine) (move : Move) (lapse : Lapse) : Engine :=
  match move with
  | .receive frame =>
    match Report.decode frame with
    | .ok (.missingNodes map) =>
      (engine.counted frame).onNetwork fun d => d.receiveMissingWithin map lapse
    | _ => engine.receive frame
  | .expire =>
    match engine.popDue with
    | (some kind, popped) =>
      if kind.probes then
        popped.onNetwork fun d => { d with missingTimer := none }.probeWithin lapse
      else popped.fire kind
    | (none, _) => engine
  | move => engine.move move

/-- Make a move that takes time. -/
def stride (engine : Engine) (stride : Stride) : Engine :=
  (engine.moveWithin stride.move stride.lapse).onSite fun site => site.delayed stride.lapse

/-- Make several moves that take time, in order. -/
def strides (engine : Engine) (strides : List Stride) : Engine := strides.foldl stride engine

variable {engine : Engine} {move : Move} {lapse : Lapse}

/-- What becomes of a move that takes time. -/
inductive Within (engine : Engine) (move : Move) (lapse : Lapse) : Engine → Prop
  /-- The clock is looked at once, or for nothing but timers that are started. -/
  | prompt (hreport : ∀ frame map, move = .receive frame →
        Report.decode frame ≠ .ok (.missingNodes map))
      (hfire : ∀ kind d, move = .expire → engine.Fires kind d → kind.probes = false) :
      Within engine move lapse (engine.move move)
  /-- A report of missing slots arrives. -/
  | report {frame : List UInt8} {map : SidMap} (hmove : move = .receive frame)
      (hframe : Report.decode frame = .ok (.missingNodes map)) :
      Within engine move lapse
        ((engine.counted frame).onNetwork fun d => d.receiveMissingWithin map lapse)
  /-- A timer fires that sends a probe. -/
  | probe {kind : TimerKind} {d : Discovery} (hmove : move = .expire)
      (hfires : engine.Fires kind d) (hp : kind.probes) :
      Within engine move lapse ((d.probeWithin lapse).among engine.incidents)

theorem within_receive (frame : List UInt8) :
    engine.Within (.receive frame) lapse (engine.moveWithin (.receive frame) lapse) := by
  unfold moveWithin
  dsimp only
  split
  · next hframe => exact .report rfl hframe
  · next hother =>
    refine .prompt (fun _ map hmove => ?_) fun _ _ hmove => nomatch hmove
    obtain rfl := Move.receive.inj hmove
    exact hother map

theorem within_expire : engine.Within .expire lapse (engine.moveWithin .expire lapse) := by
  have hprompt {engine' : Engine} (heq : engine.expire = engine')
      (hfire : ∀ kind, engine.popDue.1 = some kind → kind.probes = false) :
      engine.Within .expire lapse engine' :=
    heq ▸ .prompt (fun _ _ hmove => nomatch hmove) fun kind _ _ hfires => hfire kind hfires.due.1
  unfold moveWithin
  dsimp only
  split
  · next kind popped hdue =>
    split
    · next hp =>
      cases hpop : engine.site.timers.popExpired engine.site.clock.now with
      | mk timer rest =>
        rw [popDue_eq engine hpop] at hdue
        obtain ⟨hkind, rfl⟩ := Prod.mk.inj hdue
        obtain ⟨timer, rfl, rfl⟩ := Option.map_eq_some_iff.1 hkind
        exact .probe rfl (.pop hpop (TimerKind.place_of_probes hp)) hp
    · next hp =>
      refine hprompt (expire_of_some hdue) fun kind' hdue' => ?_
      rw [hdue] at hdue'
      exact Option.some.inj hdue' ▸ eq_false_of_ne_true hp
  · next rest hdue =>
    refine hprompt (expire_of_none hdue) fun kind hdue' => ?_
    rw [hdue] at hdue'
    cases hdue'

theorem within_moveWithin (engine : Engine) (move : Move) (lapse : Lapse) :
    engine.Within move lapse (engine.moveWithin move lapse) := by
  cases move with
  | receive frame => exact within_receive frame
  | expire => exact within_expire
  | _ => exact .prompt (fun _ _ hmove => nomatch hmove) fun _ _ hmove => nomatch hmove

/-! ### Moves that take no time -/

theorem Fires.move_eq {kind : TimerKind} {d : Discovery} (h : engine.Fires kind d) :
    engine.move .expire = (d.fireTest kind).among engine.incidents := by
  obtain ⟨hpop, hplace⟩ := h
  show engine.expire = _
  rw [expire_of_some (popDue_eq engine hpop), fire_test engine _ hplace,
    (Fires.pop hpop hplace).onTimer_eq]

/-- In the second phase no timer is awaited that sends a probe. -/
theorem Fires.updateCount_eq_zero {kind : TimerKind} {d : Discovery} (h : engine.Fires kind d)
    (horderly : engine.discovery.Orderly) (hp : kind.probes) : d.scan.updateCount = 0 := by
  by_contra hn
  rw [h.scan] at hn
  rw [h.kind_eq (horderly (Nat.pos_of_ne_zero hn)).2] at hp
  cases hp

theorem Within.eq_of_prompt {engine' : Engine} (h : engine.Within move {} engine') :
    engine' = engine.move move := by
  cases h with
  | prompt => rfl
  | @report frame map hmove hframe =>
    subst hmove
    rw [show engine.move (.receive frame) = _ from receive_missingNodes engine hframe]
    exact congrArg (fun d => d.among engine.incidents)
      (Discovery.receiveMissingWithin_prompt (engine.counted frame).discovery map)
  | probe hmove hfires hp =>
    subst hmove
    rw [hfires.move_eq, Discovery.fireTest_of_probes hp, Discovery.probeWithin_prompt]

theorem stride_prompt (engine : Engine) {move : Move} (h : move.Single) :
    engine.stride ⟨move, h, {}⟩ = engine.move move := by
  have hdelayed (site : Site) : site.delayed {} = site := by
    unfold Site.delayed
    dsimp only
    rw [advance_zero]
    rfl
  unfold stride onSite
  dsimp only
  rw [hdelayed, (engine.within_moveWithin move {}).eq_of_prompt]

theorem strides_append (engine : Engine) (strides strides' : List Stride) :
    engine.strides (strides ++ strides') = (engine.strides strides).strides strides' :=
  List.foldl_append

theorem exists_strides_of_singles {singles : List Move} (h : ∀ move ∈ singles, move.Single)
    (engine : Engine) : ∃ strides : List Stride, (∀ stride ∈ strides, stride.lapse = {}) ∧
      engine.strides strides = engine.moves singles := by
  induction singles generalizing engine with
  | nil => exact ⟨[], List.forall_mem_nil _, rfl⟩
  | cons move singles ih =>
    obtain ⟨hsingle, hrest⟩ := List.forall_mem_cons.1 h
    obtain ⟨strides, hprompt, heq⟩ := ih hrest (engine.move move)
    refine ⟨⟨move, hsingle, {}⟩ :: strides, List.forall_mem_cons.2 ⟨rfl, hprompt⟩, ?_⟩
    show (engine.stride _).strides strides = _
    rw [stride_prompt engine hsingle, heq, moves_cons]

/-- Whatever moves are made of an engine, they are made of moves that take no time. -/
theorem exists_strides (engine : Engine) (moves : List Move) :
    ∃ strides : List Stride, (∀ stride ∈ strides, stride.lapse = {}) ∧
      engine.strides strides = engine.moves moves := by
  induction moves generalizing engine with
  | nil => exact ⟨[], List.forall_mem_nil _, rfl⟩
  | cons move moves ih =>
    obtain ⟨first, hfirst, hmove⟩ :=
      exists_strides_of_singles (fun _ hmem => engine.single_of_mem_singles hmem) engine
    obtain ⟨rest, hrest, hmoves⟩ := ih (engine.move move)
    refine ⟨first ++ rest, List.forall_mem_append.2 ⟨hfirst, hrest⟩, ?_⟩
    rw [strides_append, hmove, moves_singles, hmoves, moves_cons]

end Engine

/-! ### Runs -/

/-- What holds of an engine between two moves, however long they take. -/
structure Engine.Poised (settings : Config.DiscoverySettings) (engine : Engine) : Prop where
  tended : engine.Tended
  orderly : engine.discovery.Orderly
  settings_eq : engine.network.settings = settings

namespace Engine.Poised

variable {settings : Config.DiscoverySettings} {engine engine' : Engine} {lapse : Lapse}

theorem turn (h : engine.Poised settings) (ht : Turn engine engine') : engine'.Poised settings :=
  ⟨tended_turn h.tended ht, orderly_turn h.tended h.orderly ht, ht.settings_eq.trans h.settings_eq⟩

theorem move (h : engine.Poised settings) (move : Move) : (engine.move move).Poised settings :=
  Turn.induct (P := fun engine => engine.Poised settings) turn (engine.turns_move move) h

/-- A step of the test from where it found the network keeps the engine poised. -/
theorem of_proceeds (h : engine.Poised settings) {d d' : Discovery} {handle : Option TimerHandle}
    (hnetwork : d.toNetwork = { engine.network with missingTimer := handle })
    (htied : (d.among engine.incidents).Tied) (hstep : d.Proceeds d') (hrests : d'.Rests)
    (horderly : d'.Orderly) : (d'.among engine.incidents).Poised settings where
  tended :=
    { tied := hstep.tied _ htied
      regular := by
        show d'.toNetwork.Regular
        rw [hstep.network, hnetwork]
        exact ⟨h.tended.regular.refresh, h.tended.regular.interrogate, h.tended.regular.learn⟩
      rests := hrests }
  orderly := horderly
  settings_eq := by
    show d'.toNetwork.settings = settings
    rw [hstep.network, hnetwork]
    exact h.settings_eq

/-- A move may take time. -/
theorem within (h : engine.Poised settings) {move : Move}
    (hwithin : engine.Within move lapse engine') : engine'.Poised settings := by
  cases hwithin with
  | prompt => exact h.move move
  | @report frame map hmove hframe =>
    have hcounted : Beside engine (engine.counted frame) :=
      beside_onSite engine (f := fun site => site.count (.frameHandled (frame.headD 0)))
        (Site.silent_count _ (by simp))
    have htied : (engine.counted frame).Tied := hcounted.toAside.tied h.tended.tied
    have hposed := h.turn (.aside hcounted.toAside fun hregular => hregular)
    exact h.of_proceeds (d := (engine.counted frame).discovery) rfl htied
      (Discovery.proceeds_receiveMissingWithin _ map lapse)
      (Discovery.rests_receiveMissingWithin map htied hposed.tended.rests)
      (Discovery.orderly_receiveMissingWithin map htied hposed.orderly)
  | probe hmove hfires hp =>
    have htied := hfires.tied h.tended.tied
    have hunsent := hfires.updateCount_eq_zero h.orderly hp
    obtain ⟨rest, rfl⟩ := hfires.eq
    exact h.of_proceeds rfl htied (Discovery.proceeds_probeWithin _ lapse)
      (Discovery.rests_probeWithin htied)
      (Discovery.orderly_of_unsent _ (Discovery.updateCount_probeWithin hunsent))

/-- Timers may be due later than they were. -/
theorem delayed (h : engine.Poised settings) (lapse : Lapse) :
    (engine.onSite fun site => site.delayed lapse).Poised settings := by
  have hlater := TimerQueue.postponed_foldl lapse.deferrals engine.site.timers
  obtain ⟨kind, hawaits, hidle⟩ := h.tended.rests
  exact
    { tended := ⟨h.tended.tied.postponed hlater, h.tended.regular,
        ⟨kind, hawaits.postponed hlater rfl, hidle⟩⟩
      orderly := fun hn => ⟨(h.orderly hn).1, (h.orderly hn).2.postponed hlater rfl⟩
      settings_eq := h.settings_eq }

theorem stride (h : engine.Poised settings) (stride : Stride) :
    (engine.stride stride).Poised settings :=
  (h.within (engine.within_moveWithin stride.move stride.lapse)).delayed stride.lapse

theorem strides (h : engine.Poised settings) (strides : List Stride) :
    (engine.strides strides).Poised settings := by
  induction strides generalizing engine with
  | nil => exact h
  | cons stride strides ih => exact ih (h.stride stride)

end Engine.Poised

/-- A new engine is poised after its start. -/
theorem poised_started (settings : Config.Settings) (platform : Shadow.Platform)
    (pool : Link.Pool) (clock : Clock) (contention : List Bool) :
    (Engine.started settings platform pool clock contention).Poised settings.discovery :=
  have h : Reachable settings _ := .start platform pool clock contention
  ⟨h.tended, h.orderly, h.settings_eq⟩

end AlarmMesh.Gateway
