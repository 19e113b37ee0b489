import AlarmMesh.Proofs.Gateway.Probing
import AlarmMesh.Proofs.Gateway.Verdict

/-!
# The pace of the probes

The probes of a run are written down as they are sent, each with the time that the clock showed at
the last look before, and the time that was noted after.  Between two probes of one session lies at
least the time that is set for it, even from the note of the first to the look that allows the
second.  That look is also what the longest time is about that a session may take: no probe is
allowed after it.

How long it takes from that look until the probe is out is up to the clock, and a timer that is
dealt with before it is due sends a probe at once: `not_paced_beyond`.

* `Engine.probesOf`, `Engine.probes` — the probes of a move and of a run, latest first;
* `Engine.Accounts engine stride` — no map that a move sends is overlooked;
* `Paced settings log` — the pace;
* `Engine.Logged engine log` — the session that a further probe would belong to is the last one of
  the log;
* `logged_stride`, `paced_strides` — one move, and a run of them;
* `paced_probes` — the result for every run, whatever time its moves take.
-/

namespace AlarmMesh.Gateway

/-! ### Probes -/

/-- A probe that was sent.  A session begins at the time that is noted for its first probe, which
was sent no later: for that one all three times are the same. -/
structure Probe where
  /-- When it was allowed: the time of the last look at the clock before it was sent. -/
  asked : Instant
  sent : Instant
  /-- The time that was noted for it, once it was sent. -/
  noted : Instant
  /-- A session begins with it. -/
  first : Bool
  deriving DecidableEq, Repr

namespace Engine

/-- The probe that a move sends, if it sends one.  A map that goes out is a probe unless it counts
as one of the second phase. -/
def probesOf (engine : Engine) (stride : Stride) : List Probe :=
  let after := engine.stride stride
  if engine.site.maps.length < after.site.maps.length ∧ after.network.scan.updateCount = 0 then
    let first := after.network.scan.active && !engine.network.scan.active
    let noted := after.network.scan.lastRequest.getD 0
    [if first then ⟨noted, noted, noted, true⟩
      else ⟨engine.asksAt stride, engine.sendsAt stride, noted, false⟩]
  else []

/-- The probes of a run, latest first. -/
def probes : Engine → List Stride → List Probe
  | _, [] => []
  | engine, stride :: strides => probes (engine.stride stride) strides ++ engine.probesOf stride

/-- What a move sends is accounted for: one probe, which is the current map, or none, and then at
most a map of the second phase. -/
def Accounts (engine : Engine) (stride : Stride) : Prop :=
  (∃ probe, engine.probesOf stride = [probe] ∧
    (engine.stride stride).site.maps = engine.network.current :: engine.site.maps) ∨
  engine.probesOf stride = [] ∧ engine.discovery.UpdatesOnly (engine.stride stride).discovery

variable {engine : Engine} {stride : Stride} {asked sent : Instant}

/-- A map that goes out and does not count as one of the second phase is a probe. -/
theorem probesOf_of_sent {map : Radio.SidMap} {noted : Instant} {first : Bool}
    (hmaps : (engine.stride stride).site.maps = map :: engine.site.maps)
    (hn : (engine.stride stride).network.scan.updateCount = 0)
    (hnoted : (engine.stride stride).network.scan.lastRequest = some noted)
    (hfirst : ((engine.stride stride).network.scan.active && !engine.network.scan.active) = first) :
    engine.probesOf stride = [if first then ⟨noted, noted, noted, true⟩
      else ⟨engine.asksAt stride, engine.sendsAt stride, noted, false⟩] := by
  have hlonger : engine.site.maps.length < (engine.stride stride).site.maps.length := by
    rw [hmaps]
    exact Nat.lt_succ_self _
  unfold probesOf
  dsimp only
  rw [if_pos ⟨hlonger, hn⟩, hnoted, hfirst]
  rfl

theorem probesOf_of_updatesOnly
    (h : engine.discovery.UpdatesOnly (engine.stride stride).discovery) :
    engine.probesOf stride = [] := by
  refine if_neg fun ⟨hlonger, hn⟩ => ?_
  rcases h with hmaps | ⟨hpos, -⟩
  · have hmaps : (engine.stride stride).site.maps = engine.site.maps := hmaps
    rw [hmaps] at hlonger
    exact Nat.lt_irrefl _ hlonger
  · exact Nat.ne_of_gt hpos hn

theorem accounts_of_probing
    (h : engine.discovery.Probing asked sent (engine.stride stride).discovery) :
    engine.Accounts stride := by
  cases h with
  | quiet maps => exact .inr ⟨probesOf_of_updatesOnly maps, maps⟩
  | first _ _ maps unsent spaced =>
    exact .inl ⟨_, probesOf_of_sent maps unsent spaced.lastRequest rfl, maps⟩
  | further _ _ maps unsent lastRequest =>
    exact .inl ⟨_, probesOf_of_sent maps unsent lastRequest rfl, maps⟩

end Engine

/-! ### The pace -/

/-- A probe that is not the first of its session comes late enough after the one before it, and
every probe belongs to a session that had not lasted too long when that was last looked at. -/
structure Paced (settings : Config.DiscoverySettings) (log : List Probe) : Prop where
  inOrder : ∀ probe ∈ log, probe.asked ≤ probe.sent ∧ probe.sent ≤ probe.noted
  spaced : ∀ probe last earlier, probe :: last :: earlier <:+ log → probe.first = false →
    last.noted + settings.minSpacing.nanoseconds ≤ probe.asked
  inTime : ∀ probe earlier, probe :: earlier <:+ log →
    ∃ first, (probe :: earlier).find? Probe.first = some first ∧
      probe.asked ≤ first.noted + settings.maxTestDuration.nanoseconds

variable {settings : Config.DiscoverySettings} {log : List Probe}

theorem paced_nil : Paced settings [] where
  inOrder _ h := absurd h List.not_mem_nil
  spaced _ _ _ h := absurd (List.suffix_nil.1 h) (List.cons_ne_nil _ _)
  inTime _ _ h := absurd (List.suffix_nil.1 h) (List.cons_ne_nil _ _)

/-- A session begins. -/
theorem Paced.first (h : Paced settings log) (time : Instant) :
    Paced settings (⟨time, time, time, true⟩ :: log) where
  inOrder := List.forall_mem_cons.2 ⟨⟨Nat.le_refl _, Nat.le_refl _⟩, h.inOrder⟩
  spaced probe last earlier hsuffix hfurther := by
    rcases List.suffix_cons_iff.1 hsuffix with heq | hsuffix
    · obtain ⟨rfl, -⟩ := List.cons.inj heq
      exact absurd hfurther.symm Bool.false_ne_true
    · exact h.spaced probe last earlier hsuffix hfurther
  inTime probe earlier hsuffix := by
    rcases List.suffix_cons_iff.1 hsuffix with heq | hsuffix
    · obtain ⟨rfl, rfl⟩ := List.cons.inj heq
      exact ⟨⟨time, time, time, true⟩, rfl, Nat.le_add_right _ _⟩
    · exact h.inTime probe earlier hsuffix

/-- The session of a log goes on. -/
theorem Paced.further (h : Paced settings log) {first last : Probe} {asked sent noted : Instant}
    (hfirst : log.find? Probe.first = some first) (hlast : log.head? = some last)
    (horder : asked ≤ sent ∧ sent ≤ noted)
    (hearly : last.noted + settings.minSpacing.nanoseconds ≤ asked)
    (hlate : asked ≤ first.noted + settings.maxTestDuration.nanoseconds) :
    Paced settings (⟨asked, sent, noted, false⟩ :: log) where
  inOrder := List.forall_mem_cons.2 ⟨horder, h.inOrder⟩
  spaced probe before earlier hsuffix hfurther := by
    rcases List.suffix_cons_iff.1 hsuffix with heq | hsuffix
    · obtain ⟨rfl, rfl⟩ := List.cons.inj heq
      obtain rfl := Option.some.inj hlast
      exact hearly
    · exact h.spaced probe before earlier hsuffix hfurther
  inTime probe earlier hsuffix := by
    rcases List.suffix_cons_iff.1 hsuffix with heq | hsuffix
    · obtain ⟨rfl, rfl⟩ := List.cons.inj heq
      exact ⟨first, hfirst, hlate⟩
    · exact h.inTime probe earlier hsuffix

namespace Engine

variable {engine : Engine} {stride : Stride}

/-- If a further probe may be sent, the log knows the session that it belongs to. -/
def Logged (engine : Engine) (log : List Probe) : Prop :=
  engine.discovery.MayProbe → ∃ first last, log.find? Probe.first = some first ∧
    log.head? = some last ∧ engine.discovery.Spaced first.noted last.noted

/-- What a move sends is written down at the pace that is set. -/
theorem logged_stride
    (hprobing : engine.discovery.Probing (engine.asksAt stride) (engine.sendsAt stride)
      (engine.stride stride).discovery)
    (hlogged : engine.Logged log) (hpaced : Paced engine.network.settings log) :
    (engine.stride stride).Logged (engine.probesOf stride ++ log) ∧
      Paced engine.network.settings (engine.probesOf stride ++ log) := by
  cases hprobing with
  | quiet maps later =>
    rw [probesOf_of_updatesOnly maps, List.nil_append]
    refine ⟨fun hmay => ?_, hpaced⟩
    obtain ⟨first, last, hfirst, hlast, hspaced⟩ := hlogged (later.may hmay)
    exact ⟨first, last, hfirst, hlast, later.spaced hmay _ _ hspaced⟩
  | first idle active maps unsent spaced =>
    have hbegins : ((engine.stride stride).network.scan.active &&
        !engine.network.scan.active) = true := by
      rw [show engine.network.scan.active = false from idle]
      exact (Bool.and_true _).trans active
    rw [probesOf_of_sent maps unsent spaced.lastRequest hbegins]
    exact ⟨fun _ => ⟨_, _, rfl, rfl, spaced⟩, hpaced.first _⟩
  | further may active maps unsent lastRequest past due =>
    have hgoesOn : ((engine.stride stride).network.scan.active &&
        !engine.network.scan.active) = false := by
      rw [show (engine.stride stride).network.scan.active = engine.network.scan.active
        from active]
      exact Bool.and_not_self _
    obtain ⟨first, last, hfirst, hlast, hspaced⟩ := hlogged may
    obtain ⟨hearly, hlate, hafter⟩ := due _ _ hspaced
    rw [probesOf_of_sent maps unsent lastRequest hgoesOn]
    exact ⟨fun _ => ⟨first, _, hfirst, rfl, hafter⟩,
      hpaced.further hfirst hlast ⟨Nat.le_add_right _ _, past⟩ hearly hlate⟩

end Engine

/-! ### Runs -/

section Run

variable {settings : Config.Settings} {engine : Engine} (hcheck : settings.check = .ok ())
include hcheck

theorem minSpacing_lt_replyTimeout :
    settings.discovery.minSpacing < settings.discovery.replyTimeout :=
  Nat.lt_of_not_le
    (Config.DiscoverySettings.check_eq_ok.1 (Config.Settings.check_eq_ok.1 hcheck).2.1).1

/-- The probes of moves keep the pace, whatever time these take. -/
theorem paced_strides (h : engine.Poised settings.discovery) (strides : List Stride)
    (hlogged : engine.Logged log) (hpaced : Paced settings.discovery log) :
    Paced settings.discovery (engine.probes strides ++ log) := by
  induction strides generalizing engine log with
  | nil => exact hpaced
  | cons stride strides ih =>
    have hprobing := Engine.probing_stride h (minSpacing_lt_replyTimeout hcheck) stride
    have hstep := Engine.logged_stride hprobing hlogged (h.settings_eq.symm ▸ hpaced)
    rw [h.settings_eq] at hstep
    have hrest := ih (h.stride stride) hstep.1 hstep.2
    rw [← List.append_assoc] at hrest
    exact hrest

/-- From the start on, whatever happens and whatever time that takes, the probes of one session are
far enough from one another, none is sent once the session was seen to have lasted too long, and no
other map is sent than these probes and those of the second phase. -/
theorem paced_probes (platform : Shadow.Platform) (pool : Link.Pool) (clock : Clock)
    (contention : List Bool) (strides : List Stride) :
    Paced settings.discovery
      ((Engine.started settings platform pool clock contention).probes strides) ∧
    ∀ stride : Stride,
      ((Engine.started settings platform pool clock contention).strides strides).Accounts
        stride := by
  have hposed := poised_started settings platform pool clock contention
  have hwaits := awaits_started settings platform pool clock contention
  have hnone : (Engine.started settings platform pool clock contention).Logged [] := by
    refine fun hmay => absurd hmay (hwaits.not_mayProbe rfl ?_)
    unfold Engine.started
    rw [start_eq]
    rfl
  have hpaced := paced_strides hcheck hposed strides hnone paced_nil
  rw [List.append_nil] at hpaced
  exact ⟨hpaced, fun stride => Engine.accounts_of_probing
    (Engine.probing_stride (hposed.strides strides) (minSpacing_lt_replyTimeout hcheck) stride)⟩

end Run

/-- A test is asked for, and half a minute after its first report it sends another probe.  It takes
a second until that is out, and another one until it is noted. -/
def askingTwice : List Stride :=
  [⟨.receive [0xd4, 3, 0xe1, 0, 0, 0, 0, 0, 0, 0], trivial, {}⟩,
    ⟨.control (.beginScan true), trivial, {}⟩, ⟨reportOf 0x80, trivial, {}⟩,
    ⟨.advance (.ofSeconds 30), trivial, {}⟩, ⟨.expire, trivial, {}⟩,
    ⟨.expire, trivial, { toSend := .ofSeconds 1, toNote := .ofSeconds 1 }⟩]

/-- What is sent there. -/
def twoProbes : List Probe :=
  [⟨30000000000, 31000000000, 32000000000, false⟩, ⟨0, 0, 0, true⟩]

theorem paced_probes_askingTwice :
    (Engine.started {} threeDevices (.ofSlots 10) { unix := 0 } []).probes askingTwice =
      twoProbes ∧ Paced {} twoProbes := by
  have hprobes : (Engine.started {} threeDevices (.ofSlots 10) { unix := 0 } []).probes
      askingTwice = twoProbes := by decide +kernel
  have hcheck : Config.Settings.check {} = .ok () := by decide
  have hpaced := (paced_probes hcheck threeDevices (.ofSlots 10) { unix := 0 } [] askingTwice).1
  rw [hprobes] at hpaced
  exact ⟨hprobes, hpaced⟩

/-- A test is asked for, and when the longest time that it may take is just not over it is allowed
another probe, which takes a second. -/
def askingLate : List Stride :=
  [⟨.receive [0xd4, 3, 0xe1, 0, 0, 0, 0, 0, 0, 0], trivial, {}⟩,
    ⟨.control (.beginScan true), trivial, {}⟩, ⟨.advance (.ofSeconds 360), trivial, {}⟩,
    ⟨.expire, trivial, {}⟩, ⟨.expire, trivial, { toSend := .ofSeconds 1 }⟩]

/-- A test was asked for. -/
def askedOnce : Engine := joined.move (.control (.beginScan true))

/-- Beyond that nothing is certain.  A probe that is allowed may be sent when the session has lasted
too long, and a timer that was not waited for sends another probe in the same moment. -/
theorem not_paced_beyond :
    Config.Settings.check {} = .ok () ∧
    ((Engine.started {} threeDevices (.ofSlots 10) { unix := 0 } []).probes askingLate =
        [⟨360000000000, 361000000000, 361000000000, false⟩, ⟨0, 0, 0, true⟩] ∧
      ¬ 361000000000 ≤ 0 + (Config.Settings.discovery {}).maxTestDuration.nanoseconds) ∧
    (askedOnce.network.scan.lastRequest = some 0 ∧
      (askedOnce.fire .testMissingTimeout).site.maps =
        askedOnce.network.current :: askedOnce.site.maps ∧
      (askedOnce.fire .testMissingTimeout).network.scan.active ∧
      (askedOnce.fire .testMissingTimeout).network.scan.lastRequest = some 0 ∧
      ¬ 0 + (Config.Settings.discovery {}).minSpacing.nanoseconds ≤ 0) := by
  decide +kernel

end AlarmMesh.Gateway
