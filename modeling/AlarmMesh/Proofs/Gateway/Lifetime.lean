import AlarmMesh.Proofs.Gateway.Acts
import AlarmMesh.Proofs.Timers.Order

/-!
# The life of a pending record

A pending record is known by its place and by the handle of its timer, which no later record of its
device has again.  Its timer is due the transaction timeout after the record began, is live as long
as the record waits, and is the only one of its place.  So the record ends once, by an answer or by
that timer, and the timer of an earlier record ends none.

* `Correlator.Times` — what acts leave of the timers, `times_act`;
* `Engine.Pending engine place handle` — the record waits;
* `Engine.RecordTimers`, `recordTimers_single` — one move, and the timers of records;
* `Incidents.Sheds`, `sheds_move` — without a frame no record begins;
* `Engine.receive_of_began`, `timer_of_began` — a record begins with a frame, and its timer;
* `Engine.Minds`, `minds_moves` — the record waits only as long as its timer is live;
* `Engine.Resolves`, `resolves_single` — what ends a record;
* `not_pending_fireDue` — when every timer that is due fires, its own is among them;
* `Engine.EndsOnce`, `endsOnce` — the result.
-/

namespace AlarmMesh.Gateway

open Radio (AlarmReport Command DeviceId FaultFlag FaultReport Report)

/-! ### What acts leave of the timers -/

namespace Site

theorem park_timers {site site' : Site} {report : List UInt8} {use : Link.SlotUse}
    {question : Command} {parked : Option Link.Buffer}
    (h : site.park report use question = (parked, site')) :
    site'.timers = site.timers ∧ site'.clock = site.clock := by
  have htaken := site.silent_takeBuffer fun pool => pool.acquireWith report
  exact (parks_of_park h).follow (R := fun a b => b.timers = a.timers ∧ b.clock = a.clock)
    (fun h h' => ⟨h'.1.trans h.1, h'.2.trans h.2⟩) ⟨htaken.timers, htaken.clock⟩
    (fun _ _ => ⟨rfl, rfl⟩) fun site => ⟨send_timers site question, send_clock site question⟩

/-- Chores start no timer of a record. -/
theorem Chore.follows {site site' : Site} (h : site.Chore site') {P : Timer → Prop}
    (hp : ∀ timer, ¬ timer.kind.place.OfRecord → P timer) :
    site.timers.Follows P site.clock.now site'.timers ∧ site'.clock = site.clock := by
  cases h with
  | apart _ htimers hclock => exact ⟨htimers ▸ .refl P _ _, hclock⟩
  | send command => exact ⟨(send_timers site command).symm ▸ .refl P _ _, send_clock site command⟩
  | cancel handle =>
    cases handle with
    | none => exact ⟨.refl P _ _, rfl⟩
    | some handle => exact ⟨TimerQueue.follows_cancel P _ _ handle, rfl⟩
  | schedule kind delay hplace => exact ⟨TimerQueue.follows_schedule _ (hp _ hplace), rfl⟩

end Site

/-- A timer of a record is due the transaction timeout from now. -/
def Correlator.DueLater (c : Correlator) (timer : Timer) : Prop :=
  timer.kind.place.OfRecord →
    timer.deadline = c.site.clock.now + c.settings.transactionTimeout.nanoseconds

/-- What acts leave of the timers. -/
structure Correlator.Times (c c' : Correlator) : Prop where
  clock : c'.site.clock = c.site.clock
  settings : c'.settings = c.settings
  follows : c.site.timers.Follows c.DueLater c.site.clock.now c'.site.timers

namespace Correlator

variable {a b c c' : Correlator} {events : List AlarmEvent}

theorem Times.refl (c : Correlator) : c.Times c := ⟨rfl, rfl, .refl _ _ _⟩

theorem Times.trans (h : a.Times b) (h' : b.Times c) : a.Times c where
  clock := h'.clock.trans h.clock
  settings := h'.settings.trans h.settings
  follows := by
    have hdue : b.DueLater = a.DueLater := by
      unfold DueLater
      rw [h.clock, h.settings]
    have hfollows := h'.follows
    rw [hdue, h.clock] at hfollows
    exact h.follows.trans hfollows

/-- A record begins, once its report is parked. -/
theorem times_begin {incidents : Incidents} {site : Site} {report : List UInt8}
    {use : Link.SlotUse} {question : Command} {parked : Option Link.Buffer} {kind : TimerKind}
    (hpark : c.site.park report use question = (parked, site))
    (hsettings : incidents.settings = c.settings) : c.Times
      ⟨incidents, (site.schedule kind c.settings.transactionTimeout).2⟩ := by
  obtain ⟨htimers, hclock⟩ := Site.park_timers hpark
  refine ⟨hclock, hsettings, ?_⟩
  show c.site.timers.Follows c.DueLater c.site.clock.now
    (site.timers.schedule site.clock.now kind c.settings.transactionTimeout).2
  rw [htimers, hclock]
  exact TimerQueue.follows_schedule _ fun _ => rfl

theorem times_act (h : c.Act events c') : c.Times c' := by
  cases h with
  | chore hchore =>
    obtain ⟨hfollows, hclock⟩ := hchore.follows fun timer (h : ¬ timer.kind.place.OfRecord) =>
      (fun hplace => absurd hplace h : c.DueLater timer)
    exact ⟨hclock, rfl, hfollows⟩
  | tell event =>
    rw [Site.told_eq]
    exact ⟨rfl, rfl, .refl _ _ _⟩
  | refuse hpark =>
    obtain ⟨htimers, hclock⟩ := Site.park_timers hpark
    exact ⟨hclock, rfl, htimers ▸ .refl _ _ _⟩
  | beginFault _ _ hpark => exact times_begin hpark rfl
  | beginAlarm _ hpark => exact times_begin hpark rfl
  | endFault => exact ⟨rfl, rfl, .refl _ _ _⟩
  | endAlarm => exact ⟨rfl, rfl, .refl _ _ _⟩

theorem times_acts (h : c.Acts events c') : c.Times c' := by
  induction h with
  | refl => exact .refl c
  | act _ hact ih => exact ih.trans (times_act hact)

end Correlator

/-! ### One move -/

/-- The record at a place whose timer has this handle waits. -/
def Engine.Pending (engine : Engine) (place : TimerPlace) (handle : TimerHandle) : Prop :=
  held engine.network engine.incidents place = some handle

/-- The timers of records after something has happened: those that were live before, and new ones,
which are due the transaction timeout from then on. -/
structure Engine.RecordTimers (engine engine' : Engine) : Prop where
  settings : engine'.incidents.settings = engine.incidents.settings
  now : engine.site.clock.now ≤ engine'.site.clock.now
  scheduled : engine.site.timers.scheduled ≤ engine'.site.timers.scheduled
  sorted : engine.site.timers.Sorted → engine'.site.timers.Sorted
  live : ∀ timer ∈ engine'.site.timers.live, timer.kind.place.OfRecord →
    timer ∈ engine.site.timers.live ∨ engine.site.timers.scheduled ≤ timer.handle.number ∧
      timer.deadline =
        engine.site.clock.now + engine.incidents.settings.transactionTimeout.nanoseconds

namespace Engine

variable {engine engine' : Engine} {move : Move}

theorem recordTimers_of_times (h : engine.correlator.Times engine'.correlator) :
    engine.RecordTimers engine' where
  settings := h.settings
  now := Nat.le_of_eq (congrArg Clock.now h.clock.symm)
  scheduled := h.follows.scheduled
  sorted := h.follows.sorted
  live timer htimer hplace := by
    rcases h.follows.live timer htimer with hlive | ⟨hnumber, hdue⟩
    · exact .inl hlive
    · exact .inr ⟨hnumber, hdue hplace⟩

theorem recordTimers_expire (engine : Engine) : engine.RecordTimers engine.expire := by
  obtain ⟨hnone, -⟩ | ⟨timer, rest, hpop, hacts⟩ := acts_expire engine
  · rw [hnone]
    exact recordTimers_of_times (.refl _)
  · obtain ⟨hlive, hscheduled⟩ := TimerQueue.live_of_popExpired hpop
    have htimes := recordTimers_of_times (Correlator.times_acts hacts)
    refine ⟨htimes.settings, htimes.now, ?_, ?_, ?_⟩
    · exact hscheduled ▸ htimes.scheduled
    · exact fun hsorted => htimes.sorted (TimerQueue.sorted_pop hsorted hpop)
    · intro other hother hplace
      rcases htimes.live other hother hplace with hrest | ⟨hnumber, hdue⟩
      · refine .inl ?_
        rw [hlive]
        exact List.mem_cons_of_mem _ hrest
      · exact .inr ⟨hscheduled ▸ hnumber, hdue⟩

theorem recordTimers_single (engine : Engine) (hsingle : move.Single) :
    engine.RecordTimers (engine.move move) := by
  cases move with
  | expire => exact recordTimers_expire engine
  | advance step =>
    exact ⟨rfl, Nat.le_add_right _ _, Nat.le_refl _, id, fun _ htimer _ => .inl htimer⟩
  | share => exact recordTimers_of_times ⟨rfl, rfl, .refl _ _ _⟩
  | fireDue => exact hsingle.elim
  | _ => exact recordTimers_of_times (Correlator.times_acts (acts_move engine hsingle trivial))

end Engine

/-! ### Reachable engines -/

theorem Reachable.eventSettings {settings : Config.Settings} {engine : Engine}
    (h : Reachable settings engine) : engine.incidents.settings = settings.events := by
  induction h with
  | start platform pool clock contention =>
    unfold Engine.started
    generalize hnew : Engine.ofSettings settings _ = new
    have hsettings : new.incidents.settings = settings.events := by
      rw [← hnew]
      rfl
    exact (Correlator.times_acts new.acts_start).settings.trans hsettings
  | @move engine move _ ih =>
    exact Engine.single_induct (P := fun engine => engine.incidents.settings = settings.events)
      (fun engine _ hsingle heq => (engine.recordTimers_single hsingle).settings.trans heq)
      engine [move] ih

theorem Reachable.sorted {settings : Config.Settings} {engine : Engine}
    (h : Reachable settings engine) : engine.site.timers.Sorted := by
  induction h with
  | start platform pool clock contention =>
    unfold Engine.started
    generalize hnew : Engine.ofSettings settings _ = new
    have hempty : new.site.timers.Sorted := by
      rw [← hnew]
      exact List.Pairwise.nil
    exact (Correlator.times_acts new.acts_start).follows.sorted hempty
  | @move engine move _ ih =>
    exact Engine.single_induct (P := fun engine => engine.site.timers.Sorted)
      (fun engine _ hsingle hsorted => (engine.recordTimers_single hsingle).sorted hsorted)
      engine [move] ih

/-! ### A record and its timer -/

section Record

variable {settings : Config.Settings} {engine : Engine} {place : TimerPlace}
  {handle : TimerHandle} {move : Move}

/-- A record that waits has a live timer. -/
theorem Engine.Tied.timer_of_pending (h : engine.Tied) (hwaits : engine.Pending place handle) :
    ∃ timer ∈ engine.site.timers.live, timer.handle = handle ∧ timer.kind.place = place :=
  h.alive place handle hwaits

/-- The timer of a record that has just begun is due the transaction timeout from then on. -/
theorem timer_of_began (h : Reachable settings engine) (hplace : place.OfRecord)
    (hsingle : move.Single) (hbefore : ¬ engine.Pending place handle)
    (hafter : (engine.move move).Pending place handle) :
    ∃ timer ∈ (engine.move move).site.timers.live, timer.handle = handle ∧
      timer.kind.place = place ∧ timer.deadline =
        engine.site.clock.now + settings.events.transactionTimeout.nanoseconds := by
  obtain ⟨timer, hlive, hhandle, hkind⟩ := (h.move move).tended.tied.timer_of_pending hafter
  refine ⟨timer, hlive, hhandle, hkind, ?_⟩
  rcases (engine.recordTimers_single hsingle).live timer hlive (hkind ▸ hplace) with
    hold | ⟨-, hdue⟩
  · have hkept := h.tended.tied.kept timer hold
    rw [hkind, hhandle] at hkept
    exact absurd hkept hbefore
  · rw [hdue, h.eventSettings]

/-- A record that has ended does not wait again. -/
theorem not_pending_single (h : Reachable settings engine) (hplace : place.OfRecord)
    (hnumber : handle.number < engine.site.timers.scheduled)
    (hnot : ¬ engine.Pending place handle) (hsingle : move.Single) :
    ¬ (engine.move move).Pending place handle := by
  intro hafter
  obtain ⟨timer, hlive, hhandle, hkind⟩ := (h.move move).tended.tied.timer_of_pending hafter
  rcases (engine.recordTimers_single hsingle).live timer hlive (hkind ▸ hplace) with
    hold | ⟨hnew, -⟩
  · have hkept := h.tended.tied.kept timer hold
    rw [hkind, hhandle] at hkept
    exact hnot hkept
  · rw [hhandle] at hnew
    exact Nat.not_lt_of_le hnew hnumber

/-- The timer of a record stays live while the record waits. -/
theorem live_single (h : Reachable settings engine) (hplace : place.OfRecord) {timer : Timer}
    (hhandle : timer.handle = handle)
    (hnumber : handle.number < engine.site.timers.scheduled)
    (hlive : engine.Pending place handle → timer ∈ engine.site.timers.live)
    (hsingle : move.Single) (hafter : (engine.move move).Pending place handle) :
    timer ∈ (engine.move move).site.timers.live := by
  have hbefore : engine.Pending place handle :=
    Classical.byContradiction fun hnot => not_pending_single h hplace hnumber hnot hsingle hafter
  obtain ⟨other, hother, hhandle', hkind⟩ := (h.move move).tended.tied.timer_of_pending hafter
  rcases (engine.recordTimers_single hsingle).live other hother (hkind ▸ hplace) with
    hold | ⟨hnew, -⟩
  · have hsame : other = timer :=
      h.tended.tied.eq_of_handle hold (hlive hbefore) (hhandle'.trans hhandle.symm)
    exact hsame ▸ hother
  · rw [hhandle'] at hnew
    exact absurd hnumber (Nat.not_lt_of_le hnew)

/-- All along a run: the handle is no new one, and the timer is live while the record waits. -/
structure Engine.Minds (engine : Engine) (settings : Config.Settings) (place : TimerPlace)
    (timer : Timer) : Prop where
  reachable : Reachable settings engine
  number : timer.handle.number < engine.site.timers.scheduled
  live : engine.Pending place timer.handle → timer ∈ engine.site.timers.live

variable {timer : Timer}

theorem minds_single (hplace : place.OfRecord) (h : engine.Minds settings place timer)
    (hsingle : move.Single) : (engine.move move).Minds settings place timer where
  reachable := h.reachable.move move
  number := Nat.lt_of_lt_of_le h.number (engine.recordTimers_single hsingle).scheduled
  live := live_single h.reachable hplace rfl h.number h.live hsingle

theorem minds_moves (hplace : place.OfRecord) (h : engine.Minds settings place timer)
    (moves : List Move) : (engine.moves moves).Minds settings place timer :=
  Engine.single_induct (P := fun engine => engine.Minds settings place timer)
    (fun _ _ hsingle h => minds_single hplace h hsingle) engine moves h

/-- A record that has ended never waits again. -/
theorem not_pending_moves (hplace : place.OfRecord) (h : engine.Minds settings place timer)
    (hnot : ¬ engine.Pending place timer.handle) (moves : List Move) :
    ¬ (engine.moves moves).Pending place timer.handle := by
  have hboth := Engine.single_induct
    (P := fun engine => engine.Minds settings place timer ∧ ¬ engine.Pending place timer.handle)
    (fun _ _ hsingle h => ⟨minds_single hplace h.1 hsingle,
      not_pending_single h.1.reachable hplace h.1.number h.2 hsingle⟩) engine moves ⟨h, hnot⟩
  exact hboth.2

end Record

/-! ### How a record ends -/

namespace Correlator

variable {c : Correlator} {id : DeviceId}

/-- What is left after a record was taken out was there before. -/
theorem get?_of_left {ν : Type} {records records' : Shadow.Table DeviceId ν} {other : DeviceId}
    {pending : ν} (h : records' = records ∨ records' = records.erase other)
    (hleft : records'.get? id = some pending) : records.get? id = some pending := by
  obtain rfl | rfl := h
  · exact hleft
  · rw [Shadow.Table.get?_erase] at hleft
    split at hleft
    · simp at hleft
    · exact hleft

/-- A fault report leaves a fault that waits. -/
theorem receiveFault_kept {pending : PendingFault} (h : c.faults.get? id = some pending)
    (report : FaultReport) (frame : List UInt8) :
    (c.receiveFault report frame).faults.get? id = some pending := by
  unfold receiveFault
  generalize c.site.profileOf report.id = profile
  induction FaultFlag.all generalizing c with
  | nil => exact h
  | cons flag flags ih =>
    refine ih ?_
    obtain hsame | ⟨hnone, other, -, hput⟩ := c.applyFlag_cases profile report frame flag
    · rw [hsame, h]
    · have hne : report.id ≠ id := by
        rintro rfl
        rw [h] at hnone
        simp at hnone
      rw [hput, Shadow.Table.get?_put, if_neg hne, h]

/-- An alarm report leaves an alarm that waits. -/
theorem receiveAlarm_kept {pending : PendingAlarm} (h : c.alarms.get? id = some pending)
    (report : AlarmReport) (frame : List UInt8) :
    (c.receiveAlarm report frame).alarms.get? id = some pending := by
  obtain ⟨hnone, other, -, hput⟩ | ⟨hsame, -⟩ := c.receiveAlarm_cases report frame
  · have hne : report.id ≠ id := by
      rintro rfl
      rw [h] at hnone
      simp at hnone
    rw [hput, Shadow.Table.get?_put, if_neg hne, h]
  · rw [hsame, h]

end Correlator

/-- Records end, and none begins. -/
structure Incidents.Sheds (before after : Incidents) : Prop where
  faults : ∀ id pending, after.faults.get? id = some pending →
    before.faults.get? id = some pending
  alarms : ∀ id pending, after.alarms.get? id = some pending →
    before.alarms.get? id = some pending

namespace Incidents.Sheds

variable {before after : Incidents} {id : DeviceId}

theorem of_eq (h : after = before) : before.Sheds after :=
  ⟨fun _ _ hget => h ▸ hget, fun _ _ hget => h ▸ hget⟩

theorem of_erased (hfaults : after.faults = before.faults ∨ after.faults = before.faults.erase id)
    (halarms : after.alarms = before.alarms ∨ after.alarms = before.alarms.erase id) :
    before.Sheds after :=
  ⟨fun _ _ => Correlator.get?_of_left hfaults, fun _ _ => Correlator.get?_of_left halarms⟩

theorem awaiting (h : before.Sheds after) {awaited : FollowUp}
    (hafter : after.awaiting id = some awaited) : before.awaiting id = some awaited := by
  obtain ⟨pending, hpending, hawaited⟩ := Option.map_eq_some_iff.1 hafter
  exact Option.map_eq_some_iff.2 ⟨pending, h.faults id pending hpending, hawaited⟩

theorem hasAlarm (h : before.Sheds after) (hafter : after.hasAlarm id) : before.hasAlarm id := by
  obtain ⟨pending, hpending⟩ := Option.isSome_iff_exists.1 hafter
  exact Option.isSome_iff_exists.2 ⟨pending, h.alarms id pending hpending⟩

end Incidents.Sheds

namespace Engine

variable {engine : Engine} {place : TimerPlace} {handle : TimerHandle} {id : DeviceId}

/-- The report is what the record at a place waits for.  A value is the voltage if the device has a
fault that waits for that, and the temperature otherwise. -/
def Answers (engine : Engine) (place : TimerPlace) : Report → Prop
  | .faultDetails report =>
    place = .fault report.id ∧ engine.incidents.awaiting report.id = some .faultDetails
  | .slotValue report =>
    if engine.incidents.awaiting report.id = some .volts then place = .fault report.id
    else place = .alarm report.id
  | _ => False

theorem pending_fault : engine.Pending (.fault id) handle ↔
    ∃ pending, engine.incidents.faults.get? id = some pending ∧ pending.timer = handle :=
  Option.map_eq_some_iff

theorem pending_alarm : engine.Pending (.alarm id) handle ↔
    ∃ pending, engine.incidents.alarms.get? id = some pending ∧ pending.timer = handle :=
  Option.map_eq_some_iff

/-- A report that does not answer a fault leaves it. -/
theorem fault_dispatch {report : Report} (h : ¬ engine.Answers (.fault id) report)
    {pending : PendingFault} (hpending : engine.incidents.faults.get? id = some pending)
    (frame : List UInt8) :
    (engine.dispatch report frame).incidents.faults.get? id = some pending := by
  let c := engine.correlator
  cases report with
  | fault report => exact c.receiveFault_kept hpending report frame
  | alarm report => exact (congrArg (·.get? id) (c.receiveAlarm_faults report frame)).trans hpending
  | faultDetails report =>
    by_cases hid : report.id = id
    · have hunasked : c.awaiting report.id ≠ some .faultDetails := fun hawaiting =>
        h ⟨by rw [hid], hawaiting⟩
      show (c.receiveFaultDetails report.id report.faults).faults.get? id = some pending
      rw [Correlator.receiveFaultDetails_unasked hunasked]
      exact hpending
    · exact (Correlator.get?_of_erased (c.receiveFaultDetails_faults report.id report.faults)
        hid).trans hpending
  | slotValue report =>
    by_cases hid : report.id = id
    · have hunasked : engine.incidents.awaiting report.id ≠ some .volts := fun hvolts =>
        h (by rw [Answers, if_pos hvolts, hid])
      show (c.receiveSlotValue report.id report.value).faults.get? id = some pending
      rw [Correlator.receiveSlotValue_unasked hunasked, Correlator.receiveTemperature_faults]
      exact hpending
    · exact (Correlator.get?_of_erased (c.receiveSlotValue_faults report.id report.value)
        hid).trans hpending
  | _ => exact hpending

/-- A report that does not answer an alarm leaves it. -/
theorem alarm_dispatch {report : Report} (h : ¬ engine.Answers (.alarm id) report)
    {pending : PendingAlarm} (hpending : engine.incidents.alarms.get? id = some pending)
    (frame : List UInt8) :
    (engine.dispatch report frame).incidents.alarms.get? id = some pending := by
  let c := engine.correlator
  cases report with
  | fault report =>
    exact (congrArg (·.get? id) (c.receiveFault_alarms report frame)).trans hpending
  | alarm report => exact c.receiveAlarm_kept hpending report frame
  | faultDetails report =>
    exact (congrArg (·.get? id)
      (c.receiveFaultDetails_alarms report.id report.faults)).trans hpending
  | slotValue report =>
    by_cases hid : report.id = id
    · have hvolts : engine.incidents.awaiting report.id = some .volts :=
        Classical.byContradiction fun hother => h (by rw [Answers, if_neg hother, hid])
      show (c.receiveSlotValue report.id report.value).alarms.get? id = some pending
      rw [Correlator.receiveSlotValue_volts hvolts]
      exact hpending
    · exact (Correlator.get?_of_erased (c.receiveSlotValue_alarms report.id report.value)
        hid).trans hpending
  | _ => exact hpending

theorem pending_dispatch {report : Report} (hplace : place.OfRecord)
    (h : ¬ engine.Answers place report) (hwaits : engine.Pending place handle)
    (frame : List UInt8) : (engine.dispatch report frame).Pending place handle := by
  cases place with
  | fault id =>
    obtain ⟨pending, hpending, htimer⟩ := pending_fault.1 hwaits
    exact pending_fault.2 ⟨pending, fault_dispatch h hpending frame, htimer⟩
  | alarm id =>
    obtain ⟨pending, hpending, htimer⟩ := pending_alarm.1 hwaits
    exact pending_alarm.2 ⟨pending, alarm_dispatch h hpending frame, htimer⟩
  | _ => exact hplace.elim

/-- Only the pending records matter to whether one of them waits. -/
theorem pending_congr {engine' : Engine} (hplace : place.OfRecord)
    (h : engine'.incidents = engine.incidents) :
    engine'.Pending place handle ↔ engine.Pending place handle := by
  cases place with
  | fault id =>
    rw [pending_fault, pending_fault, h]
  | alarm id =>
    rw [pending_alarm, pending_alarm, h]
  | _ => exact hplace.elim

/-- A timer leaves the records of other places. -/
theorem pending_expire (hplace : place.OfRecord)
    (h : ∀ kind, engine.popDue.1 = some kind → kind.place ≠ place) :
    engine.expire.Pending place handle ↔ engine.Pending place handle := by
  cases place with
  | fault id =>
    rw [pending_fault, pending_fault, faults_expire fun hpop => h _ hpop rfl]
  | alarm id =>
    rw [pending_alarm, pending_alarm, alarms_expire fun hpop => h _ hpop rfl]
  | _ => exact hplace.elim

/-- How a record comes to its end: what it waits for arrives, or its timer is due and fires. -/
inductive Resolves (engine : Engine) (place : TimerPlace) (timer : Timer) : Move → Prop
  | answer {frame : List UInt8} {report : Report} (accepted : engine.accepted? frame = some report)
      (answers : engine.Answers place report) : Resolves engine place timer (.receive frame)
  | timeout {rest : TimerQueue}
      (fires : engine.site.timers.popExpired engine.site.clock.now = (some timer, rest))
      (due : timer.deadline ≤ engine.site.clock.now) : Resolves engine place timer .expire

/-! ### How a record begins -/

/-- When a timer fires no record begins. -/
theorem sheds_expire (engine : Engine) : engine.incidents.Sheds engine.expire.incidents := by
  unfold expire
  split
  · exact .of_eq rfl
  · next kind rest hpop =>
    have hrest : rest.incidents = engine.incidents :=
      (congrArg (fun popped => popped.2.incidents) hpop).symm
    let c : Correlator := ⟨rest.incidents, rest.site⟩
    rw [← hrest]
    cases kind with
    | faultTimeout other =>
      exact .of_erased (c.faultTimedOut_faults other) (.inl (c.faultTimedOut_alarms other))
    | alarmTimeout other =>
      exact .of_erased (.inl (c.alarmTimedOut_faults other)) (c.alarmTimedOut_alarms other)
    | _ => exact .of_eq rfl

/-- Nothing but a frame lets a record begin. -/
theorem sheds_move {move : Move} (hsingle : move.Single) (hmove : ∀ frame, move ≠ .receive frame) :
    engine.incidents.Sheds (engine.move move).incidents := by
  cases move with
  | receive frame => exact absurd rfl (hmove frame)
  | expire => exact sheds_expire engine
  | control operation => exact .of_eq (incidents_control engine hsingle)
  | wish delta => exact .of_eq (incidents_applyDelta engine delta)
  | fireDue => exact hsingle.elim
  | _ => exact .of_eq rfl

theorem pending_before {move : Move} (hplace : place.OfRecord) (hsingle : move.Single)
    (hmove : ∀ frame, move ≠ .receive frame) (h : (engine.move move).Pending place handle) :
    engine.Pending place handle := by
  have hsheds : engine.incidents.Sheds (engine.move move).incidents := sheds_move hsingle hmove
  cases place with
  | fault id =>
    obtain ⟨pending, hpending, htimer⟩ := pending_fault.1 h
    exact pending_fault.2 ⟨pending, hsheds.faults id pending hpending, htimer⟩
  | alarm id =>
    obtain ⟨pending, hpending, htimer⟩ := pending_alarm.1 h
    exact pending_alarm.2 ⟨pending, hsheds.alarms id pending hpending, htimer⟩
  | _ => exact hplace.elim

theorem receive_of_mem_singles {move : Move} {frame : List UInt8}
    (h : .receive frame ∈ engine.singles move) : move = .receive frame := by
  unfold singles at h
  split at h
  · exact Move.noConfusion (List.eq_of_mem_replicate h)
  · obtain ⟨delta, -, hdelta⟩ := List.mem_map.1 h
    exact Move.noConfusion hdelta
  · exact (List.mem_singleton.1 h).symm

theorem pending_before_moves (hplace : place.OfRecord) {moves : List Move}
    (h : ∀ move ∈ moves, move.Single ∧ ∀ frame, move ≠ .receive frame)
    (hafter : (engine.moves moves).Pending place handle) : engine.Pending place handle := by
  induction moves generalizing engine with
  | nil => exact hafter
  | cons move moves ih =>
    obtain ⟨⟨hsingle, hmove⟩, hrest⟩ := List.forall_mem_cons.1 h
    exact pending_before hplace hsingle hmove (ih hrest hafter)

/-- A record begins when a frame is received. -/
theorem receive_of_began {move : Move} (hplace : place.OfRecord)
    (hbefore : ¬ engine.Pending place handle) (hafter : (engine.move move).Pending place handle) :
    ∃ frame, move = .receive frame := by
  refine Classical.byContradiction fun hmove => hbefore ?_
  rw [← moves_singles] at hafter
  refine pending_before_moves hplace (fun single hsingle => ?_) hafter
  refine ⟨single_of_mem_singles engine hsingle, fun frame hframe => hmove ⟨frame, ?_⟩⟩
  exact receive_of_mem_singles (hframe ▸ hsingle)

end Engine

/-! ### When every timer that is due fires -/

section Due

variable {settings : Config.Settings} {engine : Engine} {place : TimerPlace} {timer : Timer}
  {move : Move}

/-- A record that a move ends is answered, or its own timer fires. -/
theorem resolves_single (h : engine.Minds settings place timer) (hplace : place.OfRecord)
    (hsingle : move.Single) (hwaits : engine.Pending place timer.handle)
    (hended : ¬ (engine.move move).Pending place timer.handle) :
    engine.Resolves place timer move := by
  cases move with
  | receive frame =>
    cases haccepted : engine.accepted? frame with
    | none =>
      obtain ⟨site, hreceive, -⟩ := Engine.receive_of_ignored engine haccepted
      have hsame : (engine.move (.receive frame)).incidents = engine.incidents := by
        show (engine.receive frame).incidents = engine.incidents
        rw [hreceive]
      exact absurd ((Engine.pending_congr hplace hsame).2 hwaits) hended
    | some report =>
      refine .answer haccepted (Classical.byContradiction fun hnot => hended ?_)
      have hnoted := engine.incidents_noted frame report
      have hnot' : ¬ (engine.noted frame report).Answers place report := by
        unfold Engine.Answers at hnot ⊢
        rwa [hnoted]
      have hwaits' := (Engine.pending_congr hplace hnoted).2 hwaits
      show (engine.receive frame).Pending place timer.handle
      rw [Engine.receive_of_accepted engine haccepted]
      exact Engine.pending_dispatch hplace hnot' hwaits' frame
  | expire =>
    cases hpop : engine.site.timers.popExpired engine.site.clock.now with
    | mk popped rest =>
      have hdue := Engine.popDue_eq engine hpop
      by_cases hother : ∀ kind, engine.popDue.1 = some kind → kind.place ≠ place
      · exact absurd ((Engine.pending_expire hplace hother).2 hwaits) hended
      · obtain ⟨kind, hkind, hat⟩ : ∃ kind, engine.popDue.1 = some kind ∧ kind.place = place := by
          simpa using hother
        rw [hdue] at hkind
        obtain ⟨first, rfl, rfl⟩ := Option.map_eq_some_iff.1 hkind
        have hfirst : first ∈ engine.site.timers.live := by
          rw [(TimerQueue.live_of_popExpired hpop).1]
          exact List.mem_cons_self
        have hhandle := h.reachable.tended.tied.handle_eq hfirst hat hwaits
        obtain rfl := h.reachable.tended.tied.eq_of_handle hfirst (h.live hwaits) hhandle
        exact .timeout hpop (TimerQueue.deadline_le_of_popExpired hpop)
  | control operation =>
    exact absurd ((Engine.pending_congr hplace (engine.incidents_control hsingle)).2 hwaits) hended
  | wish delta =>
    exact absurd ((Engine.pending_congr hplace (engine.incidents_applyDelta delta)).2 hwaits) hended
  | fireDue => exact hsingle.elim
  | _ => exact absurd ((Engine.pending_congr hplace rfl).2 hwaits) hended

/-- When a timer fires that is not that of the record, one timer fewer is before it. -/
theorem within_expire (h : engine.Minds settings place timer) (hplace : place.OfRecord)
    (hdue : timer.deadline ≤ engine.site.clock.now) {n : Nat}
    (hwithin : engine.Pending place timer.handle → engine.site.timers.Within timer n)
    (hafter : engine.expire.Pending place timer.handle) :
    engine.expire.site.clock = engine.site.clock ∧
      ∃ m, n = m + 1 ∧ engine.expire.site.timers.Within timer m := by
  have hsingle : Move.Single .expire := trivial
  have hwaits := Engine.pending_before hplace hsingle nofun hafter
  have hminds : (engine.move .expire).Minds settings place timer := minds_single hplace h trivial
  have hlive : timer ∈ engine.expire.site.timers.live := hminds.live hafter
  obtain ⟨first, rest, hpop, hfirst⟩ :=
    TimerQueue.popExpired_of_within (hwithin hwaits) hdue
  obtain ⟨hqueue, hscheduled⟩ := TimerQueue.live_of_popExpired hpop
  have htimes := Correlator.times_acts (Engine.acts_pop hpop)
  have hnumber : timer.handle.number < rest.scheduled := hscheduled ▸ h.number
  have hrest : timer ∈ rest.live := by
    rcases htimes.follows.live timer hlive with hrest | ⟨hnew, -⟩
    · exact hrest
    · exact absurd hnumber (Nat.not_lt_of_le hnew)
  refine ⟨htimes.clock, ?_⟩
  rcases hfirst with rfl | ⟨m, rfl, hbefore⟩
  · -- its own timer is in the queue no more
    have hdistinct := h.reachable.tended.tied.distinct
    rw [hqueue, List.map_cons] at hdistinct
    exact absurd (List.mem_map_of_mem hrest) (List.nodup_cons.1 hdistinct).1
  · exact ⟨m, rfl, htimes.follows.within timer m hdue hnumber (fun _ => hbefore) hlive⟩

/-- A record whose timer is due is gone when that timer and all before it have fired. -/
theorem not_pending_expires (h : engine.Minds settings place timer) (hplace : place.OfRecord)
    (hdue : timer.deadline ≤ engine.site.clock.now) {n rounds : Nat}
    (hwithin : engine.Pending place timer.handle → engine.site.timers.Within timer n)
    (hrounds : n < rounds) :
    ¬ (engine.moves (List.replicate rounds .expire)).Pending place timer.handle := by
  induction rounds generalizing engine n with
  | zero => exact absurd hrounds (Nat.not_lt_zero n)
  | succ rounds ih =>
    rw [List.replicate_succ, Engine.moves_cons]
    have hminds : (engine.move .expire).Minds settings place timer := minds_single hplace h trivial
    by_cases hafter : engine.expire.Pending place timer.handle
    · obtain ⟨hclock, m, rfl, hbefore⟩ := within_expire h hplace hdue hwithin hafter
      have hdue' : timer.deadline ≤ engine.expire.site.clock.now := hclock ▸ hdue
      exact ih hminds hdue' (fun _ => hbefore) (Nat.lt_of_succ_lt_succ hrounds)
    · exact not_pending_moves hplace hminds hafter _

theorem not_pending_fireDue (h : engine.Minds settings place timer) (hplace : place.OfRecord)
    (hdue : timer.deadline ≤ engine.site.clock.now) :
    ¬ engine.fireDue.Pending place timer.handle := by
  have hlimit : engine.site.timers.size < engine.fireLimit := by
    unfold Engine.fireLimit
    omega
  rw [Engine.fireDue_eq]
  refine not_pending_expires h hplace hdue (fun hwaits => ?_) hlimit
  exact TimerQueue.within_of_mem h.reachable.sorted (h.live hwaits)

end Due

/-! ### The life of a record -/

/-- What becomes of a record after it began. -/
structure Engine.EndsOnce (engine : Engine) (place : TimerPlace) (timer : Timer) : Prop where
  /-- As long as the record waits, its timer is the live one of its place. -/
  timed : ∀ moves, (engine.moves moves).Pending place timer.handle →
    (engine.moves moves).site.timers.liveAt place = [timer]
  /-- It ends by an answer, or by its own timer when that is due. -/
  ended : ∀ moves move, move.Single → (engine.moves moves).Pending place timer.handle →
    ¬ ((engine.moves moves).move move).Pending place timer.handle →
    (engine.moves moves).Resolves place timer move
  /-- Once it has ended, it has ended, and its timer will not fire. -/
  once : ∀ moves, ¬ (engine.moves moves).Pending place timer.handle → ∀ more,
    ¬ ((engine.moves moves).moves more).Pending place timer.handle ∧
      timer ∉ ((engine.moves moves).moves more).site.timers.live
  /-- It has ended when every timer that is due has fired and its own is due. -/
  expired : ∀ moves, timer.deadline ≤ (engine.moves moves).site.clock.now →
    ¬ (engine.moves moves).fireDue.Pending place timer.handle

/-- A pending record ends once: by what it waits for, or by the timer that was started for it and
that is due the transaction timeout after the record began. -/
theorem endsOnce {settings : Config.Settings} {engine : Engine} (h : Reachable settings engine)
    {place : TimerPlace} (hplace : place.OfRecord) {handle : TimerHandle} {move : Move}
    (hbefore : ¬ engine.Pending place handle) (hafter : (engine.move move).Pending place handle) :
    ∃ timer : Timer, timer.handle = handle ∧ timer.kind.place = place ∧ timer.deadline =
        engine.site.clock.now + settings.events.transactionTimeout.nanoseconds ∧
      (engine.move move).EndsOnce place timer := by
  obtain ⟨frame, rfl⟩ := Engine.receive_of_began hplace hbefore hafter
  have hsingle : (Move.receive frame).Single := trivial
  obtain ⟨timer, hlive, rfl, hat, hdeadline⟩ := timer_of_began h hplace hsingle hbefore hafter
  have hreachable := h.move (.receive frame)
  have hminds : (engine.move (.receive frame)).Minds settings place timer :=
    ⟨hreachable, hreachable.tended.tied.fresh timer hlive, fun _ => hlive⟩
  refine ⟨timer, rfl, hat, hdeadline, ?_⟩
  exact
    { timed := by
        intro moves hwaits
        have hlater := minds_moves hplace hminds moves
        exact hlater.reachable.tended.tied.liveAt_eq (hlater.live hwaits) hat
      ended := fun moves move hsingle =>
        resolves_single (minds_moves hplace hminds moves) hplace hsingle
      once := by
        intro moves hnot more
        have hlater := minds_moves hplace hminds moves
        have hnever := not_pending_moves hplace hlater hnot more
        refine ⟨hnever, fun htimer => hnever ?_⟩
        have hkept := (hlater.reachable.moves more).tended.tied.kept timer htimer
        rwa [hat] at hkept
      expired := fun moves => not_pending_fireDue (minds_moves hplace hminds moves) hplace }

/-- An engine whose first device told of an alarm and, twenty seconds later, its temperature. -/
def answeredInTime : Engine :=
  (Engine.started {} askedDevices (.ofSlots 10) { unix := 0 } []).moves
    [.receive [0x50, 1, 0, 0, 1, 0, 5, 1], .advance (.ofSeconds 20),
      .receive [0xc2, 1, 0, 0, 2, 25, 0, 0, 0, 5, 2]]

theorem reachable_answeredInTime : Reachable {} answeredInTime := (Reachable.start _ _ _ _).moves _

/-- The next alarm of the device waits for thirty seconds from then on, and not for the ten that the
timer of the first one had left. -/
theorem endsOnce_answeredInTime :
    ∃ timer : Timer, timer.handle = ⟨3⟩ ∧ timer.kind.place = .alarm (.ofNat 1) ∧
      timer.deadline = 50000000000 ∧
      (answeredInTime.move (.receive [0x50, 1, 0, 0, 1, 0, 5, 3])).EndsOnce
        (.alarm (.ofNat 1)) timer ∧
      (answeredInTime.moves [.receive [0x50, 1, 0, 0, 1, 0, 5, 3], .advance (.ofSeconds 10),
        .fireDue]).Pending (.alarm (.ofNat 1)) ⟨3⟩ := by
  have hplace : (TimerPlace.alarm (.ofNat 1)).OfRecord := trivial
  have hbefore : ¬ answeredInTime.Pending (.alarm (.ofNat 1)) ⟨3⟩ := by
    unfold Engine.Pending
    decide +kernel
  have hafter : (answeredInTime.move (.receive [0x50, 1, 0, 0, 1, 0, 5, 3])).Pending
      (.alarm (.ofNat 1)) ⟨3⟩ := by
    unfold Engine.Pending
    decide +kernel
  obtain ⟨timer, hhandle, hat, hdeadline, hends⟩ :=
    endsOnce reachable_answeredInTime hplace hbefore hafter
  have hnow : answeredInTime.site.clock.now = 20000000000 := by decide +kernel
  refine ⟨timer, hhandle, hat, ?_, hends, ?_⟩
  · rw [hdeadline, hnow]
    rfl
  · unfold Engine.Pending
    decide +kernel

end AlarmMesh.Gateway
