import AlarmMesh.Proofs.Gateway.Acts

/-!
# Every alarm is told of once

An alarm report that is accepted is told of at once, or waits and is told of when its temperature
arrives or does not come in time.  So at any time the reports accepted so far are those that were
told of and those that wait, each as often as it was accepted, and every alarm that waits can be
read when its turn comes.

* `Site.Announces` — what happens at a site, told by its alarm events;
* `Incidents.Balanced` — the account, with `Balanced.park` and `Balanced.resolve`;
* `Engine.acceptedAlarms`, `Engine.gathered` — what is accepted and what is told of in a run;
* `balanced_single`, `balanced_moves` — one move, and a run;
* `tellsOnce` — the result for every run.
-/

namespace AlarmMesh.Gateway

open Radio (AlarmReport DeviceId Report)
open Shadow (Table)

/-! ### What happens at a site -/

/-- What happens at a site with these alarm events, latest first, and no others. -/
inductive Site.Announces (site : Site) : List AlarmEvent → Site → Prop
  | refl : Announces site [] site
  | quiet {events : List AlarmEvent} {before after : Site}
      (announces : Announces site events before) (quiet : before.Quiet after) :
      Announces site events after
  | tell {events : List AlarmEvent} {before : Site} (event : AlarmEvent)
      (announces : Announces site events before) :
      Announces site (event :: events) (before.told event)

namespace Site

variable {a b c : Site} {events events' : List AlarmEvent}

theorem Quiet.announces (h : a.Quiet b) : a.Announces [] b := Announces.refl.quiet h

theorem Announces.trans (h : a.Announces events b) (h' : b.Announces events' c) :
    a.Announces (events' ++ events) c := by
  induction h' with
  | refl => exact h
  | quiet _ hquiet ih => exact ih.quiet hquiet
  | tell event _ ih => exact ih.tell event

theorem alarmEvents_told (site : Site) (event : AlarmEvent) :
    (site.told event).alarmEvents = site.alarmEvents + 1 := by
  unfold alarmEvents
  rw [told_eq]
  exact List.count_cons_self

/-- Each event is counted. -/
theorem Announces.alarmEvents_eq (h : a.Announces events b) :
    b.alarmEvents = a.alarmEvents + events.length := by
  induction h with
  | refl => rfl
  | quiet _ hquiet ih => exact hquiet.events.trans ih
  | tell event _ ih => rw [alarmEvents_told, ih, List.length_cons, Nat.add_assoc]

theorem quiet_release (site : Site) (buffer : Link.Buffer) : site.Quiet (site.release buffer) :=
  quiet_of_platform rfl rfl

theorem quiet_park {site site' : Site} {report : List UInt8} {use : Link.SlotUse}
    {question : Radio.Command} {parked : Option Link.Buffer}
    (h : site.park report use question = (parked, site')) : site.Quiet site' :=
  (parks_of_park h).follow .trans (quiet_takeBuffer _ _) (fun _ _ => quiet_of_platform rfl rfl)
    fun site => quiet_send site question

end Site

namespace Correlator

variable {c c' : Correlator} {events : List AlarmEvent}

theorem Act.announces (h : c.Act events c') : c.site.Announces events c'.site := by
  cases h with
  | chore hchore => exact hchore.quiet.announces
  | tell event => exact .tell event .refl
  | refuse hpark => exact (Site.quiet_park hpark).announces
  | beginFault _ _ hpark =>
    exact (Site.quiet_park hpark).announces.quiet (Site.quiet_of_platform rfl rfl)
  | beginAlarm _ hpark =>
    exact (Site.quiet_park hpark).announces.quiet (Site.quiet_of_platform rfl rfl)
  | endFault => exact (Site.quiet_release _ _).announces
  | endAlarm => exact (Site.quiet_release _ _).announces

theorem Acts.announces (h : c.Acts events c') : c.site.Announces events c'.site := by
  induction h with
  | refl => exact .refl
  | act _ hact ih => exact ih.trans hact.announces

end Correlator

/-! ### The account -/

/-- The event tells of the alarm that it stands for. -/
def AlarmEvent.Faithful (event : AlarmEvent) : Prop :=
  ∀ report, event.cause = some report →
    event.id = report.id ∧ event.state = Device.alarmState report.status

/-- The alarm reports that wait. -/
def Incidents.parkedAlarms (incidents : Incidents) : List AlarmReport :=
  incidents.alarms.filterMap fun entry => parkedAlarm? entry.2.frame

/-- Every alarm that waits can be read, as a report of its device, and what was accepted was told of
or waits. -/
structure Incidents.Balanced (incidents : Incidents) (accepted : List AlarmReport)
    (log : List AlarmEvent) : Prop where
  keys : incidents.alarms.keys.Nodup
  readable : ∀ entry ∈ incidents.alarms, ∃ report,
    parkedAlarm? entry.2.frame = some report ∧ report.id = entry.1
  faithful : ∀ event ∈ log, event.Faithful
  once : accepted.Perm (log.filterMap AlarmEvent.cause ++ incidents.parkedAlarms)

namespace Incidents.Balanced

variable {incidents incidents' : Incidents} {accepted : List AlarmReport}
  {log told : List AlarmEvent} {report : AlarmReport} {pending : PendingAlarm} {id : DeviceId}

theorem congr (h : incidents.Balanced accepted log) (heq : incidents'.alarms = incidents.alarms) :
    incidents'.Balanced accepted log where
  keys := heq ▸ h.keys
  readable := heq ▸ h.readable
  faithful := h.faithful
  once := by
    unfold parkedAlarms
    rw [heq]
    exact h.once

/-- Events that stand for no report are beside the account. -/
theorem beside (h : incidents.Balanced accepted log) (htold : ∀ event ∈ told, event.cause = none) :
    incidents.Balanced accepted (told ++ log) where
  keys := h.keys
  readable := h.readable
  faithful event hevent := by
    rcases List.mem_append.1 hevent with hevent | hevent
    · intro report hcause
      simp [htold event hevent] at hcause
    · exact h.faithful event hevent
  once := by
    have hnone : told.filterMap AlarmEvent.cause = [] := List.filterMap_eq_nil_iff.2 htold
    rw [List.filterMap_append, hnone, List.nil_append]
    exact h.once

/-- A report is told of at once. -/
theorem tell (h : incidents.Balanced accepted log) (report : AlarmReport) :
    incidents.Balanced (report :: accepted)
      (⟨report.id, Device.alarmState report.status, none, some report⟩ :: log) where
  keys := h.keys
  readable := h.readable
  faithful event hevent := by
    rcases List.mem_cons.1 hevent with rfl | hevent
    · rintro other hcause
      obtain rfl := Option.some.inj hcause
      exact ⟨rfl, rfl⟩
    · exact h.faithful event hevent
  once := h.once.cons report

/-- A report begins to wait. -/
theorem park (h : incidents.Balanced accepted log)
    (hnew : incidents.alarms.get? report.id = none)
    (hread : parkedAlarm? pending.frame = some report)
    (heq : incidents'.alarms = incidents.alarms.put report.id pending) :
    incidents'.Balanced (report :: accepted) log := by
  have hput : incidents'.alarms = incidents.alarms ++ [(report.id, pending)] :=
    heq.trans (Table.put_of_new hnew pending)
  refine ⟨?_, ?_, h.faithful, ?_⟩
  · rw [heq]
    exact Table.nodup_keys_put h.keys hnew pending
  · intro entry hentry
    rw [hput] at hentry
    rcases List.mem_append.1 hentry with hentry | hentry
    · exact h.readable entry hentry
    · rw [List.mem_singleton.1 hentry]
      exact ⟨report, hread, rfl⟩
  · have hparked : incidents'.parkedAlarms = incidents.parkedAlarms ++ [report] := by
      unfold parkedAlarms
      rw [hput, List.filterMap_append]
      simp [hread]
    rw [hparked, ← List.append_assoc]
    exact (h.once.cons report).trans (List.perm_append_singleton _ _).symm

/-- A report that waited is told of. -/
theorem resolve (h : incidents.Balanced accepted log)
    (hget : incidents.alarms.get? id = some pending) (temperature : Option UInt16)
    (heq : incidents'.alarms = incidents.alarms.erase id) : ∃ report,
      parkedAlarm? pending.frame = some report ∧ incidents'.Balanced accepted
        (⟨id, Device.alarmState report.status, temperature, some report⟩ :: log) := by
  have hperm := Table.perm_cons_erase h.keys hget
  obtain ⟨report, hread, hid⟩ := h.readable (id, pending) (hperm.mem_iff.2 List.mem_cons_self)
  refine ⟨report, hread, ?_, ?_, ?_, ?_⟩
  · rw [heq]
    exact Table.nodup_keys_erase h.keys id
  · intro entry hentry
    rw [heq] at hentry
    exact h.readable entry (hperm.mem_iff.2 (List.mem_cons_of_mem _ hentry))
  · intro event hevent
    rcases List.mem_cons.1 hevent with rfl | hevent
    · rintro other hcause
      obtain rfl := Option.some.inj hcause
      exact ⟨hid.symm, rfl⟩
    · exact h.faithful event hevent
  · have hparked : incidents.parkedAlarms.Perm (report :: incidents'.parkedAlarms) := by
      have hmap := hperm.filterMap fun entry => parkedAlarm? entry.2.frame
      unfold parkedAlarms
      rw [heq]
      simpa [hread] using hmap
    exact h.once.trans ((hparked.append_left _).trans List.perm_middle)

end Incidents.Balanced

/-! ### Reports and answers -/

namespace Correlator

variable {c : Correlator} {accepted : List AlarmReport} {log : List AlarmEvent}

/-- An alarm begins to wait in the frame that arrived, or every record is as it was. -/
theorem tryToPark_cases (c : Correlator) (report : AlarmReport) (frame : List UInt8) :
    ((c.tryToPark report frame).1 = false ∧
      (c.tryToPark report frame).2.toIncidents = c.toIncidents) ∨
    ((c.tryToPark report frame).1 = true ∧ c.alarms.get? report.id = none ∧
      ∃ pending : PendingAlarm, pending.frame.content = frame ∧
        (c.tryToPark report frame).2.toIncidents =
          { c.toIncidents with alarms := c.alarms.put report.id pending }) := by
  unfold tryToPark
  split
  · exact c.beginAlarm_cases report.id frame
  · exact .inl ⟨rfl, rfl⟩

theorem balanced_receiveAlarm (h : c.toIncidents.Balanced accepted log) {report : AlarmReport}
    {frame : List UInt8} (hframe : Report.decode frame = .ok (.alarm report)) :
    (c.receiveAlarm report frame).toIncidents.Balanced (report :: accepted)
      (c.toldAtOnce report frame ++ log) := by
  unfold toldAtOnce
  obtain ⟨hfirst, hsame⟩ | ⟨hfirst, hnew, pending, hcontent, hput⟩ :=
    c.tryToPark_cases report frame
  · have hnot : ¬ (c.tryToPark report frame).1 := by simp [hfirst]
    rw [if_neg hnot, receiveAlarm_of_told hnot]
    dsimp only
    rw [hsame]
    exact h.tell report
  · rw [if_pos hfirst, receiveAlarm_of_parked hfirst, List.nil_append]
    exact h.park hnew (parkedAlarm?_of_content hcontent hframe) (congrArg Incidents.alarms hput)

/-- The pending alarm of a device is told of when it comes to its end, whatever ends it. -/
theorem balanced_of_erase (h : c.toIncidents.Balanced accepted log) {id : DeviceId}
    {incidents : Incidents} (temperature : Option UInt16)
    (hsome : ∀ pending, c.alarms.get? id = some pending →
      incidents.alarms = c.alarms.erase id)
    (hnone : c.alarms.get? id = none → incidents.alarms = c.alarms) :
    incidents.Balanced accepted (c.toldOf id temperature ++ log) := by
  unfold toldOf
  cases hget : c.alarms.get? id with
  | none => exact h.congr (hnone hget)
  | some pending =>
    obtain ⟨report, hread, hresolved⟩ := h.resolve hget temperature (hsome pending hget)
    rw [Option.bind_some, hread]
    exact hresolved

theorem balanced_receiveTemperature (h : c.toIncidents.Balanced accepted log) (id : DeviceId)
    (value : UInt16) : (c.receiveTemperature id value).toIncidents.Balanced accepted
      (c.toldOf id (some value) ++ log) := by
  refine balanced_of_erase h (some value) ?_ ?_
  · intro pending hget
    unfold receiveTemperature
    rw [hget]
    rfl
  · intro hget
    unfold receiveTemperature
    rw [hget]

theorem balanced_alarmTimedOut (h : c.toIncidents.Balanced accepted log) (id : DeviceId) :
    (c.alarmTimedOut id).toIncidents.Balanced accepted (c.toldOf id none ++ log) := by
  refine balanced_of_erase h none ?_ ?_
  · intro pending hget
    unfold alarmTimedOut
    rw [hget]
    rfl
  · intro hget
    unfold alarmTimedOut
    rw [hget]

theorem balanced_receiveSlotValue (h : c.toIncidents.Balanced accepted log) (id : DeviceId)
    (value : UInt16) : (c.receiveSlotValue id value).toIncidents.Balanced accepted
      (c.toldByValue id value ++ log) := by
  unfold receiveSlotValue toldByValue Incidents.awaiting
  cases hget : c.faults.get? id with
  | none =>
    rw [if_neg (by simp)]
    exact balanced_receiveTemperature h id value
  | some pending =>
    by_cases hvolts : pending.awaiting = .volts
    · rw [if_pos (by simp [hvolts])]
      dsimp only
      rw [if_pos hvolts]
      exact h.congr rfl
    · rw [if_neg (by simp [hvolts])]
      dsimp only
      rw [if_neg hvolts]
      exact balanced_receiveTemperature h id value

end Correlator

/-- What is silenced stands for no report. -/
theorem cause_toldBySilence (site : Site) (id : DeviceId) :
    ∀ event ∈ site.toldBySilence id, event.cause = none := by
  unfold Site.toldBySilence
  split <;> simp

theorem cause_toldByHush (ids : List DeviceId) (site : Site) :
    ∀ event ∈ Site.toldByHush ids site, event.cause = none := by
  induction ids generalizing site with
  | nil => simp [Site.toldByHush]
  | cons id ids ih =>
    intro event hevent
    rcases List.mem_append.1 hevent with hevent | hevent
    · exact ih (site.silence id) event hevent
    · exact cause_toldBySilence site id event hevent

/-! ### Moves -/

namespace Engine

variable {engine : Engine} {accepted : List AlarmReport} {log : List AlarmEvent}

/-- The alarm reports that a report is: one or none. -/
def alarmsOf : Report → List AlarmReport
  | .alarm report => [report]
  | _ => []

/-- The alarm reports that a move accepts: one or none. -/
def acceptedAlarms (engine : Engine) : Move → List AlarmReport
  | .receive frame => (engine.accepted? frame).elim [] alarmsOf
  | _ => []

theorem acceptedAlarms_receive (engine : Engine) (frame : List UInt8) :
    engine.acceptedAlarms (.receive frame) = (engine.accepted? frame).elim [] alarmsOf := rfl

theorem balanced_dispatch (h : engine.incidents.Balanced accepted log) {report : Report}
    {frame : List UInt8} (hframe : Report.decode frame = .ok report) :
    (engine.dispatch report frame).incidents.Balanced (alarmsOf report ++ accepted)
      (engine.toldBy report frame ++ log) := by
  let c := engine.correlator
  unfold dispatch toldBy
  cases report with
  | alarm report => exact Correlator.balanced_receiveAlarm (c := c) h hframe
  | slotValue report => exact Correlator.balanced_receiveSlotValue (c := c) h _ _
  | fault report => exact h.congr (c.receiveFault_alarms report frame)
  | faultDetails report => exact h.congr (c.receiveFaultDetails_alarms report.id report.faults)
  | alarmStop report => exact (h.beside (by simp)).congr rfl
  | hush => exact (h.beside (cause_toldByHush _ _)).congr rfl
  | locate report => exact (h.beside (cause_toldBySilence _ _)).congr rfl
  | _ => exact h.congr rfl

theorem balanced_receive (h : engine.incidents.Balanced accepted log) (frame : List UInt8) :
    (engine.receive frame).incidents.Balanced (engine.acceptedAlarms (.receive frame) ++ accepted)
      (engine.alarmsTold (.receive frame) ++ log) := by
  rw [acceptedAlarms_receive, alarmsTold_receive]
  cases haccepted : engine.accepted? frame with
  | none =>
    obtain ⟨site, hreceive, -⟩ := receive_of_ignored engine haccepted
    rw [hreceive]
    exact h
  | some report =>
    have hnoted : (engine.noted frame report).incidents.Balanced accepted log := by
      rw [incidents_noted]
      exact h
    rw [receive_of_accepted engine haccepted]
    exact balanced_dispatch hnoted (decode_of_accepted engine haccepted)

theorem balanced_fire (h : engine.incidents.Balanced accepted log) (kind : TimerKind) :
    (engine.fire kind).incidents.Balanced accepted
      ((match kind with
        | .alarmTimeout id => engine.correlator.toldOf id none
        | _ => []) ++ log) := by
  let c := engine.correlator
  unfold fire
  cases kind with
  | faultTimeout id => exact h.congr (c.faultTimedOut_alarms id)
  | alarmTimeout id => exact Correlator.balanced_alarmTimedOut (c := c) h id
  | _ => exact h

theorem balanced_expire (h : engine.incidents.Balanced accepted log) :
    engine.expire.incidents.Balanced accepted (engine.alarmsTold .expire ++ log) := by
  cases hpop : engine.site.timers.popExpired engine.site.clock.now with
  | mk popped rest =>
    have hdue := popDue_eq engine hpop
    unfold alarmsTold
    rw [hdue]
    cases popped with
    | none =>
      rw [expire_of_none hdue]
      exact h
    | some timer =>
      have hpopped : (engine.popped rest).incidents.Balanced accepted log := h
      have hfired := balanced_fire hpopped timer.kind
      rw [expire_of_some hdue]
      cases hkind : timer.kind <;> rw [hkind] at hfired <;> simpa [hkind] using hfired

/-- One move keeps the account. -/
theorem balanced_single (h : engine.incidents.Balanced accepted log) {move : Move}
    (hsingle : move.Single) : (engine.move move).incidents.Balanced
      (engine.acceptedAlarms move ++ accepted) (engine.alarmsTold move ++ log) := by
  cases move with
  | receive frame => exact balanced_receive h frame
  | expire => exact balanced_expire h
  | control operation =>
    exact h.congr (congrArg Incidents.alarms (incidents_control engine hsingle))
  | wish delta => exact h.congr (congrArg Incidents.alarms (incidents_applyDelta engine delta))
  | fireDue => exact hsingle.elim
  | _ => exact h

theorem announces_single {move : Move} (hsingle : move.Single) :
    engine.site.Announces (engine.alarmsTold move) (engine.move move).site := by
  cases move with
  | expire =>
    obtain ⟨hnone, htold⟩ | ⟨timer, rest, -, hacts⟩ := acts_expire engine
    · rw [htold]
      show engine.site.Announces [] engine.expire.site
      rw [hnone]
      exact .refl
    · have hpopped : engine.site.Quiet (engine.popped rest).site := Site.quiet_of_platform rfl rfl
      have hannounces := hpopped.announces.trans hacts.announces
      rwa [List.append_nil] at hannounces
  | advance step =>
    have hquiet : engine.site.Quiet (engine.move (.advance step)).site :=
      Site.quiet_of_platform rfl rfl
    exact hquiet.announces
  | share pool =>
    have hquiet : engine.site.Quiet (engine.move (.share pool)).site :=
      Site.quiet_of_platform rfl rfl
    exact hquiet.announces
  | fireDue => exact hsingle.elim
  | _ => exact (acts_move engine hsingle trivial).announces

/-- No alarm event is written at the start. -/
theorem alarmEvents_started (settings : Config.Settings) (platform : Shadow.Platform)
    (pool : Link.Pool) (clock : Clock) (contention : List Bool) :
    (started settings platform pool clock contention).site.alarmEvents = 0 := by
  unfold started
  generalize hnew : ofSettings settings _ = new
  have htally : new.site.tally = [] := by
    rw [← hnew]
    rfl
  have hcount : new.start.site.alarmEvents = new.site.alarmEvents + 0 :=
    (acts_start new).announces.alarmEvents_eq
  rw [hcount]
  unfold Site.alarmEvents
  rw [htally]
  rfl

/-! ### Runs -/

/-- The moves of a run, each dealing with one thing. -/
def steps : Engine → List Move → List Move
  | _, [] => []
  | engine, move :: moves => engine.singles move ++ steps (engine.move move) moves

/-- What the moves of a run add to a record of it, latest first. -/
def gathered {α : Type} (f : Engine → Move → List α) : Engine → List Move → List α
  | _, [] => []
  | engine, move :: moves => gathered f (engine.move move) moves ++ f engine move

theorem moves_append (engine : Engine) (moves moves' : List Move) :
    engine.moves (moves ++ moves') = (engine.moves moves).moves moves' :=
  List.foldl_append

theorem moves_steps (engine : Engine) (moves : List Move) :
    engine.moves (engine.steps moves) = engine.moves moves := by
  induction moves generalizing engine with
  | nil => rfl
  | cons move moves ih =>
    unfold steps
    rw [moves_append, moves_singles, moves_cons]
    exact ih (engine.move move)

theorem single_of_mem_steps {moves : List Move} {single : Move}
    (h : single ∈ engine.steps moves) : single.Single := by
  induction moves generalizing engine with
  | nil => simp [steps] at h
  | cons move moves ih =>
    rcases List.mem_append.1 h with hfirst | hrest
    · exact single_of_mem_singles engine hfirst
    · exact ih hrest

/-- A run keeps the account. -/
theorem balanced_moves {moves : List Move} (hmoves : ∀ move ∈ moves, move.Single)
    (h : engine.incidents.Balanced accepted log) : (engine.moves moves).incidents.Balanced
      (engine.gathered acceptedAlarms moves ++ accepted)
      (engine.gathered alarmsTold moves ++ log) := by
  induction moves generalizing engine accepted log with
  | nil => exact h
  | cons move moves ih =>
    obtain ⟨hsingle, hrest⟩ := List.forall_mem_cons.1 hmoves
    have hmoved := ih hrest (balanced_single h hsingle)
    rw [← List.append_assoc, ← List.append_assoc] at hmoved
    exact hmoved

theorem announces_moves {moves : List Move} (hmoves : ∀ move ∈ moves, move.Single) :
    engine.site.Announces (engine.gathered alarmsTold moves) (engine.moves moves).site := by
  induction moves generalizing engine with
  | nil => exact .refl
  | cons move moves ih =>
    obtain ⟨hsingle, hrest⟩ := List.forall_mem_cons.1 hmoves
    exact (announces_single hsingle).trans (ih hrest)

end Engine

/-- The alarm reports accepted in a run from one engine to another, and its alarm events, both
latest first: nothing is lost and nothing told of twice. -/
structure Engine.TellsOnce (first last : Engine) (accepted : List AlarmReport)
    (events : List AlarmEvent) : Prop where
  /-- The alarm events are these, each written when it is told of, and no others. -/
  announces : first.site.Announces events last.site
  /-- All are counted. -/
  counted : last.site.alarmEvents = events.length
  /-- An event that stands for a report tells of its device and of its status. -/
  faithful : ∀ event ∈ events, event.Faithful
  /-- What was accepted was told of once, or waits. -/
  once : accepted.Perm (events.filterMap AlarmEvent.cause ++ last.incidents.parkedAlarms)
  number : accepted.length =
    (events.filterMap AlarmEvent.cause).length + last.incidents.alarms.length
  /-- An alarm that waits can be read. -/
  readable : ∀ entry ∈ last.incidents.alarms, ∃ report,
    parkedAlarm? entry.2.frame = some report ∧ report.id = entry.1

/-- Whatever happens from the start on, and however often no buffer is free, every alarm report that
is accepted is told of once, as soon as it does not wait any more, with the state of its status. -/
theorem tellsOnce (settings : Config.Settings) (platform : Shadow.Platform) (pool : Link.Pool)
    (clock : Clock) (contention : List Bool) (moves : List Move) :
    let first := Engine.started settings platform pool clock contention
    first.TellsOnce (first.moves moves) (first.gathered Engine.acceptedAlarms (first.steps moves))
      (first.gathered Engine.alarmsTold (first.steps moves)) := by
  intro first
  have hsteps : ∀ move ∈ first.steps moves, move.Single := fun _ => Engine.single_of_mem_steps
  have hfirst : first.incidents.alarms = [] := by
    show (Engine.start _).incidents.alarms = []
    rw [start_eq]
    rfl
  have hnone : first.incidents.Balanced [] [] := by
    refine ⟨?_, ?_, ?_, ?_⟩
    · simp [hfirst, Table.keys]
    · simp [hfirst]
    · simp
    · simp [Incidents.parkedAlarms, hfirst]
  have hquiet : first.site.alarmEvents = 0 :=
    Engine.alarmEvents_started settings platform pool clock contention
  have hbalanced := Engine.balanced_moves hsteps hnone
  have hannounces : first.site.Announces (first.gathered Engine.alarmsTold (first.steps moves))
      (first.moves (first.steps moves)).site := Engine.announces_moves hsteps
  rw [Engine.moves_steps] at hbalanced hannounces
  rw [List.append_nil, List.append_nil] at hbalanced
  have hparked : (first.moves moves).incidents.parkedAlarms.length =
      (first.moves moves).incidents.alarms.length := by
    unfold Incidents.parkedAlarms
    rw [List.filterMap_length_eq_length]
    intro entry hentry
    obtain ⟨report, hread, -⟩ := hbalanced.readable entry hentry
    simp [hread]
  refine ⟨hannounces, ?_, hbalanced.faithful, hbalanced.once, ?_, hbalanced.readable⟩
  · have hcount := hannounces.alarmEvents_eq
    rw [hquiet, Nat.zero_add] at hcount
    exact hcount
  · have hlength := hbalanced.once.length_eq
    rw [List.length_append, hparked] at hlength
    exact hlength

end AlarmMesh.Gateway
