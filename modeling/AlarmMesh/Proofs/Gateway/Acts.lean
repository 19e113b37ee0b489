import AlarmMesh.Proofs.Gateway.Chores

/-!
# What is done about pending records

A record begins when its report is parked, its question sent and its timer started, and ends when
its buffer is released.  These, an attempt that fails, an alarm event and the chores beside them are
all that any function of the gateway does, whatever report, operation or timer it deals with.  So an
invariant of buffers, timers, records and alarms is checked for these and for nothing else.

* `AlarmEvent` — an alarm event, with the report that it stands for;
* `Correlator.Act`, `Correlator.Acts` — one act, and any number of them with the events that they
  write;
* `acts_receiveFault`, `acts_onTimeout`, … — the functions that work on records;
* `Engine.alarmsTold` — the alarm events of a move;
* `Engine.acts_dispatch`, `acts_move`, `acts_pop`, `acts_expire` — every move.
-/

namespace AlarmMesh.Gateway

open Radio (AlarmReport Command DeviceId FaultFlag FaultReport Report)
open Relation (ReflTransGen)

/-- An alarm event. -/
structure AlarmEvent where
  id : DeviceId
  state : Nat
  temperature : Option UInt16
  /-- The alarm report that the event stands for; none if an alarm ended or was silenced. -/
  cause : Option AlarmReport
  deriving DecidableEq, Repr

/-- The site once an alarm event is written. -/
def Site.told (site : Site) (event : AlarmEvent) : Site :=
  site.writeAlarm event.id event.state event.temperature

/-- An alarm event is written to the shadow and counted, and that is all. -/
theorem Site.told_eq (site : Site) (event : AlarmEvent) : site.told event =
    { site with
      platform := (site.told event).platform, tally := .alarmEvent :: site.tally } := by
  obtain ⟨id, state, temperature, cause⟩ := event
  unfold told writeAlarm
  cases temperature with
  | none => rfl
  | some raw =>
    dsimp only
    unfold report after
    split <;> rfl

namespace Correlator

/-- One thing that is done about pending records, with the alarm events that it writes. -/
inductive Act (c : Correlator) : List AlarmEvent → Correlator → Prop
  /-- Something beside them. -/
  | chore {site : Site} (h : c.site.Chore site) : Act c [] { c with site := site }
  /-- An alarm event is written. -/
  | tell (event : AlarmEvent) : Act c [event] { c with site := c.site.told event }
  /-- A report cannot wait, for want of a buffer. -/
  | refuse {report : List UInt8} {use : Link.SlotUse} {question : Command} {site : Site}
      (park : c.site.park report use question = (none, site)) : Act c [] { c with site := site }
  | beginFault {id : DeviceId} {report : List UInt8} {question : Command} {buffer : Link.Buffer}
      {site : Site} (awaiting : FollowUp) (new : c.faults.get? id = none)
      (park : c.site.park report .pendingFault question = (some buffer, site)) :
      Act c [] { c with
        faults := c.faults.put id ⟨buffer, awaiting,
          (site.schedule (.faultTimeout id) c.settings.transactionTimeout).1⟩
        site := (site.schedule (.faultTimeout id) c.settings.transactionTimeout).2 }
  | beginAlarm {id : DeviceId} {report : List UInt8} {question : Command} {buffer : Link.Buffer}
      {site : Site} (new : c.alarms.get? id = none)
      (park : c.site.park report .pendingAlarm question = (some buffer, site)) :
      Act c [] { c with
        alarms := c.alarms.put id ⟨buffer,
          (site.schedule (.alarmTimeout id) c.settings.transactionTimeout).1⟩
        site := (site.schedule (.alarmTimeout id) c.settings.transactionTimeout).2 }
  | endFault {id : DeviceId} {pending : PendingFault} (h : c.faults.get? id = some pending) :
      Act c [] { c with faults := c.faults.erase id, site := c.site.release pending.frame }
  | endAlarm {id : DeviceId} {pending : PendingAlarm} (h : c.alarms.get? id = some pending) :
      Act c [] { c with alarms := c.alarms.erase id, site := c.site.release pending.frame }

/-- Any number of acts, with the alarm events that they write, latest first. -/
inductive Acts (c : Correlator) : List AlarmEvent → Correlator → Prop
  | refl : Acts c [] c
  | act {events told : List AlarmEvent} {c' c'' : Correlator} (acts : Acts c events c')
      (act : c'.Act told c'') : Acts c (told ++ events) c''

variable {a b d c c' : Correlator} {events events' : List AlarmEvent}

theorem Acts.trans (h : a.Acts events b) (h' : b.Acts events' d) :
    a.Acts (events' ++ events) d := by
  induction h' with
  | refl => exact h
  | act _ hact ih =>
    rw [List.append_assoc]
    exact ih.act hact

/-- Acts that write no alarm event come first. -/
theorem Acts.after (h : b.Acts events d) (h' : a.Acts [] b) : a.Acts events d := by
  have hboth := h'.trans h
  rwa [List.append_nil] at hboth

theorem Act.acts (h : c.Act events c') : c.Acts events c' := by
  have hacts := Acts.refl.act h
  rwa [List.append_nil] at hacts

/-- What every act preserves holds after any acts. -/
theorem Acts.induct {P : Correlator → Prop}
    (step : ∀ c events c', c.Act events c' → P c → P c') (h : c.Acts events c') (hp : P c) :
    P c' := by
  induction h with
  | refl => exact hp
  | act _ hact ih => exact step _ _ _ hact ih

theorem acts_of_chores {site : Site} (h : c.site.Chores site) :
    c.Acts [] { c with site := site } := by
  induction h with
  | refl => exact .refl
  | @tail site _ _ hchore ih => exact ih.act (.chore (c := { c with site := site }) hchore)

theorem acts_of_apart {site : Site} (h : c.site.Apart site) : c.Acts [] { c with site := site } :=
  acts_of_chores h.chores

variable (c)

theorem acts_writeFault (id : DeviceId) (active : Bool) (fault : FlagFault) :
    c.Acts [] (c.writeFault id active fault) :=
  acts_of_apart (Site.apart_writeFault _ _ _ _ _)

theorem acts_clearDetails (id : DeviceId) (table : UInt8) :
    c.Acts [] (c.clearDetails id table) := by
  have hcleared : c.Acts [] (c.onSite fun site => site.writeDetails id table 0) :=
    acts_of_apart (Site.apart_writeDetails _ _ _ _)
  exact hcleared.trans (acts_writeFault _ _ _ _)

/-! ### Faults -/

theorem acts_beginFault (id : DeviceId) (report : List UInt8) (awaiting : FollowUp)
    (question : Command) : c.Acts [] (c.beginFault id report awaiting question).2 := by
  unfold beginFault
  split
  · exact .refl
  next hhas =>
    have hnew : c.faults.get? id = none := by simpa [Shadow.Table.has] using hhas
    split
    · next hpark => exact (Act.refuse hpark).acts
    · next hpark => exact (Act.beginFault awaiting hnew hpark).acts

/-- The flag of a report that begins to wait, or of one that is written instead. -/
theorem acts_beginFault_else (id : DeviceId) (report : List UInt8) (awaiting : FollowUp)
    (question : Command) (fault : FlagFault) :
    c.Acts [] (match c.beginFault id report awaiting question with
      | (true, c) => c
      | (false, c) => c.writeFault id true fault) := by
  have hbegun := acts_beginFault c id report awaiting question
  generalize c.beginFault id report awaiting question = begun at hbegun ⊢
  obtain ⟨_ | _, after⟩ := begun
  · exact hbegun.trans (acts_writeFault after id true fault)
  · exact hbegun

theorem acts_applyFlag (profile : Option Device.Profile) (report : FaultReport)
    (frame : List UInt8) (flag : FaultFlag) :
    c.Acts [] (applyFlag profile report frame c flag) := by
  unfold applyFlag
  cases flag with
  | faulty =>
    dsimp only [applyGeneral]
    split
    · exact acts_writeFault c _ _ _
    split
    · exact acts_beginFault_else c _ _ _ _ _
    · exact acts_clearDetails c _ _
  | detectorBattery =>
    dsimp only [applyBattery]
    split
    · exact acts_beginFault_else c _ _ _ _ _
    · exact acts_writeFault c _ _ _
  | unassigned6 => exact .refl
  | unassigned7 => exact .refl
  | _ => exact acts_writeFault c _ _ _

theorem acts_receiveFault (report : FaultReport) (frame : List UInt8) :
    c.Acts [] (c.receiveFault report frame) := by
  unfold receiveFault
  generalize c.site.profileOf report.id = profile
  induction FaultFlag.all generalizing c with
  | nil => exact .refl
  | cons flag flags ih => exact (acts_applyFlag c profile report frame flag).trans (ih _)

variable {c} in
/-- A fault ends once its timer has gone. -/
theorem acts_takeFault {id : DeviceId} {pending : PendingFault}
    (h : c.faults.get? id = some pending) {site : Site}
    (hsite : (c.site.cancel (some pending.timer)).Chores site) :
    c.Acts [] { c with faults := c.faults.erase id, site := site.release pending.frame } := by
  have hready : c.Acts [] { c with site := site } :=
    acts_of_chores ((Site.chores_cancel _ _).trans hsite)
  exact hready.act (.endFault (c := { c with site := site }) h)

theorem acts_receiveFaultDetails (id : DeviceId) (faults : UInt16) :
    c.Acts [] (c.receiveFaultDetails id faults) := by
  unfold receiveFaultDetails
  split
  · next pending hpending =>
    split
    · have htaken := acts_takeFault hpending (.refl _)
      dsimp only
      split
      · exact htaken
      · exact htaken.trans (acts_of_apart (Site.apart_writeDetails _ _ _ _))
    · exact .refl
  · exact .refl

theorem acts_faultTimedOut (id : DeviceId) : c.Acts [] (c.faultTimedOut id) := by
  unfold faultTimedOut
  split
  · next pending hpending =>
    let written := c.onSite fun site => (site.count (.pendingTimeout .fault)).writeFault id true
      pending.awaiting.fault.code none
    have hwritten : c.Acts [] written :=
      acts_of_apart ((Site.apart_count _ (by simp)).trans (Site.apart_writeFault _ _ _ _ _))
    exact hwritten.act (.endFault (c := written) hpending)
  · exact .refl

/-! ### Alarms -/

theorem acts_beginAlarm (id : DeviceId) (report : List UInt8) :
    c.Acts [] (c.beginAlarm id report).2 := by
  unfold beginAlarm
  split
  · exact .refl
  next hhas =>
    have hnew : c.alarms.get? id = none := by simpa [Shadow.Table.has] using hhas
    split
    · next hpark => exact (Act.refuse hpark).acts
    · next hpark => exact (Act.beginAlarm hnew hpark).acts

/-- The attempt to let an alarm report wait, if its device can be asked for the temperature. -/
def tryToPark (report : AlarmReport) (frame : List UInt8) : Bool × Correlator :=
  if ((c.site.profileOf report.id).map Device.Profile.readsTemperature).getD false then
    c.beginAlarm report.id frame
  else (false, c)

theorem acts_tryToPark (report : AlarmReport) (frame : List UInt8) :
    c.Acts [] (c.tryToPark report frame).2 := by
  unfold tryToPark
  split
  · exact acts_beginAlarm c report.id frame
  · exact .refl

/-- An alarm report that does not wait is told of at once. -/
def toldAtOnce (report : AlarmReport) (frame : List UInt8) : List AlarmEvent :=
  if (c.tryToPark report frame).1 then []
  else [⟨report.id, Device.alarmState report.status, none, some report⟩]

variable {c} in
theorem receiveAlarm_of_parked {report : AlarmReport} {frame : List UInt8}
    (h : (c.tryToPark report frame).1) :
    c.receiveAlarm report frame = (c.tryToPark report frame).2 := if_pos h

variable {c} in
theorem receiveAlarm_of_told {report : AlarmReport} {frame : List UInt8}
    (h : ¬ (c.tryToPark report frame).1) :
    c.receiveAlarm report frame = { (c.tryToPark report frame).2 with
      site := (c.tryToPark report frame).2.site.told
        ⟨report.id, Device.alarmState report.status, none, some report⟩ } := if_neg h

theorem acts_receiveAlarm (report : AlarmReport) (frame : List UInt8) :
    c.Acts (c.toldAtOnce report frame) (c.receiveAlarm report frame) := by
  have htried := acts_tryToPark c report frame
  unfold toldAtOnce
  by_cases hwaits : (c.tryToPark report frame).1
  · rw [if_pos hwaits, receiveAlarm_of_parked hwaits]
    exact htried
  · rw [if_neg hwaits, receiveAlarm_of_told hwaits]
    exact htried.act (.tell _)

/-- What is told when the pending alarm of a device comes to its end. -/
def toldOf (id : DeviceId) (temperature : Option UInt16) : List AlarmEvent :=
  match (c.alarms.get? id).bind fun pending => parkedAlarm? pending.frame with
  | some report => [⟨id, Device.alarmState report.status, temperature, some report⟩]
  | none => []

variable {c} in
theorem acts_resolveAlarm {id : DeviceId} {pending : PendingAlarm}
    (h : c.alarms.get? id = some pending) (temperature : Option UInt16) :
    c.Acts (c.toldOf id temperature) (c.resolveAlarm id pending temperature) := by
  unfold resolveAlarm toldOf
  rw [h, Option.bind_some]
  cases parkedAlarm? pending.frame with
  | none => exact (Act.endAlarm h).acts
  | some report =>
    let event : AlarmEvent := ⟨id, Device.alarmState report.status, temperature, some report⟩
    let written := c.onSite fun site => site.told event
    exact (Act.tell event).acts.act (.endAlarm (c := written) h)

theorem acts_receiveTemperature (id : DeviceId) (value : UInt16) :
    c.Acts (c.toldOf id (some value)) (c.receiveTemperature id value) := by
  unfold receiveTemperature
  split
  · next pending hpending =>
    let stopped := c.onSite fun site => site.cancel (some pending.timer)
    have hstopped : c.Acts [] stopped := acts_of_chores (Site.chores_cancel _ _)
    exact (acts_resolveAlarm (c := stopped) hpending _).after hstopped
  · next hnone =>
    have htold : c.toldOf id (some value) = [] := by
      unfold toldOf
      rw [hnone]
      rfl
    rw [htold]
    exact .refl

theorem acts_alarmTimedOut (id : DeviceId) :
    c.Acts (c.toldOf id none) (c.alarmTimedOut id) := by
  unfold alarmTimedOut
  split
  · next pending hpending =>
    let counted := c.onSite fun site => site.count (.pendingTimeout .alarm)
    have hcounted : c.Acts [] counted := acts_of_apart (Site.apart_count _ (by simp))
    exact (acts_resolveAlarm (c := counted) hpending _).after hcounted
  · next hnone =>
    have htold : c.toldOf id none = [] := by
      unfold toldOf
      rw [hnone]
      rfl
    rw [htold]
    exact .refl

/-! ### Answers -/

/-- What is told of alarms when a value arrives, which is the voltage if that is waited for. -/
def toldByValue (id : DeviceId) (value : UInt16) : List AlarmEvent :=
  if c.awaiting id = some .volts then [] else c.toldOf id (some value)

theorem acts_receiveSlotValue (id : DeviceId) (value : UInt16) :
    c.Acts (c.toldByValue id value) (c.receiveSlotValue id value) := by
  unfold receiveSlotValue
  split
  · next pending hpending =>
    split
    · next hvolts =>
      have hawaiting : c.awaiting id = some .volts := by
        simp [Incidents.awaiting, hpending, hvolts]
      have htold : c.toldByValue id value = [] := if_pos hawaiting
      rw [htold]
      exact acts_takeFault hpending (Site.apart_writeFault _ _ _ _ _).chores
    · next hdetails =>
      have htold : c.toldByValue id value = c.toldOf id (some value) :=
        if_neg (by simp [Incidents.awaiting, hpending, hdetails])
      rw [htold]
      exact acts_receiveTemperature c id value
  · next hnone =>
    have htold : c.toldByValue id value = c.toldOf id (some value) :=
      if_neg (by simp [Incidents.awaiting, hnone])
    rw [htold]
    exact acts_receiveTemperature c id value

/-! ### Silence -/

end Correlator

/-- What is told when the alarm of a device is silenced: something if it sounds. -/
def Site.toldBySilence (site : Site) (id : DeviceId) : List AlarmEvent :=
  if site.alarmStateOf id = some Device.alarmActive then [⟨id, Device.alarmSilenced, none, none⟩]
  else []

/-- The same for several devices, one after the other. -/
def Site.toldByHush : List DeviceId → Site → List AlarmEvent
  | [], _ => []
  | id :: ids, site => toldByHush ids (site.silence id) ++ site.toldBySilence id

namespace Correlator

variable (c : Correlator)

theorem acts_receiveLocate (id : DeviceId) :
    c.Acts (c.site.toldBySilence id) (c.receiveLocate id) := by
  unfold receiveLocate Site.toldBySilence
  by_cases h : c.site.alarmStateOf id = some Device.alarmActive
  · have hsilenced : c.site.silence id = c.site.told ⟨id, Device.alarmSilenced, none, none⟩ :=
      if_pos h
    rw [if_pos h, onSite, hsilenced]
    exact (Act.tell _).acts
  · have hsame : c.site.silence id = c.site := if_neg h
    rw [if_neg h, onSite, hsame]
    exact .refl

theorem acts_silenceAll (ids : List DeviceId) :
    c.Acts (Site.toldByHush ids c.site) { c with site := ids.foldl Site.silence c.site } := by
  induction ids generalizing c with
  | nil => exact .refl
  | cons id ids ih => exact (acts_receiveLocate c id).trans (ih (c.receiveLocate id))

end Correlator

/-! ### Moves -/

/-- Neither time passes nor does a timer fire, and the pool is the gateway's meanwhile. -/
def Move.Prompt : Move → Prop
  | .expire | .fireDue | .advance _ | .share _ => False
  | _ => True

namespace Engine

variable (engine : Engine)

/-- What changes the site by chores does nothing else about records. -/
theorem acts_site {engine' : Engine} (hincidents : engine'.incidents = engine.incidents)
    (h : engine.site.Chores engine'.site) : engine.correlator.Acts [] engine'.correlator := by
  have heq : engine'.correlator = { engine.correlator with site := engine'.site } := by
    unfold correlator
    rw [hincidents]
  rw [heq]
  exact Correlator.acts_of_chores h

theorem apart_noted (frame : List UInt8) (report : Report) :
    engine.site.Apart (engine.noted frame report).site := by
  unfold noted checkRepetition checkSequence
  split
  · dsimp only
    split
    · exact (Site.apart_count _ (by simp)).trans (Site.apart_report _ _ rfl _)
    · exact Site.apart_count _ (by simp)
  · exact Site.apart_count _ (by simp)

theorem acts_noted (frame : List UInt8) (report : Report) :
    engine.correlator.Acts [] (engine.noted frame report).correlator :=
  acts_site engine (incidents_noted engine frame report) (apart_noted engine frame report).chores

/-- The alarm events that a report brings about. -/
def toldBy (report : Report) (frame : List UInt8) : List AlarmEvent :=
  match report with
  | .alarm report => engine.correlator.toldAtOnce report frame
  | .slotValue report => engine.correlator.toldByValue report.id report.value
  | .alarmStop report => [⟨report.id, Device.alarmInactive, none, none⟩]
  | .hush _ => Site.toldByHush engine.site.devices engine.site
  | .locate report => engine.site.toldBySilence report.id
  | _ => []

theorem acts_dispatch (report : Report) (frame : List UInt8) :
    engine.correlator.Acts (engine.toldBy report frame)
      (engine.dispatch report frame).correlator := by
  let c := engine.correlator
  let d : Discovery := ⟨engine.network, engine.site⟩
  unfold dispatch toldBy
  cases report with
  | ack => exact .refl
  | nack => exact .refl
  | remoteIdNotice => exact .refl
  | statusRequest => exact acts_site engine rfl (Site.chores_send _ _)
  | sidMap map => exact acts_site engine rfl (d.chores_receiveSidMap map)
  | missingNodes map => exact acts_site engine rfl (d.chores_receiveMissing map)
  | sidMapUpdate map => exact acts_site engine rfl (d.chores_receiveSidMapUpdate map)
  | remoteStatus status =>
    exact acts_site engine rfl (((Site.apart_report _ _ rfl _).trans
      (Site.apart_report _ _ rfl _)).trans (Site.apart_report _ _ rfl _)).chores
  | rumourTarget => exact acts_site engine rfl (d.chores_transmit _)
  | deviceTested identity => exact acts_site engine rfl (d.chores_receiveIdentity identity _ _)
  | remoteId identity => exact acts_site engine rfl (d.chores_receiveRemoteId identity)
  | fault report => exact c.acts_receiveFault report frame
  | alarm report => exact c.acts_receiveAlarm report frame
  | slotValue report => exact c.acts_receiveSlotValue report.id report.value
  | faultDetails report => exact c.acts_receiveFaultDetails report.id report.faults
  | alarmStop report =>
    exact (Correlator.Act.tell (c := c) ⟨report.id, Device.alarmInactive, none, none⟩).acts
  | hush => exact c.acts_silenceAll c.site.devices
  | locate report => exact c.acts_receiveLocate report.id
  | radioDiagnostic status => exact acts_site engine rfl (d.chores_receiveDiagnostic status)
  | detectorFault report =>
    exact acts_site engine rfl (Site.apart_after _ (Site.edits_increment _ (.inl rfl))).chores

/-! ### Operations and wishes -/

theorem chores_issueTest : engine.site.Chores engine.issueTest.site := by
  unfold issueTest
  split
  · exact .refl _
  split
  · exact Site.chores_send _ _
  · exact .refl _

theorem chores_identify (id : DeviceId) : engine.site.Chores (engine.identify id).site := by
  unfold identify
  split
  · exact Site.chores_send _ _
  · exact .refl _

theorem chores_control {operation : Control} (h : (Move.control operation).Single) :
    engine.site.Chores (engine.control operation).site := by
  let d : Discovery := ⟨engine.network, engine.site⟩
  cases operation with
  | beginScan delete => exact d.chores_setTestMode true delete
  | stopScan => exact d.chores_setTestMode false false
  | issueTest => exact chores_issueTest engine
  | learn enabled seconds => exact d.chores_setLearnMode enabled seconds
  | leave => exact .refl _
  | flushAll => exact d.chores_flushAll
  | flush id => exact d.chores_flush id
  | identify id => exact chores_identify engine id
  | silenceAll => exact Site.chores_send _ _
  | locate => exact Site.chores_send _ _
  | sounder id enabled => exact Site.chores_send _ _
  | deltas => exact absurd h id

theorem chores_report {property : Shadow.Property} (h : property.isAlarm = false)
    (value : Shadow.Value) : engine.site.Chores (engine.report property value).site :=
  (Site.apart_report _ _ h _).chores

theorem chores_wishTest (wish : Shadow.Value) :
    engine.site.Chores (engine.wishTest wish).site := by
  unfold wishTest
  split
  · exact .refl _
  · have htested (engine : Engine) (delete : Bool) : engine.site.Chores
        (engine.onNetwork fun d => d.setTestMode true delete).site :=
      Discovery.chores_setTestMode ⟨engine.network, engine.site⟩ true delete
    exact (chores_report engine rfl _).trans ((htested _ _).trans
      ((chores_report _ rfl _).trans (chores_report _ rfl _)))

theorem chores_setLearnMode (enabled : Bool) (seconds : Nat) : engine.site.Chores
    (engine.onNetwork fun d => d.setLearnMode enabled seconds).site :=
  Discovery.chores_setLearnMode ⟨engine.network, engine.site⟩ enabled seconds

theorem chores_wishLearn (wish : Shadow.Value) :
    engine.site.Chores (engine.wishLearn wish).site := by
  unfold wishLearn
  dsimp only
  split
  · exact (chores_setLearnMode engine true _).trans
      ((chores_report _ rfl _).trans (chores_report _ rfl _))
  · exact (chores_report engine rfl _).trans (chores_setLearnMode _ false 0)

theorem chores_wishMode (wish : Shadow.Value) :
    engine.site.Chores (engine.wishMode wish).site := by
  unfold wishMode
  split
  · split
    · exact chores_setLearnMode engine false 0
    · exact Discovery.chores_setTestMode ⟨engine.network, engine.site⟩ false false
    · exact .refl _
  · exact .refl _

theorem chores_applyDelta (delta : Delta) :
    engine.site.Chores (engine.applyDelta delta).site := by
  let d : Discovery := ⟨engine.network, engine.site⟩
  have hasked (command : Command) : engine.site.Chores (engine.transmit command).site :=
    Site.chores_send _ _
  unfold applyDelta
  split
  · unfold applyGatewayDelta
    cases delta.property with
    | testModeCommand => exact chores_wishTest engine _
    | learnCommand => exact chores_wishLearn engine _
    | mode => exact chores_wishMode engine _
    | deleteAllCommand => exact d.chores_flushAll
    | sounderTestCommand => exact (chores_issueTest engine).trans (chores_report _ rfl _)
    | silenceAllCommand => exact (hasked _).trans (chores_report _ rfl _)
    | locateCommand => exact (hasked _).trans (chores_report _ rfl _)
    | _ => exact .refl _
  · unfold applyDeviceDelta
    cases delta.property with
    | mute =>
      dsimp only
      split
      · exact (hasked _).trans (Site.apart_report _ _ rfl _).chores
      · exact .refl _
    | identifyCommand =>
      exact (chores_identify engine _).trans (Site.apart_report _ _ rfl _).chores
    | flushCommand =>
      dsimp only
      split
      · exact d.chores_flush _
      · exact .refl _
    | _ => exact .refl _

/-! ### All moves -/

/-- The alarm events of a move that deals with one thing. -/
def alarmsTold : Move → List AlarmEvent
  | .receive frame =>
    match engine.accepted? frame with
    | some report => (engine.noted frame report).toldBy report frame
    | none => []
  | .expire =>
    match engine.popDue with
    | (some (.alarmTimeout id), rest) => rest.correlator.toldOf id none
    | _ => []
  | _ => []

theorem alarmsTold_receive (frame : List UInt8) : engine.alarmsTold (.receive frame) =
    match engine.accepted? frame with
    | some report => (engine.noted frame report).toldBy report frame
    | none => [] := rfl

theorem acts_receive (frame : List UInt8) :
    engine.correlator.Acts (engine.alarmsTold (.receive frame))
      (engine.receive frame).correlator := by
  have hcounted (engine : Engine) {counter : Metric.Counter} (h : counter ≠ .alarmEvent) :
      engine.correlator.Acts [] (engine.onSite fun site => site.count counter).correlator :=
    acts_site engine rfl (Site.apart_count _ h).chores
  rw [alarmsTold_receive]
  cases haccepted : engine.accepted? frame with
  | some report =>
    rw [receive_of_accepted engine haccepted]
    exact (acts_dispatch _ report frame).after (acts_noted engine frame report)
  | none =>
    obtain ⟨reason, hreceive⟩ | ⟨report, -, hreceive⟩ := receive_ignored_cases engine haccepted
    · rw [hreceive]
      exact hcounted engine (by simp)
    · rw [hreceive]
      exact (hcounted _ (by simp)).after (acts_noted engine frame report)

theorem acts_move {move : Move} (h : move.Single) (hprompt : move.Prompt) :
    engine.correlator.Acts (engine.alarmsTold move) (engine.move move).correlator := by
  cases move with
  | receive frame => exact acts_receive engine frame
  | control operation =>
    exact acts_site engine (incidents_control engine h) (chores_control engine h)
  | wish delta =>
    exact acts_site engine (incidents_applyDelta engine delta) (chores_applyDelta engine delta)
  | desire id property value =>
    exact acts_site engine rfl (Site.apart_after _ (Site.edits_desire _ _ _ _)).chores
  | outages outages =>
    have hchore : engine.site.Chore (engine.move (.outages outages)).site :=
      .apart rfl rfl rfl ⟨.refl, rfl⟩
    exact acts_site engine rfl hchore.chores
  | contend contention =>
    have hchore : engine.site.Chore (engine.move (.contend contention)).site :=
      .apart rfl rfl rfl ⟨.refl, rfl⟩
    exact acts_site engine rfl hchore.chores
  | expire => exact hprompt.elim
  | fireDue => exact hprompt.elim
  | advance => exact hprompt.elim
  | share => exact hprompt.elim

theorem acts_fire (kind : TimerKind) : engine.correlator.Acts
    (match kind with
      | .alarmTimeout id => engine.correlator.toldOf id none
      | _ => []) (engine.fire kind).correlator := by
  unfold fire
  cases kind with
  | faultTimeout id => exact engine.correlator.acts_faultTimedOut id
  | alarmTimeout id => exact engine.correlator.acts_alarmTimedOut id
  | _ => exact acts_site engine rfl (Discovery.chores_onTimer ⟨engine.network, engine.site⟩ _)

variable {engine} in
/-- A timer that is due is taken out of the queue and dealt with. -/
theorem acts_pop {timer : Timer} {rest : TimerQueue}
    (h : engine.site.timers.popExpired engine.site.clock.now = (some timer, rest)) :
    (engine.popped rest).correlator.Acts (engine.alarmsTold .expire) engine.expire.correlator := by
  have hdue := popDue_eq engine h
  have hacts := acts_fire (engine.popped rest) timer.kind
  unfold alarmsTold
  rw [expire_of_some hdue, hdue]
  cases hkind : timer.kind <;> rw [hkind] at hacts <;> simpa [hkind] using hacts

/-- No timer is due, or one is taken out of the queue and dealt with. -/
theorem acts_expire : engine.expire = engine ∧ engine.alarmsTold .expire = [] ∨
    ∃ timer rest, engine.site.timers.popExpired engine.site.clock.now = (some timer, rest) ∧
      (engine.popped rest).correlator.Acts (engine.alarmsTold .expire)
        engine.expire.correlator := by
  cases hpop : engine.site.timers.popExpired engine.site.clock.now with
  | mk popped rest =>
    cases popped with
    | none =>
      have hdue := popDue_eq engine hpop
      refine .inl ⟨expire_of_none hdue, ?_⟩
      unfold alarmsTold
      rw [hdue]
      rfl
    | some timer => exact .inr ⟨timer, rest, rfl, acts_pop hpop⟩

/-! ### The start -/

theorem apart_greeted (site : Site) : site.Apart (greeted site) := by
  have hregistered : site.Apart (registerGateway site) := by
    unfold registerGateway
    split
    · exact .refl site
    · have hallowed : Shadow.Footprint.tacit.Allows (.register .gateway
          (Device.flagged Radio.gatewayPriority)) := trivial
      exact Site.apart_after _ (Site.edits_after hallowed _ _)
  have hinitial (site : Site) (entry : Shadow.Property × Shadow.Value)
      (hentry : entry ∈ initialValues) : site.Apart (reportInitial site entry) := by
    have hproperty : entry.1.isAlarm = false :=
      (by decide : ∀ entry ∈ initialValues, entry.1.isAlarm = false) entry hentry
    unfold reportInitial
    split
    · exact Site.apart_report _ _ hproperty _
    · exact .refl site
  exact (hregistered.trans (.foldl hinitial _)).trans ((Site.apart_report _ _ rfl _).trans
    (.foldl (fun site property _ => Site.apart_subscribe site _ property) _))

theorem acts_start : engine.correlator.Acts [] engine.start.correlator := by
  have hgreeted := (apart_greeted engine.site).chores
  rw [start_eq]
  generalize greeted engine.site = site at hgreeted ⊢
  have hstarted := hgreeted.trans (Discovery.chores_start ⟨engine.network, site⟩)
  exact Correlator.acts_of_chores (c := engine.correlator) hstarted

end Engine

/-! ### Devices that are asked -/

/-- A shadow of two devices: the first is asked for its temperature when it reports an alarm, the
second for its voltage when its battery is low. -/
def askedDevices : Shadow.Platform :=
  { store := { records := [
      (.ofNat 1, { reported := [(.deviceType, .ofNat 65537), (.sid, .ofNat 5)] }),
      (.ofNat 2, { reported := [(.deviceType, .ofNat 65665), (.sid, .ofNat 6)] })] } }

end AlarmMesh.Gateway
