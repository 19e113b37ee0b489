import AlarmMesh.Proofs.Gateway.MoveFootprint
import AlarmMesh.Proofs.Gateway.Ownership

/-!
# Pending records

What each move does to the records of faults and alarms that wait for an answer.  Only reports,
answers and timeouts touch them, and each only those of the device that it is about.

* `Site.park_content` — what waits is the frame that arrived;
* `incidents_move` — operations, wishes and what happens around the engine touch no record;
* `beginFault_cases`, `beginAlarm_cases` — a record begins, or everything is as it was;
* `alarms_dispatch`, `alarms_expire`, `faults_dispatch`, `faults_expire` — the records of the
  devices that a move is not about;
* `Incidents.Readable`, `Reachable.readable` — an alarm that waits can be read again.
-/

namespace AlarmMesh.Link

/-! ### Buffers -/

theorem Buffer.content_filled {buffer : Buffer} {bytes : List UInt8}
    (hfit : bytes.length ≤ buffer.storage.length) : (buffer.filled bytes).content = bytes := by
  simp [filled, clear, appended, overwrite, content, List.take_append,
    List.take_of_length_le hfit]

/-- A buffer that was taken for some bytes holds them. -/
theorem Pool.content_of_acquireWith {pool pool' : Pool} {bytes : List UInt8} {buffer : Buffer}
    (h : pool.acquireWith bytes = (some buffer, pool')) : buffer.content = bytes := by
  unfold acquireWith acquire at h
  split at h
  · simp at h
  · next hfit =>
    split at h
    · simp at h
    · next found _ heq =>
      have hfresh : ∃ slot, found = .fresh slot := by
        split at heq
        · simp at heq
        · next slot _ _ => exact ⟨slot, by simpa using (congrArg Prod.fst heq).symm⟩
      obtain ⟨slot, rfl⟩ := hfresh
      obtain rfl : (Buffer.fresh slot).filled bytes = buffer := by simpa using congrArg Prod.fst h
      exact Buffer.content_filled (by simpa [Buffer.fresh] using hfit)

end AlarmMesh.Link

namespace AlarmMesh.Gateway

open Radio (AlarmReport Command DeviceId FaultFlag FaultReport Report)

/-- What waits is the frame that arrived. -/
theorem Site.park_content {site : Site} {report : List UInt8} {use : Link.SlotUse}
    {question : Command} {buffer : Link.Buffer} {site' : Site}
    (h : site.park report use question = (some buffer, site')) : buffer.content = report := by
  cases parks_of_park h with
  | @asked taken _ _ htake =>
    have hcontent : taken.content = report := by
      unfold takeBuffer at htake
      split at htake
      · have hfirst := congrArg Prod.fst htake
        exact Link.Pool.content_of_acquireWith (Prod.ext hfirst rfl)
      · have hfirst := congrArg Prod.fst htake
        exact Link.Pool.content_of_acquireWith (Prod.ext hfirst rfl)
    exact hcontent

namespace Correlator

variable {c : Correlator} {id other : DeviceId} {pending : PendingAlarm}

/-- Taking the record of one device out leaves those of the others. -/
theorem get?_of_erased {ν : Type} {records records' : Shadow.Table DeviceId ν}
    (h : records' = records ∨ records' = records.erase other) (hne : other ≠ id) :
    records'.get? id = records.get? id := by
  obtain rfl | rfl := h
  · rfl
  · rw [Shadow.Table.get?_erase, if_neg hne]

/-! ### Faults that begin to wait -/

/-- A fault begins to wait if none waits yet; otherwise every record is as it was. -/
theorem beginFault_cases (c : Correlator) (id : DeviceId) (report : List UInt8)
    (awaiting : FollowUp) (question : Command) :
    ((c.beginFault id report awaiting question).1 = false ∧
      (c.beginFault id report awaiting question).2.toIncidents = c.toIncidents) ∨
    ((c.beginFault id report awaiting question).1 = true ∧ c.faults.get? id = none ∧
      ∃ pending : PendingFault, pending.awaiting = awaiting ∧
        (c.beginFault id report awaiting question).2.toIncidents =
          { c.toIncidents with faults := c.faults.put id pending }) := by
  unfold beginFault
  split
  · exact .inl ⟨rfl, rfl⟩
  · next hnew =>
    split
    · exact .inl ⟨rfl, rfl⟩
    · exact .inr ⟨rfl, by simpa [Shadow.Table.has] using hnew, _, rfl, rfl⟩

/-- What the gateway asks for when a flag is set. -/
def followUp? : FaultFlag → Option FollowUp
  | .faulty => some .faultDetails
  | .detectorBattery => some .volts
  | _ => none

/-- A report begins to wait for what a flag asks for, or something else is done that touches no
record. -/
theorem beginFault_else {flag : FaultFlag} {awaiting : FollowUp}
    (hflag : followUp? flag = some awaiting) (c : Correlator) (id : DeviceId)
    (report : List UInt8) (question : Command) {otherwise : Correlator → Correlator}
    (h : ∀ c, (otherwise c).toIncidents = c.toIncidents) :
    (match c.beginFault id report awaiting question with
      | (true, c) => c
      | (false, c) => otherwise c).toIncidents = c.toIncidents ∨
    c.faults.get? id = none ∧ ∃ pending : PendingFault, followUp? flag = some pending.awaiting ∧
      (match c.beginFault id report awaiting question with
        | (true, c) => c
        | (false, c) => otherwise c).toIncidents =
          { c.toIncidents with faults := c.faults.put id pending } := by
  have hcases := c.beginFault_cases id report awaiting question
  generalize c.beginFault id report awaiting question = begun at hcases ⊢
  obtain ⟨first, after⟩ := begun
  obtain ⟨rfl, hsame⟩ | ⟨rfl, hnone, pending, rfl, hput⟩ := hcases
  · exact .inl ((h after).trans hsame)
  · exact .inr ⟨hnone, pending, hflag, hput⟩

/-- A flag leaves every record as it was, or the report begins to wait for what its flag asks
for. -/
theorem applyFlag_cases (c : Correlator) (profile : Option Device.Profile) (report : FaultReport)
    (frame : List UInt8) (flag : FaultFlag) :
    (applyFlag profile report frame c flag).toIncidents = c.toIncidents ∨
    c.faults.get? report.id = none ∧ ∃ pending : PendingFault,
      followUp? flag = some pending.awaiting ∧
        (applyFlag profile report frame c flag).toIncidents =
          { c.toIncidents with faults := c.faults.put report.id pending } := by
  unfold applyFlag
  cases flag with
  | faulty =>
    dsimp only [applyGeneral]
    split
    · exact .inl rfl
    split
    · exact beginFault_else rfl c report.id frame _ fun _ => rfl
    · exact .inl rfl
  | detectorBattery =>
    dsimp only [applyBattery]
    split
    · exact beginFault_else rfl c report.id frame _ fun _ => rfl
    · exact .inl rfl
  | _ => exact .inl rfl

/-! ### Alarms that begin to wait -/

/-- An alarm begins to wait if none waits yet, and then in the frame that arrived; otherwise every
record is as it was. -/
theorem beginAlarm_cases (c : Correlator) (id : DeviceId) (report : List UInt8) :
    ((c.beginAlarm id report).1 = false ∧
      (c.beginAlarm id report).2.toIncidents = c.toIncidents) ∨
    ((c.beginAlarm id report).1 = true ∧ c.alarms.get? id = none ∧
      ∃ pending : PendingAlarm, pending.frame.content = report ∧
        (c.beginAlarm id report).2.toIncidents =
          { c.toIncidents with alarms := c.alarms.put id pending }) := by
  unfold beginAlarm
  split
  · exact .inl ⟨rfl, rfl⟩
  · next hnew =>
    split
    · exact .inl ⟨rfl, rfl⟩
    · next heq =>
      exact .inr ⟨rfl, by simpa [Shadow.Table.has] using hnew, _, Site.park_content heq, rfl⟩

/-- An alarm begins to wait, or it is written at once. -/
theorem receiveAlarm_cases (c : Correlator) (report : AlarmReport) (frame : List UInt8) :
    (c.alarms.get? report.id = none ∧ ∃ pending : PendingAlarm, pending.frame.content = frame ∧
      (c.receiveAlarm report frame).toIncidents =
        { c.toIncidents with alarms := c.alarms.put report.id pending }) ∨
    ((c.receiveAlarm report frame).toIncidents = c.toIncidents ∧
      ∃ site : Site, site.platform = c.site.platform ∧ (c.receiveAlarm report frame).site =
        site.writeAlarm report.id (Device.alarmState report.status) none) := by
  have hplatform := c.beginAlarm_platform report.id frame
  have hcases := c.beginAlarm_cases report.id frame
  unfold receiveAlarm
  dsimp only
  generalize c.beginAlarm report.id frame = begun at hplatform hcases ⊢
  split
  · obtain ⟨hfirst, hsame⟩ | ⟨hfirst, hnone, pending, hcontent, hput⟩ := hcases
    · rw [if_neg (by simp [hfirst])]
      exact .inr ⟨hsame, _, hplatform, rfl⟩
    · rw [if_pos hfirst]
      exact .inl ⟨hnone, pending, hcontent, hput⟩
  · exact .inr ⟨rfl, _, rfl, rfl⟩

/-! ### Answers -/

/-- Details that no fault waits for are ignored. -/
theorem receiveFaultDetails_unasked (h : c.awaiting id ≠ some .faultDetails) (faults : UInt16) :
    c.receiveFaultDetails id faults = c := by
  unfold receiveFaultDetails
  split
  · next pending hpending =>
    rw [if_neg fun hdetails => h (by simp [Incidents.awaiting, hpending, hdetails])]
  · rfl

/-- A value that no fault waits for is a temperature. -/
theorem receiveSlotValue_unasked (h : c.awaiting id ≠ some .volts) (value : UInt16) :
    c.receiveSlotValue id value = c.receiveTemperature id value := by
  unfold receiveSlotValue
  split
  · next pending hpending =>
    rw [if_neg fun hvolts => h (by simp [Incidents.awaiting, hpending, hvolts])]
  · rfl

/-- A value that a fault waits for says nothing about alarms. -/
theorem receiveSlotValue_volts (h : c.awaiting id = some .volts) (value : UInt16) :
    (c.receiveSlotValue id value).alarms = c.alarms := by
  unfold receiveSlotValue
  split
  · split
    · rfl
    · next hpending hvolts => simp [Incidents.awaiting, hpending, hvolts] at h
  · next hnone => simp [Incidents.awaiting, hnone] at h

/-! ### Alarms that faults leave alone -/

theorem applyFlag_alarms (profile : Option Device.Profile) (report : FaultReport)
    (frame : List UInt8) (c : Correlator) (flag : FaultFlag) :
    (applyFlag profile report frame c flag).alarms = c.alarms := by
  obtain hsame | ⟨-, _, -, hput⟩ := c.applyFlag_cases profile report frame flag
  · rw [hsame]
  · rw [hput]

theorem receiveFault_alarms (c : Correlator) (report : FaultReport) (frame : List UInt8) :
    (c.receiveFault report frame).alarms = c.alarms := by
  unfold receiveFault
  generalize c.site.profileOf report.id = profile
  induction FaultFlag.all generalizing c with
  | nil => rfl
  | cons flag flags ih => exact (ih _).trans (applyFlag_alarms profile report frame c flag)

theorem receiveFaultDetails_alarms (c : Correlator) (id : DeviceId) (faults : UInt16) :
    (c.receiveFaultDetails id faults).alarms = c.alarms := by
  unfold receiveFaultDetails
  split
  · split
    · dsimp only
      split <;> rfl
    · rfl
  · rfl

theorem faultTimedOut_alarms (c : Correlator) (id : DeviceId) :
    (c.faultTimedOut id).alarms = c.alarms := by
  unfold faultTimedOut
  split <;> rfl

/-! ### Alarms of other devices -/

theorem receiveAlarm_of_ne (c : Correlator) {report : AlarmReport} (frame : List UInt8)
    (h : report.id ≠ id) : (c.receiveAlarm report frame).alarms.get? id = c.alarms.get? id := by
  obtain ⟨-, _, -, hput⟩ | ⟨hsame, -⟩ := c.receiveAlarm_cases report frame
  · rw [hput, Shadow.Table.get?_put, if_neg h]
  · rw [hsame]

/-- A temperature resolves the alarm that waits for it, if there is one. -/
theorem receiveTemperature_alarms (c : Correlator) (id : DeviceId) (value : UInt16) :
    (c.receiveTemperature id value).alarms = c.alarms ∨
      (c.receiveTemperature id value).alarms = c.alarms.erase id := by
  unfold receiveTemperature
  split
  · exact .inr rfl
  · exact .inl rfl

theorem receiveSlotValue_alarms (c : Correlator) (id : DeviceId) (value : UInt16) :
    (c.receiveSlotValue id value).alarms = c.alarms ∨
      (c.receiveSlotValue id value).alarms = c.alarms.erase id := by
  unfold receiveSlotValue
  split
  · split
    · exact .inl rfl
    · exact receiveTemperature_alarms c id value
  · exact receiveTemperature_alarms c id value

theorem alarmTimedOut_alarms (c : Correlator) (id : DeviceId) :
    (c.alarmTimedOut id).alarms = c.alarms ∨ (c.alarmTimedOut id).alarms = c.alarms.erase id := by
  unfold alarmTimedOut
  split
  · exact .inr rfl
  · exact .inl rfl

/-! ### Faults that alarms leave alone -/

theorem receiveAlarm_faults (c : Correlator) (report : AlarmReport) (frame : List UInt8) :
    (c.receiveAlarm report frame).faults = c.faults := by
  obtain ⟨-, _, -, hput⟩ | ⟨hsame, -⟩ := c.receiveAlarm_cases report frame
  · rw [hput]
  · rw [hsame]

theorem receiveTemperature_faults (c : Correlator) (id : DeviceId) (value : UInt16) :
    (c.receiveTemperature id value).faults = c.faults := by
  unfold receiveTemperature
  split <;> rfl

theorem alarmTimedOut_faults (c : Correlator) (id : DeviceId) :
    (c.alarmTimedOut id).faults = c.faults := by
  unfold alarmTimedOut
  split <;> rfl

/-! ### Faults of other devices -/

theorem applyFlag_of_ne (profile : Option Device.Profile) {report : FaultReport}
    (frame : List UInt8) (c : Correlator) (flag : FaultFlag) (h : report.id ≠ id) :
    (applyFlag profile report frame c flag).faults.get? id = c.faults.get? id := by
  obtain hsame | ⟨-, _, -, hput⟩ := c.applyFlag_cases profile report frame flag
  · rw [hsame]
  · rw [hput, Shadow.Table.get?_put, if_neg h]

theorem receiveFault_of_ne (c : Correlator) {report : FaultReport} (frame : List UInt8)
    (h : report.id ≠ id) : (c.receiveFault report frame).faults.get? id = c.faults.get? id := by
  unfold receiveFault
  generalize c.site.profileOf report.id = profile
  induction FaultFlag.all generalizing c with
  | nil => rfl
  | cons flag flags ih => exact (ih _).trans (applyFlag_of_ne profile frame c flag h)

theorem receiveFaultDetails_faults (c : Correlator) (id : DeviceId) (faults : UInt16) :
    (c.receiveFaultDetails id faults).faults = c.faults ∨
      (c.receiveFaultDetails id faults).faults = c.faults.erase id := by
  unfold receiveFaultDetails
  split
  · split
    · dsimp only
      split
      · exact .inr rfl
      · exact .inr rfl
    · exact .inl rfl
  · exact .inl rfl

theorem receiveSlotValue_faults (c : Correlator) (id : DeviceId) (value : UInt16) :
    (c.receiveSlotValue id value).faults = c.faults ∨
      (c.receiveSlotValue id value).faults = c.faults.erase id := by
  unfold receiveSlotValue
  split
  · split
    · exact .inr rfl
    · exact .inl (receiveTemperature_faults c id value)
  · exact .inl (receiveTemperature_faults c id value)

theorem faultTimedOut_faults (c : Correlator) (id : DeviceId) :
    (c.faultTimedOut id).faults = c.faults ∨ (c.faultTimedOut id).faults = c.faults.erase id := by
  unfold faultTimedOut
  split
  · exact .inr rfl
  · exact .inl rfl

end Correlator

namespace Engine

variable (engine : Engine)

/-- The pending records and the site of the engine. -/
def correlator : Correlator := ⟨engine.incidents, engine.site⟩

theorem correlator_onIncidents (f : Correlator → Correlator) :
    (engine.onIncidents f).correlator = f engine.correlator := rfl

theorem correlator_slotValue (report : Radio.SlotReport) (frame : List UInt8) :
    (engine.dispatch (.slotValue report) frame).correlator =
      engine.correlator.receiveSlotValue report.id report.value :=
  correlator_onIncidents engine _

/-! ### Moves that touch no record -/

theorem incidents_noted (frame : List UInt8) (report : Report) :
    (engine.noted frame report).incidents = engine.incidents := by
  rw [noted_eq]

theorem incidents_issueTest : engine.issueTest.incidents = engine.incidents := by
  unfold issueTest
  split
  · rfl
  split <;> rfl

theorem incidents_identify (id : DeviceId) : (engine.identify id).incidents = engine.incidents := by
  unfold identify
  split <;> rfl

theorem incidents_control {operation : Control} (h : (Move.control operation).Single) :
    (engine.control operation).incidents = engine.incidents := by
  cases operation with
  | issueTest => exact incidents_issueTest engine
  | identify id => exact incidents_identify engine id
  | deltas => exact absurd h id
  | _ => rfl

theorem incidents_applyDelta (delta : Delta) :
    (engine.applyDelta delta).incidents = engine.incidents := by
  unfold applyDelta
  split
  · unfold applyGatewayDelta
    cases delta.property with
    | testModeCommand =>
      dsimp only [wishTest]
      split <;> rfl
    | learnCommand =>
      dsimp only [wishLearn]
      split <;> rfl
    | mode =>
      dsimp only [wishMode]
      split
      · split <;> rfl
      · rfl
    | sounderTestCommand => exact incidents_issueTest engine
    | _ => rfl
  · unfold applyDeviceDelta
    cases delta.property with
    | mute =>
      dsimp only
      split <;> rfl
    | identifyCommand => exact incidents_identify engine _
    | flushCommand =>
      dsimp only
      split <;> rfl
    | _ => rfl

/-! ### Alarms that a move is not about -/

variable {engine} {id : DeviceId}

/-- A report touches no alarm but that of the device that sent it, and only if it is an alarm
itself or a value. -/
theorem alarms_dispatch {report : Report} (frame : List UInt8)
    (halarm : ∀ r, report = .alarm r → r.id ≠ id)
    (hvalue : ∀ r, report = .slotValue r → r.id ≠ id) :
    (engine.dispatch report frame).incidents.alarms.get? id =
      engine.incidents.alarms.get? id := by
  let c : Correlator := ⟨engine.incidents, engine.site⟩
  unfold dispatch
  cases report with
  | fault report => exact congrArg (Shadow.Table.get? · id) (c.receiveFault_alarms report frame)
  | alarm report => exact c.receiveAlarm_of_ne frame (halarm report rfl)
  | slotValue report =>
    exact Correlator.get?_of_erased (c.receiveSlotValue_alarms report.id report.value)
      (hvalue report rfl)
  | faultDetails report =>
    exact congrArg (Shadow.Table.get? · id) (c.receiveFaultDetails_alarms report.id report.faults)
  | _ => rfl

theorem alarms_expire (h : engine.popDue.1 ≠ some (.alarmTimeout id)) :
    engine.expire.incidents.alarms.get? id = engine.incidents.alarms.get? id := by
  unfold expire
  split
  · rfl
  · next kind rest hpop =>
    have hrest : rest.incidents = engine.incidents :=
      (congrArg (fun popped => popped.2.incidents) hpop).symm
    let c : Correlator := ⟨rest.incidents, rest.site⟩
    rw [← hrest]
    cases kind with
    | faultTimeout other =>
      exact congrArg (Shadow.Table.get? · id) (c.faultTimedOut_alarms other)
    | alarmTimeout other =>
      refine Correlator.get?_of_erased (c.alarmTimedOut_alarms other) fun hid => h ?_
      rw [hpop, hid]
    | _ => rfl

/-! ### Faults that a move is not about -/

/-- A report touches no fault but that of the device that sent it, and only if it is a fault
itself, its details, or a value. -/
theorem faults_dispatch {report : Report} (frame : List UInt8)
    (hfault : ∀ r, report = .fault r → r.id ≠ id)
    (hdetails : ∀ r, report = .faultDetails r → r.id ≠ id)
    (hvalue : ∀ r, report = .slotValue r → r.id ≠ id) :
    (engine.dispatch report frame).incidents.faults.get? id =
      engine.incidents.faults.get? id := by
  let c : Correlator := ⟨engine.incidents, engine.site⟩
  unfold dispatch
  cases report with
  | fault report => exact c.receiveFault_of_ne frame (hfault report rfl)
  | alarm report => exact congrArg (Shadow.Table.get? · id) (c.receiveAlarm_faults report frame)
  | slotValue report =>
    exact Correlator.get?_of_erased (c.receiveSlotValue_faults report.id report.value)
      (hvalue report rfl)
  | faultDetails report =>
    exact Correlator.get?_of_erased (c.receiveFaultDetails_faults report.id report.faults)
      (hdetails report rfl)
  | _ => rfl

theorem faults_expire (h : engine.popDue.1 ≠ some (.faultTimeout id)) :
    engine.expire.incidents.faults.get? id = engine.incidents.faults.get? id := by
  unfold expire
  split
  · rfl
  · next kind rest hpop =>
    have hrest : rest.incidents = engine.incidents :=
      (congrArg (fun popped => popped.2.incidents) hpop).symm
    let c : Correlator := ⟨rest.incidents, rest.site⟩
    rw [← hrest]
    cases kind with
    | faultTimeout other =>
      refine Correlator.get?_of_erased (c.faultTimedOut_faults other) fun hid => h ?_
      rw [hpop, hid]
    | alarmTimeout other =>
      exact congrArg (Shadow.Table.get? · id) (c.alarmTimedOut_faults other)
    | _ => rfl

end Engine

/-! ### Alarms that can be read again -/

/-- Every alarm that waits can be read again. -/
def Incidents.Readable (incidents : Incidents) : Prop :=
  ∀ id pending, incidents.alarms.get? id = some pending → (parkedAlarm? pending.frame).isSome

namespace Incidents.Readable

variable {incidents incidents' : Incidents} {id : DeviceId}

theorem congr (h : incidents.Readable) (heq : incidents'.alarms = incidents.alarms) :
    incidents'.Readable :=
  fun id pending hget => h id pending (heq ▸ hget)

theorem erased (h : incidents.Readable)
    (heq : incidents'.alarms = incidents.alarms ∨ incidents'.alarms = incidents.alarms.erase id) :
    incidents'.Readable := by
  obtain heq | heq := heq
  · exact h.congr heq
  · intro other pending hget
    rw [heq, Shadow.Table.get?_erase] at hget
    split at hget
    · simp at hget
    · exact h other pending hget

theorem put (h : incidents.Readable) {pending : PendingAlarm}
    (hread : (parkedAlarm? pending.frame).isSome)
    (heq : incidents'.alarms = incidents.alarms.put id pending) : incidents'.Readable := by
  intro other found hget
  rw [heq, Shadow.Table.get?_put] at hget
  split at hget
  · obtain rfl := Option.some.inj hget
    exact hread
  · exact h other found hget

end Incidents.Readable

theorem parkedAlarm?_of_content {buffer : Link.Buffer} {frame : List UInt8} {report : AlarmReport}
    (h : buffer.content = frame) (hframe : Report.decode frame = .ok (.alarm report)) :
    parkedAlarm? buffer = some report := by
  unfold parkedAlarm?
  rw [h, hframe]

namespace Engine

variable {engine : Engine}

theorem readable_dispatch (h : engine.incidents.Readable) {frame : List UInt8} {report : Report}
    (hframe : Report.decode frame = .ok report) :
    (engine.dispatch report frame).incidents.Readable := by
  let c : Correlator := ⟨engine.incidents, engine.site⟩
  unfold dispatch
  cases report with
  | fault report => exact h.congr (c.receiveFault_alarms report frame)
  | alarm report =>
    obtain ⟨-, pending, hcontent, hput⟩ | ⟨hsame, -⟩ := c.receiveAlarm_cases report frame
    · have hread : (parkedAlarm? pending.frame).isSome := by
        rw [parkedAlarm?_of_content hcontent hframe]
        rfl
      exact h.put hread (congrArg Incidents.alarms hput)
    · exact h.congr (congrArg Incidents.alarms hsame)
  | slotValue report => exact h.erased (c.receiveSlotValue_alarms report.id report.value)
  | faultDetails report => exact h.congr (c.receiveFaultDetails_alarms report.id report.faults)
  | _ => exact h

theorem readable_receive (h : engine.incidents.Readable) (frame : List UInt8) :
    (engine.receive frame).incidents.Readable := by
  cases haccepted : engine.accepted? frame with
  | none =>
    obtain ⟨site, hreceive, -⟩ := receive_of_ignored engine haccepted
    rw [hreceive]
    exact h
  | some report =>
    have hnoted : (engine.noted frame report).incidents.Readable := by
      rw [noted_eq]
      exact h
    rw [receive_of_accepted engine haccepted]
    exact readable_dispatch hnoted (decode_of_accepted engine haccepted)

theorem readable_expire (h : engine.incidents.Readable) : engine.expire.incidents.Readable := by
  unfold expire
  split
  · exact h
  · next kind rest hpop =>
    have hrest : engine.incidents = rest.incidents :=
      congrArg (fun popped => popped.2.incidents) hpop
    let c : Correlator := ⟨rest.incidents, rest.site⟩
    rw [hrest] at h
    cases kind with
    | faultTimeout other => exact h.congr (c.faultTimedOut_alarms other)
    | alarmTimeout other => exact h.erased (c.alarmTimedOut_alarms other)
    | _ => exact h

theorem readable_single (h : engine.incidents.Readable) {move : Move} (hsingle : move.Single) :
    (engine.move move).incidents.Readable := by
  cases move with
  | receive frame => exact readable_receive h frame
  | control operation =>
    exact h.congr (congrArg Incidents.alarms (incidents_control engine hsingle))
  | wish delta => exact h.congr (congrArg Incidents.alarms (incidents_applyDelta engine delta))
  | expire => exact readable_expire h
  | fireDue => exact absurd hsingle id
  | _ => exact h

end Engine

/-- In a reachable engine every alarm that waits can be read again. -/
theorem Reachable.readable {settings : Config.Settings} {engine : Engine}
    (h : Reachable settings engine) : engine.incidents.Readable := by
  induction h with
  | start platform pool clock contention =>
    intro id pending hget
    unfold Engine.started at hget
    rw [start_eq] at hget
    simp [Engine.ofSettings, Discovery.among] at hget
  | @move engine move _ ih =>
    exact Engine.single_induct (P := fun engine => engine.incidents.Readable)
      (fun _ _ hsingle h => Engine.readable_single h hsingle) engine [move] ih

end AlarmMesh.Gateway
