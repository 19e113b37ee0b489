import AlarmMesh.Config.Settings
import AlarmMesh.Gateway.Event
import AlarmMesh.Radio.Decode
import AlarmMesh.Radio.FaultFlag

/-!
# Faults and alarms

Some reports call for a question before they can be written to the shadow: a low battery for the
voltage, a general fault for the detailed fault word, an alarm for the temperature.  Meanwhile the
report waits in a buffer of its own, as a pending record with a timer.  A device has at most one
pending fault and one pending alarm.  If no answer comes in time, or if the question cannot be
asked at all, the event is written without what was asked for.

* `receiveFault`, `receiveAlarm` — reports;
* `receiveSlotValue`, `receiveFaultDetails` — answers;
* `onTimeout` — no answer.
-/

namespace AlarmMesh.Gateway

open Device (Profile)
open Radio (AlarmReport Command DeviceId FaultFlag FaultReport RadioStatus)
open Shadow (Table Value)

/-- What a pending fault waits for. -/
inductive FollowUp where
  /-- The battery voltage. -/
  | volts
  /-- The detailed fault word. -/
  | faultDetails
  deriving DecidableEq, Repr

/-- The fault that is written when the answer does not come. -/
def FollowUp.fault : FollowUp → FlagFault
  | volts => .detectorBattery
  | faultDetails => .general

/-- A fault report that waits. -/
structure PendingFault where
  /-- Holds the report. -/
  frame : Link.Buffer
  awaiting : FollowUp
  timer : TimerHandle
  deriving DecidableEq, Repr

/-- An alarm report that waits. -/
structure PendingAlarm where
  /-- Holds the report. -/
  frame : Link.Buffer
  timer : TimerHandle
  deriving DecidableEq, Repr

/-- The pending records. -/
structure Incidents where
  settings : Config.EventSettings := {}
  faults : Table DeviceId PendingFault := []
  alarms : Table DeviceId PendingAlarm := []
  deriving DecidableEq, Repr

namespace Incidents

/-- What the pending fault of a device waits for. -/
def awaiting (incidents : Incidents) (id : DeviceId) : Option FollowUp :=
  (incidents.faults.get? id).map PendingFault.awaiting

/-- An alarm of the device waits for its temperature. -/
def hasAlarm (incidents : Incidents) (id : DeviceId) : Bool := incidents.alarms.has id

end Incidents

namespace Site

/-- The profile of a registered device. -/
def profileOf (site : Site) (id : DeviceId) : Option Profile :=
  ((site.reported id .deviceType).bind Value.asWord).bind Profile.find?

/-- The table of fault codes of a device; 0 if it has none. -/
def faultTableOf (site : Site) (id : DeviceId) : UInt8 :=
  ((site.profileOf id).map Profile.faultTable).getD 0

/-- The model of a device; 0 if it is not known. -/
def modelOf (site : Site) (id : DeviceId) : UInt16 :=
  ((site.reported id .modelValue).bind Value.asModel).getD 0

/-- Put a report into a buffer of its own and send a question.  Gives the buffer, unless there was
none for the report or for the question. -/
def park (site : Site) (report : List UInt8) (use : Link.SlotUse) (question : Command) :
    Option Link.Buffer × Site :=
  match site.takeBuffer fun pool => pool.acquireWith report with
  | (none, site) => (none, site)
  | (some buffer, site) =>
    let retagged := site.pool.retag buffer use
    match { site with pool := retagged.2 }.send question with
    | (true, site) => (some retagged.1, site)
    | (false, site) => (none, site.release retagged.1)

/-- Write the fault of each bit of a detailed fault word. -/
def writeDetails (site : Site) (id : DeviceId) (table : UInt8) (faults : UInt16) : Site :=
  (List.range Device.faultBits).foldl
    (fun site bit =>
      site.writeFault id (faults.toNat.testBit bit) (Device.faultCode table bit) none) site

end Site

/-- The alarm report that a parked frame holds. -/
def parkedAlarm? (buffer : Link.Buffer) : Option AlarmReport :=
  match Radio.Report.decode buffer.content with
  | .ok (.alarm report) => some report
  | _ => none

/-- The pending records and the site they are at. -/
structure Correlator extends Incidents where
  site : Site
  deriving Repr

namespace Correlator

/-- Change the site alone. -/
def onSite (c : Correlator) (f : Site → Site) : Correlator := { c with site := f c.site }

/-- Write a fault event. -/
def writeFault (c : Correlator) (id : DeviceId) (active : Bool) (fault : FlagFault) : Correlator :=
  c.onSite fun site => site.writeFault id active fault.code none

/-! ## Faults -/

/-- Ask a question about a fault and let the report wait.  Gives whether that was possible. -/
def beginFault (c : Correlator) (id : DeviceId) (report : List UInt8) (awaiting : FollowUp)
    (question : Command) : Bool × Correlator :=
  if c.faults.has id then (false, c)
  else
    match c.site.park report .pendingFault question with
    | (none, site) => (false, { c with site := site })
    | (some buffer, site) =>
      let scheduled := site.schedule (.faultTimeout id) c.settings.transactionTimeout
      (true, { c with
        faults := c.faults.put id ⟨buffer, awaiting, scheduled.1⟩, site := scheduled.2 })

/-- Write that no fault of a device is active that its detailed fault word could tell of. -/
def clearDetails (c : Correlator) (id : DeviceId) (table : UInt8) : Correlator :=
  (c.onSite fun site => site.writeDetails id table 0).writeFault id false .general

/-- The flag of a general fault: ask for the details if the device has some. -/
def applyGeneral (c : Correlator) (table : UInt8) (report : FaultReport) (frame : List UInt8) :
    Correlator :=
  let set := FaultFlag.faulty.isSet report.flags
  if table = 0 then c.writeFault report.id set .general
  else if set then
    match c.beginFault report.id frame .faultDetails
        (.requestFaultDetails report.id report.model) with
    | (true, c) => c
    | (false, c) => c.writeFault report.id true .general
  else c.clearDetails report.id table

/-- The flag of a low battery: ask for the voltage if the device can be asked. -/
def applyBattery (c : Correlator) (readsVolts : Bool) (report : FaultReport) (frame : List UInt8) :
    Correlator :=
  let set := FaultFlag.detectorBattery.isSet report.flags
  if set && readsVolts then
    match c.beginFault report.id frame .volts (.readVolts report.id report.model) with
    | (true, c) => c
    | (false, c) => c.writeFault report.id true .detectorBattery
  else c.writeFault report.id set .detectorBattery

/-- One flag of a fault report. -/
def applyFlag (profile : Option Profile) (report : FaultReport) (frame : List UInt8)
    (c : Correlator) (flag : FaultFlag) : Correlator :=
  let fault := flag.isFault report.flags
  match flag with
  | .calibrated => c.writeFault report.id fault .calibration
  | .faulty => c.applyGeneral ((profile.map Profile.faultTable).getD 0) report frame
  | .onBase => c.writeFault report.id fault .offBase
  | .detectorBattery => c.applyBattery ((profile.map Profile.readsVolts).getD false) report frame
  | .mainsFailed => c.writeFault report.id fault .mains
  | .radioBattery => c.writeFault report.id fault .radioBattery
  | .unassigned6 | .unassigned7 => c

/-- A fault report, and the frame that it came in. -/
def receiveFault (c : Correlator) (report : FaultReport) (frame : List UInt8) : Correlator :=
  FaultFlag.all.foldl (applyFlag (c.site.profileOf report.id) report frame) c

/-- Take out the pending fault of a device and stop its timer. -/
def takeFault (c : Correlator) (id : DeviceId) (pending : PendingFault) : Correlator :=
  { c with faults := c.faults.erase id, site := c.site.cancel (some pending.timer) }

/-- Detailed faults arrived for a pending fault. -/
def receiveFaultDetails (c : Correlator) (id : DeviceId) (faults : UInt16) : Correlator :=
  match c.faults.get? id with
  | some pending =>
    if pending.awaiting = .faultDetails then
      let c := (c.takeFault id pending).onSite fun site => site.release pending.frame
      let table := c.site.faultTableOf id
      if table = 0 then c else c.onSite fun site => site.writeDetails id table faults
    else c
  | none => c

/-! ## Alarms -/

/-- Ask for the temperature and let the alarm wait.  Gives whether that was possible. -/
def beginAlarm (c : Correlator) (id : DeviceId) (report : List UInt8) : Bool × Correlator :=
  if c.alarms.has id then (false, c)
  else
    match c.site.park report .pendingAlarm (.readTemperature id (c.site.modelOf id)) with
    | (none, site) => (false, { c with site := site })
    | (some buffer, site) =>
      let scheduled := site.schedule (.alarmTimeout id) c.settings.transactionTimeout
      (true, { c with alarms := c.alarms.put id ⟨buffer, scheduled.1⟩, site := scheduled.2 })

/-- An alarm report, and the frame that it came in. -/
def receiveAlarm (c : Correlator) (report : AlarmReport) (frame : List UInt8) : Correlator :=
  let wanted := ((c.site.profileOf report.id).map Profile.readsTemperature).getD false
  let begun := if wanted then c.beginAlarm report.id frame else (false, c)
  if begun.1 then begun.2
  else
    begun.2.onSite fun site =>
      site.writeAlarm report.id (Device.alarmState report.status) none

/-- Write the alarm that waited, with the temperature if it was read, and release its buffer. -/
def resolveAlarm (c : Correlator) (id : DeviceId) (pending : PendingAlarm)
    (temperature : Option UInt16) : Correlator :=
  let site := match parkedAlarm? pending.frame with
    | some report => c.site.writeAlarm id (Device.alarmState report.status) temperature
    | none => c.site
  { c with alarms := c.alarms.erase id, site := site.release pending.frame }

/-- An alarm ended. -/
def receiveAlarmStop (c : Correlator) (id : DeviceId) : Correlator :=
  c.onSite fun site => site.writeAlarm id Device.alarmInactive none

/-- A hush button was pressed: every alarm that sounds is silenced. -/
def receiveHush (c : Correlator) : Correlator :=
  c.onSite fun site => site.devices.foldl Site.silence site

/-- A locate button was pressed: the alarm of that device is silenced. -/
def receiveLocate (c : Correlator) (id : DeviceId) : Correlator :=
  c.onSite fun site => site.silence id

/-! ## Slot values -/

/-- A temperature arrived for a pending alarm, if there is one. -/
def receiveTemperature (c : Correlator) (id : DeviceId) (value : UInt16) : Correlator :=
  match c.alarms.get? id with
  | some pending =>
    (c.onSite fun site => site.cancel (some pending.timer)).resolveAlarm id pending (some value)
  | none => c

/-- A value arrived: the voltage of a pending fault, or else the temperature of a pending alarm. -/
def receiveSlotValue (c : Correlator) (id : DeviceId) (value : UInt16) : Correlator :=
  match c.faults.get? id with
  | some pending =>
    if pending.awaiting = .volts then
      (c.takeFault id pending).onSite fun site =>
        (site.writeFault id true FlagFault.detectorBattery.code (some value)).release pending.frame
    else c.receiveTemperature id value
  | none => c.receiveTemperature id value

/-! ## Diagnostics -/

/-- The detector interface of a device's radio module failed. -/
def receiveDetectorFault (c : Correlator) (id : DeviceId) : Correlator :=
  c.onSite fun site => site.after ((site.platform.increment id .detectorFaults).map Prod.snd)

/-- A remote radio module told its status. -/
def receiveRemoteStatus (c : Correlator) (status : RadioStatus) : Correlator :=
  c.onSite fun site =>
    ((site.report status.id .radioFaults (.ofNat status.radioFaults.toNat)).report
      status.id .rssi (.ofNat status.rssi.toNat)).report
      status.id .firmware (.text (toString status.firmware.toNat))

/-! ## Timeouts -/

/-- The answer to the question about a fault did not come. -/
def faultTimedOut (c : Correlator) (id : DeviceId) : Correlator :=
  match c.faults.get? id with
  | some pending =>
    { c with faults := c.faults.erase id }.onSite fun site =>
      ((site.count (.pendingTimeout .fault)).writeFault id true pending.awaiting.fault.code
        none).release pending.frame
  | none => c

/-- The temperature of an alarm did not come. -/
def alarmTimedOut (c : Correlator) (id : DeviceId) : Correlator :=
  match c.alarms.get? id with
  | some pending =>
    (c.onSite fun site => site.count (.pendingTimeout .alarm)).resolveAlarm id pending none
  | none => c

/-- A timer fired.  Timers that are none of a pending record mean nothing here. -/
def onTimeout (c : Correlator) (kind : TimerKind) : Correlator :=
  match kind with
  | .faultTimeout id => c.faultTimedOut id
  | .alarmTimeout id => c.alarmTimedOut id
  | _ => c

end Correlator

end AlarmMesh.Gateway
