import AlarmMesh.Device.Alarm
import AlarmMesh.Device.Profile
import AlarmMesh.Gateway.Site

/-!
# Events

A change of a fault or of an alarm as it is written to the shadow: the state, a sequence number
and the time, and what was measured.

* `Site.writeFault` — nothing is written of a fault that was not active and is not; the sequence
  counts how often the fault became active after the first time;
* `Site.writeAlarm` — the sequence counts the events that are alarms after the first one.
-/

namespace AlarmMesh.Gateway

open Radio (DeviceId)
open Shadow (Property Value)

/-- The fault codes of the flags of a fault report. -/
inductive FlagFault where
  | calibration
  /-- A fault without details. -/
  | general
  /-- The device was taken from its base. -/
  | offBase
  | detectorBattery
  | mains
  | radioBattery
  deriving DecidableEq, Repr

/-- The code of a fault. -/
def FlagFault.code : FlagFault → UInt8
  | calibration => 90
  | general => 91
  | offBase => 92
  | detectorBattery => 93
  | mains => 94
  | radioBattery => 95

namespace Site

/-! ## Faults -/

/-- The codes that stand for a fault. -/
def isFaultCode (code : UInt8) : Bool := 1 ≤ code && code ≤ 99

/-- The fault is reported active. -/
def faultActive (site : Site) (id : DeviceId) (code : UInt8) : Bool :=
  ((site.reported id (.fault code .state)).bind Value.asBool).getD false

/-- The sequence number of the next event of a fault. -/
def nextFaultSeq (site : Site) (id : DeviceId) (code : UInt8) (begins : Bool) : Int :=
  match (site.reported id (.fault code .seq)).bind Value.asInt with
  | some seq => if begins then seq + 1 else seq
  | none => 0

/-- Write a fault event. -/
def writeFault (site : Site) (id : DeviceId) (active : Bool) (code : UInt8)
    (millivolts : Option UInt16) : Site :=
  if !isFaultCode code then site
  else if !site.faultActive id code && !active then site
  else
    let seq := site.nextFaultSeq id code (!site.faultActive id code)
    let site := match millivolts with
      | some millivolts =>
        site.report id (.fault code .volts) (.ofNat (Device.centivolts millivolts))
      | none => site
    (site.reportGroup id
      [(.fault code .state, .bool active),
        (.fault code .seq, .integer seq),
        (.fault code .time, .integer site.clock.unix)]).count .faultEvent

/-! ## Alarms -/

/-- The alarm state that a device reports. -/
def alarmStateOf (site : Site) (id : DeviceId) : Option Nat :=
  (site.reported id .alarmState).bind Value.asWord

/-- The sequence number of the next alarm event. -/
def nextAlarmSeq (site : Site) (id : DeviceId) (state : Nat) : Int :=
  match (site.reported id .alarmSeq).bind Value.asInt with
  | some seq => if state ≠ Device.alarmInactive then seq + 1 else seq
  | none => 0

/-- Write an alarm event. -/
def writeAlarm (site : Site) (id : DeviceId) (state : Nat) (temperature : Option UInt16) : Site :=
  let seq := site.nextAlarmSeq id state
  let site := match temperature with
    | some raw => site.report id .alarmTemperature (.integer (Device.temperature raw))
    | none => site
  (site.reportGroup id
    [(.alarmState, .ofNat state),
      (.alarmSeq, .integer seq),
      (.alarmTime, .integer site.clock.unix)]).count .alarmEvent

/-- Write that a sounding alarm was silenced. -/
def silence (site : Site) (id : DeviceId) : Site :=
  if site.alarmStateOf id = some Device.alarmActive then
    site.writeAlarm id Device.alarmSilenced none
  else site

end Site

end AlarmMesh.Gateway
