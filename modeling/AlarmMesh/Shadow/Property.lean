import AlarmMesh.Text.Blank
import AlarmMesh.Text.Number

/-!
# Properties of a device

The properties that the gateway uses, each with the name the platform knows it by.  Names that
the gateway does not use are kept as they are, so every name is the name of one property
(`name_ofName`), and a property that the gateway uses is found by its name.
-/

namespace AlarmMesh.Shadow

/-- What is kept for each fault code. -/
inductive FaultField where
  /-- Whether the fault is active. -/
  | state
  /-- How often it became active after the first time. -/
  | seq
  /-- When it last changed. -/
  | time
  /-- Battery voltage in hundredths of a volt. -/
  | volts
  deriving DecidableEq, Repr

/-- What follows the fault code in a name. -/
def FaultField.suffix : FaultField → String
  | state => "state"
  | seq => "seq"
  | time => "time"
  | volts => "battv"

/-- The name of what is kept for a fault code: the code has at least two digits. -/
def faultName (code : UInt8) (suffix : String) : String :=
  "flt" ++ Text.paddedTwo code.toNat ++ "_" ++ suffix

/-- A property of a device. -/
inductive Property where
  /-- Device type. -/
  | deviceType
  | manufacturer
  /-- Model as text. -/
  | model
  /-- Whether the device is in the network, a `Presence`. -/
  | presence
  /-- Firmware revision of the radio module, as text. -/
  | firmware
  /-- What the gateway is doing, a `Mode`. -/
  | mode
  /-- The gateway is joined to a network. -/
  | inNetwork
  /-- Occupied slots without a known device. -/
  | unknownSids
  /-- When the test button was last pressed. -/
  | tested
  /-- Slot in the network. -/
  | sid
  /-- Model as a number. -/
  | modelValue
  /-- Temperature at the last alarm, in hundredths of a degree. -/
  | alarmTemperature
  | alarmState
  | batteryVoltage
  /-- How many alarm events followed the first one. -/
  | alarmSeq
  | temperature
  | radioFaults
  /-- Strength of the last signal received. -/
  | rssi
  /-- How often the detector interface failed. -/
  | detectorFaults
  /-- Sequence number of the last report. -/
  | lastSequence
  /-- The sounder is muted. -/
  | mute
  | alarmTime
  /-- The device was left out of an acknowledged SID map. -/
  | missing
  /-- The gateway asks unknown slots who they are. -/
  | interrogating
  | faultSummary
  /-- Command: run a missing-node test. -/
  | testModeCommand
  /-- Whether that test removes missing devices. -/
  | testModeFlush
  /-- How the last missing-node test ended. -/
  | testModeResult
  /-- Command: enter or leave learn mode. -/
  | learnCommand
  /-- How many seconds learn mode lasts. -/
  | learnTimeout
  /-- Command: leave the network. -/
  | leaveCommand
  /-- Command: remove every device. -/
  | deleteAllCommand
  /-- Command: sound a test. -/
  | sounderTestCommand
  /-- Command: silence every alarm. -/
  | silenceAllCommand
  /-- Command: find the device whose alarm came first. -/
  | locateCommand
  /-- Command to a device: show itself. -/
  | identifyCommand
  /-- Command to a device: be removed. -/
  | flushCommand
  /-- What is kept for a fault code. -/
  | fault (code : UInt8) (field : FaultField)
  /-- A name that the gateway does not use. -/
  | other (name : String)
  deriving DecidableEq, Repr

namespace Property

/-- The properties with a fixed name. -/
def fixed : List Property :=
  [deviceType, manufacturer, model, presence, firmware, mode, inNetwork, unknownSids, tested, sid,
    modelValue, alarmTemperature, alarmState, batteryVoltage, alarmSeq, temperature, radioFaults,
    rssi, detectorFaults, lastSequence, mute, alarmTime, missing, interrogating, faultSummary,
    testModeCommand, testModeFlush, testModeResult, learnCommand, learnTimeout, leaveCommand,
    deleteAllCommand, sounderTestCommand, silenceAllCommand, locateCommand, identifyCommand,
    flushCommand]

/-- The name that the platform knows the property by. -/
def name : Property → String
  | deviceType => "type"
  | manufacturer => "mfr"
  | model => "model"
  | presence => "onln"
  | firmware => "wsid"
  | mode => "state"
  | inNetwork => "netwk"
  | unknownSids => "unkn"
  | tested => "testb"
  | sid => "sid"
  | modelValue => "mdVal"
  | alarmTemperature => "alarm_tempv"
  | alarmState => "alarm_state"
  | batteryVoltage => "battv"
  | alarmSeq => "alarm_seq"
  | temperature => "tempv"
  | radioFaults => "rdFlt"
  | rssi => "rssi"
  | detectorFaults => "rmsdf"
  | lastSequence => "ltseq"
  | mute => "mute"
  | alarmTime => "alarm_time"
  | missing => "dvmis"
  | interrogating => "dvint"
  | faultSummary => "flt"
  | testModeCommand => "tstmd_trgrd"
  | testModeFlush => "tstmd_flush"
  | testModeResult => "tstmd_reslt"
  | learnCommand => "learn_trgrd"
  | learnTimeout => "learn_tmout"
  | leaveCommand => "flush_trgrd"
  | deleteAllCommand => "rmall_trgrd"
  | sounderTestCommand => "sntst_trgrd"
  | silenceAllCommand => "slall_trgrd"
  | locateCommand => "lcdev_trgrd"
  | identifyCommand => "iddev_trgrd"
  | flushCommand => "c_fld"
  | fault code field => faultName code field.suffix
  | other name => name

/-- The field that a suffix stands for. -/
def fieldOf? (suffix : List Char) : Option FaultField :=
  [.state, .seq, .time, .volts].find? fun field => field.suffix.toList = suffix

/-- What a name of the form of a fault property may stand for. -/
def faultOf? (name : String) : Option Property :=
  match name.toList with
  | 'f' :: 'l' :: 't' :: rest =>
    let digits := rest.takeWhile Text.isDigit
    (fieldOf? (rest.drop (digits.length + 1))).map fun field =>
      fault (UInt8.ofNat (Text.digitsValue digits)) field
  | _ => none

/-- The property with a name. -/
def ofName (name : String) : Property :=
  match fixed.find? fun property => property.name = name with
  | some property => property
  | none =>
    match faultOf? name with
    | some property => if property.name = name then property else other name
    | none => other name

/-- Every name is the name of the property it stands for. -/
theorem name_ofName (name : String) : (ofName name).name = name := by
  unfold ofName
  split
  · next h => simpa using List.find?_some h
  · split
    · split
      · assumption
      · rfl
    · rfl

end Property

end AlarmMesh.Shadow
