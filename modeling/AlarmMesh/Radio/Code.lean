/-!
# Command bytes

The first byte of a frame says what it carries.  `Code` lists the bytes that are assigned,
`Code.byte` and `Code.ofByte?` go between the two, and `Code.nameOf` is the short name used as
a label.  `Topic` lists the extended-diagnostic answers in the same way; they share one command
byte and are told apart by the second byte of the frame.
-/

namespace AlarmMesh.Radio

/-- The assigned command bytes. -/
inductive Code where
  /-- The radio module asks who the gateway is. -/
  | status
  /-- Positive acknowledgement. -/
  | ack
  /-- Negative acknowledgement. -/
  | nack
  /-- A device raised an alarm. -/
  | alarm
  /-- A device ended its alarm. -/
  | alarmStop
  /-- Silence every alarm. -/
  | hush
  /-- Find the device whose alarm came first. -/
  | locate
  /-- A test button was pressed, or a test is asked for. -/
  | deviceTested
  /-- Fault flags of a device. -/
  | fault
  /-- Detailed fault word of a device. -/
  | faultDetails
  /-- Ask for the detailed fault word. -/
  | faultDetailsRequest
  /-- Who the gateway is. -/
  | alarmIdent
  /-- Enable or mute a sounder. -/
  | notifyDevice
  /-- Read a data slot of a device. -/
  | slotRequest
  /-- Value of a data slot. -/
  | slotResult
  /-- Ask a device who it is. -/
  | identityRequest
  /-- Who a device is. -/
  | identityResult
  /-- Ask the radio module about itself. -/
  | radioRequest
  /-- The radio module about itself. -/
  | radioResult
  /-- Extended-diagnostic request. -/
  | diagnosticRequest
  /-- Extended-diagnostic answer. -/
  | diagnosticResult
  /-- The detector interface of a radio module failed. -/
  | detectorFault
  deriving DecidableEq, Repr

namespace Code

/-- Every assigned command byte. -/
def all : List Code :=
  [status, ack, nack, alarm, alarmStop, hush, locate, deviceTested, fault, faultDetails,
    faultDetailsRequest, alarmIdent, notifyDevice, slotRequest, slotResult, identityRequest,
    identityResult, radioRequest, radioResult, diagnosticRequest, diagnosticResult, detectorFault]

/-- The byte on the air. -/
def byte : Code → UInt8
  | status => 0x41
  | ack => 0x46
  | nack => 0x47
  | alarm => 0x50
  | alarmStop => 0x51
  | hush => 0x52
  | locate => 0x53
  | deviceTested => 0x70
  | fault => 0x71
  | faultDetails => 0x72
  | faultDetailsRequest => 0x73
  | alarmIdent => 0x91
  | notifyDevice => 0x92
  | slotRequest => 0xc1
  | slotResult => 0xc2
  | identityRequest => 0xc3
  | identityResult => 0xc4
  | radioRequest => 0xd1
  | radioResult => 0xd2
  | diagnosticRequest => 0xd3
  | diagnosticResult => 0xd4
  | detectorFault => 0xd5

/-- The code of an assigned byte. -/
def ofByte? (b : UInt8) : Option Code := all.find? fun code => code.byte = b

/-- Short name of a code. -/
def name : Code → String
  | status => "status"
  | ack => "ack"
  | nack => "nack"
  | alarm => "alarm"
  | alarmStop => "alarm_stop"
  | hush => "hush"
  | locate => "locate"
  | deviceTested => "device_tested"
  | fault => "fault"
  | faultDetails => "fault_details"
  | faultDetailsRequest => "req_fault_details"
  | alarmIdent => "alarm_ident"
  | notifyDevice => "notify_dev_id"
  | slotRequest => "dataslot_req"
  | slotResult => "dataslot_result"
  | identityRequest => "id_req"
  | identityResult => "id_result"
  | radioRequest => "rm_diag_req"
  | radioResult => "rm_diag_result"
  | diagnosticRequest => "extdiag_req"
  | diagnosticResult => "extdiag_resp"
  | detectorFault => "rm_sd_fault"

/-- Short name of a command byte; an unassigned byte is unknown. -/
def nameOf (b : UInt8) : String := ((ofByte? b).map name).getD "unknown"

theorem ofByte?_byte (code : Code) : ofByte? code.byte = some code := by
  cases code <;> rfl

theorem byte_of_ofByte? {b : UInt8} {code : Code} (h : ofByte? b = some code) : code.byte = b := by
  simpa using List.find?_some h

end Code

/-- The assigned second bytes of extended-diagnostic answers. -/
inductive Topic where
  /-- Slots that did not answer a probe. -/
  | missingNodes
  /-- Current slot map. -/
  | sidMap
  /-- Acknowledged slot map. -/
  | sidMapUpdate
  /-- Status of a remote radio module. -/
  | remoteStatus
  /-- Identity of a remote radio module. -/
  | remoteId
  /-- Acknowledged rumour target. -/
  | rumourTarget
  deriving DecidableEq, Repr

namespace Topic

/-- Every assigned topic. -/
def all : List Topic := [missingNodes, sidMap, sidMapUpdate, remoteStatus, remoteId, rumourTarget]

/-- The byte on the air. -/
def byte : Topic → UInt8
  | missingNodes => 0x01
  | sidMap => 0x03
  | sidMapUpdate => 0x04
  | remoteStatus => 0x06
  | remoteId => 0x09
  | rumourTarget => 0x1a

/-- The topic of an assigned byte. -/
def ofByte? (b : UInt8) : Option Topic := all.find? fun topic => topic.byte = b

theorem ofByte?_byte (topic : Topic) : ofByte? topic.byte = some topic := by
  cases topic <;> rfl

theorem byte_of_ofByte? {b : UInt8} {topic : Topic} (h : ofByte? b = some topic) :
    topic.byte = b := by
  simpa using List.find?_some h

end Topic

end AlarmMesh.Radio
