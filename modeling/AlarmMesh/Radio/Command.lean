import AlarmMesh.Radio.Code
import AlarmMesh.Radio.DeviceId
import AlarmMesh.Radio.FrameError
import AlarmMesh.Radio.SidMap

/-!
# Commands to the radio module

* `Command.bytes` — a command as it is sent;
* `Command.encodedLength` — the declared length, equal to that of the bytes (`length_bytes`);
* `Command.writeInto` — a command over the front of the space given for it.
-/

namespace AlarmMesh.Radio

/-- The model the gateway presents to the network. -/
def gatewayModel : UInt16 := 0x0506

/-- The priority byte the gateway presents to the network. -/
def gatewayPriority : UInt8 := 0xc9

/-- The SID that stands for one not yet learnt. -/
def unlearntSid : UInt8 := 64

/-- What the gateway sends to the radio module. -/
inductive Command where
  /-- Ask for the current SID map. -/
  | requestSidMap
  /-- Replace the SID map of the network. -/
  | updateSidMap (map : SidMap)
  /-- Press the learn button of the radio module. -/
  | learnIn
  /-- Say who the gateway is. -/
  | alarmIdent (id : DeviceId) (model : UInt16) (priority flags fwMinor fwMajor : UInt8)
  /-- Start a test on the network in the name of a device. -/
  | deviceTest (id : DeviceId) (model : UInt16) (priority : UInt8)
  /-- Read the battery voltage of a device. -/
  | readVolts (id : DeviceId) (model : UInt16)
  /-- Read the raw temperature of a device. -/
  | readTemperature (id : DeviceId) (model : UInt16)
  /-- Ask a device for its detailed fault word. -/
  | requestFaultDetails (id : DeviceId) (model : UInt16)
  /-- Enable or mute the sounder of a device. -/
  | sounderEnable (id : DeviceId) (enabled : Bool)
  /-- Ask the radio module at a SID for its status. -/
  | requestRemoteStatus (sid : UInt8)
  /-- Ask the device at a SID who it is. -/
  | requestRemoteId (sid : UInt8)
  /-- Make the device at a SID show itself. -/
  | rumourTarget (sid : UInt8)
  /-- Ask the local radio module about itself. -/
  | radioDiagnosticRequest
  /-- Silence every sounding alarm. -/
  | hush
  /-- Find the device whose alarm came first. -/
  | locate
  deriving DecidableEq, Repr

namespace Command

/-- The command byte. -/
def code : Command → Code
  | requestSidMap | updateSidMap _ | learnIn | requestRemoteStatus _ | requestRemoteId _
  | rumourTarget _ => .diagnosticRequest
  | alarmIdent .. => .alarmIdent
  | deviceTest .. => .deviceTested
  | readVolts .. | readTemperature .. => .slotRequest
  | requestFaultDetails .. => .faultDetailsRequest
  | sounderEnable .. => .notifyDevice
  | radioDiagnosticRequest => .radioRequest
  | hush => .hush
  | locate => .locate

/-- The number of bytes of the encoded command. -/
def encodedLength : Command → Nat
  | requestSidMap => 2
  | updateSidMap _ => 10
  | learnIn => 3
  | alarmIdent .. => 10
  | deviceTest .. => 8
  | readVolts .. | readTemperature .. => 7
  | requestFaultDetails .. => 7
  | sounderEnable .. => 9
  | requestRemoteStatus _ | requestRemoteId _ => 4
  | rumourTarget _ => 3
  | radioDiagnosticRequest => 1
  | hush => 5
  | locate => 6

/-- The two bytes of a model, least significant first. -/
def modelBytes (model : UInt16) : List UInt8 := littleEndian 2 model.toNat

/-- What follows the command byte. -/
def fields : Command → List UInt8
  | requestSidMap => [0x03]
  | updateSidMap map => 0x04 :: map.bytes
  | learnIn => [0x12, 0x01]
  | alarmIdent id model priority flags fwMinor fwMajor =>
    id.bytes ++ modelBytes model ++ [priority, flags, fwMinor, fwMajor]
  | deviceTest id model priority => id.bytes ++ [priority, 0x01] ++ modelBytes model
  | readVolts id model | readTemperature id model => id.bytes ++ modelBytes model ++ [0x06]
  | requestFaultDetails id model => id.bytes ++ modelBytes model ++ [0]
  | sounderEnable id enabled => id.bytes ++ [if enabled then 0x01 else 0x02, 0, 0, 0, 0]
  | requestRemoteStatus sid => [0x06, sid, 0x00]
  | requestRemoteId sid => [0x06, sid, 0x01]
  | rumourTarget sid => [0x1a, sid]
  | radioDiagnosticRequest => []
  | hush => [0, 0, 0, gatewayPriority]
  | locate => [0, 0, 0, gatewayPriority, 0]

/-- The encoded command. -/
def bytes (command : Command) : List UInt8 := command.code.byte :: command.fields

/-- The declared length is the length of the bytes. -/
@[simp]
theorem length_bytes (command : Command) : command.bytes.length = command.encodedLength := by
  cases command <;> simp [bytes, fields, encodedLength, modelBytes, SidMap.bytes]

/-- The command over the front of `space`, whose other bytes stay as they are. -/
def writeInto (command : Command) (space : List UInt8) : Except FrameError (List UInt8) :=
  if space.length < command.encodedLength then
    .error (.noRoom command.encodedLength space.length)
  else
    .ok (command.bytes ++ space.drop command.encodedLength)

/-- Who the gateway is: calibrated, firmware 9.10. -/
def gatewayIdent : Command := alarmIdent .gateway gatewayModel gatewayPriority 0x01 10 9

end Command

end AlarmMesh.Radio
