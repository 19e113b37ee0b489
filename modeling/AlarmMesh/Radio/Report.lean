import AlarmMesh.Radio.DeviceId
import AlarmMesh.Radio.SidMap

/-!
# Reports from the radio module

The types of what the radio module sends, and `Report.sequence`: the device and sequence number
of a report that carries one.
-/

namespace AlarmMesh.Radio

/-- A device says who it is: its test button was pressed, or it was asked. -/
structure Identity where
  id : DeviceId
  /-- Used as device type when the model is not known. -/
  priority : UInt8
  status : UInt8
  model : UInt16
  sid : UInt8
  seq : UInt8
  deriving DecidableEq, Repr

/-- Fault flags of a device. -/
structure FaultReport where
  id : DeviceId
  model : UInt16
  flags : UInt8
  sid : UInt8
  seq : UInt8
  deriving DecidableEq, Repr

/-- An alarm of a device. -/
structure AlarmReport where
  id : DeviceId
  priority : UInt8
  status : UInt8
  sid : UInt8
  seq : UInt8
  deriving DecidableEq, Repr

/-- The value of a data slot: millivolts or a raw temperature. -/
structure SlotReport where
  id : DeviceId
  slot : UInt8
  value : UInt16
  sid : UInt8
  seq : UInt8
  deriving DecidableEq, Repr

/-- A detailed fault word, one bit for each fault. -/
structure DetailReport where
  id : DeviceId
  model : UInt16
  faults : UInt16
  sid : UInt8
  seq : UInt8
  deriving DecidableEq, Repr

/-- An alarm ended, or a hush button was pressed. -/
structure ButtonReport where
  id : DeviceId
  priority : UInt8
  sid : UInt8
  seq : UInt8
  deriving DecidableEq, Repr

/-- A locate button was pressed. -/
structure LocateReport where
  id : DeviceId
  priority : UInt8
  /-- Whether the reporting device raised the alarm. -/
  originating : UInt8
  sid : UInt8
  seq : UInt8
  deriving DecidableEq, Repr

/-- Health of a radio module, the local one or a remote one. -/
structure RadioStatus where
  sid : UInt8
  voltsNoLoad : UInt8
  voltsLoad : UInt8
  voltsSecondary : UInt8
  /-- Strength of the last signal received. -/
  rssi : UInt8
  firmware : UInt8
  /-- The device that the radio module belongs to. -/
  id : DeviceId
  critical : UInt8
  radioFaults : UInt8
  deriving DecidableEq, Repr

/-- The detector interface of a radio module failed. -/
structure DetectorFault where
  id : DeviceId
  model : UInt16
  sid : UInt8
  deriving DecidableEq, Repr

/-- What the radio module sends to the gateway. -/
inductive Report where
  /-- Acknowledgement. -/
  | ack
  /-- Negative acknowledgement. -/
  | nack
  /-- The radio module asks who the gateway is. -/
  | statusRequest
  /-- Current SID map. -/
  | sidMap (map : SidMap)
  /-- Slots that did not answer a probe. -/
  | missingNodes (map : SidMap)
  /-- Acknowledged SID map. -/
  | sidMapUpdate (map : SidMap)
  /-- Status of a remote radio module. -/
  | remoteStatus (status : RadioStatus)
  /-- Identity of a remote radio module; its content is of no interest. -/
  | remoteIdNotice
  /-- Acknowledged rumour target. -/
  | rumourTarget (sid : UInt8) (reasons : UInt16)
  /-- A test button was pressed. -/
  | deviceTested (identity : Identity)
  /-- Answer to a remote-id request. -/
  | remoteId (identity : Identity)
  /-- Fault flags. -/
  | fault (report : FaultReport)
  /-- An alarm. -/
  | alarm (report : AlarmReport)
  /-- Value of a data slot. -/
  | slotValue (report : SlotReport)
  /-- Detailed fault word. -/
  | faultDetails (report : DetailReport)
  /-- An alarm ended. -/
  | alarmStop (report : ButtonReport)
  /-- An alarm was silenced. -/
  | hush (report : ButtonReport)
  /-- A locate. -/
  | locate (report : LocateReport)
  /-- The local radio module about itself. -/
  | radioDiagnostic (status : RadioStatus)
  /-- A detector interface failed. -/
  | detectorFault (report : DetectorFault)
  deriving DecidableEq, Repr

namespace Report

/-- The device and sequence number of a report that is checked for repetition. -/
def sequence : Report → Option (DeviceId × UInt8)
  | deviceTested report => some (report.id, report.seq)
  | fault report => some (report.id, report.seq)
  | alarm report => some (report.id, report.seq)
  | slotValue report => some (report.id, report.seq)
  | faultDetails report => some (report.id, report.seq)
  | alarmStop report => some (report.id, report.seq)
  | hush report => some (report.id, report.seq)
  | locate report => some (report.id, report.seq)
  | _ => none

end Report

end AlarmMesh.Radio
