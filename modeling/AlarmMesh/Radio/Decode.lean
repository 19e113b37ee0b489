import AlarmMesh.Radio.Code
import AlarmMesh.Radio.FrameError
import AlarmMesh.Radio.Report

/-!
# Reading a frame

Every layout has one length, and its fields are read only from a frame of exactly that length:
a shorter or a padded frame is refused whole.  The acknowledgements, the status request and the
remote identity notice carry nothing of interest and have any length.
-/

namespace AlarmMesh.Radio

namespace Report

/-- The report of a frame, its command byte assigned and in `code`, with the bytes after it. -/
def ofBody (code : Code) (body : List UInt8) : Except FrameError Report :=
  let refused (expected : Nat) : Except FrameError Report :=
    .error (.length code.byte expected (body.length + 1))
  match code with
  | .ack => .ok ack
  | .nack => .ok nack
  | .status => .ok statusRequest
  | .diagnosticResult =>
    match body with
    | [] => refused 2
    | topic :: rest =>
      match Topic.ofByte? topic with
      | none => .error (.unknownTopic topic)
      | some .sidMap =>
        match SidMap.ofBytes? rest with
        | some map => .ok (sidMap map)
        | none => refused 10
      | some .sidMapUpdate =>
        match SidMap.ofBytes? rest with
        | some map => .ok (sidMapUpdate map)
        | none => refused 10
      | some .missingNodes =>
        match SidMap.ofBytes? (rest.drop 1) with
        | some map => .ok (missingNodes map)
        | none => refused 11
      | some .remoteStatus =>
        match rest with
        | [sid, noLoad, load, secondary, rssi, firmware, a, b, c, critical, faults] =>
          .ok (remoteStatus ⟨sid, noLoad, load, secondary, rssi, firmware, .ofBytes a b c,
            critical, faults⟩)
        | _ => refused 13
      | some .remoteId => .ok remoteIdNotice
      | some .rumourTarget =>
        match rest with
        | [sid, high, low] => .ok (rumourTarget sid (word16 low high))
        | _ => refused 5
  | .deviceTested =>
    match body with
    | [a, b, c, priority, status, low, high, sid, seq] =>
      .ok (deviceTested ⟨.ofBytes a b c, priority, status, word16 low high, sid, seq⟩)
    | _ => refused 10
  | .identityResult =>
    match body with
    | [a, b, c, priority, low, high, sid, seq] =>
      .ok (remoteId ⟨.ofBytes a b c, priority, 0, word16 low high, sid, seq⟩)
    | _ => refused 9
  | .fault =>
    match body with
    | [a, b, c, low, high, flags, sid, seq] =>
      .ok (fault ⟨.ofBytes a b c, word16 low high, flags, sid, seq⟩)
    | _ => refused 9
  | .alarm =>
    match body with
    | [a, b, c, priority, status, sid, seq] =>
      .ok (alarm ⟨.ofBytes a b c, priority, status, sid, seq⟩)
    | _ => refused 8
  | .slotResult =>
    match body with
    | [a, b, c, slot, low, high, _, _, sid, seq] =>
      .ok (slotValue ⟨.ofBytes a b c, slot, word16 low high, sid, seq⟩)
    | _ => refused 11
  | .faultDetails =>
    match body with
    | [a, b, c, low, high, faultsLow, faultsHigh, sid, seq] =>
      .ok (faultDetails
        ⟨.ofBytes a b c, word16 low high, word16 faultsLow faultsHigh, sid, seq⟩)
    | _ => refused 10
  | .alarmStop =>
    match body with
    | [a, b, c, priority, sid, seq] => .ok (alarmStop ⟨.ofBytes a b c, priority, sid, seq⟩)
    | _ => refused 7
  | .hush =>
    match body with
    | [a, b, c, priority, sid, seq] => .ok (hush ⟨.ofBytes a b c, priority, sid, seq⟩)
    | _ => refused 7
  | .locate =>
    match body with
    | [a, b, c, priority, originating, sid, seq] =>
      .ok (locate ⟨.ofBytes a b c, priority, originating, sid, seq⟩)
    | _ => refused 8
  | .radioResult =>
    match body with
    | [noLoad, load, secondary, rssi, firmware, a, b, c, critical, faults, sid, _] =>
      .ok (radioDiagnostic ⟨sid, noLoad, load, secondary, rssi, firmware, .ofBytes a b c,
        critical, faults⟩)
    | _ => refused 13
  | .detectorFault =>
    match body with
    | [a, b, c, low, high, sid] => .ok (detectorFault ⟨.ofBytes a b c, word16 low high, sid⟩)
    | _ => refused 7
  | _ => .error (.unknownCommand code.byte)

/-- The report that an unescaped frame carries. -/
def decode (frame : List UInt8) : Except FrameError Report :=
  match frame with
  | [] => .error .empty
  | first :: body =>
    match Code.ofByte? first with
    | some code => ofBody code body
    | none => .error (.unknownCommand first)

end Report

end AlarmMesh.Radio
