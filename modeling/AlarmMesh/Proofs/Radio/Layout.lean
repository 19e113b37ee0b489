import AlarmMesh.Radio.Decode
import AlarmMesh.Proofs.Radio.Fields

/-!
# Layouts

Sixteen formats have one length each.  Such a format is told by the first one or two bytes of a
frame; behind them stand its fields, whose values make the report.  The length of each format is
declared for itself, and it is that of the first bytes and the fields together.

* `Layout.start`, `Layout.length`, `Layout.fields` — first bytes, length and fields;
* `Layout.report`, `Report.content?` — from values to the report and back;
* `Layout.places`, `Layout.gaps` — a frame byte by byte, and where it carries nothing;
* `decode_of_length`, `decode_of_length_ne` — a frame is read field by field if it has the length of
  its layout, and refused if it has another one.
-/

namespace AlarmMesh.Radio

/-- The formats of one length. -/
inductive Layout where
  | sidMap
  | sidMapUpdate
  | missingNodes
  | remoteStatus
  | rumourTarget
  | deviceTested
  | remoteId
  | fault
  | alarm
  | slotValue
  | faultDetails
  | alarmStop
  | hush
  | locate
  | radioDiagnostic
  | detectorFault
  deriving DecidableEq, Repr

namespace Layout

/-- The bytes at the front of a frame, which tell its format. -/
def start : Layout → List UInt8
  | sidMap => [0xd4, 0x03]
  | sidMapUpdate => [0xd4, 0x04]
  | missingNodes => [0xd4, 0x01]
  | remoteStatus => [0xd4, 0x06]
  | rumourTarget => [0xd4, 0x1a]
  | deviceTested => [0x70]
  | remoteId => [0xc4]
  | fault => [0x71]
  | alarm => [0x50]
  | slotValue => [0xc2]
  | faultDetails => [0x72]
  | alarmStop => [0x51]
  | hush => [0x52]
  | locate => [0x53]
  | radioDiagnostic => [0xd2]
  | detectorFault => [0xd5]

/-- The command byte of a frame. -/
def code : Layout → Code
  | sidMap | sidMapUpdate | missingNodes | remoteStatus | rumourTarget => .diagnosticResult
  | deviceTested => .deviceTested
  | remoteId => .identityResult
  | fault => .fault
  | alarm => .alarm
  | slotValue => .slotResult
  | faultDetails => .faultDetails
  | alarmStop => .alarmStop
  | hush => .hush
  | locate => .locate
  | radioDiagnostic => .radioResult
  | detectorFault => .detectorFault

/-- How many bytes a frame has. -/
def length : Layout → Nat
  | sidMap => 10
  | sidMapUpdate => 10
  | missingNodes => 11
  | remoteStatus => 13
  | rumourTarget => 5
  | deviceTested => 10
  | remoteId => 9
  | fault => 9
  | alarm => 8
  | slotValue => 11
  | faultDetails => 10
  | alarmStop => 7
  | hush => 7
  | locate => 8
  | radioDiagnostic => 13
  | detectorFault => 7

/-- The fields behind the first bytes, in the order in which they stand. -/
@[reducible]
def fields : Layout → List Field
  | sidMap => [.map]
  | sidMapUpdate => [.map]
  | missingNodes => [.gap, .map]
  | remoteStatus => [.byte, .byte, .byte, .byte, .byte, .byte, .id, .byte, .byte]
  | rumourTarget => [.byte, .bigWord]
  | deviceTested => [.id, .byte, .byte, .word, .byte, .byte]
  | remoteId => [.id, .byte, .word, .byte, .byte]
  | fault => [.id, .word, .byte, .byte, .byte]
  | alarm => [.id, .byte, .byte, .byte, .byte]
  | slotValue => [.id, .byte, .word, .gap, .gap, .byte, .byte]
  | faultDetails => [.id, .word, .word, .byte, .byte]
  | alarmStop => [.id, .byte, .byte, .byte]
  | hush => [.id, .byte, .byte, .byte]
  | locate => [.id, .byte, .byte, .byte, .byte]
  | radioDiagnostic => [.byte, .byte, .byte, .byte, .byte, .id, .byte, .byte, .byte, .gap]
  | detectorFault => [.id, .word, .byte]

/-- The report that the values of the fields make. -/
def report : (layout : Layout) → Values layout.fields → Report
  | sidMap, (map, ()) => .sidMap map
  | sidMapUpdate, (map, ()) => .sidMapUpdate map
  | missingNodes, ((), map, ()) => .missingNodes map
  | remoteStatus, (sid, noLoad, load, secondary, rssi, firmware, id, critical, faults, ()) =>
    .remoteStatus ⟨sid, noLoad, load, secondary, rssi, firmware, id, critical, faults⟩
  | rumourTarget, (sid, reasons, ()) => .rumourTarget sid reasons
  | deviceTested, (id, priority, status, model, sid, seq, ()) =>
    .deviceTested ⟨id, priority, status, model, sid, seq⟩
  | remoteId, (id, priority, model, sid, seq, ()) => .remoteId ⟨id, priority, 0, model, sid, seq⟩
  | fault, (id, model, flags, sid, seq, ()) => .fault ⟨id, model, flags, sid, seq⟩
  | alarm, (id, priority, status, sid, seq, ()) => .alarm ⟨id, priority, status, sid, seq⟩
  | slotValue, (id, slot, value, (), (), sid, seq, ()) => .slotValue ⟨id, slot, value, sid, seq⟩
  | faultDetails, (id, model, faults, sid, seq, ()) => .faultDetails ⟨id, model, faults, sid, seq⟩
  | alarmStop, (id, priority, sid, seq, ()) => .alarmStop ⟨id, priority, sid, seq⟩
  | hush, (id, priority, sid, seq, ()) => .hush ⟨id, priority, sid, seq⟩
  | locate, (id, priority, originating, sid, seq, ()) =>
    .locate ⟨id, priority, originating, sid, seq⟩
  | radioDiagnostic,
      (noLoad, load, secondary, rssi, firmware, id, critical, faults, sid, (), ()) =>
    .radioDiagnostic ⟨sid, noLoad, load, secondary, rssi, firmware, id, critical, faults⟩
  | detectorFault, (id, model, sid, ()) => .detectorFault ⟨id, model, sid⟩

/-- The places of a frame that carry nothing. -/
def gaps : Layout → List Nat
  | missingNodes => [2]
  | slotValue => [7, 8]
  | radioDiagnostic => [12]
  | _ => []

/-- A frame, byte by byte, none at the gaps. -/
def places (layout : Layout) (values : Values layout.fields) : List (Option UInt8) :=
  layout.start.map some ++ placesOf layout.fields values

/-- The declared length is that of the first bytes and the fields together. -/
theorem length_eq (layout : Layout) :
    layout.length = layout.start.length + widthOf layout.fields := by
  cases layout <;> rfl

/-- Behind the first bytes of its layout a frame of the right length is as wide as the fields. -/
theorem length_append_start (layout : Layout) (body : List UInt8) :
    (layout.start ++ body).length = layout.length ↔ body.length = widthOf layout.fields := by
  rw [List.length_append, length_eq]
  exact Nat.add_left_cancel_iff

/-- The gaps are where no value is laid out. -/
theorem map_isNone_places (layout : Layout) (values : Values layout.fields) :
    (layout.places values).map Option.isNone =
      (List.range layout.length).map fun place => decide (place ∈ layout.gaps) := by
  cases layout <;> rfl

/-! ### Reading by the layout -/

theorem decode_start (layout : Layout) (body : List UInt8) :
    Report.decode (layout.start ++ body) =
      Report.ofBody layout.code (layout.start.tail ++ body) := by
  have hstart : layout.start = layout.code.byte :: layout.start.tail := by
    cases layout <;> rfl
  rw [hstart, List.cons_append, Report.decode, Code.ofByte?_byte]
  rfl

/-- Behind the first bytes of its layout a frame of the right length is read field by field. -/
theorem decode_of_length (layout : Layout) (body : List UInt8)
    (h : body.length = widthOf layout.fields) :
    ∃ values, readAll layout.fields body = some (values, []) ∧
      Report.decode (layout.start ++ body) = .ok (layout.report values) := by
  -- as many bytes as the fields are wide are taken apart in the same way by both
  cases layout with
  | rumourTarget =>
    have hlength : body.length = 3 := h
    match body, hlength with
    | [_, _, _], _ => exact ⟨_, rfl, rfl⟩
  | alarmStop | hush | detectorFault =>
    have hlength : body.length = 6 := h
    match body, hlength with
    | [_, _, _, _, _, _], _ => exact ⟨_, rfl, rfl⟩
  | alarm | locate =>
    have hlength : body.length = 7 := h
    match body, hlength with
    | [_, _, _, _, _, _, _], _ => exact ⟨_, rfl, rfl⟩
  | sidMap | sidMapUpdate | remoteId | fault =>
    have hlength : body.length = 8 := h
    match body, hlength with
    | [_, _, _, _, _, _, _, _], _ => exact ⟨_, rfl, rfl⟩
  | missingNodes | deviceTested | faultDetails =>
    have hlength : body.length = 9 := h
    match body, hlength with
    | [_, _, _, _, _, _, _, _, _], _ => exact ⟨_, rfl, rfl⟩
  | slotValue =>
    have hlength : body.length = 10 := h
    match body, hlength with
    | [_, _, _, _, _, _, _, _, _, _], _ => exact ⟨_, rfl, rfl⟩
  | remoteStatus =>
    have hlength : body.length = 11 := h
    match body, hlength with
    | [_, _, _, _, _, _, _, _, _, _, _], _ => exact ⟨_, rfl, rfl⟩
  | radioDiagnostic =>
    have hlength : body.length = 12 := h
    match body, hlength with
    | [_, _, _, _, _, _, _, _, _, _, _, _], _ => exact ⟨_, rfl, rfl⟩

/-- With another length it is refused. -/
theorem decode_of_length_ne (layout : Layout) (body : List UInt8)
    (h : body.length ≠ widthOf layout.fields) :
    Report.decode (layout.start ++ body) =
      .error (.length (layout.start.headD 0) layout.length (layout.start ++ body).length) := by
  rw [decode_start]
  unfold Report.ofBody
  cases layout with
  -- where a map is read there are not eight bytes for it, and elsewhere not those of the fields
  | sidMap =>
    have hmap : SidMap.ofBytes? body = none := if_neg h
    dsimp only [code, start, List.tail_cons, List.cons_append, List.nil_append]
    rw [show Topic.ofByte? 0x03 = some .sidMap from rfl, hmap]
    rfl
  | sidMapUpdate =>
    have hmap : SidMap.ofBytes? body = none := if_neg h
    dsimp only [code, start, List.tail_cons, List.cons_append, List.nil_append]
    rw [show Topic.ofByte? 0x04 = some .sidMapUpdate from rfl, hmap]
    rfl
  | missingNodes =>
    have hmap : SidMap.ofBytes? (body.drop 1) = none := by
      refine if_neg fun hlength => h ?_
      rw [List.length_drop] at hlength
      show body.length = 9
      omega
    dsimp only [code, start, List.tail_cons, List.cons_append, List.nil_append]
    rw [show Topic.ofByte? 0x01 = some .missingNodes from rfl, hmap]
    rfl
  | remoteStatus =>
    dsimp only [code, start, List.tail_cons, List.cons_append, List.nil_append]
    rw [show Topic.ofByte? 0x06 = some .remoteStatus from rfl]
    dsimp only
    split
    · exact absurd rfl h
    · rfl
  | rumourTarget =>
    dsimp only [code, start, List.tail_cons, List.cons_append, List.nil_append]
    rw [show Topic.ofByte? 0x1a = some .rumourTarget from rfl]
    dsimp only
    split
    · exact absurd rfl h
    · rfl
  | _ =>
    dsimp only [code, start, List.tail_cons, List.nil_append]
    split
    · exact absurd rfl h
    · rfl

end Layout

/-! ### Back from the report -/

/-- The layout of a report, and what its fields carry. -/
def Report.content? : Report → Option (Σ layout : Layout, Values layout.fields)
  | sidMap map => some ⟨.sidMap, map, ()⟩
  | sidMapUpdate map => some ⟨.sidMapUpdate, map, ()⟩
  | missingNodes map => some ⟨.missingNodes, (), map, ()⟩
  | remoteStatus status => some ⟨.remoteStatus, status.sid, status.voltsNoLoad, status.voltsLoad,
      status.voltsSecondary, status.rssi, status.firmware, status.id, status.critical,
      status.radioFaults, ()⟩
  | rumourTarget sid reasons => some ⟨.rumourTarget, sid, reasons, ()⟩
  | deviceTested identity => some ⟨.deviceTested, identity.id, identity.priority, identity.status,
      identity.model, identity.sid, identity.seq, ()⟩
  | remoteId identity => some ⟨.remoteId, identity.id, identity.priority, identity.model,
      identity.sid, identity.seq, ()⟩
  | fault report => some ⟨.fault, report.id, report.model, report.flags, report.sid, report.seq, ()⟩
  | alarm report => some ⟨.alarm, report.id, report.priority, report.status, report.sid,
      report.seq, ()⟩
  | slotValue report => some ⟨.slotValue, report.id, report.slot, report.value, (), (), report.sid,
      report.seq, ()⟩
  | faultDetails report => some ⟨.faultDetails, report.id, report.model, report.faults, report.sid,
      report.seq, ()⟩
  | alarmStop report => some ⟨.alarmStop, report.id, report.priority, report.sid, report.seq, ()⟩
  | hush report => some ⟨.hush, report.id, report.priority, report.sid, report.seq, ()⟩
  | locate report => some ⟨.locate, report.id, report.priority, report.originating, report.sid,
      report.seq, ()⟩
  | radioDiagnostic status => some ⟨.radioDiagnostic, status.voltsNoLoad, status.voltsLoad,
      status.voltsSecondary, status.rssi, status.firmware, status.id, status.critical,
      status.radioFaults, status.sid, (), ()⟩
  | detectorFault report => some ⟨.detectorFault, report.id, report.model, report.sid, ()⟩
  | ack | nack | statusRequest | remoteIdNotice => none

theorem Report.content?_report (layout : Layout) (values : Values layout.fields) :
    (layout.report values).content? = some ⟨layout, values⟩ := by
  cases layout <;> rfl

end AlarmMesh.Radio
