import AlarmMesh.Proofs.Radio.Fields
import AlarmMesh.Radio.Command

/-!
# Commands as bytes

A command is written in pieces, one behind the other: its command byte, and then its fields.  How
long it is in all is declared apart from the pieces, and the declared length is the room that they
are written into.  The pieces fill that room and none of them is cut off at its end, so nothing
behind it is written.

From its bytes a command is read back.  Only what a device is asked to read is not told by them: to
read its voltage and to read its temperature is asked for with the same bytes.

* `Command.pieces`, `fill` — the pieces of a command, and how they fill a room;
* `Command.put`, `Command.put_eq` — a command in a space, piece by piece and as a whole;
* `Command.ofBytes?`, `Command.ofBytes?_bytes` — the command that is read from bytes;
* `Command.ReadAlike`, `Command.bytes_eq_iff` — the commands that have the same bytes;
* `Command.writesCommands` — both together.
-/

namespace AlarmMesh.Radio

/-! ### Pieces in a room -/

/-- Write pieces into a room, one behind the other, and keep what is left of it.  None if a piece is
longer than what the pieces before it have left. -/
def fill : List (List UInt8) → List UInt8 → Option (List UInt8)
  | [], room => some room
  | piece :: pieces, room =>
    if room.length < piece.length then none
    else (fill pieces (room.drop piece.length)).map (piece ++ ·)

/-- Pieces that fit a room together are written over its front. -/
theorem fill_eq {pieces : List (List UInt8)} {room : List UInt8}
    (h : pieces.flatten.length ≤ room.length) :
    fill pieces room = some (pieces.flatten ++ room.drop pieces.flatten.length) := by
  induction pieces generalizing room with
  | nil => rfl
  | cons piece pieces ih =>
    rw [List.flatten_cons, List.length_append] at h
    have hpiece : ¬ room.length < piece.length := by omega
    have hrest : pieces.flatten.length ≤ (room.drop piece.length).length := by
      rw [List.length_drop]
      omega
    rw [fill, if_neg hpiece, ih hrest, Option.map_some, List.drop_drop, List.flatten_cons,
      List.append_assoc, List.length_append]

namespace Command

/-- What is written behind the command byte, piece by piece. -/
def pieces : Command → List (List UInt8)
  | requestSidMap => [[0x03]]
  | updateSidMap map => [[0x04], map.bytes]
  | learnIn => [[0x12], [0x01]]
  | alarmIdent id model priority flags fwMinor fwMajor =>
    [id.bytes, modelBytes model, [priority], [flags], [fwMinor], [fwMajor]]
  | deviceTest id model priority => [id.bytes, [priority], [0x01], modelBytes model]
  | readVolts id model | readTemperature id model => [id.bytes, modelBytes model, [0x06]]
  | requestFaultDetails id model => [id.bytes, modelBytes model, [0]]
  | sounderEnable id enabled => [id.bytes, [if enabled then 0x01 else 0x02], [0, 0, 0, 0]]
  | requestRemoteStatus sid => [[0x06], [sid], [0x00]]
  | requestRemoteId sid => [[0x06], [sid], [0x01]]
  | rumourTarget sid => [[0x1a], [sid]]
  | radioDiagnosticRequest => []
  | hush => [[0, 0, 0], [gatewayPriority]]
  | locate => [[0, 0, 0], [gatewayPriority], [0]]

/-- Write a command over the front of a space, piece by piece, into no more room than its declared
length.  Gives that length or the error, and the space afterwards; none if a piece runs past the
room. -/
def put (command : Command) (space : List UInt8) : Option (Except FrameError Nat × List UInt8) :=
  if space.length < command.encodedLength then
    some (.error (.noRoom command.encodedLength space.length), space)
  else
    (fill ([command.code.byte] :: command.pieces) (space.take command.encodedLength)).map
      fun written => (.ok command.encodedLength, written ++ space.drop command.encodedLength)

/-- A command in a space of just its declared length. -/
def alone (command : Command) : List UInt8 :=
  match command.put (List.replicate command.encodedLength 0) with
  | some (.ok length, space) => space.take length
  | _ => []

theorem flatten_pieces (command : Command) :
    ([command.code.byte] :: command.pieces).flatten = command.bytes := by
  cases command <;> simp [pieces, bytes, fields]

/-- In too short a space a command is refused, and the space stays as it was. -/
theorem put_of_short {command : Command} {space : List UInt8}
    (h : space.length < command.encodedLength) :
    command.put space = some (.error (.noRoom command.encodedLength space.length), space) :=
  if_pos h

/-- The pieces fill the declared length and no more. -/
theorem put_of_room {command : Command} {space : List UInt8}
    (h : command.encodedLength ≤ space.length) :
    command.put space = some (.ok command.encodedLength,
      command.bytes ++ space.drop command.encodedLength) := by
  have hroom : (space.take command.encodedLength).length = command.encodedLength := by
    rw [List.length_take]
    omega
  have hfill : fill ([command.code.byte] :: command.pieces) (space.take command.encodedLength) =
      some command.bytes := by
    rw [fill_eq]
    · rw [flatten_pieces, length_bytes, List.drop_of_length_le (Nat.le_of_eq hroom),
        List.append_nil]
    · apply Nat.le_of_eq
      rw [flatten_pieces, length_bytes, hroom]
  rw [put, if_neg (Nat.not_lt.2 h), hfill, Option.map_some]

/-- Piece by piece a command is written as it is written as a whole. -/
theorem put_eq (command : Command) (space : List UInt8) : command.put space =
    some (match command.writeInto space with
      | .ok written => (.ok command.encodedLength, written)
      | .error error => (.error error, space)) := by
  by_cases hshort : space.length < command.encodedLength
  · rw [put_of_short hshort, writeInto, if_pos hshort]
  · rw [put_of_room (Nat.not_lt.1 hshort), writeInto, if_neg hshort]

theorem alone_eq (command : Command) : command.alone = command.bytes := by
  have hlength : (List.replicate command.encodedLength (0 : UInt8)).length =
      command.encodedLength := List.length_replicate
  have hput := put_of_room (Nat.le_of_eq hlength.symm)
  rw [List.drop_of_length_le (Nat.le_of_eq hlength), List.append_nil] at hput
  rw [alone, hput]
  exact List.take_of_length_le (Nat.le_of_eq command.length_bytes)

/-! ### Reading a command back -/

/-- The extended-diagnostic request that the bytes behind the command byte make. -/
def ofTopic? (topic : UInt8) (rest : List UInt8) : Option Command :=
  if topic = 0x03 then some .requestSidMap
  else if topic = 0x04 then (SidMap.ofBytes? rest).map .updateSidMap
  else if topic = 0x12 then some .learnIn
  else if topic = 0x06 then
    match rest with
    | [sid, request] =>
      some (if request = 0x00 then .requestRemoteStatus sid else .requestRemoteId sid)
    | _ => none
  else if topic = 0x1a then
    match rest with
    | [sid] => some (.rumourTarget sid)
    | _ => none
  else none

/-- The command with this code that the bytes behind the command byte make. -/
def ofFields? : Code → List UInt8 → Option Command
  | .diagnosticRequest, topic :: rest => ofTopic? topic rest
  | .alarmIdent, [a, b, c, low, high, priority, flags, fwMinor, fwMajor] =>
    some (.alarmIdent (.ofBytes a b c) (word16 low high) priority flags fwMinor fwMajor)
  | .deviceTested, [a, b, c, priority, _, low, high] =>
    some (.deviceTest (.ofBytes a b c) (word16 low high) priority)
  | .slotRequest, [a, b, c, low, high, _] =>
    some (.readVolts (.ofBytes a b c) (word16 low high))
  | .faultDetailsRequest, [a, b, c, low, high, _] =>
    some (.requestFaultDetails (.ofBytes a b c) (word16 low high))
  | .notifyDevice, [a, b, c, state, _, _, _, _] =>
    some (.sounderEnable (.ofBytes a b c) (state = 0x01))
  | .radioRequest, [] => some .radioDiagnosticRequest
  | .hush, _ => some .hush
  | .locate, _ => some .locate
  | _, _ => none

/-- The command that bytes encode; of the two that read a value of a device the one that reads its
voltage. -/
def ofBytes? : List UInt8 → Option Command
  | [] => none
  | b :: fields => (Code.ofByte? b).bind fun code => ofFields? code fields

/-- The command, but to read a temperature is to read a voltage. -/
def plain : Command → Command
  | readTemperature id model => readVolts id model
  | command => command

theorem exists_idBytes (id : DeviceId) :
    ∃ a b c, id.bytes = [a, b, c] ∧ DeviceId.ofBytes a b c = id :=
  ⟨_, _, _, rfl, DeviceId.ofBytes_eq_iff.2 rfl⟩

theorem exists_modelBytes (model : UInt16) :
    ∃ low high, modelBytes model = [low, high] ∧ word16 low high = model :=
  ⟨_, _, rfl, word16_eq_iff.2 rfl⟩

/-- A command is read back from its bytes. -/
theorem ofBytes?_bytes (command : Command) : ofBytes? command.bytes = some command.plain := by
  rw [bytes, ofBytes?, Code.ofByte?_byte, Option.bind_some]
  cases command with
  | updateSidMap map =>
    have hmap : SidMap.ofBytes? map.bytes = some map := SidMap.ofBytes?_eq_some_iff.2 rfl
    show (SidMap.ofBytes? map.bytes).map updateSidMap = some (updateSidMap map)
    rw [hmap, Option.map_some]
  | alarmIdent id model | deviceTest id model | readVolts id model | readTemperature id model
  | requestFaultDetails id model =>
    obtain ⟨a, b, c, hid, rfl⟩ := exists_idBytes id
    obtain ⟨low, high, hmodel, rfl⟩ := exists_modelBytes model
    rw [fields, hid, hmodel]
    rfl
  | sounderEnable id enabled =>
    obtain ⟨a, b, c, hid, rfl⟩ := exists_idBytes id
    rw [fields, hid]
    cases enabled with
    | false => rfl
    | true => rfl
  | _ => rfl

/-! ### Commands with the same bytes -/

/-- One of the commands reads the voltage of a device and the other one its temperature. -/
def ReadAlike (command other : Command) : Prop :=
  ∃ id model, (command = readVolts id model ∧ other = readTemperature id model) ∨
    (command = readTemperature id model ∧ other = readVolts id model)

theorem plain_eq_iff {command other : Command} :
    command.plain = other.plain ↔ command = other ∨ ReadAlike command other := by
  constructor
  · intro h
    unfold plain at h
    split at h
    · next id model =>
      split at h
      · obtain ⟨rfl, rfl⟩ := readVolts.inj h
        exact .inl rfl
      · exact .inr ⟨id, model, .inr ⟨rfl, h.symm⟩⟩
    · split at h
      · next id model => exact .inr ⟨id, model, .inl ⟨h, rfl⟩⟩
      · exact .inl h
  · rintro (rfl | ⟨id, model, ⟨rfl, rfl⟩ | ⟨rfl, rfl⟩⟩)
    · rfl
    · rfl
    · rfl

theorem bytes_plain (command : Command) : command.plain.bytes = command.bytes := by
  cases command <;> rfl

/-- Different commands have different bytes, but for the two that read a value of one device. -/
theorem bytes_eq_iff {command other : Command} :
    command.bytes = other.bytes ↔ command = other ∨ ReadAlike command other := by
  rw [← plain_eq_iff]
  constructor
  · intro h
    have hread := congrArg ofBytes? h
    rw [ofBytes?_bytes, ofBytes?_bytes] at hread
    exact Option.some.inj hread
  · intro h
    rw [← bytes_plain command, h, bytes_plain other]

/-! ### Writing commands -/

/-- How commands are written, whatever their fields and whatever the space for them. -/
structure WritesCommands : Prop where
  /-- A space that is shorter than the declared length is left as it was. -/
  refuses : ∀ (command : Command) (space : List UInt8), space.length < command.encodedLength →
    command.put space = some (.error (.noRoom command.encodedLength space.length), space)
  /-- In any other space the command takes its declared length at the front, and what is behind it
  stays.  No piece of it runs past that length. -/
  writes : ∀ (command : Command) (space : List UInt8), command.encodedLength ≤ space.length →
    command.put space = some (.ok command.encodedLength,
      command.alone ++ space.drop command.encodedLength)
  /-- That is how a command is written into a buffer, and what it is as bytes. -/
  runs : ∀ (command : Command) (space : List UInt8), command.put space =
    some (match command.writeInto space with
      | .ok written => (.ok command.encodedLength, written)
      | .error error => (.error error, space))
  alone : ∀ command : Command, command.alone = command.bytes ∧
    command.alone.length = command.encodedLength
  /-- The bytes tell the command, but not which value of a device is to be read. -/
  distinct : ∀ command other : Command,
    command.alone = other.alone ↔ command = other ∨ ReadAlike command other

/-- Commands are written in full and within their length, and their bytes tell them apart. -/
theorem writesCommands : WritesCommands where
  refuses _ _ hshort := put_of_short hshort
  writes command _ hroom := command.alone_eq ▸ put_of_room hroom
  runs := put_eq
  alone command := by
    rw [alone_eq]
    exact ⟨rfl, command.length_bytes⟩
  distinct command other := by
    rw [alone_eq, alone_eq]
    exact bytes_eq_iff

end Command

end AlarmMesh.Radio
