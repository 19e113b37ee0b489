import AlarmMesh.Link.Driver
import AlarmMesh.Proofs.Link.InPlace

/-!
# Commands over a link

A command goes into a free buffer, is stuffed and terminated there, and is written to the channel;
then the buffer is free again.  No command is so long that it would not fit its buffer if all its
bytes were special, so none is dropped on the way, and whoever reads the wire frame gets the
command back.

* `Pool.acquireFor_cons`, `Pool.Ledger.release_taken` — the buffer of a command, taken from the pool
  and given back;
* `Driver.transmit_eq` — a frame that fits is written or fails to be written;
* `MemoryChannel.readFrame_toWire` — the frame that is read;
* `Driver.command_crosses` — a command on its way.
-/

namespace AlarmMesh.Link

open Radio (Command)

/-! ### The buffer of a command -/

/-- A command is stuffed and terminated within a buffer, whatever its bytes. -/
theorem length_stuff_command (command : Command) :
    (stuff command.bytes).length < bufferCapacity := by
  have hstuffed := length_stuff_le command.bytes
  have hshort : command.bytes.length ≤ 10 := by
    rw [command.length_bytes]
    cases command <;> simp [Command.encodedLength]
  unfold bufferCapacity
  omega

namespace Pool

variable {pool : Pool} {slots : Nat} {owned : List (Nat × SlotUse)} {buffer : Buffer}

/-- A command is put into the next free slot. -/
theorem acquireFor_cons {slot : Nat} {free : List Nat} (h : pool.free = slot :: free)
    (command : Command) :
    ∃ buffer : Buffer, buffer.Fits ∧ buffer.slot = slot ∧ buffer.content = command.bytes ∧
      pool.acquireFor command = (some buffer,
        { pool with free := free, tags := pool.tags.set slot (some .frame) }.measured) := by
  have hlength := command.length_bytes
  have hstuffed := length_stuff_command command
  have hroom : command.encodedLength ≤ bufferCapacity := by
    rw [length_stuff] at hstuffed
    omega
  have hspace : (Buffer.fresh slot).storage.length = bufferCapacity := List.length_replicate
  let storage := command.bytes ++ (Buffer.fresh slot).storage.drop command.encodedLength
  have hwrite : command.writeInto (Buffer.fresh slot).storage = .ok storage :=
    if_neg (by omega)
  let buffer := { Buffer.fresh slot with storage := storage }.setLength command.encodedLength
  have hfits : buffer.Fits := by
    refine ⟨?_, Nat.min_le_right _ _⟩
    show storage.length = bufferCapacity
    rw [List.length_append, List.length_drop, hlength, hspace]
    omega
  refine ⟨buffer, hfits, rfl, ?_, ?_⟩
  · show storage.take (min command.encodedLength bufferCapacity) = command.bytes
    rw [Nat.min_eq_left hroom]
    exact List.take_left' hlength
  · unfold acquireFor acquire
    rw [h]
    dsimp only
    rw [hwrite]

/-- A slot that was free is as it was when it was taken and given back. -/
theorem Ledger.release_taken (h : pool.Ledger slots owned) {free : List Nat}
    (hfree : pool.free = buffer.slot :: free) :
    ({ pool with
      free := free, tags := pool.tags.set buffer.slot (some .frame) }.measured.release buffer) =
      pool.measured := by
  have huntagged : pool.tags[buffer.slot]? = some none := h.untagged _ (by simp [hfree])
  obtain ⟨hlt, hnone⟩ := List.getElem?_eq_some_iff.1 huntagged
  have htags : (pool.tags.set buffer.slot (some .frame)).set buffer.slot none = pool.tags := by
    rw [List.set_set, ← hnone, List.set_getElem_self]
  have htaken : (pool.tags.set buffer.slot (some SlotUse.frame)).getD buffer.slot none =
      some .frame := by
    rw [List.getD_eq_getElem?_getD, List.getElem?_set_self hlt]
    rfl
  unfold Pool.release measured
  dsimp only
  rw [htaken]
  dsimp only
  rw [htags, ← hfree]
  rfl

/-- Whose slot it is decides what giving it back does. -/
theorem release_congr {buffer' : Buffer} (h : buffer'.slot = buffer.slot) (pool : Pool) :
    pool.release buffer' = pool.release buffer := by
  unfold release
  rw [h]

end Pool

/-! ### A frame on its way -/

/-- Reading takes the terminator off. -/
theorem MemoryChannel.readFrame_toWire {channel : MemoryChannel} {frame : List UInt8}
    {rest : List (List UInt8)} {room : Nat} (h : channel.inbound = toWire frame :: rest)
    (hroom : (stuff frame).length ≤ room) :
    channel.readFrame room = (.ok (stuff frame), { channel with inbound := rest }) := by
  have hframe : withoutTerminator (toWire frame) = stuff frame := by
    simp [withoutTerminator, toWire]
  unfold readFrame
  rw [h]
  dsimp only
  rw [hframe, if_neg (Nat.not_lt.2 hroom)]

/-- A frame that is read into a buffer of a link is there without its escapes. -/
theorem Buffer.Fits.content_read {buffer : Buffer} (h : buffer.Fits) {frame : List UInt8}
    (hroom : frame.length ≤ bufferCapacity) :
    ((buffer.clear.store 0 frame).setLength frame.length).unescape.Fits ∧
      ((buffer.clear.store 0 frame).setLength frame.length).unescape.content = unstuff frame := by
  have hstorage := h.storage
  have hstored : (buffer.clear.store 0 frame).Fits :=
    ⟨(length_overwrite _ _ _).trans hstorage, Nat.zero_le _⟩
  have hcontent : ((buffer.clear.store 0 frame).setLength frame.length).content = frame := by
    have hall : overwrite buffer.storage 0 frame =
        frame ++ buffer.storage.drop (0 + frame.length) :=
      @drop_overwrite buffer.storage frame 0 (by omega)
    show (overwrite buffer.storage 0 frame).take (min frame.length bufferCapacity) = frame
    rw [Nat.min_eq_left hroom, hall]
    exact List.take_left
  refine ⟨(hstored.setLength _).unescape, ?_⟩
  rw [(hstored.setLength _).content_unescape, hcontent]

namespace Driver

variable {driver : Driver} {buffer : Buffer}

/-- A frame that fits its buffer with its terminator is written, or it fails to be. -/
theorem transmit_eq (h : buffer.Fits) (hroom : (stuff buffer.content).length < bufferCapacity) :
    driver.transmit buffer =
      match driver.channel.writeFrame (toWire buffer.content) with
      | .ok channel =>
        { driver with
          channel := channel, pool := driver.pool.release buffer
          tally := .frameSent :: driver.tally }
      | .error _ =>
        { driver with
          pool := driver.pool.release buffer, tally := .ioError .transmit :: driver.tally } := by
  obtain ⟨stuffed, hescape, hcontent⟩ := h.escape_eq (Nat.le_of_lt hroom)
  have hstuffed : stuffed.Fits := h.escape hescape
  have hlength : stuffed.length + [flag].length ≤ bufferCapacity := by
    rw [← hstuffed.length_content, hcontent]
    exact hroom
  have hpush : stuffed.push? flag = some (stuffed.appended [flag]) := by
    refine if_neg ?_
    unfold Buffer.space
    omega
  have hwire : (stuffed.appended [flag]).content = toWire buffer.content := by
    rw [hstuffed.content_appended hlength, hcontent]
    rfl
  have hslot : (stuffed.appended [flag]).slot = buffer.slot := (Buffer.slot_escape hescape).1
  unfold transmit Pool.escape
  rw [hescape]
  dsimp only
  rw [hpush]
  dsimp only
  rw [hwire]
  rcases driver.channel.writeFrame (toWire buffer.content) with error | channel
  · dsimp only
    rw [Pool.release_congr hslot]
  · dsimp only
    rw [Pool.release_congr hslot]

/-- However a command fares, it does not overflow its buffer. -/
theorem overflows_sendCommand (driver : Driver) (command : Command) :
    (driver.sendCommand command).2.tally.value .sendOverflow =
      driver.tally.value .sendOverflow := by
  unfold sendCommand
  rcases hfree : driver.pool.free with _ | ⟨slot, free⟩
  · obtain ⟨_, -, hacquire⟩ := driver.pool.acquireFor_eq command
    have hnone : driver.pool.acquire.1 = none := by simp [Pool.acquire, hfree]
    rw [hacquire, hnone]
    exact List.count_cons_of_ne (by decide)
  · obtain ⟨buffer, hfits, -, hcontent, hacquire⟩ := Pool.acquireFor_cons hfree command
    rw [hacquire]
    dsimp only
    rw [transmit_eq hfits (hcontent ▸ length_stuff_command command)]
    split <;> exact List.count_cons_of_ne (by decide)

/-- A command that is sent over an open link through a pool with a free slot is written as one wire
frame, and the slot is free again. -/
theorem sendCommand_eq {slots : Nat} {owned : List (Nat × SlotUse)} (command : Command)
    (hpool : driver.pool.Ledger slots owned) (hfree : driver.pool.free ≠ [])
    (hopen : driver.channel.closed = false) (hpeer : driver.channel.peer = true) :
    driver.sendCommand command =
      (true, { driver with
        channel := { driver.channel with
          outbound := driver.channel.outbound ++ [toWire command.bytes] }
        pool := driver.pool.measured
        tally := .frameSent :: driver.tally }) := by
  obtain ⟨slot, free, hslots⟩ := List.exists_cons_of_ne_nil hfree
  obtain ⟨buffer, hfits, rfl, hcontent, hacquire⟩ := Pool.acquireFor_cons hslots command
  have hwrite : driver.channel.writeFrame (toWire command.bytes) =
      .ok { driver.channel with
        outbound := driver.channel.outbound ++ [toWire command.bytes] } := by
    simp [MemoryChannel.writeFrame, hopen, hpeer]
  unfold sendCommand
  rw [hacquire]
  dsimp only
  rw [transmit_eq hfits (hcontent ▸ length_stuff_command command), hcontent]
  dsimp only
  rw [hwrite, hpool.release_taken hslots]

/-! ### A command on its way -/

/-- A command over an open link, through a pool with a free slot: one wire frame is written, with
one terminator, at its end; the slot is free again; and reading the wire frame gives the command.
No command over any link overflows its buffer. -/
theorem command_crosses {slots : Nat} {owned : List (Nat × SlotUse)} (command : Command)
    (hpool : driver.pool.Ledger slots owned) (hfree : driver.pool.free ≠ [])
    (hopen : driver.channel.closed = false) (hpeer : driver.channel.peer = true) :
    driver.sendCommand command =
        (true, { driver with
          channel := { driver.channel with
            outbound := driver.channel.outbound ++ [toWire command.bytes] }
          pool := { driver.pool with gauge := some driver.pool.inUse }
          tally := .frameSent :: driver.tally }) ∧
      (∃ frame, toWire command.bytes = frame ++ [flag] ∧ flag ∉ frame) ∧
      (∀ other : Driver, (other.sendCommand command).2.tally.value .sendOverflow =
        other.tally.value .sendOverflow) ∧
      ∀ (channel : MemoryChannel) (rest : List (List UInt8)),
        channel.inbound = toWire command.bytes :: rest →
        ∃ frame, channel.readFrame bufferCapacity = (.ok frame, { channel with inbound := rest }) ∧
          ∀ buffer : Buffer, buffer.Fits →
            ((buffer.clear.store 0 frame).setLength frame.length).unescape.content =
              command.bytes := by
  have hroom := Nat.le_of_lt (length_stuff_command command)
  refine ⟨sendCommand_eq command hpool hfree hopen hpeer, ?_, ?_, ?_⟩
  · exact ⟨stuff command.bytes, rfl, flag_not_mem_stuff command.bytes⟩
  · exact fun other => other.overflows_sendCommand command
  · intro channel rest hinbound
    refine ⟨_, channel.readFrame_toWire hinbound hroom, ?_⟩
    intro buffer hfits
    rw [(hfits.content_read hroom).2, unstuff_stuff]

/-- A map of special bytes only is sent from the only slot. -/
theorem command_crosses_special :
    (Pool.ofSlots 1).Ledger 1 [] ∧ (Pool.ofSlots 1).free ≠ [] ∧
      (Driver.sendCommand { pool := .ofSlots 1 }
        (.updateSidMap ⟨0x7e7e7e7e7d7d7d7d⟩)).2.channel.outbound =
        [[0xd3, 0x04, 0x7d, 0x02, 0x7d, 0x02, 0x7d, 0x02, 0x7d, 0x02,
          0x7d, 0x01, 0x7d, 0x01, 0x7d, 0x01, 0x7d, 0x01, 0x7e]] := by
  have hpool := Pool.ledger_ofSlots 1
  have hfree : (Pool.ofSlots 1).free ≠ [] := by decide
  refine ⟨hpool, hfree, ?_⟩
  rw [(command_crosses (.updateSidMap ⟨0x7e7e7e7e7d7d7d7d⟩) hpool hfree rfl rfl).1]
  decide

end Driver

end AlarmMesh.Link
