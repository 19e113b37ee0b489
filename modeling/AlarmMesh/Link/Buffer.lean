import AlarmMesh.Link.Stuffing

/-!
# Frame buffers

A buffer owns one slot of a pool and the slot's 32 bytes, of which the first `length` are
filled.  Filling, pushing and the two codecs work in the slot; what lies behind the filled part
stays until it is written over.

* `Buffer.escape?` stuffs the content in place, from the back, so each byte is read before its
  place is written; none when the result does not fit;
* `Buffer.unescape` undoes it in place, from the front.
-/

namespace AlarmMesh.Link

/-- Bytes in one buffer. -/
def bufferCapacity : Nat := 32

/-- What a slot is used for. -/
inductive SlotUse where
  /-- A frame on its way in or out. -/
  | frame
  /-- A fault report whose follow-up is outstanding. -/
  | pendingFault
  /-- An alarm report whose follow-up is outstanding. -/
  | pendingAlarm
  deriving DecidableEq, Repr

/-- An owned slot. -/
structure Buffer where
  /-- The slot in the pool. -/
  slot : Nat
  tag : SlotUse
  /-- All bytes of the slot. -/
  storage : List UInt8
  /-- How many of them are filled. -/
  length : Nat
  deriving DecidableEq, Repr

/-- Write `bytes` over `storage` from `offset` on; what would fall behind its end is dropped. -/
def overwrite (storage : List UInt8) (offset : Nat) (bytes : List UInt8) : List UInt8 :=
  (storage.take offset ++ bytes ++ storage.drop (offset + bytes.length)).take storage.length

namespace Buffer

/-- An empty buffer for `slot`. -/
def fresh (slot : Nat) : Buffer := ⟨slot, .frame, List.replicate bufferCapacity 0, 0⟩

/-- The filled bytes. -/
def content (buffer : Buffer) : List UInt8 := buffer.storage.take buffer.length

/-- No byte is filled. -/
def isEmpty (buffer : Buffer) : Bool := buffer.length = 0

/-- How many more bytes fit. -/
def space (buffer : Buffer) : Nat := bufferCapacity - buffer.length

/-- Forget the content. -/
def clear (buffer : Buffer) : Buffer := { buffer with length := 0 }

/-- Set how many bytes are filled, at most all. -/
def setLength (buffer : Buffer) (length : Nat) : Buffer :=
  { buffer with length := min length bufferCapacity }

/-- Write into the slot without changing how much of it is filled. -/
def store (buffer : Buffer) (offset : Nat) (bytes : List UInt8) : Buffer :=
  { buffer with storage := overwrite buffer.storage offset bytes }

/-- The buffer with `bytes` behind its content, which leave room for them. -/
def appended (buffer : Buffer) (bytes : List UInt8) : Buffer :=
  { buffer with
    storage := overwrite buffer.storage buffer.length bytes
    length := buffer.length + bytes.length }

/-- The buffer with `bytes` as its content, which fit it. -/
def filled (buffer : Buffer) (bytes : List UInt8) : Buffer := buffer.clear.appended bytes

/-- Append `bytes`; none if they do not fit. -/
def extend? (buffer : Buffer) (bytes : List UInt8) : Option Buffer :=
  if buffer.space < bytes.length then none else some (buffer.appended bytes)

/-- Append one byte; none if the buffer is full. -/
def push? (buffer : Buffer) (b : UInt8) : Option Buffer := buffer.extend? [b]

/-- Replace the content; none if `bytes` do not fit. -/
def fill? (buffer : Buffer) (bytes : List UInt8) : Option Buffer :=
  if bufferCapacity < bytes.length then none else some (buffer.filled bytes)

/-! ## Stuffing in place -/

/-- Move the first `source` bytes so that they end, stuffed, before `target`: the last first. -/
def escapeBack : (source target : Nat) → List UInt8 → List UInt8
  | 0, _, bytes => bytes
  | source + 1, target, bytes =>
    let b := bytes.getD source 0
    if b = flag then
      escapeBack source (target - 2)
        ((bytes.set (target - 2) escapeByte).set (target - 1) escapedFlag)
    else if b = escapeByte then
      escapeBack source (target - 2)
        ((bytes.set (target - 2) escapeByte).set (target - 1) escapedEscape)
    else
      escapeBack source (target - 1) (bytes.set (target - 1) b)

/-- The length of the content once stuffed. -/
def escapedLength (buffer : Buffer) : Nat := buffer.length + buffer.content.countP isSpecial

/-- Stuff the content in place; none if it would not fit. -/
def escape? (buffer : Buffer) : Option Buffer :=
  if bufferCapacity < buffer.escapedLength then none
  else some { buffer with
    storage := escapeBack buffer.length buffer.escapedLength buffer.storage
    length := buffer.escapedLength }

/-- Undo escapes among the `left` bytes from `source` on, writing from `target` on.  Gives the
bytes and the place behind the last one written. -/
def unescapeFront : (left source target : Nat) → List UInt8 → List UInt8 × Nat
  | 0, _, target, bytes => (bytes, target)
  | 1, source, target, bytes => (bytes.set target (bytes.getD source 0), target + 1)
  | left + 2, source, target, bytes =>
    let b := bytes.getD source 0
    if b = escapeByte then
      unescapeFront left (source + 2) (target + 1)
        (bytes.set target (unescapeCode (bytes.getD (source + 1) 0)))
    else
      unescapeFront (left + 1) (source + 1) (target + 1) (bytes.set target b)

/-- Undo escapes in place. -/
def unescape (buffer : Buffer) : Buffer :=
  let done := unescapeFront buffer.length 0 0 buffer.storage
  { buffer with storage := done.1, length := done.2 }

end Buffer

end AlarmMesh.Link
