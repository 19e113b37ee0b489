import AlarmMesh.Link.Buffer
import AlarmMesh.Metric.Tally
import AlarmMesh.Radio.Command

/-!
# The buffer pool

Every frame that moves through the gateway lives in one of a fixed number of slots.  The pool
keeps which slots are free, the one freed last being taken first, and what each owned slot is
used for.  Whoever holds a `Buffer` owns its slot until the buffer is given to `release`.

The pool also keeps its own two measures: how often no slot was free, and how many slots were
owned after the last change.
-/

namespace AlarmMesh.Link

/-- A pool of buffers. -/
structure Pool where
  /-- The free slots, the next one to be taken first. -/
  free : List Nat
  /-- What each slot is used for; none for a free slot. -/
  tags : List (Option SlotUse)
  /-- Attempts that found no free slot. -/
  tally : Metric.Tally := []
  /-- Owned slots after the last change, once there was one. -/
  gauge : Option Nat := none
  deriving DecidableEq, Repr

namespace Pool

/-- Slots in a pool when nothing else is asked for. -/
def defaultSlots : Nat := 10

/-- A pool of `slots` free slots. -/
def ofSlots (slots : Nat) : Pool := { free := List.range slots, tags := List.replicate slots none }

instance : Inhabited Pool := ⟨ofSlots defaultSlots⟩

/-- The number of slots. -/
def capacity (pool : Pool) : Nat := pool.tags.length

/-- The number of free slots. -/
def available (pool : Pool) : Nat := pool.free.length

/-- The number of owned slots. -/
def inUse (pool : Pool) : Nat := pool.tags.length - pool.free.length

/-- The number of slots used for `use`. -/
def usedFor (pool : Pool) (use : SlotUse) : Nat := pool.tags.count (some use)

/-- The pool with its gauge at the number of owned slots. -/
def measured (pool : Pool) : Pool := { pool with gauge := some pool.inUse }

/-- Take a free slot, if there is one. -/
def acquire (pool : Pool) : Option Buffer × Pool :=
  match pool.free with
  | [] => (none, { pool with tally := .poolExhausted :: pool.tally })
  | slot :: free =>
    (some (.fresh slot),
      { pool with free := free, tags := pool.tags.set slot (some .frame) }.measured)

/-- Give a slot back.  A slot that nobody owns is left alone. -/
def release (pool : Pool) (buffer : Buffer) : Pool :=
  match pool.tags.getD buffer.slot none with
  | some _ =>
    { pool with free := buffer.slot :: pool.free, tags := pool.tags.set buffer.slot none }.measured
  | none => pool.measured

/-- Give several slots back, in order. -/
def releaseAll (pool : Pool) (buffers : List Buffer) : Pool := buffers.foldl release pool

/-- Take a free slot and fill it.  Bytes that do not fit a buffer take no slot. -/
def acquireWith (pool : Pool) (bytes : List UInt8) : Option Buffer × Pool :=
  if bufferCapacity < bytes.length then (none, pool)
  else
    match pool.acquire with
    | (none, pool) => (none, pool)
    | (some buffer, pool) => (some (buffer.filled bytes), pool)

/-- Take a free slot and write a command into it. -/
def acquireFor (pool : Pool) (command : Radio.Command) : Option Buffer × Pool :=
  match pool.acquire with
  | (none, pool) => (none, pool)
  | (some buffer, pool) =>
    match command.writeInto buffer.storage with
    | .ok storage =>
      (some ({ buffer with storage := storage }.setLength command.encodedLength), pool)
    | .error _ => (none, pool.release buffer)

/-- Try up to `attempts` times to take a slot.  Gives also how many attempts failed. -/
def acquireWithin : (attempts : Nat) → Pool → Nat × Option Buffer × Pool
  | 0, pool => (0, none, pool)
  | attempts + 1, pool =>
    match pool.acquire with
    | (some buffer, pool) => (0, some buffer, pool)
    | (none, pool) =>
      let rest := acquireWithin attempts pool
      (rest.1 + 1, rest.2)

/-- Change what an owned slot is used for. -/
def retag (pool : Pool) (buffer : Buffer) (use : SlotUse) : Buffer × Pool :=
  ({ buffer with tag := use }, { pool with tags := pool.tags.set buffer.slot (some use) })

/-- Stuff the content of a buffer in place.  A buffer that would overflow is released. -/
def escape (pool : Pool) (buffer : Buffer) : Option Buffer × Pool :=
  match buffer.escape? with
  | some buffer => (some buffer, pool)
  | none => (none, pool.release buffer)

end Pool

end AlarmMesh.Link
