import AlarmMesh.Link.MemoryChannel
import AlarmMesh.Link.Pool

/-!
# The link driver

Moves frames between a channel and buffers.  Receiving goes round by round: a round takes a
buffer, or the spare one that an earlier round did not use, and fills it with the next frame if
there is one.  Sending stuffs and terminates a frame in its own buffer.

Whatever becomes of a buffer that is sent, its slot is free afterwards.
-/

namespace AlarmMesh.Link

/-- Why a link could not be closed. -/
inductive LinkError where
  /-- It was closed before. -/
  | closed
  deriving DecidableEq, Repr

/-- The error in words. -/
def LinkError.message : LinkError → String
  | closed => "link already closed"

/-- A driver between a channel, a pool and a consumer of received frames. -/
structure Driver where
  channel : MemoryChannel := {}
  pool : Pool
  /-- A buffer that the last round did not use. -/
  spare : Option Buffer := none
  /-- Frames that the consumer has not taken yet, oldest first. -/
  queue : List Buffer := []
  /-- The consumer takes frames. -/
  consumer : Bool := true
  /-- Rounds are going on. -/
  running : Bool := true
  /-- The driver was not closed. -/
  opened : Bool := true
  tally : Metric.Tally := []
  /-- Lengths of the received frames without escapes, oldest first. -/
  sizes : List Nat := []
  deriving Repr

namespace Driver

/-- The spare buffer, or else a free one. -/
def takeBuffer (driver : Driver) : Option Buffer × Driver :=
  match driver.spare with
  | some buffer => (some buffer, { driver with spare := none })
  | none =>
    let taken := driver.pool.acquire
    (taken.1, { driver with pool := taken.2 })

/-- Hand a received frame to the consumer.  When there is none, rounds end. -/
def deliver (driver : Driver) (buffer : Buffer) : Driver :=
  let driver := { driver with
    tally := .frameReceived :: driver.tally
    sizes := driver.sizes ++ [buffer.length] }
  if driver.consumer then { driver with queue := driver.queue ++ [buffer] }
  else { driver with pool := driver.pool.release buffer, running := false }

/-- Read one frame into `buffer`, which becomes the spare one if there is no frame for it. -/
def readInto (driver : Driver) (buffer : Buffer) : Driver :=
  let buffer := buffer.clear
  let read := driver.channel.readFrame bufferCapacity
  let driver := { driver with channel := read.2 }
  match read.1 with
  | .ok [] => { driver with spare := some buffer }
  | .ok frame => driver.deliver ((buffer.store 0 frame).setLength frame.length).unescape
  | .error error =>
    let driver := { driver with spare := some buffer }
    if error.isTimeout then driver else { driver with tally := .ioError .receive :: driver.tally }

/-- One round of receiving. -/
def receiveRound (driver : Driver) : Driver :=
  if driver.running then
    match driver.takeBuffer with
    | (none, driver) => driver
    | (some buffer, driver) =>
      if driver.channel.ready then driver.readInto buffer else { driver with spare := some buffer }
  else driver

/-- The consumer takes the oldest frame it was given and releases its buffer. -/
def consume (driver : Driver) : Option (List UInt8) × Driver :=
  match driver.queue with
  | [] => (none, driver)
  | buffer :: rest =>
    (some buffer.content, { driver with queue := rest, pool := driver.pool.release buffer })

/-- Rounds of receiving with a consumer that takes each frame at once, until nothing is left to
read, at most `rounds` of them.  Gives the frames taken. -/
def receiveAll : (rounds : Nat) → Driver → List (List UInt8) × Driver
  | 0, driver => ([], driver)
  | rounds + 1, driver =>
    let taken := driver.receiveRound.consume
    let rest := receiveAll rounds taken.2
    (taken.1.toList ++ rest.1, rest.2)

/-- Stuff, terminate and write a frame, and release its buffer. -/
def transmit (driver : Driver) (buffer : Buffer) : Driver :=
  match driver.pool.escape buffer with
  | (none, pool) => { driver with pool := pool, tally := .sendOverflow :: driver.tally }
  | (some buffer, pool) =>
    match buffer.push? flag with
    | none => { driver with pool := pool.release buffer, tally := .sendOverflow :: driver.tally }
    | some buffer =>
      match driver.channel.writeFrame buffer.content with
      | .ok channel =>
        { driver with
          channel := channel, pool := pool.release buffer, tally := .frameSent :: driver.tally }
      | .error _ =>
        { driver with pool := pool.release buffer, tally := .ioError .transmit :: driver.tally }

/-- Put a frame into a free buffer and transmit it.  Without a free buffer nothing is sent. -/
def send (driver : Driver) (frame : List UInt8) : Driver :=
  match driver.pool.acquireWith frame with
  | (none, pool) => { driver with pool := pool }
  | (some buffer, pool) => { driver with pool := pool }.transmit buffer

/-- Put a command into a free buffer and transmit it, or count that it was given up.  Gives whether
there was a buffer for it. -/
def sendCommand (driver : Driver) (command : Radio.Command) : Bool × Driver :=
  match driver.pool.acquireFor command with
  | (none, pool) => (false, { driver with pool := pool, tally := .sendDeferred :: driver.tally })
  | (some buffer, pool) => (true, { driver with pool := pool }.transmit buffer)

/-- Send a frame and take what reached the peer. -/
def sendAndDrain (driver : Driver) (frame : List UInt8) : List (List UInt8) × Driver :=
  let driver := driver.send frame
  let drained := driver.channel.drain
  (drained.1, { driver with channel := drained.2 })

/-- End the rounds and close the channel. -/
def close (driver : Driver) : Except LinkError Driver :=
  if driver.opened then
    let pool := match driver.spare with
      | some buffer => driver.pool.release buffer
      | none => driver.pool
    .ok { driver with
      channel := driver.channel.close, pool := pool, spare := none
      running := false, opened := false }
  else .error .closed

/-- The consumer goes away; what it was given and did not take is released. -/
def dropConsumer (driver : Driver) : Driver :=
  { driver with consumer := false, queue := [], pool := driver.pool.releaseAll driver.queue }

/-- The driver goes away: it is closed unless it was closed before. -/
def dropped (driver : Driver) : Driver :=
  match driver.close with
  | .ok driver => driver
  | .error _ => driver

end Driver

end AlarmMesh.Link
