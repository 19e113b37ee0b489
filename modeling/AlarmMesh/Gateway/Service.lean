import AlarmMesh.Gateway.Engine
import AlarmMesh.Link.Stream

/-!
# A running gateway

An engine on a byte stream.  Time and bytes come in, and bytes go out; when to look for either is
left to whoever holds the service.

* `Service.start` — a started engine, in learn mode if asked;
* `Service.wake` — time has passed;
* `Service.receive` — bytes came in; frames wait until there are buffers for them;
* `Service.takeOutput` — the bytes to be sent.
-/

namespace AlarmMesh.Gateway

/-- An engine, and the stream that its frames come from. -/
structure Service where
  engine : Engine
  reader : Link.StreamReader := {}
  /-- Frames that were too long for a buffer. -/
  oversized : Nat := 0
  deriving Repr

namespace Service

/-- Start an engine, and learn mode if it is to last for some seconds. -/
def start (settings : Config.Settings) (clock : Clock) (learn : Option Nat) : Service :=
  let site : Site := { pool := .ofSlots settings.link.poolSlots, clock := clock }
  let engine := (Engine.ofSettings settings site).start
  match learn with
  | some seconds => { engine := engine.fireDue.control (.learn true seconds) }
  | none => { engine := engine }

/-- Set the clock, and deal with the timers that are due. -/
def wake (service : Service) (clock : Clock) : Service :=
  let engine := service.engine.onSite fun site => { site with clock := clock }
  { service with engine := engine.fireDue }

/-- There is a buffer for another frame. -/
def hasRoom (service : Service) : Bool := service.engine.site.pool.available ≠ 0

/-- Deal with a stuffed frame in a buffer of its own. -/
def handle (service : Service) (frame : List UInt8) : Service :=
  match service.engine.site.pool.acquireWith frame with
  | (none, _) => service
  | (some buffer, pool) =>
    let engine := service.engine.onSite fun site => { site with pool := pool }
    { service with engine := engine.fireDue.handle (.received buffer.unescape) }

/-- Deal with up to `frames` frames of the bytes received, as long as there are buffers. -/
def handleUpTo : (frames : Nat) → Service → Service
  | 0, service => service
  | frames + 1, service =>
    if service.hasRoom then
      match service.reader.readFrame Link.bufferCapacity [.pause] with
      | (.ok frame, reader, _) => handleUpTo frames ({ service with reader := reader }.handle frame)
      | (.error (.tooLong _ _), reader, _) =>
        handleUpTo frames { service with reader := reader, oversized := service.oversized + 1 }
      | (.error _, reader, _) => { service with reader := reader }
    else service

/-- Receive bytes, and deal with the frames that they complete. -/
def receive (service : Service) (bytes : List UInt8) : Service :=
  let reader := { service.reader with pending := service.reader.pending ++ bytes }
  handleUpTo (reader.pending.length + 1) { service with reader := reader }

/-- The bytes to be sent, each frame stuffed and terminated.  What was counted is forgotten. -/
def takeOutput (service : Service) : List UInt8 × Service :=
  let sent := service.engine.site.sent.reverse
  let engine := service.engine.onSite fun site => { site with sent := [], tally := [] }
  (sent.flatMap fun command => Link.toWire command.bytes, { service with engine := engine })

/-- Milliseconds until something is to be done, at most `most`. -/
def pause (service : Service) (most : Nat) : Nat :=
  match service.engine.site.timers.nextDeadline with
  | none => most
  | some deadline => min most ((deadline - service.engine.site.clock.now + 999999) / 1000000)

end Service

end AlarmMesh.Gateway
