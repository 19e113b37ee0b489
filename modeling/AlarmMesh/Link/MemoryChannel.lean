import AlarmMesh.Link.ChannelError
import AlarmMesh.Link.Stuffing

/-!
# A channel in memory

Carries whole wire frames between the gateway and a peer that plays the radio module.
-/

namespace AlarmMesh.Link

/-- Both directions of a channel held in memory. -/
structure MemoryChannel where
  /-- Frames for the gateway, the next one first. -/
  inbound : List (List UInt8) := []
  /-- Frames for the peer, the next one first. -/
  outbound : List (List UInt8) := []
  /-- The gateway has closed its side. -/
  closed : Bool := false
  /-- The peer is there. -/
  peer : Bool := true
  deriving DecidableEq, Repr

namespace MemoryChannel

/-! ## The side of the peer -/

/-- Queue a wire frame for the gateway. -/
def send (channel : MemoryChannel) (wire : List UInt8) : MemoryChannel :=
  if channel.peer then { channel with inbound := channel.inbound ++ [wire] } else channel

/-- The next frame that the gateway wrote. -/
def receive (channel : MemoryChannel) : Option (List UInt8) × MemoryChannel :=
  match channel.outbound with
  | [] => (none, channel)
  | wire :: rest => (some wire, { channel with outbound := rest })

/-- Every frame that the gateway wrote and the peer has not taken yet. -/
def drain (channel : MemoryChannel) : List (List UInt8) × MemoryChannel :=
  (channel.outbound, { channel with outbound := [] })

/-- The peer goes away. -/
def dropPeer (channel : MemoryChannel) : MemoryChannel :=
  { channel with peer := false, outbound := [] }

/-! ## The side of the gateway -/

/-- A read will find a frame. -/
def ready (channel : MemoryChannel) : Bool := !channel.inbound.isEmpty

/-- A wire frame without its terminator, if it ends with one. -/
def withoutTerminator (wire : List UInt8) : List UInt8 :=
  if wire.getLast? = some flag then wire.dropLast else wire

/-- Take the next frame, without its terminator.  A frame that exceeds the room is lost. -/
def readFrame (channel : MemoryChannel) (room : Nat) :
    Except ChannelError (List UInt8) × MemoryChannel :=
  match channel.inbound with
  | [] => (.error .wouldBlock, channel)
  | wire :: rest =>
    let frame := withoutTerminator wire
    (if room < frame.length then .error (.tooLong frame.length room) else .ok frame,
      { channel with inbound := rest })

/-- Write one wire frame. -/
def writeFrame (channel : MemoryChannel) (wire : List UInt8) :
    Except ChannelError MemoryChannel :=
  if channel.closed then .error .notConnected
  else if channel.peer then .ok { channel with outbound := channel.outbound ++ [wire] }
  else .error .brokenPipe

/-- Close the gateway's side. -/
def close (channel : MemoryChannel) : MemoryChannel := { channel with closed := true }

end MemoryChannel

end AlarmMesh.Link
