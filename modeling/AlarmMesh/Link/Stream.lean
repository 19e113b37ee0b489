import AlarmMesh.Link.Buffer
import AlarmMesh.Link.ChannelError

/-!
# Frames out of a byte stream

A stream delivers bytes in pieces of any size, with pauses in between.  A `StreamReader` keeps
the bytes that no frame was made of yet and whether they hold a complete frame; a read takes
pieces until it has one.

* `takeFrame` — the next frame of the kept bytes; empty frames are skipped;
* `readFrame` — the same over the pieces still to come, kept bytes that grow too long without a
  terminator being thrown away;
* `Arrival.ofBytes` — a stream cut into pieces of one size.
-/

namespace AlarmMesh.Link

/-- What the next read of the stream gives. -/
inductive Arrival where
  /-- Some bytes. -/
  | bytes (piece : List UInt8)
  /-- Nothing within the time of one poll. -/
  | pause
  deriving DecidableEq, Repr

namespace Arrival

/-- Most bytes that one read takes. -/
def readSize : Nat := 64

/-- Cut `stream` into at most `pieces` pieces of `size` bytes. -/
def cut (size : Nat) : (pieces : Nat) → List UInt8 → List Arrival
  | 0, _ => []
  | _, [] => []
  | pieces + 1, stream => .bytes (stream.take size) :: cut size pieces (stream.drop size)

/-- A stream that is there at once, as reads take it. -/
def ofBytes (stream : List UInt8) : List Arrival := cut readSize stream.length stream

end Arrival

/-- What a reader of a stream remembers between two reads. -/
structure StreamReader where
  /-- Bytes read that no frame was made of. -/
  pending : List UInt8 := []
  /-- The pending bytes hold a terminator, as far as is known. -/
  buffered : Bool := false
  deriving DecidableEq, Repr

namespace StreamReader

/-- Most pending bytes without a terminator. -/
def maxUnterminated : Nat := 4 * bufferCapacity

/-- The next frame that is not empty, if the pending bytes hold one. -/
def takeFrame (reader : StreamReader) : Option (List UInt8) × StreamReader :=
  if reader.pending.contains flag then
    let rest := reader.pending.dropWhile (· == flag)
    if rest.contains flag then
      let frame := rest.takeWhile (· != flag)
      let after := rest.drop (frame.length + 1)
      (some frame, { pending := after, buffered := after.contains flag })
    else (none, { pending := rest, buffered := false })
  else (none, reader)

/-- Throw the pending bytes away if there are too many of them. -/
def resynchronised (reader : StreamReader) : StreamReader :=
  if maxUnterminated < reader.pending.length then { reader with pending := [] } else reader

/-- A frame as a read gives it, if it has the room. -/
def delivered (frame : List UInt8) (room : Nat) : Except ChannelError (List UInt8) :=
  if room < frame.length then .error (.tooLong frame.length room) else .ok frame

/-- Read the next frame.  Gives also the reader and the arrivals that are left. -/
def readFrame (room : Nat) (reader : StreamReader) (arrivals : List Arrival) :
    Except ChannelError (List UInt8) × StreamReader × List Arrival :=
  match reader.takeFrame with
  | (some frame, reader) => (delivered frame room, reader, arrivals)
  | (none, reader) =>
    let reader := reader.resynchronised
    match arrivals with
    | [] => (.error .endOfStream, reader, [])
    | .pause :: rest => (.error .wouldBlock, reader, rest)
    | .bytes piece :: rest =>
      readFrame room { reader with pending := reader.pending ++ piece } rest
  termination_by structural arrivals

/-- Whether a read is likely to find a frame. -/
def ready (reader : StreamReader) (arrivals : List Arrival) : Except ChannelError Bool :=
  if reader.buffered then .ok true
  else
    match arrivals with
    | [] => .error .endOfStream
    | .pause :: _ => .ok false
    | .bytes _ :: _ => .ok true

/-- One wait and the read after it. -/
structure Reading where
  ready : Except ChannelError Bool
  result : Except ChannelError (List UInt8)

/-- Wait and read until the end of the stream, at most `reads` times. -/
def readings (room : Nat) : (reads : Nat) → StreamReader → List Arrival → List Reading
  | 0, _, _ => []
  | reads + 1, reader, arrivals =>
    let next := readFrame room reader arrivals
    let reading := ⟨reader.ready arrivals, next.1⟩
    match next.1 with
    | .error .endOfStream => [reading]
    | _ => reading :: readings room reads next.2.1 next.2.2

end StreamReader

end AlarmMesh.Link
