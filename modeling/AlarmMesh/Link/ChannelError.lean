/-!
# What can go wrong on a channel
-/

namespace AlarmMesh.Link

/-- Why a frame could not be read from a channel or written to it. -/
inductive ChannelError where
  /-- No complete frame is there yet. -/
  | wouldBlock
  /-- The channel was closed on this side. -/
  | notConnected
  /-- The other side is gone. -/
  | brokenPipe
  /-- A frame is longer than the room given for it. -/
  | tooLong (length room : Nat)
  /-- The other side sends nothing more. -/
  | endOfStream
  deriving DecidableEq, Repr

namespace ChannelError

/-- Nothing went wrong: there was only nothing to read yet. -/
def isTimeout : ChannelError → Bool
  | wouldBlock => true
  | _ => false

/-- The error in words, for the errors that come from the content of the channel. -/
def message? : ChannelError → Option String
  | tooLong length room =>
    some ("frame of " ++ toString length ++ " bytes exceeds " ++ toString room)
  | endOfStream => some "peer closed the connection"
  | _ => none

end ChannelError

end AlarmMesh.Link
