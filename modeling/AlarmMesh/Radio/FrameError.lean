import AlarmMesh.Text.Number

/-!
# What can be wrong with a frame
-/

namespace AlarmMesh.Radio

/-- Why a frame could not be read or written. -/
inductive FrameError where
  /-- The frame has no command byte. -/
  | empty
  /-- The command byte is not assigned. -/
  | unknownCommand (code : UInt8)
  /-- The second byte of an extended-diagnostic answer is not assigned. -/
  | unknownTopic (topic : UInt8)
  /-- The frame does not have the length of its layout. -/
  | length (command : UInt8) (expected actual : Nat)
  /-- The encoded command does not fit the space given for it. -/
  | noRoom (needed available : Nat)
  deriving DecidableEq, Repr

namespace FrameError

/-- The five kinds of error, used as labels. -/
inductive Reason where
  | empty
  | unknownCommand
  | unknownTopic
  | length
  | noRoom
  deriving DecidableEq, Repr

/-- The label of a kind of error. -/
def Reason.label : Reason → String
  | .empty => "empty"
  | .unknownCommand => "unknown_command"
  | .unknownTopic => "unknown_subcommand"
  | .length => "length"
  | .noRoom => "buffer"

/-- The kind of an error. -/
def reason : FrameError → Reason
  | empty => .empty
  | unknownCommand _ => .unknownCommand
  | unknownTopic _ => .unknownTopic
  | length .. => .length
  | noRoom .. => .noRoom

/-- The error in words. -/
def message : FrameError → String
  | empty => "empty frame"
  | unknownCommand code => "unknown command code: 0x" ++ Text.hexByte code
  | unknownTopic topic => "unknown extended-diagnostic sub-opcode: 0x" ++ Text.hexByte topic
  | length command expected actual =>
    "command 0x" ++ Text.hexByte command ++ ": expected " ++ toString expected ++ " bytes, got "
      ++ toString actual
  | noRoom needed available =>
    "buffer too small: need " ++ toString needed ++ " bytes, have " ++ toString available

end FrameError

end AlarmMesh.Radio
