import AlarmMesh.Link.Buffer
import AlarmMesh.Radio.DeviceId
import AlarmMesh.Shadow.Property
import AlarmMesh.Shadow.Value

/-!
# What the gateway is told to do

Operations come from the platform, one by one or as wishes for properties that changed together.
They wait with the received frames in one `Inbox`, in order of arrival.
-/

namespace AlarmMesh.Gateway

open Radio (DeviceId)
open Shadow (Property Value)

/-- A wish for a property changed. -/
structure Delta where
  device : DeviceId
  property : Property
  /-- What is wished for now. -/
  value : Value
  deriving DecidableEq, Repr

/-- An operation. -/
inductive Control where
  /-- Start a missing-node test. -/
  | beginScan (delete : Bool)
  /-- Stop a missing-node test. -/
  | stopScan
  /-- Sound a test on the network. -/
  | issueTest
  /-- Turn learn mode on or off; 0 seconds stand for no limit. -/
  | learn (enabled : Bool) (seconds : Nat)
  /-- Leave the network. -/
  | leave
  /-- Remove every device. -/
  | flushAll
  /-- Remove one device. -/
  | flush (id : DeviceId)
  /-- Make a device show itself. -/
  | identify (id : DeviceId)
  /-- Silence every alarm that sounds. -/
  | silenceAll
  /-- Find the device whose alarm came first. -/
  | locate
  /-- Enable or mute the sounder of a device. -/
  | sounder (id : DeviceId) (enabled : Bool)
  /-- Wishes that changed together. -/
  | deltas (changes : List Delta)
  deriving DecidableEq, Repr

/-- What the gateway deals with, in order of arrival. -/
inductive Message where
  /-- A frame without escapes, in a buffer of its own. -/
  | received (frame : Link.Buffer)
  | control (operation : Control)
  /-- Stop. -/
  | shutdown
  deriving DecidableEq, Repr

/-- The buffer that a message owns. -/
def Message.buffer? : Message → Option Link.Buffer
  | received frame => some frame
  | _ => none

/-- What waits for the gateway. -/
structure Inbox where
  /-- The messages, oldest first. -/
  messages : List Message := []
  /-- The gateway takes messages. -/
  isOpen : Bool := true
  deriving DecidableEq, Repr

namespace Inbox

/-- Put a message behind the others.  Gives whether the gateway takes messages. -/
def post (inbox : Inbox) (message : Message) : Bool × Inbox :=
  if inbox.isOpen then (true, { inbox with messages := inbox.messages ++ [message] })
  else (false, inbox)

/-- Put messages behind the others, in order.  Gives the outcome for each. -/
def postAll (inbox : Inbox) : List Message → List Bool × Inbox
  | [] => ([], inbox)
  | message :: rest =>
    let posted := inbox.post message
    let others := posted.2.postAll rest
    (posted.1 :: others.1, others.2)

/-- The gateway takes every message there is and no more from now on. -/
def drainAndClose (inbox : Inbox) : List Message × Inbox :=
  (inbox.messages, { messages := [], isOpen := false })

end Inbox

end AlarmMesh.Gateway
