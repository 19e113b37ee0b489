import AlarmMesh.Config.Settings
import AlarmMesh.Radio.Command
import AlarmMesh.Time.TimerQueue

/-!
# What is known of the network

The state of network membership: the last SID map, the missing-node test and the interrogation of
unknown slots, learn mode, and the handles of the four timers that keep them going.

A missing-node test is a *session* of two phases.  While probing, the SID map is sent again and
again, and each answer narrows down which slots are missing.  If the session may delete devices,
the map without the missing slots is then sent until the network has taken it over.
-/

namespace AlarmMesh.Gateway

open Radio (SidMap)

/-- Where a missing-node test is. -/
inductive ScanPhase where
  /-- No session is running. -/
  | idle
  /-- The network is asked for missing slots. -/
  | probing
  /-- The network is told the map without them. -/
  | updatingMap
  deriving DecidableEq, Repr

/-- A missing-node test, running or not. -/
structure Scan where
  /-- A session is running. -/
  active : Bool := false
  started : Option Instant := none
  /-- When the last probe was sent. -/
  lastRequest : Option Instant := none
  /-- Missing devices are deleted at the end. -/
  delete : Bool := false
  /-- Reports counted. -/
  replies : Nat := 0
  /-- Probes without a report so far. -/
  outstanding : Nat := 0
  /-- While probing, the slots missing in every report; then the map that is left without them. -/
  removal : SidMap := .full
  /-- How often that map was sent. -/
  updateCount : Nat := 0
  ranOutOfTime : Bool := false
  /-- A test follows right after this session. -/
  rerun : Bool := false
  /-- Endings of sessions until all devices count as deleted; 0 if that was not asked for. -/
  flushingAll : Nat := 0
  deriving DecidableEq, Repr

/-- The phase of a test. -/
def Scan.phase (scan : Scan) : ScanPhase :=
  if !scan.active then .idle else if scan.updateCount = 0 then .probing else .updatingMap

/-- Asking unknown slots who they are, slot by slot around the network. -/
structure Interrogation where
  active : Bool := false
  /-- The next slot to look at. -/
  cursor : UInt8 := 0
  /-- How often each slot was asked. -/
  attempts : List Nat := List.replicate Radio.slotCount 0
  deriving DecidableEq, Repr

/-- What is known of the network. -/
structure Network where
  settings : Config.DiscoverySettings := {}
  /-- The last SID map received. -/
  current : SidMap := .empty
  /-- The gateway is joined to a network. -/
  inNetwork : Bool := false
  /-- Learn mode is on. -/
  learning : Bool := false
  /-- The slot of the gateway's own radio module. -/
  gatewaySid : UInt8 := Radio.unlearntSid
  /-- Occupied slots without a known device, not counting the gateway's. -/
  unknown : Nat := 0
  /-- The radio module was asked about itself. -/
  diagnosticsRequested : Bool := false
  scan : Scan := {}
  interrogation : Interrogation := {}
  refreshTimer : Option TimerHandle := none
  missingTimer : Option TimerHandle := none
  learnTimer : Option TimerHandle := none
  interrogateTimer : Option TimerHandle := none
  deriving DecidableEq, Repr

/-- The phase of the missing-node test. -/
def Network.phase (network : Network) : ScanPhase := network.scan.phase

/-! ## Walking the ring of slots -/

namespace Interrogation

/-- Look at up to `slots` slots for one that is worth asking.  Gives it, counted as asked, with the
cursor behind it.  A slot that is not occupied loses its count. -/
def next (eligible occupied : UInt8 → Bool) (most : Nat) :
    (slots : Nat) → Interrogation → Option UInt8 × Interrogation
  | 0, interrogation => (none, interrogation)
  | slots + 1, interrogation =>
    let sid := interrogation.cursor
    let asked := interrogation.attempts.getD sid.toNat 0
    let moved := { interrogation with cursor := (sid + 1) % 64 }
    if !occupied sid then
      next eligible occupied most slots { moved with attempts := moved.attempts.set sid.toNat 0 }
    else if eligible sid && asked < most then
      (some sid, { moved with attempts := moved.attempts.set sid.toNat (asked + 1) })
    else
      next eligible occupied most slots moved

end Interrogation

end AlarmMesh.Gateway
