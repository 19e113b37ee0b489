import AlarmMesh.Gateway.Discovery.Basic

/-!
# The missing-node test

A session probes the network until enough reports are in, or one of them names no slot that was
missing all along.  Then, if devices may be deleted and some are missing, it sends the map without
them until that is confirmed or was done often enough, and deletes every device that is offline.

* `beginSession` — the first probe, or another attempt later;
* `probe` — a further probe, or the end if the session has lasted too long;
* `receiveMissing` — a report;
* `updateMap` — the next step once probing is over;
* `finishSession` — the end, whatever led to it;
* `flush`, `flushAll` — sessions that start in their second phase.
-/

namespace AlarmMesh.Gateway

open Radio (DeviceId SidMap)
open Shadow (Mode Presence)

/-- From the end of a session to the test that was put off for it. -/
def rerunDelay : Duration := .ofMillis 1

/-- From a probe that no buffer was free for to the next attempt. -/
def probeRetryDelay : Duration := .ofSeconds 1

namespace Site

/-- The device was left out of an acknowledged SID map. -/
def isFlaggedMissing (site : Site) (id : DeviceId) : Bool :=
  ((site.reported id .missing).bind Shadow.Value.asBool).getD false

/-- Report whether a device is in the network, given the slots that are missing. -/
def markDevice (missing : SidMap) (site : Site) (id : DeviceId) : Site :=
  match site.slotOf id with
  | some sid =>
    let offline := missing.contains sid || site.isFlaggedMissing id
    site.report id .presence (if offline then Presence.offline else Presence.online).value
  | none => site

/-- The device is reported offline. -/
def isOffline (site : Site) (id : DeviceId) : Bool :=
  (site.reported id .presence).bind Presence.ofValue? = some .offline

/-- Delete a device if it is offline. -/
def deleteIfOffline (site : Site) (id : DeviceId) : Site :=
  if site.isOffline id then
    match site.platform.delete id with
    | .ok platform => { site with platform := platform }.count .deviceDeleted
    | .error _ => site
  else site

end Site

namespace Discovery

/-! ## The end -/

/-- Report whether every device is in the network, as far as probing told. -/
def markDevices (d : Discovery) : Discovery :=
  d.onSite fun site => site.meshDevices.foldl (Site.markDevice d.scan.removal) site

/-- Delete every device that is offline. -/
def deleteOffline (d : Discovery) : Discovery :=
  d.onSite fun site => site.meshDevices.foldl Site.deleteIfOffline site

/-- Report the end of a test, and that the gateway is running as usual. -/
def endTestMode (d : Discovery) : Discovery :=
  d.onSite fun site =>
    site.reportGroup .gateway [(.testModeResult, .bool true), (.mode, Mode.running.value)]

/-- All devices count as deleted: report what was wished for. -/
def completeFlushAll (d : Discovery) : Discovery :=
  let d := { d with scan := { d.scan with flushingAll := 0 } }
  match d.site.desired .gateway .deleteAllCommand with
  | some value => d.report .deleteAllCommand value
  | none => d

/-- One of the endings is over that the deletion of all devices takes. -/
def countFlushAll (d : Discovery) : Discovery :=
  match d.scan.flushingAll with
  | 0 => d
  | 1 => d.completeFlushAll
  | left + 2 => { d with scan := { d.scan with flushingAll := left + 1 } }

/-- The session deletes what is offline at its end. -/
def deletesAtEnd (d : Discovery) : Bool := d.scan.delete && !d.scan.ranOutOfTime

/-- End the session. -/
def finishSession (d : Discovery) : Discovery :=
  let d := if d.deletesAtEnd then d.deleteOffline else d
  let d := d.countFlushAll.onSite fun site => site.count .scanCompleted
  let delay := if d.scan.rerun then rerunDelay else d.settings.missingTestPeriod
  let d := { d with
    scan := { d.scan with updateCount := 0, active := false, delete := false, rerun := false } }
  (d.restartMissing .testMissingInit delay).endTestMode

/-! ## The second phase -/

/-- The current map without the missing slots; empty if only one slot is left, the gateway's. -/
def keptMap (d : Discovery) : SidMap :=
  let kept := d.current.difference d.scan.removal
  if kept.count = 1 then .empty else kept

/-- Some slot of the current map is missing. -/
def someMissing (d : Discovery) : Bool := d.current.difference d.scan.removal ≠ d.current

/-- Send the map that is left, and go on after a while. -/
def pushMap (d : Discovery) : Discovery :=
  let d := match d.send (.updateSidMap d.scan.removal) with
    | (true, d) => { d with scan := { d.scan with updateCount := d.scan.updateCount + 1 } }
    | (false, d) => d
  d.restartMissing .testMissingUpdateMap d.settings.updateDeletePeriod

/-- The reduced map was sent, or counts as sent, often enough. -/
def mapUpdated (d : Discovery) : Bool := d.settings.updateDeleteCount ≤ d.scan.updateCount

/-- Take the next step once probing is over: end the session, or send the map without the missing
slots.  If none is missing there is nothing to send, and the session ends at once. -/
def updateMap (d : Discovery) : Discovery :=
  let d := d.cancelMissing
  if d.scan.ranOutOfTime || d.mapUpdated || !d.scan.delete then d.finishSession
  else if d.scan.updateCount = 0 then
    let missing := d.someMissing
    let d := { d with scan := { d.scan with outstanding := 0, removal := d.keptMap } }
    if missing then d.pushMap
    else
      let d := { d with scan := { d.scan with updateCount := d.settings.updateDeleteCount } }
      let d := d.finishSession
      if 0 < d.scan.flushingAll then d.completeFlushAll else d
  else d.pushMap

/-- Give the running session up. -/
def cancelSession (d : Discovery) : Discovery :=
  if d.scan.active then { d with scan := { d.scan with ranOutOfTime := true } }.updateMap else d

/-! ## Probing -/

/-- The time since the session began. -/
def elapsed (d : Discovery) : Duration :=
  match d.scan.started with
  | some started => d.site.clock.since started
  | none => ⟨0⟩

/-- The session has lasted longer than it may. -/
def isOverdue (d : Discovery) : Bool := d.settings.maxTestDuration < d.elapsed

/-- Try to begin a session later. -/
def postpone (d : Discovery) : Discovery :=
  d.restartMissing .testMissingInit
    (if d.inNetwork then d.settings.minSpacing else d.settings.missingTestPeriod)

/-- A session begins: its first probe was sent. -/
def sessionStarted (d : Discovery) : Discovery :=
  let now := d.site.clock.now
  let scan := { d.scan with
    active := true, started := some now, lastRequest := some now
    outstanding := d.scan.outstanding + 1 }
  { d with scan := scan }.restartMissing .testMissingTimeout d.settings.replyTimeout

/-- Begin a session, or try again later if the gateway is in no network or in learn mode, or if no
buffer is free. -/
def beginSession (d : Discovery) : Discovery :=
  if d.scan.active then d
  else
    let d := { d with
      scan := { delete := d.scan.delete, flushingAll := d.scan.flushingAll } }
    if !d.inNetwork then
      (if 0 < d.scan.flushingAll then d.completeFlushAll else d).postpone
    else if d.learning then d.postpone
    else
      match d.send (.updateSidMap d.current) with
      | (true, d) => d.sessionStarted
      | (false, d) => d.postpone

/-- The session ran out of time. -/
def runOut (d : Discovery) : Discovery :=
  { d with scan := { d.scan with ranOutOfTime := true } }.updateMap

/-- Send a further probe, if there is time for it. -/
def probe (d : Discovery) : Discovery :=
  if d.isOverdue then d.runOut
  else
    match d.send (.updateSidMap d.current) with
    | (true, d) =>
      let scan := { d.scan with
        lastRequest := some d.site.clock.now, outstanding := d.scan.outstanding + 1 }
      { d with scan := scan }.restartMissing .testMissingTimeout d.settings.replyTimeout
    | (false, d) => d.restartMissing .testMissingTimeout probeRetryDelay

/-- The time since the last probe. -/
def sinceProbe (d : Discovery) : Duration :=
  match d.scan.lastRequest with
  | some last => d.site.clock.since last
  | none => ⟨0⟩

/-- Go on after a report that leaves the question open: no two probes closer than allowed. -/
def probeWhenDue (d : Discovery) : Discovery :=
  if d.settings.minSpacing ≤ d.sinceProbe then d.probe
  else
    d.restartMissing .testMissingContinue
      ⟨d.settings.minSpacing.nanoseconds - d.sinceProbe.nanoseconds⟩

/-- Count a report of missing slots. -/
def countReport (d : Discovery) (map : SidMap) : Discovery :=
  let d := d.cancelMissing
  { d with scan := { d.scan with
    replies := d.scan.replies + 1
    outstanding := d.scan.outstanding - 1
    removal := d.scan.removal.intersection map } }

/-- Probing is over: there are enough reports, or no slot was missing in all of them. -/
def isDecided (d : Discovery) : Bool :=
  d.settings.requiredScans ≤ d.scan.replies || d.scan.removal.isEmpty

/-- A report of missing slots arrived.  It answers a probe if one is outstanding; while the map is
being updated, an empty one confirms the update; otherwise it means nothing. -/
def receiveMissing (d : Discovery) (map : SidMap) : Discovery :=
  if 0 < d.scan.outstanding then
    if d.isOverdue then d.runOut
    else
      let d := d.countReport map
      if d.isDecided then d.markDevices.updateMap else d.probeWhenDue
  else if 0 < d.scan.updateCount && map.isEmpty then
    { d with scan := { d.scan with updateCount := d.settings.updateDeleteCount } }.updateMap
  else d

/-! ## Removing devices -/

/-- A session that takes `slots` out of the map without probing, a test following it. -/
def aimAt (d : Discovery) (slots : SidMap) : Discovery :=
  { d with scan := { d.scan with
    removal := slots, updateCount := 0, ranOutOfTime := false, delete := true, active := true
    rerun := true } }

/-- Give the running session up for one that removes every device. -/
def beginFlushAll (d : Discovery) : Discovery :=
  let d := d.cancelSession.onSite fun site =>
    site.meshDevices.foldl (fun site id => site.report id .presence Presence.offline.value) site
  { d with scan := { d.scan with flushingAll := 2 } }.aimAt d.current

/-- Remove every device. -/
def flushAll (d : Discovery) : Discovery :=
  if 0 < d.scan.flushingAll then d else d.beginFlushAll.updateMap

/-- Give the running session up for one that removes the device at a slot. -/
def beginFlush (d : Discovery) (id : DeviceId) (sid : UInt8) : Discovery :=
  (d.cancelSession.onSite fun site => site.report id .presence Presence.offline.value).aimAt
    (.ofList [sid])

/-- Remove one device. -/
def flush (d : Discovery) (id : DeviceId) : Discovery :=
  match d.site.slotOf id with
  | none => d
  | some sid => (d.beginFlush id sid).updateMap

end Discovery

end AlarmMesh.Gateway
