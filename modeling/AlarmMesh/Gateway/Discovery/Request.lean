import AlarmMesh.Gateway.Discovery.Interrogation
import AlarmMesh.Gateway.Discovery.Session

/-!
# What discovery is asked to do

Requests of the platform, to test for missing devices and to turn learn mode on or off, and the
timers of discovery.
-/

namespace AlarmMesh.Gateway.Discovery

open Shadow (Mode)

/-! ## Missing-node test -/

/-- Forget how the last test ended. -/
def clearTestResult (d : Discovery) : Discovery :=
  d.onSite fun site => site.after (site.platform.deleteProperty .gateway .testModeResult)

/-- Interrogation gives way to a test. -/
def suspendInterrogation (d : Discovery) : Discovery :=
  (if d.interrogation.active then d.cancelInterrogate else d).setInterrogating false

/-- Start a test on request. -/
def startTest (d : Discovery) : Discovery :=
  let d := d.suspendInterrogation.clearTestResult
  if d.inNetwork then d.cancelMissing.beginSession else d.endTestMode

/-- Start or stop a missing-node test; `delete` says what becomes of missing devices. -/
def setTestMode (d : Discovery) (enabled delete : Bool) : Discovery :=
  let d := { d with scan := { d.scan with delete := delete } }
  if enabled = d.scan.active then d else if enabled then d.startTest else d.cancelSession

/-! ## Learn mode -/

/-- Enter learn mode for a number of seconds; 0 for no limit. -/
def enterLearnMode (d : Discovery) (seconds : Nat) : Discovery :=
  let d := { d with learning := true }.report .mode Mode.learning.value
  let d := if d.inNetwork then d else d.transmit .learnIn
  let d := d.restartRefresh d.settings.learnRefresh
  if 0 < seconds then d.restartLearn (.ofSeconds seconds) else d.cancelLearn

/-- Leave learn mode. -/
def leaveLearnMode (d : Discovery) : Discovery :=
  let d := { d with learning := false }.report .mode Mode.running.value
  (d.restartRefresh d.settings.normalRefresh).cancelLearn

/-- Turn learn mode on or off. -/
def setLearnMode (d : Discovery) (enabled : Bool) (seconds : Nat) : Discovery :=
  if enabled = d.learning then d
  else if enabled then d.enterLearnMode seconds
  else d.leaveLearnMode

/-- Leave the network: radio modules cannot do that. -/
def leaveNetwork (d : Discovery) : Discovery := d

/-! ## Timers -/

/-- A timer fired.  Timers that are none of discovery's mean nothing here. -/
def onTimer (d : Discovery) (kind : TimerKind) : Discovery :=
  match kind with
  | .retrieveSidMap => { d with refreshTimer := none }.refresh
  | .testMissingInit =>
    { d with missingTimer := none, scan := { d.scan with delete := true } }.beginSession
  | .testMissingTimeout => { d with missingTimer := none }.probe
  | .testMissingContinue => { d with missingTimer := none }.probe
  | .testMissingUpdateMap => { d with missingTimer := none }.updateMap
  | .learnModeTimeout => { d with learnTimer := none }.setLearnMode false 0
  | .interrogate => { d with interrogateTimer := none }.continueInterrogation
  | .faultTimeout _ | .alarmTimeout _ => d

end AlarmMesh.Gateway.Discovery
