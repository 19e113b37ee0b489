import AlarmMesh.Gateway.Network
import AlarmMesh.Gateway.Site

/-!
# Discovery

The network state at work on a site.  Here are the operations that everything in discovery is
made of: sending, reporting about the gateway, the four timers, the start, and the regular request
for the SID map.
-/

namespace AlarmMesh.Gateway

open Radio (Command DeviceId)
open Shadow (Property Value)

/-- The network state and the site it works on. -/
structure Discovery extends Network where
  site : Site
  deriving Repr

namespace Discovery

/-- Change the site alone. -/
def onSite (d : Discovery) (f : Site → Site) : Discovery := { d with site := f d.site }

/-- Report a property of the gateway. -/
def report (d : Discovery) (property : Property) (value : Value) : Discovery :=
  d.onSite fun site => site.report .gateway property value

/-- Send a command.  Gives whether there was a buffer for it. -/
def send (d : Discovery) (command : Command) : Bool × Discovery :=
  let sent := d.site.send command
  (sent.1, { d with site := sent.2 })

/-- Send a command, or give it up. -/
def transmit (d : Discovery) (command : Command) : Discovery := (d.send command).2

/-! ## Timers -/

/-- Ask for the SID map after a delay. -/
def restartRefresh (d : Discovery) (delay : Duration) : Discovery :=
  let started := d.site.restart d.refreshTimer .retrieveSidMap delay
  { d with refreshTimer := some started.1, site := started.2 }

/-- Go on with the missing-node test after a delay. -/
def restartMissing (d : Discovery) (kind : TimerKind) (delay : Duration) : Discovery :=
  let started := d.site.restart d.missingTimer kind delay
  { d with missingTimer := some started.1, site := started.2 }

/-- Do not go on with the missing-node test by itself. -/
def cancelMissing (d : Discovery) : Discovery :=
  { d with missingTimer := none, site := d.site.cancel d.missingTimer }

/-- End learn mode after a delay. -/
def restartLearn (d : Discovery) (delay : Duration) : Discovery :=
  let started := d.site.restart d.learnTimer .learnModeTimeout delay
  { d with learnTimer := some started.1, site := started.2 }

/-- Do not end learn mode by itself. -/
def cancelLearn (d : Discovery) : Discovery :=
  { d with learnTimer := none, site := d.site.cancel d.learnTimer }

/-- Go on with the interrogation after a delay. -/
def restartInterrogate (d : Discovery) (delay : Duration) : Discovery :=
  let started := d.site.restart d.interrogateTimer .interrogate delay
  { d with interrogateTimer := some started.1, site := started.2 }

/-- Do not go on with the interrogation by itself. -/
def cancelInterrogate (d : Discovery) : Discovery :=
  { d with interrogateTimer := none, site := d.site.cancel d.interrogateTimer }

/-! ## The regular request -/

/-- The time between two requests for the SID map. -/
def refreshPeriod (d : Discovery) : Duration :=
  if d.learning then d.settings.learnRefresh else d.settings.normalRefresh

/-- Ask for the SID map, unless a session is running, and do so again after a while. -/
def refresh (d : Discovery) : Discovery :=
  let d := if d.scan.active then d else d.transmit .requestSidMap
  d.restartRefresh d.refreshPeriod

end Discovery

/-! ## Devices in the shadow -/

namespace Site

/-- What every mesh device reports and is told about from the beginning.  A device that was muted
stays so. -/
def initDevice (site : Site) (id : DeviceId) : Site :=
  let site := site.report id .faultSummary (.bool false)
  let site := if (site.reported id .mute).isNone then site.report id .mute (.bool false) else site
  let site := site.report id .flushCommand (.bool false)
  let site := site.report id .identifyCommand (.ofNat 0)
  [Property.mute, .flushCommand, .identifyCommand].foldl (fun site => site.subscribe id) site

end Site

namespace Discovery

/-- Begin with nothing known of the network. -/
def start (d : Discovery) : Discovery :=
  let d := { d with inNetwork := false }.report .inNetwork (.bool false)
  let d := { d with interrogation := { d.interrogation with active := false } }.report
    .interrogating (.bool false)
  let d := d.restartRefresh d.settings.startupFetch
  let d := d.restartMissing .testMissingInit d.settings.missingTestPeriod
  d.onSite fun site => site.meshDevices.foldl Site.initDevice site

end Discovery

end AlarmMesh.Gateway
