import AlarmMesh.Device.Profile
import AlarmMesh.Gateway.Discovery.Interrogation
import AlarmMesh.Radio.Report

/-!
# Members of the network

SID maps and identities as they arrive: which slots are occupied, which devices have left, and
which device is at which slot.
-/

namespace AlarmMesh.Gateway

open Radio (Identity RadioStatus SidMap)
open Shadow (Presence)

/-- Whom every mesh device is reported to be made by. -/
def manufacturer : String := "Sprue"

namespace Site

/-- Report who a device is. -/
def writeIdentity (site : Site) (identity : Identity) (presence : Presence) : Site :=
  site.reportGroup identity.id
    [(.manufacturer, .text manufacturer),
      (.modelValue, .ofNat identity.model.toNat),
      (.model, .text (toString identity.model.toNat)),
      (.presence, presence.value),
      (.sid, .ofNat identity.sid.toNat),
      (.tested, .integer site.clock.unix)]

/-- Report a device as missing if its slot is not in a map. -/
def markUnlessIn (map : SidMap) (site : Site) (id : Radio.DeviceId) : Site :=
  match site.slotOf id with
  | some sid =>
    if map.contains sid then site
    else (site.report id .presence Presence.offline.value).report id .missing (.bool true)
  | none => site

end Site

namespace Discovery

/-! ## SID maps -/

/-- Set the number of unknown slots, and show it. -/
def setUnknown (d : Discovery) (unknown : Nat) : Discovery :=
  ({ d with unknown := unknown }.report .unknownSids (.ofNat unknown)).onSite fun site =>
    { site with unknownGauge := some unknown }

/-- The radio module has not been asked about itself, or not in the network it is in. -/
def needsDiagnostics (d : Discovery) : Bool :=
  !d.diagnosticsRequested || (d.inNetwork && d.gatewaySid = Radio.unlearntSid)

/-- Ask the radio module about itself, if that is needed. -/
def requestDiagnostics (d : Discovery) : Discovery :=
  if d.needsDiagnostics then
    match d.send .radioDiagnosticRequest with
    | (true, d) => { d with diagnosticsRequested := true }
    | (false, d) => d
  else d

/-- A SID map arrived.  One of its slots is the gateway's, which no device reports. -/
def receiveSidMap (d : Discovery) (map : SidMap) : Discovery :=
  let unknown := (map.difference d.site.knownSids).count - 1
  let d := { d with inNetwork := map.inNetwork }.report .inNetwork (.bool map.inNetwork)
  let d := d.requestDiagnostics.setUnknown unknown
  { d with current := map }.checkInterrogation

/-- The network took over a SID map: the devices that it leaves out are missing. -/
def receiveSidMapUpdate (d : Discovery) (map : SidMap) : Discovery :=
  d.onSite fun site => site.meshDevices.foldl (Site.markUnlessIn map) site

/-- The local radio module told about itself. -/
def receiveDiagnostic (d : Discovery) (status : RadioStatus) : Discovery :=
  { d with gatewaySid := status.sid }.onSite fun site =>
    (site.report status.id .radioFaults (.ofNat status.radioFaults.toNat)).report
      status.id .rssi (.ofNat status.rssi.toNat)

/-- A device that was asked to show itself did so: start a test in the name of the gateway. -/
def receiveRumourTarget (d : Discovery) : Discovery :=
  d.transmit (.deviceTest (.ofNat 0) Radio.gatewayModel Radio.gatewayPriority)

/-! ## Identities -/

/-- There is one unknown slot less, if there was one. -/
def countKnown (d : Discovery) : Discovery :=
  if 0 < d.unknown then d.setUnknown (d.unknown - 1) else d

/-- Put a new device into the shadow. -/
def register (d : Discovery) (identity : Identity) (presence : Presence) : Discovery :=
  let d := d.countKnown
  match d.site.platform.register identity.id (Device.typeFor identity.model identity.priority) with
  | .error _ => d
  | .ok platform =>
    let site := { d.site with platform := platform }.count .deviceRegistered
    { d with site := (site.initDevice identity.id).writeIdentity identity presence }

/-- A device told who it is.  What it tells of a slot that is not occupied is ignored; a device
that is known already is written anew only if it told so by itself. -/
def receiveIdentity (d : Discovery) (identity : Identity) (presence : Presence) (real : Bool) :
    Discovery :=
  if !d.current.contains identity.sid then d
  else if !d.site.platform.isRegistered identity.id then d.register identity presence
  else if real then d.onSite fun site => site.writeIdentity identity presence
  else d

/-- A device answered who it is; the next unknown slot may be asked. -/
def receiveRemoteId (d : Discovery) (identity : Identity) : Discovery :=
  let d := d.receiveIdentity identity .online false
  if d.interrogation.active then d.cancelInterrogate.continueInterrogation else d

end Discovery

end AlarmMesh.Gateway
