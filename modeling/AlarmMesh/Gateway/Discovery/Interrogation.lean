import AlarmMesh.Gateway.Discovery.Basic

/-!
# Asking unknown slots

While there are occupied slots without a known device, they are asked one after the other who is
there.  Each slot is asked a limited number of times as long as it stays occupied.
-/

namespace AlarmMesh.Gateway.Discovery

/-- Turn the interrogation on or off. -/
def setInterrogating (d : Discovery) (active : Bool) : Discovery :=
  { d with interrogation := { d.interrogation with active := active } }.report
    .interrogating (.bool active)

/-- The next slot that may be asked, if there is one, and the interrogation after looking for it.
The gateway's slot and those that devices report are not asked. -/
def nextUnknown (d : Discovery) : Option UInt8 × Interrogation :=
  let known := d.site.knownSids
  d.interrogation.next (fun sid => sid ≠ d.gatewaySid && !known.contains sid) d.current.contains
    d.settings.maxInterrogations.toNat Radio.slotCount

/-- Ask the next slot, or end the interrogation if none is left to ask. -/
def continueInterrogation (d : Discovery) : Discovery :=
  if d.interrogation.active then
    let found := d.nextUnknown
    let d := { d with interrogation := found.2 }
    match found.1 with
    | some sid =>
      (d.transmit (.requestRemoteId sid)).restartInterrogate d.settings.interrogationPeriod
    | none => d.setInterrogating false
  else d

/-- Start or end the interrogation as there are unknown slots or not.  A session comes first. -/
def checkInterrogation (d : Discovery) : Discovery :=
  if d.scan.active then d
  else if 0 < d.unknown then
    if d.interrogation.active then d
    else
      ({ d with interrogation := { d.interrogation with cursor := 0 } }.setInterrogating
        true).continueInterrogation
  else if d.interrogation.active then d.cancelInterrogate.setInterrogating false
  else d

end AlarmMesh.Gateway.Discovery
