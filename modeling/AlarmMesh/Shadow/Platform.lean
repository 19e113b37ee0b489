import AlarmMesh.Shadow.Store

/-!
# The shadow as the gateway sees it

The gateway works on the store through a connection that may be down in part: an `Outage` makes
one kind of call fail, for every property or for one.  Every call checks for outages before it
reaches the store; without outages a platform is its store.

Three calls are built from others: a group of reports, an increment, and the search for the
device at a slot.
-/

namespace AlarmMesh.Shadow

open Radio (DeviceId)

/-- The kinds of call that can fail. -/
inductive Call where
  | register
  | delete
  | enumerate
  | getReported
  | setReported
  | getDesired
  | setDesired
  | deleteProperty
  | subscribe
  deriving DecidableEq, Repr

/-- Calls that fail at the moment. -/
structure Outage where
  call : Call
  /-- The one property that is affected; none for every call of the kind. -/
  property : Option Property := none
  deriving DecidableEq, Repr

/-- A store, and the calls to it that fail. -/
structure Platform where
  store : Store := {}
  outages : List Outage := []
  deriving Repr

namespace Platform

/-- A call about a property, or about none, fails. -/
def isDown (platform : Platform) (call : Call) (property : Option Property) : Bool :=
  platform.outages.any fun outage =>
    outage.call = call && (outage.property.isNone || outage.property = property)

/-- The outcome of a call that may be down. -/
def guarded {α : Type} (platform : Platform) (call : Call) (property : Option Property)
    (outcome : Except StoreError α) : Except StoreError α :=
  if platform.isDown call property then .error (.full 0) else outcome

/-- The platform after a call that may be down and changes the store. -/
def updated (platform : Platform) (call : Call) (property : Option Property)
    (outcome : Except StoreError Store) : Except StoreError Platform :=
  (platform.guarded call property outcome).map fun store => { platform with store := store }

/-- The device has a record.  This call does not fail. -/
def isRegistered (platform : Platform) (id : DeviceId) : Bool := platform.store.isRegistered id

/-- Every registered device, by ascending address. -/
def devices (platform : Platform) : Except StoreError (List DeviceId) :=
  platform.guarded .enumerate none (.ok platform.store.devices)

/-- Make sure the device has a record, and set its type. -/
def register (platform : Platform) (id : DeviceId) (deviceType : Nat) :
    Except StoreError Platform :=
  platform.updated .register none (platform.store.register id deviceType)

/-- Remove the record of a device. -/
def delete (platform : Platform) (id : DeviceId) : Except StoreError Platform :=
  platform.updated .delete none (platform.store.delete id)

/-- The reported value of a property. -/
def getReported (platform : Platform) (id : DeviceId) (property : Property) :
    Except StoreError Value :=
  platform.guarded .getReported (some property) (platform.store.getReported id property)

/-- Report a value of a property. -/
def setReported (platform : Platform) (id : DeviceId) (property : Property) (value : Value) :
    Except StoreError Platform :=
  platform.updated .setReported (some property) (platform.store.setReported id property value)

/-- The desired value of a property. -/
def getDesired (platform : Platform) (id : DeviceId) (property : Property) :
    Except StoreError Value :=
  platform.guarded .getDesired (some property) (platform.store.getDesired id property)

/-- Want a value of a property. -/
def setDesired (platform : Platform) (id : DeviceId) (property : Property) (value : Value) :
    Except StoreError Platform :=
  platform.updated .setDesired (some property) (platform.store.setDesired id property value)

/-- Remove a reported property. -/
def deleteProperty (platform : Platform) (id : DeviceId) (property : Property) :
    Except StoreError Platform :=
  platform.updated .deleteProperty (some property) (platform.store.deleteProperty id property)

/-- Ask to be told when the wish for a property changes. -/
def subscribe (platform : Platform) (id : DeviceId) (property : Property) :
    Except StoreError Platform :=
  platform.updated .subscribe (some property) (platform.store.subscribe id property)

/-! ## Calls built from others -/

/-- Report several values, one after the other, up to the first that fails.  Gives the failure,
if there was one, and the platform with what was reported before it. -/
def reportGroup (platform : Platform) (id : DeviceId) :
    List (Property × Value) → Option StoreError × Platform
  | [] => (none, platform)
  | (property, value) :: rest =>
    match platform.setReported id property value with
    | .ok platform => platform.reportGroup id rest
    | .error error => (some error, platform)

/-- The number after the reported one; one if a registered device has none. -/
def nextCount (platform : Platform) (id : DeviceId) (property : Property) :
    Except StoreError Int :=
  match platform.getReported id property with
  | .ok value =>
    match value.asInt with
    | some n => .ok (n + 1)
    | none => .error (.typeMismatch id property "an integer")
  | .error error =>
    if error.isNotFound && platform.isRegistered id then .ok 1 else .error error

/-- Add one to a reported number, which starts at zero.  Gives the new number. -/
def increment (platform : Platform) (id : DeviceId) (property : Property) :
    Except StoreError (Int × Platform) := do
  let next ← platform.nextCount id property
  let platform ← platform.setReported id property (.integer next)
  return (next, platform)

/-- The slot that a device reports. -/
def slotOf (platform : Platform) (id : DeviceId) : Option UInt8 :=
  match platform.getReported id .sid with
  | .ok value => value.asByte
  | .error _ => none

/-- The first device that is not the gateway and reports a slot. -/
def deviceAt (platform : Platform) (sid : UInt8) : Option DeviceId :=
  match platform.devices with
  | .ok ids => ids.find? fun id => !id.isGateway && platform.slotOf id = some sid
  | .error _ => none

end Platform

end AlarmMesh.Shadow
