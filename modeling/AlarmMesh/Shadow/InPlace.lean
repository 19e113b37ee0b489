import AlarmMesh.Shadow.Platform

/-!
# The store, changed in place

There is one store, and operations change it where it stands.  Each is a few steps, any of which may
fail, and a failure does not undo the steps before it: a record is looked for first and changed
then, but whether something was there to be removed is known only from removing it.

`StoreM` is such work.  The operations here take the steps one by one; `Store` and `Platform` say
in one go what comes of them.
-/

namespace AlarmMesh.Shadow

open Radio (DeviceId)

/-- Work on a store in place.  What was done before a failure stays done. -/
abbrev StoreM := ExceptT StoreError (StateM Store)

namespace StoreM

/-- What the work gives, and the store after it. -/
def on {α : Type} (work : StoreM α) (store : Store) : Except StoreError α × Store :=
  work.run store

/-- The record of a device, which must have one. -/
def recordOf (id : DeviceId) : StoreM Record := do
  match (← get).record? id with
  | some record => return record
  | none => throw (.deviceNotFound id)

/-- Change the record of a device, which must have one. -/
def amend (id : DeviceId) (change : Record → Record) : StoreM Unit := do
  let record ← recordOf id
  modify fun store => store.withRecord id (change record)

/-- Make sure the device has a record.  A new one is empty. -/
def enter (id : DeviceId) : StoreM Unit :=
  modify fun store =>
    if store.isRegistered id then store
    else { store with records := Store.place id {} store.records }

/-- Make sure the device has a record, and then set its type. -/
def register (id : DeviceId) (deviceType : Nat) : StoreM Unit := do
  let store ← get
  if !store.isRegistered id && store.maxDevices ≤ store.count then
    throw (.full store.maxDevices)
  enter id
  amend id fun record =>
    { record with reported := record.reported.put .deviceType (.ofNat deviceType) }

/-- Remove the record of a device. -/
def delete (id : DeviceId) : StoreM Unit := do
  let store ← get
  set { store with records := store.records.erase id }
  if !store.isRegistered id then throw (.deviceNotFound id)

/-- The reported value of a property. -/
def getReported (id : DeviceId) (property : Property) : StoreM Value := do
  let record ← recordOf id
  ofExcept (Store.valueIn record.reported id property)

/-- The desired value of a property. -/
def getDesired (id : DeviceId) (property : Property) : StoreM Value := do
  let record ← recordOf id
  ofExcept (Store.valueIn record.desired id property)

/-- Report a value of a property. -/
def setReported (id : DeviceId) (property : Property) (value : Value) : StoreM Unit :=
  amend id fun record => { record with reported := record.reported.put property value }

/-- Want a value of a property. -/
def setDesired (id : DeviceId) (property : Property) (value : Value) : StoreM Unit :=
  amend id fun record => { record with desired := record.desired.put property value }

/-- Remove a reported property. -/
def deleteProperty (id : DeviceId) (property : Property) : StoreM Unit := do
  let record ← recordOf id
  modify fun store =>
    store.withRecord id { record with reported := record.reported.erase property }
  if !record.reported.has property then throw (.propertyNotFound id property)

/-- Ask to be told when the wish for a property changes. -/
def subscribe (id : DeviceId) (property : Property) : StoreM Unit :=
  amend id fun record =>
    { record with subscriptions :=
        if record.subscriptions.contains property then record.subscriptions
        else record.subscriptions ++ [property] }

/-- Report several values, one after the other. -/
def reportGroup (id : DeviceId) (values : List (Property × Value)) : StoreM Unit :=
  values.forM fun entry => setReported id entry.1 entry.2

/-- The reported value of a property, or none if a registered device has none. -/
def reported? (id : DeviceId) (property : Property) : StoreM (Option Value) :=
  tryCatch (some <$> getReported id property) fun error => do
    if error.isNotFound && (← get).isRegistered id then return none else throw error

/-- The number after the reported one; one if a registered device has none. -/
def nextCount (id : DeviceId) (property : Property) : StoreM Int := do
  match ← reported? id property with
  | some value =>
    match value.asInt with
    | some n => return n + 1
    | none => throw (.typeMismatch id property "an integer")
  | none => return 1

/-- Add one to a reported number, which starts at zero.  Gives the new number. -/
def increment (id : DeviceId) (property : Property) : StoreM Int := do
  let next ← nextCount id property
  setReported id property (.integer next)
  return next

/-- The slot that a device reports. -/
def slotOf (id : DeviceId) : StoreM (Option UInt8) :=
  tryCatch (Value.asByte <$> getReported id .sid) fun _ => return none

/-- The first device that is not the gateway and reports a slot. -/
def deviceAt (sid : UInt8) : StoreM (Option DeviceId) := do
  let store ← get
  store.devices.findM? fun id => do
    let slot ← slotOf id
    return !id.isGateway && slot = some sid

end StoreM

end AlarmMesh.Shadow
