import AlarmMesh.Radio.DeviceId
import AlarmMesh.Shadow.Property
import AlarmMesh.Shadow.Table
import AlarmMesh.Shadow.Value

/-!
# The store of device records

The platform keeps a record for each registered device: what the gateway reports about it, what
the platform wants of it, and which wishes the gateway is told about.  Devices are kept by
ascending address, and there is room for a limited number of them.

An operation that fails leaves the store as it was: it gives an error and no store.
-/

namespace AlarmMesh.Shadow

open Radio (DeviceId)

/-- Why an operation on the store failed. -/
inductive StoreError where
  /-- There is no record for the device. -/
  | deviceNotFound (device : DeviceId)
  /-- There is a record for the device, but not this property. -/
  | propertyNotFound (device : DeviceId) (property : Property)
  /-- The value is not of the kind that is needed. -/
  | typeMismatch (device : DeviceId) (property : Property) (expected : String)
  /-- There is no room for one more device. -/
  | full (devices : Nat)
  deriving DecidableEq, Repr

namespace StoreError

/-- What was looked for does not exist. -/
def isNotFound : StoreError → Bool
  | deviceNotFound _ | propertyNotFound .. => true
  | _ => false

/-- The error in words. -/
def message : StoreError → String
  | deviceNotFound device => "device " ++ device.text ++ " not found"
  | propertyNotFound device property =>
    "property '" ++ property.name ++ "' not found on device " ++ device.text
  | typeMismatch device property expected =>
    "property '" ++ property.name ++ "' on device " ++ device.text ++ " is not " ++ expected
  | full devices => "device store is full (" ++ toString devices ++ " devices)"

end StoreError

/-- What is kept for one device. -/
structure Record where
  /-- What the gateway reports. -/
  reported : Table Property Value := []
  /-- What the platform wants. -/
  desired : Table Property Value := []
  /-- The wishes that the gateway is told about. -/
  subscriptions : List Property := []
  deriving DecidableEq, Repr

/-- The records of all devices. -/
structure Store where
  /-- The records, by ascending address. -/
  records : Table DeviceId Record := []
  /-- The most records there may be. -/
  maxDevices : Nat := 65
  deriving DecidableEq, Repr

namespace Store

/-- Put a new record at its place in ascending order. -/
def place (id : DeviceId) (record : Record) : Table DeviceId Record → Table DeviceId Record
  | [] => [(id, record)]
  | entry :: rest =>
    if entry.1.value < id.value then entry :: place id record rest
    else (id, record) :: entry :: rest

/-- The record of a device. -/
def record? (store : Store) (id : DeviceId) : Option Record := store.records.get? id

/-- The device has a record. -/
def isRegistered (store : Store) (id : DeviceId) : Bool := store.records.has id

/-- Every registered device, by ascending address. -/
def devices (store : Store) : List DeviceId := store.records.keys

/-- The number of records. -/
def count (store : Store) : Nat := List.length store.records

/-- The record of a device, which must have one. -/
def record (store : Store) (id : DeviceId) : Except StoreError Record :=
  match store.record? id with
  | some record => .ok record
  | none => .error (.deviceNotFound id)

/-- The store with another record for a registered device. -/
def withRecord (store : Store) (id : DeviceId) (record : Record) : Store :=
  { store with records := store.records.put id record }

/-- Make sure the device has a record, and set its type. -/
def register (store : Store) (id : DeviceId) (deviceType : Nat) : Except StoreError Store :=
  match store.record? id with
  | some record =>
    .ok (store.withRecord id
      { record with reported := record.reported.put .deviceType (.ofNat deviceType) })
  | none =>
    if store.count < store.maxDevices then
      .ok { store with
        records := place id { reported := [(.deviceType, .ofNat deviceType)] } store.records }
    else .error (.full store.maxDevices)

/-- Remove the record of a device. -/
def delete (store : Store) (id : DeviceId) : Except StoreError Store :=
  if store.isRegistered id then .ok { store with records := store.records.erase id }
  else .error (.deviceNotFound id)

/-- The value of a property in one of the two tables of a record. -/
def valueIn (table : Table Property Value) (id : DeviceId) (property : Property) :
    Except StoreError Value :=
  match table.get? property with
  | some value => .ok value
  | none => .error (.propertyNotFound id property)

/-- The reported value of a property. -/
def getReported (store : Store) (id : DeviceId) (property : Property) :
    Except StoreError Value := do
  let record ← store.record id
  valueIn record.reported id property

/-- The desired value of a property. -/
def getDesired (store : Store) (id : DeviceId) (property : Property) : Except StoreError Value := do
  let record ← store.record id
  valueIn record.desired id property

/-- Report a value of a property. -/
def setReported (store : Store) (id : DeviceId) (property : Property) (value : Value) :
    Except StoreError Store := do
  let record ← store.record id
  return store.withRecord id { record with reported := record.reported.put property value }

/-- Want a value of a property. -/
def setDesired (store : Store) (id : DeviceId) (property : Property) (value : Value) :
    Except StoreError Store := do
  let record ← store.record id
  return store.withRecord id { record with desired := record.desired.put property value }

/-- Remove a reported property. -/
def deleteProperty (store : Store) (id : DeviceId) (property : Property) :
    Except StoreError Store := do
  let record ← store.record id
  if record.reported.has property then
    return store.withRecord id { record with reported := record.reported.erase property }
  else
    throw (.propertyNotFound id property)

/-- Ask to be told when the wish for a property changes. -/
def subscribe (store : Store) (id : DeviceId) (property : Property) : Except StoreError Store := do
  let record ← store.record id
  if record.subscriptions.contains property then
    return store
  else
    return store.withRecord id { record with subscriptions := record.subscriptions ++ [property] }

/-- The gateway is told when the wish for a property changes. -/
def isSubscribed (store : Store) (id : DeviceId) (property : Property) : Bool :=
  match store.record? id with
  | some record => record.subscriptions.contains property
  | none => false

end Store

end AlarmMesh.Shadow
