import AlarmMesh.Proofs.Shadow.Store
import Mathlib.Logic.Relation

/-!
# Footprints

The store changes by a few kinds of call.  The *footprint* of a part of the gateway says which of
them it may make; what lies outside of it is as it was.

* `Edit`, `Store.edited` — the calls that change a store;
* `Footprint` — which devices may be registered, which removed, and what may be reported of them;
* `Store.Edits f store store'` — what calls within a footprint make of a store;
* `getReported_edited`, `getDesired_edited` — what a call leaves as it is;
* `Edits.mem_of_not_removes`, `Edits.mem_of_not_admits`, `Edits.getReported_eq` — what they leave
  as it was.
-/

namespace AlarmMesh.Shadow

open Radio (DeviceId)
open Relation (ReflTransGen)

/-- Everything that is reported of a device but its type, its last sequence number, its alarms and
its faults. -/
def Property.isRoutine : Property → Bool
  | deviceType | lastSequence => false
  | alarmTemperature | alarmState | alarmSeq | alarmTime | fault .. => false
  | _ => true

/-- What is reported of an alarm. -/
def Property.isAlarm : Property → Bool
  | alarmTemperature | alarmState | alarmSeq | alarmTime => true
  | _ => false

/-- What is reported of a fault. -/
def Property.isFault : Property → Bool
  | fault .. => true
  | _ => false

/-- A call that changes a store. -/
inductive Edit where
  | register (id : DeviceId) (deviceType : Nat)
  | delete (id : DeviceId)
  | report (id : DeviceId) (property : Property) (value : Value)
  /-- A reported property is removed. -/
  | forget (id : DeviceId) (property : Property)
  | desire (id : DeviceId) (property : Property) (value : Value)
  | subscribe (id : DeviceId) (property : Property)

/-- Which changes may be made.  Whatever is routine may be reported, and the platform may want
anything. -/
structure Footprint where
  /-- The device may be registered. -/
  admits : DeviceId → Prop
  /-- The device may be removed. -/
  removes : DeviceId → Prop
  /-- This may be reported of the device. -/
  writes : DeviceId → Property → Prop

/-- The call is within a footprint. -/
def Footprint.Allows (f : Footprint) : Edit → Prop
  | .register id _ => f.admits id
  | .delete id => f.removes id
  | .report id property _ | .forget id property => property.isRoutine ∨ f.writes id property
  | .desire .. | .subscribe .. => True

/-- Nothing but what is routine. -/
def Footprint.routine : Footprint where
  admits _ := False
  removes _ := False
  writes _ _ := False

/-- A sequence number is remembered, and nothing else but what is routine. -/
def Footprint.noting : Footprint where
  admits _ := False
  removes _ := False
  writes _ property := property = .lastSequence

namespace Store

variable {store store' a b c : Store} {edit : Edit} {f : Footprint} {id : DeviceId}
  {property : Property}

/-- The store after a call. -/
def edited (store : Store) : Edit → Except StoreError Store
  | .register id deviceType => store.register id deviceType
  | .delete id => store.delete id
  | .report id property value => store.setReported id property value
  | .forget id property => store.deleteProperty id property
  | .desire id property value => store.setDesired id property value
  | .subscribe id property => store.subscribe id property

/-! ### One call -/

theorem get?_place (id other : DeviceId) (record : Record) (records : Table DeviceId Record)
    (h : records.get? id = none) : (place id record records).get? other =
      if id = other then some record else records.get? other := by
  induction records with
  | nil => simp [place, Table.get?]
  | cons entry rest ih =>
    obtain ⟨key, value⟩ := entry
    have hkey : key ≠ id := by
      rintro rfl
      simp [Table.get?] at h
    have hrest : Table.get? rest id = none := by simpa [Table.get?, hkey] using h
    unfold place
    split
    · by_cases hother : key = other
      · have hne : id ≠ other := fun hid => hkey (hother.trans hid.symm)
        simp [Table.get?, hother, hne]
      · simpa [Table.get?, hother] using ih hrest
    · simp [Table.get?]

theorem register_eq_ok {deviceType : Nat} (h : store.register id deviceType = .ok store')
    {other : DeviceId} (hne : id ≠ other) : store'.record? other = store.record? other := by
  unfold register at h
  split at h
  · obtain rfl := Except.ok.inj h
    rw [record?_withRecord, if_neg hne]
  · next hnone =>
    split at h
    · obtain rfl := Except.ok.inj h
      exact (get?_place id other _ _ hnone).trans (if_neg hne)
    · simp at h

/-- A new device has a record that tells nothing but its type. -/
theorem record?_register_of_new {deviceType : Nat}
    (h : store.register id deviceType = .ok store') (hnew : store.record? id = none) :
    store'.record? id = some { reported := [(.deviceType, .ofNat deviceType)] } := by
  unfold register at h
  rw [hnew] at h
  dsimp only at h
  split at h
  · obtain rfl := Except.ok.inj h
    exact (get?_place id id _ _ hnew).trans (if_pos rfl)
  · simp at h

theorem setDesired_eq_ok {value : Value} (h : store.setDesired id property value = .ok store') :
    ∃ record, store.records.get? id = some record ∧ store' = store.withRecord id
      { record with desired := record.desired.put property value } := by
  unfold setDesired at h
  cases hrecord : store.record id with
  | error error => simp [hrecord, bind, Except.bind] at h
  | ok record =>
    simp only [hrecord, bind, Except.bind, pure, Except.pure, Except.ok.injEq] at h
    exact ⟨record, record_eq_ok hrecord, h.symm⟩

theorem subscribe_eq_ok (h : store.subscribe id property = .ok store') : store' = store ∨
    ∃ record, store.records.get? id = some record ∧ store' = store.withRecord id
      { record with subscriptions := record.subscriptions ++ [property] } := by
  unfold subscribe at h
  cases hrecord : store.record id with
  | error error => simp [hrecord, bind, Except.bind] at h
  | ok record =>
    simp only [hrecord, bind, Except.bind] at h
    split at h
    · exact .inl (Except.ok.inj h).symm
    · exact .inr ⟨record, record_eq_ok hrecord, (Except.ok.inj h).symm⟩

/-- A record is replaced by one that reports the same. -/
theorem getReported_withRecord {record : Record} (h : store.records.get? id = some record)
    (desired : Table Property Value) (subscriptions : List Property) (other : DeviceId)
    (p : Property) :
    ((store.withRecord id { record with
      desired := desired, subscriptions := subscriptions }).getReported other p).toOption =
        (store.getReported other p).toOption := by
  rw [getReported_eq, getReported_eq, record?_withRecord]
  split
  · next hid =>
    have hrecord : store.record? other = some record := hid ▸ h
    rw [hrecord]
    rfl
  · rfl

theorem mem_devices_iff_record? : id ∈ store.devices ↔ (store.record? id).isSome := by
  rw [mem_devices, Option.isSome_iff_exists]
  rfl

/-- A call neither registers nor removes a device, unless it is about just that. -/
theorem mem_devices_edited (h : store.edited edit = .ok store')
    (hregister : ∀ deviceType, edit ≠ .register id deviceType) (hdelete : edit ≠ .delete id) :
    id ∈ store'.devices ↔ id ∈ store.devices := by
  cases edit with
  | register other deviceType =>
    have hne : other ≠ id := fun hid => hregister deviceType (hid ▸ rfl)
    rw [mem_devices_iff_record?, mem_devices_iff_record?, register_eq_ok h hne]
  | delete other =>
    have hne : id ≠ other := fun hid => hdelete (hid ▸ rfl)
    rw [devices_delete h]
    simp [hne]
  | report => rw [devices_setReported h]
  | forget => rw [devices_deleteProperty h]
  | desire =>
    obtain ⟨record, hrecord, rfl⟩ := setDesired_eq_ok h
    rw [devices_withRecord hrecord]
  | subscribe =>
    obtain rfl | ⟨record, hrecord, rfl⟩ := subscribe_eq_ok h
    · rfl
    · rw [devices_withRecord hrecord]

theorem mem_devices_of_register {deviceType : Nat}
    (h : store.edited (.register id deviceType) = .ok store') (other : DeviceId)
    (hmem : other ∈ store.devices) : other ∈ store'.devices := by
  by_cases hid : id = other
  · subst hid
    obtain ⟨record, hrecord⟩ := mem_devices.1 hmem
    have hok : store.register id deviceType = .ok store' := h
    unfold register record? at hok
    rw [hrecord] at hok
    obtain rfl := Except.ok.inj hok
    rw [devices_withRecord hrecord]
    exact hmem
  · exact (mem_devices_edited h (by simp [hid]) (by simp)).2 hmem

theorem not_mem_devices_of_delete (h : store.edited (.delete id) = .ok store') :
    id ∉ store'.devices := by
  rw [devices_delete h]
  simp

/-- The call changes what this device reports of this property, or whether it is registered. -/
def Concerns (id : DeviceId) (property : Property) : Edit → Prop
  | .register other _ | .delete other => other = id
  | .report other p _ | .forget other p => other = id ∧ p = property
  | .desire .. | .subscribe .. => False

theorem getReported_edited (h : store.edited edit = .ok store')
    (hspared : ¬ Concerns id property edit) : (store'.getReported id property).toOption =
      (store.getReported id property).toOption := by
  cases edit with
  | register other deviceType => rw [getReported_eq, getReported_eq, register_eq_ok h hspared]
  | delete other => exact (getReported_delete h id property).trans (if_neg hspared)
  | report other p value =>
    exact (getReported_setReported h id property).trans (if_neg hspared)
  | forget other p =>
    exact getReported_deleteProperty h (Classical.not_and_iff_not_or_not.1 hspared)
  | desire =>
    obtain ⟨record, hrecord, rfl⟩ := setDesired_eq_ok h
    exact getReported_withRecord hrecord _ _ id property
  | subscribe =>
    obtain rfl | ⟨record, hrecord, rfl⟩ := subscribe_eq_ok h
    · rfl
    · exact getReported_withRecord hrecord _ _ id property

/-! ### Wishes -/

theorem getDesired_eq (store : Store) (id : DeviceId) (property : Property) :
    (store.getDesired id property).toOption =
      (store.record? id).bind fun record => record.desired.get? property := by
  unfold getDesired record
  cases store.record? id with
  | none => rfl
  | some record =>
    show (valueIn record.desired id property).toOption = record.desired.get? property
    unfold valueIn
    cases record.desired.get? property <;> rfl

/-- A record is replaced by one with the same wishes. -/
theorem getDesired_withRecord {record : Record} (h : store.records.get? id = some record)
    (reported : Table Property Value) (subscriptions : List Property) (other : DeviceId)
    (p : Property) :
    ((store.withRecord id { record with
      reported := reported, subscriptions := subscriptions }).getDesired other p).toOption =
        (store.getDesired other p).toOption := by
  rw [getDesired_eq, getDesired_eq, record?_withRecord]
  split
  · next hid =>
    have hrecord : store.record? other = some record := hid ▸ h
    rw [hrecord]
    rfl
  · rfl

/-- The call changes what is wished of this device for this property, or removes the device. -/
def AltersWish (id : DeviceId) (property : Property) : Edit → Prop
  | .delete other => other = id
  | .desire other p _ => other = id ∧ p = property
  | _ => False

theorem getDesired_edited (h : store.edited edit = .ok store')
    (hspared : ¬ AltersWish id property edit) : (store'.getDesired id property).toOption =
      (store.getDesired id property).toOption := by
  cases edit with
  | register other deviceType =>
    by_cases hid : other = id
    · subst hid
      have hok : store.register other deviceType = .ok store' := h
      unfold register at hok
      split at hok
      · next record hrecord =>
        obtain rfl := Except.ok.inj hok
        exact getDesired_withRecord hrecord _ _ _ _
      · next hnone =>
        split at hok
        · obtain rfl := Except.ok.inj hok
          have hplaced := get?_place other other { reported := [(.deviceType, .ofNat deviceType)] }
            store.records hnone
          rw [getDesired_eq, getDesired_eq, hnone,
            show Store.record? { store with records := _ } other = _ from hplaced, if_pos rfl]
          rfl
        · simp at hok
    · rw [getDesired_eq, getDesired_eq, register_eq_ok h hid]
  | delete other =>
    have herased : store'.record? id = if other = id then none else store.record? id := by
      rw [delete_eq_ok h]
      exact Table.get?_erase store.records other id
    have hother : other ≠ id := hspared
    rw [getDesired_eq, getDesired_eq, herased, if_neg hother]
  | report =>
    obtain ⟨record, hrecord, rfl⟩ := setReported_eq_ok h
    exact getDesired_withRecord hrecord _ _ _ _
  | forget =>
    obtain ⟨record, hrecord, rfl⟩ := deleteProperty_eq_ok h
    exact getDesired_withRecord hrecord _ _ _ _
  | desire other p value =>
    obtain ⟨record, hrecord, rfl⟩ := setDesired_eq_ok h
    rw [getDesired_eq, getDesired_eq, record?_withRecord]
    by_cases hid : other = id
    · have hp : p ≠ property := fun hp => hspared ⟨hid, hp⟩
      rw [if_pos hid, show store.record? id = some record from hid ▸ hrecord]
      simp [Table.get?_put, hp]
    · rw [if_neg hid]
  | subscribe =>
    obtain rfl | ⟨record, hrecord, rfl⟩ := subscribe_eq_ok h
    · rfl
    · exact getDesired_withRecord hrecord _ _ _ _

/-! ### Several calls -/

/-- The store is what calls within a footprint make of another one. -/
def Edits (f : Footprint) : Store → Store → Prop :=
  ReflTransGen fun store store' => ∃ edit, f.Allows edit ∧ store.edited edit = .ok store'

theorem Edits.single (hallows : f.Allows edit) (h : store.edited edit = .ok store') :
    store.Edits f store' :=
  ReflTransGen.single ⟨edit, hallows, h⟩

/-- A device is removed only by a footprint that allows it. -/
theorem Edits.mem_of_not_removes (h : a.Edits f b) (hid : ¬ f.removes id)
    (hmem : id ∈ a.devices) : id ∈ b.devices := by
  induction h with
  | refl => exact hmem
  | @tail store store' _ hstep ih =>
    obtain ⟨edit, hallows, hedit⟩ := hstep
    have hdelete : edit ≠ .delete id := by
      rintro rfl
      exact hid hallows
    by_cases hregister : ∃ deviceType, edit = .register id deviceType
    · obtain ⟨deviceType, rfl⟩ := hregister
      exact mem_devices_of_register hedit id ih
    · rw [not_exists] at hregister
      exact (mem_devices_edited hedit hregister hdelete).2 ih

theorem Edits.mem_of_step (hid : ¬ f.admits id) (hallows : f.Allows edit)
    (h : store.edited edit = .ok store') (hmem : id ∈ store'.devices) : id ∈ store.devices := by
  have hregister (deviceType : Nat) : edit ≠ .register id deviceType := by
    rintro rfl
    exact hid hallows
  have hdelete : edit ≠ .delete id := by
    rintro rfl
    exact not_mem_devices_of_delete h hmem
  exact (mem_devices_edited h hregister hdelete).1 hmem

/-- A device is registered only by a footprint that allows it. -/
theorem Edits.mem_of_not_admits (h : a.Edits f b) (hid : ¬ f.admits id)
    (hmem : id ∈ b.devices) : id ∈ a.devices := by
  induction h with
  | refl => exact hmem
  | tail _ hstep ih =>
    obtain ⟨edit, hallows, hedit⟩ := hstep
    exact ih (mem_of_step hid hallows hedit hmem)

/-- A device that may be neither registered nor removed is registered if it was. -/
theorem Edits.isRegistered_eq (h : a.Edits f b) (hadmits : ¬ f.admits id)
    (hremoves : ¬ f.removes id) : b.isRegistered id = a.isRegistered id := by
  rw [Bool.eq_iff_iff, isRegistered_iff, isRegistered_iff]
  exact ⟨h.mem_of_not_admits hadmits, h.mem_of_not_removes hremoves⟩

/-- What a footprint does not write is as it was for a device that it does not admit, as long as
the device is still registered. -/
theorem Edits.getReported_eq (h : a.Edits f b) (hid : ¬ f.admits id)
    (hwrites : ¬ f.writes id property) (hroutine : property.isRoutine = false)
    (hmem : id ∈ b.devices) : (b.getReported id property).toOption =
      (a.getReported id property).toOption := by
  induction h with
  | refl => rfl
  | @tail store store' _ hstep ih =>
    obtain ⟨edit, hallows, hedit⟩ := hstep
    rw [← ih (mem_of_step hid hallows hedit hmem)]
    refine getReported_edited hedit fun hconcerns => ?_
    cases edit with
    | register other deviceType => exact hid (hconcerns ▸ hallows)
    | delete other =>
      obtain rfl := hconcerns
      exact not_mem_devices_of_delete hedit hmem
    | report other p value | forget other p =>
      obtain ⟨rfl, rfl⟩ := hconcerns
      exact hallows.elim (by simp [hroutine]) hwrites
    | desire | subscribe => exact hconcerns

end Store

end AlarmMesh.Shadow
