import AlarmMesh.Proofs.Shadow.Store

/-!
# Another record for one device

A call that reports something of a registered device puts another record in its place and touches
nothing else, so calls about two devices can be made in either order.

* `Table.put_comm`, `Table.put_put`, `Table.put_self` — entries that are replaced;
* `Store.Rewrites id store store'` — at most the record of one device was replaced;
* `Rewrites.devices`, `Rewrites.count` — the devices that are registered;
* `Rewrites.comm` — stores that come from one store by such calls, in either order.
-/

namespace AlarmMesh.Shadow

open Radio (DeviceId)

namespace Table

variable {κ ν : Type} [DecidableEq κ]

theorem put_put (table : Table κ ν) (key : κ) (old new : ν) :
    (table.put key old).put key new = table.put key new := by
  induction table with
  | nil => simp [put]
  | cons entry rest ih =>
    obtain ⟨k, v⟩ := entry
    by_cases h : k = key
    · simp [put, h]
    · simpa [put, h] using ih

/-- The entry that is there is put there. -/
theorem put_self {table : Table κ ν} {key : κ} {value : ν} (h : table.get? key = some value) :
    table.put key value = table := by
  induction table with
  | nil => simp at h
  | cons entry rest ih =>
    obtain ⟨k, v⟩ := entry
    by_cases hk : k = key
    · obtain rfl : v = value := by simpa [get?, hk] using h
      simp [put, hk]
    · simpa [put, hk] using ih (by simpa [get?, hk] using h)

/-- Entries that are replaced stay where they are. -/
theorem put_comm {table : Table κ ν} {a b : κ} (hne : a ≠ b) (ha : table.has a)
    (hb : table.has b) (x y : ν) : (table.put a x).put b y = (table.put b y).put a x := by
  induction table with
  | nil => simp [has] at ha
  | cons entry rest ih =>
    obtain ⟨k, v⟩ := entry
    by_cases hka : k = a
    · simp [put, hka, hne]
    by_cases hkb : k = b
    · simp [put, hkb, hne.symm]
    have hrest := ih (by simpa [has, get?, hka] using ha) (by simpa [has, get?, hkb] using hb)
    simpa [put, hka, hkb] using hrest

end Table

namespace Store

variable {a b c store : Store} {id other : DeviceId} {record : Record}

/-- The store differs at most in the record of one device, which is registered in both or in
neither. -/
inductive Rewrites (id : DeviceId) (store : Store) : Store → Prop
  | same : Rewrites id store store
  | replaced {old : Record} (registered : store.record? id = some old) (new : Record) :
      Rewrites id store (store.withRecord id new)

theorem record?_withRecord_self (store : Store) (id : DeviceId) (record : Record) :
    (store.withRecord id record).record? id = some record :=
  (record?_withRecord store id id record).trans (if_pos rfl)

theorem withRecord_withRecord (store : Store) (id : DeviceId) (old new : Record) :
    (store.withRecord id old).withRecord id new = store.withRecord id new := by
  unfold withRecord
  rw [Table.put_put]

theorem withRecord_self (h : store.record? id = some record) :
    store.withRecord id record = store := by
  unfold withRecord
  rw [Table.put_self h]

namespace Rewrites

theorem trans (h : Rewrites id a b) (h' : Rewrites id b c) : Rewrites id a c := by
  cases h' with
  | same => exact h
  | replaced _ new =>
    cases h with
    | same => exact .replaced ‹_› new
    | replaced registered old =>
      rw [withRecord_withRecord]
      exact .replaced registered new

/-- The other records are as they were. -/
theorem record?_of_ne (h : Rewrites id a b) (hne : other ≠ id) :
    b.record? other = a.record? other := by
  cases h with
  | same => rfl
  | replaced => rw [record?_withRecord, if_neg hne.symm]

/-- The same devices are registered. -/
theorem devices (h : Rewrites id a b) : b.devices = a.devices := by
  cases h with
  | same => rfl
  | replaced registered new => exact devices_withRecord registered new

theorem count (h : Rewrites id a b) : b.count = a.count := by
  have hlength (store : Store) : store.count = store.devices.length :=
    (List.length_map Prod.fst).symm
  rw [hlength, hlength, h.devices]

theorem maxDevices (h : Rewrites id a b) : b.maxDevices = a.maxDevices := by
  cases h with
  | same => rfl
  | replaced => rfl

/-- If the device is registered afterwards, its record was replaced, maybe by the same one. -/
theorem eq_withRecord (h : Rewrites id a b) (hrecord : b.record? id = some record) :
    a.records.has id ∧ b = a.withRecord id record := by
  cases h with
  | same =>
    have hget : a.records.get? id = some record := hrecord
    exact ⟨by rw [Table.has, hget]; rfl, (withRecord_self hrecord).symm⟩
  | replaced registered new =>
    have hget : a.records.get? id = some _ := registered
    rw [record?_withRecord_self] at hrecord
    obtain rfl := Option.some.inj hrecord
    exact ⟨by rw [Table.has, hget]; rfl, rfl⟩

theorem eq_of_none (h : Rewrites id a b) (hrecord : b.record? id = none) : b = a := by
  cases h with
  | same => rfl
  | replaced => simp [record?_withRecord_self] at hrecord

/-- Two devices can be rewritten in either order. -/
theorem comm {ab ba : Store} (h₁ : Rewrites id store a) (h₁₂ : Rewrites other a ab)
    (h₂ : Rewrites other store b) (h₂₁ : Rewrites id b ba) (hne : id ≠ other)
    (hid : ab.record? id = ba.record? id) (hother : ab.record? other = ba.record? other) :
    ab = ba := by
  have ha : a.record? id = ba.record? id := (h₁₂.record?_of_ne hne).symm.trans hid
  have hb : b.record? other = ab.record? other :=
    (h₂₁.record?_of_ne hne.symm).symm.trans hother.symm
  cases hx : ba.record? id with
  | none =>
    obtain rfl := h₁.eq_of_none (ha.trans hx)
    obtain rfl := h₂₁.eq_of_none hx
    cases hy : ab.record? other with
    | none => rw [h₁₂.eq_of_none hy, h₂.eq_of_none (hb.trans hy)]
    | some y => rw [(h₁₂.eq_withRecord hy).2, (h₂.eq_withRecord (hb.trans hy)).2]
  | some x =>
    obtain ⟨hhas, rfl⟩ := h₁.eq_withRecord (ha.trans hx)
    have hba := (h₂₁.eq_withRecord hx).2
    cases hy : ab.record? other with
    | none =>
      obtain rfl := h₂.eq_of_none (hb.trans hy)
      rw [h₁₂.eq_of_none hy, hba]
    | some y =>
      obtain ⟨hhas', rfl⟩ := h₂.eq_withRecord (hb.trans hy)
      rw [(h₁₂.eq_withRecord hy).2, hba]
      unfold withRecord
      rw [Table.put_comm hne hhas hhas']

end Rewrites

/-- A value that is reported again takes the place of the one before. -/
theorem setReported_again {property : Property} {old : Value}
    (h : store.setReported id property old = .ok a) (new : Value) : ∃ final,
      store.setReported id property new = .ok final ∧
        a.setReported id property new = .ok final := by
  obtain ⟨record, hrecord, rfl⟩ := setReported_eq_ok h
  have hfound : store.record? id = some record := hrecord
  unfold setReported Store.record
  rw [hfound, record?_withRecord_self]
  refine ⟨_, rfl, congrArg Except.ok ?_⟩
  rw [withRecord_withRecord, Table.put_put]

end Store

theorem Platform.setReported_again {platform platform' : Platform} {id : DeviceId}
    {property : Property} {old : Value}
    (h : platform.setReported id property old = .ok platform') (new : Value) : ∃ final,
      platform.setReported id property new = .ok final ∧
        platform'.setReported id property new = .ok final := by
  have hup : platform.isDown .setReported (some property) = false := by
    cases hdown : platform.isDown .setReported (some property) with
    | false => rfl
    | true =>
      unfold setReported updated guarded at h
      simp [hdown, Except.map] at h
  obtain ⟨store, hstore, rfl⟩ := updated_eq_ok h
  obtain ⟨final, hfirst, hagain⟩ := Store.setReported_again hstore new
  have hup' : Platform.isDown { platform with store := store } .setReported (some property) =
      false := hup
  refine ⟨{ platform with store := final }, ?_, ?_⟩
  · unfold setReported
    rw [hfirst]
    exact updated_of_up hup final
  · unfold setReported
    rw [hagain]
    exact updated_of_up hup' final

theorem Platform.eq_of_store {platform platform' : Platform}
    (hstore : platform.store = platform'.store) (houtages : platform.outages = platform'.outages) :
    platform = platform' := by
  obtain ⟨store, outages⟩ := platform
  obtain ⟨rfl, rfl⟩ := And.intro hstore houtages
  rfl

end AlarmMesh.Shadow
