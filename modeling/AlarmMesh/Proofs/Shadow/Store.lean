import AlarmMesh.Shadow.Platform

/-!
# What the operations of the store do

* `Table.mem_keys`, `Table.keys_put`, `Table.keys_erase` — the keys of a table;
* `Table.get?_of_mem`, `Table.put_of_new`, `Table.perm_cons_erase` — an entry that is there, one
  that comes and one that goes;
* `Store.getReported_setReported`, `Store.devices_setReported` — reports;
* `Store.getReported_deleteProperty`, `Store.getReported_delete`, … — what is removed;
* `Platform.updated_eq_ok`, `Platform.guarded_of_up` — calls that reach the store.
-/

namespace AlarmMesh.Shadow

open Radio (DeviceId)

namespace Table

variable {κ ν : Type} [DecidableEq κ]

theorem mem_keys (table : Table κ ν) (key : κ) : key ∈ table.keys ↔ table.has key = true := by
  induction table with
  | nil => simp [keys, has]
  | cons entry rest ih =>
    obtain ⟨k, v⟩ := entry
    unfold has get?
    by_cases h : k = key
    · simp [keys, h]
    · have hrest : key ∈ keys rest ↔ (get? rest key).isSome := ih
      simpa [keys, h, Ne.symm h] using hrest

theorem keys_put {table : Table κ ν} {key : κ} (h : table.has key) (value : ν) :
    (table.put key value).keys = table.keys := by
  induction table with
  | nil => simp [has] at h
  | cons entry rest ih =>
    obtain ⟨k, v⟩ := entry
    unfold put
    by_cases hk : k = key
    · simp [keys, hk]
    · have hrest : has rest key := by simpa [has, get?, hk] using h
      have := ih hrest
      simp_all [keys]

theorem keys_erase (table : Table κ ν) (key : κ) :
    (table.erase key).keys = table.keys.filter fun other => other ≠ key := by
  unfold erase keys
  rw [List.filter_map]
  rfl

/-! ### Tables with one entry for each key -/

theorem get?_eq_none_iff (table : Table κ ν) (key : κ) :
    table.get? key = none ↔ key ∉ table.keys := by
  rw [mem_keys, has]
  simp

/-- An entry is the value of its key. -/
theorem get?_of_mem {table : Table κ ν} {key : κ} {value : ν} (h : table.keys.Nodup)
    (hmem : (key, value) ∈ table) : table.get? key = some value := by
  induction table with
  | nil => simp at hmem
  | cons entry rest ih =>
    obtain ⟨k, v⟩ := entry
    obtain ⟨hnot, hrest⟩ := List.nodup_cons.1 h
    rcases List.mem_cons.1 hmem with heq | hmem
    · obtain ⟨rfl, rfl⟩ := Prod.mk.inj heq
      exact if_pos rfl
    · have hne : k ≠ key := by
        rintro rfl
        exact hnot (List.mem_map.2 ⟨_, hmem, rfl⟩)
      rw [get?, if_neg hne]
      exact ih hrest hmem

/-- A key that is new comes last. -/
theorem put_of_new {table : Table κ ν} {key : κ} (h : table.get? key = none) (value : ν) :
    table.put key value = table ++ [(key, value)] := by
  induction table with
  | nil => rfl
  | cons entry rest ih =>
    obtain ⟨k, v⟩ := entry
    unfold get? at h
    split at h
    · simp at h
    · next hne =>
      unfold put
      rw [if_neg hne, ih h, List.cons_append]

theorem nodup_keys_put {table : Table κ ν} {key : κ} (h : table.keys.Nodup)
    (hnew : table.get? key = none) (value : ν) : (table.put key value).keys.Nodup := by
  have hkeys : (table.put key value).keys = table.keys ++ [key] := by
    rw [put_of_new hnew]
    simp [keys]
  have hnot := (get?_eq_none_iff table key).1 hnew
  rw [hkeys]
  refine List.nodup_append.2 ⟨h, by simp, ?_⟩
  intro other hother last hlast
  rw [List.mem_singleton.1 hlast]
  rintro rfl
  exact hnot hother

theorem nodup_keys_erase {table : Table κ ν} (h : table.keys.Nodup) (key : κ) :
    (table.erase key).keys.Nodup := by
  rw [keys_erase]
  exact h.filter _

/-- An entry that is removed is the only one of its key. -/
theorem perm_cons_erase {table : Table κ ν} {key : κ} {value : ν} (h : table.keys.Nodup)
    (hget : table.get? key = some value) : table.Perm ((key, value) :: table.erase key) := by
  induction table with
  | nil => simp at hget
  | cons entry rest ih =>
    obtain ⟨k, v⟩ := entry
    obtain ⟨hnot, hrest⟩ := List.nodup_cons.1 h
    unfold get? at hget
    split at hget
    · next heq =>
      obtain rfl := heq
      obtain rfl := Option.some.inj hget
      have hothers : erase ((k, v) :: rest) k = rest := by
        unfold erase
        rw [List.filter_cons_of_neg (by simp)]
        apply List.filter_eq_self.2
        intro other hother
        have hmem : other.1 ∈ keys rest := List.mem_map_of_mem hother
        have hne : other.1 ≠ k := by
          rintro rfl
          exact hnot hmem
        simpa using hne
      rw [hothers]
    · next hne =>
      have hkept : erase ((k, v) :: rest) key = (k, v) :: erase rest key := by
        unfold erase
        rw [List.filter_cons_of_pos (by simpa using hne)]
      rw [hkept]
      exact ((ih hrest hget).cons _).trans (.swap _ _ _)

end Table

namespace Store

variable {store store' : Store} {id : DeviceId} {property : Property} {value : Value}

/-- An operation that changes one record finds it and puts another in its place. -/
theorem record_eq_ok {record : Record} (h : store.record id = .ok record) :
    store.records.get? id = some record := by
  unfold Store.record record? at h
  split at h <;> simp_all

theorem record?_withRecord (store : Store) (id other : DeviceId) (record : Record) :
    (store.withRecord id record).record? other =
      if id = other then some record else store.record? other :=
  Table.get?_put store.records id other record

theorem devices_withRecord {record : Record} (h : store.records.get? id = some record)
    (record' : Record) : (store.withRecord id record').devices = store.devices :=
  Table.keys_put (by simp [Table.has, h]) record'

theorem isRegistered_iff : store.isRegistered id ↔ id ∈ store.devices :=
  (Table.mem_keys store.records id).symm

theorem mem_devices : id ∈ store.devices ↔ ∃ record, store.records.get? id = some record := by
  rw [devices, Table.mem_keys, Table.has, Option.isSome_iff_exists]

/-! ### Reports -/

theorem getReported_eq (store : Store) (id : DeviceId) (property : Property) :
    (store.getReported id property).toOption =
      (store.record? id).bind fun record => record.reported.get? property := by
  unfold getReported record
  cases store.record? id with
  | none => rfl
  | some record =>
    show (valueIn record.reported id property).toOption = record.reported.get? property
    unfold valueIn
    cases record.reported.get? property <;> rfl

/-- A device that reports something is registered. -/
theorem mem_devices_of_getReported
    (h : (store.getReported id property).toOption = some value) : id ∈ store.devices := by
  rw [getReported_eq] at h
  obtain ⟨record, hrecord, -⟩ := Option.bind_eq_some_iff.1 h
  exact mem_devices.2 ⟨record, hrecord⟩

/-- A registered device can report anything. -/
theorem exists_setReported (h : id ∈ store.devices) (property : Property) (value : Value) :
    ∃ store', store.setReported id property value = .ok store' := by
  obtain ⟨record, hrecord⟩ := mem_devices.1 h
  unfold setReported Store.record record?
  rw [hrecord]
  exact ⟨_, rfl⟩

theorem setReported_eq_ok (h : store.setReported id property value = .ok store') :
    ∃ record, store.records.get? id = some record ∧ store' = store.withRecord id
      { record with reported := record.reported.put property value } := by
  unfold setReported at h
  cases hrecord : store.record id with
  | error error => simp [hrecord, bind, Except.bind] at h
  | ok record =>
    simp only [hrecord, bind, Except.bind, pure, Except.pure, Except.ok.injEq] at h
    exact ⟨record, record_eq_ok hrecord, h.symm⟩

theorem devices_setReported (h : store.setReported id property value = .ok store') :
    store'.devices = store.devices := by
  obtain ⟨record, hrecord, rfl⟩ := setReported_eq_ok h
  exact devices_withRecord hrecord _

theorem getReported_setReported (h : store.setReported id property value = .ok store')
    (other : DeviceId) (p : Property) : (store'.getReported other p).toOption =
      if id = other ∧ property = p then some value else (store.getReported other p).toOption := by
  obtain ⟨record, hrecord, rfl⟩ := setReported_eq_ok h
  rw [getReported_eq, getReported_eq, record?_withRecord]
  by_cases hid : id = other
  · subst hid
    rw [if_pos rfl, show store.record? id = some record from hrecord]
    simp [Table.get?_put]
  · simp [hid]

/-! ### Removal -/

theorem deleteProperty_eq_ok (h : store.deleteProperty id property = .ok store') :
    ∃ record, store.records.get? id = some record ∧
      store' = store.withRecord id { record with reported := record.reported.erase property } := by
  unfold deleteProperty at h
  cases hrecord : store.record id with
  | error error => simp [hrecord, bind, Except.bind] at h
  | ok record =>
    simp only [hrecord, bind, Except.bind] at h
    split at h
    · simp only [pure, Except.pure, Except.ok.injEq] at h
      exact ⟨record, record_eq_ok hrecord, h.symm⟩
    · simp [throw, throwThe, MonadExceptOf.throw] at h

theorem devices_deleteProperty (h : store.deleteProperty id property = .ok store') :
    store'.devices = store.devices := by
  obtain ⟨record, hrecord, rfl⟩ := deleteProperty_eq_ok h
  exact devices_withRecord hrecord _

theorem getReported_deleteProperty (h : store.deleteProperty id property = .ok store')
    {other : DeviceId} {p : Property} (hne : id ≠ other ∨ property ≠ p) :
    (store'.getReported other p).toOption = (store.getReported other p).toOption := by
  obtain ⟨record, hrecord, rfl⟩ := deleteProperty_eq_ok h
  rw [getReported_eq, getReported_eq, record?_withRecord]
  by_cases hid : id = other
  · subst hid
    have hp : property ≠ p := by simpa using hne
    rw [if_pos rfl, show store.record? id = some record from hrecord]
    simp [Table.get?_erase, hp]
  · simp [hid]

theorem delete_of_mem (h : id ∈ store.devices) :
    store.delete id = .ok { store with records := store.records.erase id } :=
  if_pos ((Table.mem_keys _ _).1 h)

theorem delete_eq_ok (h : store.delete id = .ok store') :
    store' = { store with records := store.records.erase id } := by
  unfold delete at h
  split at h <;> simp_all

theorem devices_delete (h : store.delete id = .ok store') :
    store'.devices = store.devices.filter fun other => other ≠ id := by
  rw [delete_eq_ok h]
  exact Table.keys_erase store.records id

theorem getReported_delete (h : store.delete id = .ok store') (other : DeviceId) (p : Property) :
    (store'.getReported other p).toOption =
      if id = other then none else (store.getReported other p).toOption := by
  rw [delete_eq_ok h, getReported_eq, getReported_eq]
  have herase : Store.record? { store with records := store.records.erase id } other =
      if id = other then none else store.record? other := Table.get?_erase store.records id other
  rw [herase]
  by_cases hid : id = other <;> simp [hid]

end Store

/-! ### Calls through a platform -/

namespace Platform

variable {platform platform' : Platform} {call : Call} {property : Option Property}

theorem guarded_of_up {α : Type} (h : platform.isDown call property = false)
    (outcome : Except StoreError α) : platform.guarded call property outcome = outcome :=
  if_neg (ne_true_of_eq_false h)

theorem updated_of_up (h : platform.isDown call property = false) (store : Store) :
    platform.updated call property (.ok store) = .ok { platform with store := store } := by
  unfold updated
  rw [guarded_of_up h]
  rfl

theorem updated_eq_ok {outcome : Except StoreError Store}
    (h : platform.updated call property outcome = .ok platform') :
    ∃ store, outcome = .ok store ∧ platform' = { platform with store := store } := by
  unfold updated guarded at h
  split at h
  · simp [Except.map] at h
  · cases outcome with
    | error error => simp [Except.map] at h
    | ok store =>
      simp only [Except.map, Except.ok.injEq] at h
      exact ⟨store, rfl, h.symm⟩

end Platform

end AlarmMesh.Shadow
