import AlarmMesh.Proofs.Shadow.InPlace

/-!
# What a call makes of a store

A call that does not fail brings a record, takes one away or puts another one in the place of one.
In each case it is about one device, and with the record of that device left out the store is as it
was.

* `Effect`, `effect_edited` — what a call can make of a store;
* `OnlyAbout`, `Effect.onlyAbout` — stores that differ at most in the record of one device;
* `Effect.count_le`, `Effect.values` — the number of records, and the values in them;
* `editedBy`, `editedBy_induct` — several calls, and what each of them keeps.
-/

namespace AlarmMesh.Shadow

open Radio (DeviceId)

/-! ### What a call can do -/

namespace Table

variable {κ ν : Type} [DecidableEq κ]

theorem mem_of_get? {table : Table κ ν} {key : κ} {value : ν} (h : table.get? key = some value) :
    (key, value) ∈ table := by
  induction table with
  | nil => cases h
  | cons entry rest ih =>
    obtain ⟨k, v⟩ := entry
    unfold get? at h
    split at h
    · next heq =>
      obtain rfl := heq
      obtain rfl := Option.some.inj h
      exact List.mem_cons_self
    · exact List.mem_cons_of_mem _ (ih h)

theorem mem_put {table : Table κ ν} {key : κ} {entry : κ × ν} {value : ν}
    (h : entry ∈ table.put key value) :
    entry = (key, value) ∨ entry ∈ table := by
  induction table with
  | nil => exact .inl (List.mem_singleton.1 h)
  | cons first rest ih =>
    obtain ⟨k, v⟩ := first
    unfold put at h
    split at h
    · rcases List.mem_cons.1 h with h | h
      · exact .inl h
      · exact .inr (List.mem_cons_of_mem _ h)
    · rcases List.mem_cons.1 h with h | h
      · exact .inr (h ▸ List.mem_cons_self)
      · exact (ih h).imp_right (List.mem_cons_of_mem _)

theorem erase_put (table : Table κ ν) (key : κ) (value : ν) :
    (table.put key value).erase key = table.erase key := by
  induction table with
  | nil => simp [put, erase]
  | cons entry rest ih =>
    obtain ⟨k, v⟩ := entry
    unfold erase at ih ⊢
    unfold put
    by_cases hk : k = key
    · simp [hk]
    · rw [if_neg hk, List.filter_cons_of_pos (by simpa using hk),
        List.filter_cons_of_pos (by simpa using hk), ih]

theorem erase_erase (table : Table κ ν) (key : κ) :
    (table.erase key).erase key = table.erase key := by
  unfold erase
  rw [List.filter_filter]
  simp only [Bool.and_self]

end Table

/-- The device that a call is about. -/
def Edit.device : Edit → DeviceId
  | register id _ | delete id | report id _ _ | forget id _ | desire id _ _ | subscribe id _ => id

/-- The values that a call writes. -/
def Edit.written : Edit → List Value
  | register _ deviceType => [.ofNat deviceType]
  | report _ _ value | desire _ _ value => [value]
  | _ => []

/-- The values in a table. -/
def Table.values {κ : Type} (table : Table κ Value) : List Value := List.map Prod.snd table

/-- The values in a record. -/
def Record.values (record : Record) : List Value := record.reported.values ++ record.desired.values

namespace Store

/-- The values in a store. -/
def values (store : Store) : List Value := List.flatMap (fun entry => entry.2.values) store.records

/-- What a call that does not fail makes of a store. -/
inductive Effect (store : Store) : Edit → Store → Prop
  | enters {id : DeviceId} (deviceType : Nat) (unknown : store.record? id = none)
      (room : store.count < store.maxDevices) :
      Effect store (.register id deviceType) { store with
        records := place id { reported := [(.deviceType, .ofNat deviceType)] } store.records }
  | removes (id : DeviceId) :
      Effect store (.delete id) { store with records := store.records.erase id }
  | rewrites {call : Edit} {old : Record} (registered : store.records.get? call.device = some old)
      (new : Record) (hvalues : ∀ v ∈ new.values, v ∈ old.values ∨ v ∈ call.written) :
      Effect store call (store.withRecord call.device new)
  | keeps (id : DeviceId) (property : Property) : Effect store (.subscribe id property) store

variable {store after : Store} {id : DeviceId} {record : Record} {call : Edit} {calls : List Edit}
  {v : Value}

theorem mem_values_put {table : Table Property Value} {property : Property} {value : Value}
    (h : v ∈ (table.put property value).values) : v ∈ table.values ∨ v ∈ [value] := by
  obtain ⟨entry, hentry, rfl⟩ := List.mem_map.1 h
  rcases Table.mem_put hentry with rfl | hentry
  · exact .inr List.mem_cons_self
  · exact .inl (List.mem_map_of_mem hentry)

theorem mem_values_erase {table : Table Property Value} {property : Property}
    (h : v ∈ (table.erase property).values) : v ∈ table.values := by
  obtain ⟨entry, hentry, rfl⟩ := List.mem_map.1 h
  exact List.mem_map_of_mem (List.mem_filter.1 hentry).1

theorem mem_values_report {property : Property} {value : Value}
    (h : v ∈ { record with reported := record.reported.put property value }.values) :
    v ∈ record.values ∨ v ∈ [value] := by
  rcases List.mem_append.1 h with h | h
  · exact (mem_values_put h).imp_left (List.mem_append_left _)
  · exact .inl (List.mem_append_right _ h)

theorem effect_edited (h : store.edited call = .ok after) : Effect store call after := by
  cases call with
  | register id deviceType =>
    have hok : store.register id deviceType = .ok after := h
    unfold register at hok
    split at hok
    · next record hfound =>
      have hrecord : store.records.get? id = some record := hfound
      obtain rfl := Except.ok.inj hok
      exact .rewrites hrecord _ fun v hv => mem_values_report hv
    · next hrecord =>
      split at hok
      · next hroom =>
        obtain rfl := Except.ok.inj hok
        exact .enters deviceType hrecord hroom
      · cases hok
  | delete id =>
    rw [delete_eq_ok h]
    exact .removes id
  | report id property value =>
    obtain ⟨record, hrecord, rfl⟩ := setReported_eq_ok h
    exact .rewrites hrecord _ fun v hv => mem_values_report hv
  | forget id property =>
    obtain ⟨record, hrecord, rfl⟩ := deleteProperty_eq_ok h
    refine .rewrites hrecord _ fun v hv => .inl ?_
    rcases List.mem_append.1 hv with hv | hv
    · exact List.mem_append_left _ (mem_values_erase hv)
    · exact List.mem_append_right _ hv
  | desire id property value =>
    obtain ⟨record, hrecord, rfl⟩ := setDesired_eq_ok h
    refine .rewrites hrecord _ fun v hv => ?_
    rcases List.mem_append.1 hv with hv | hv
    · exact .inl (List.mem_append_left _ hv)
    · exact (mem_values_put hv).imp_left (List.mem_append_right _)
  | subscribe id property =>
    obtain rfl | ⟨record, hrecord, rfl⟩ := subscribe_eq_ok h
    · exact .keeps id property
    · refine .rewrites hrecord _ ?_
      intro v hv
      exact .inl hv

/-- The stores differ at most in the record of one device. -/
structure OnlyAbout (id : DeviceId) (store after : Store) : Prop where
  maxDevices : after.maxDevices = store.maxDevices
  others : after.records.erase id = store.records.erase id

theorem OnlyAbout.refl (id : DeviceId) (store : Store) : OnlyAbout id store store := ⟨rfl, rfl⟩

theorem OnlyAbout.trans {a b c : Store} (h : OnlyAbout id a b) (h' : OnlyAbout id b c) :
    OnlyAbout id a c :=
  ⟨h'.maxDevices.trans h.maxDevices, h'.others.trans h.others⟩

theorem erase_place (id : DeviceId) (record : Record) (records : Table DeviceId Record) :
    (place id record records).erase id = records.erase id := by
  unfold Table.erase
  induction records with
  | nil => simp [place]
  | cons entry rest ih =>
    unfold place
    split
    · rw [List.filter_cons, List.filter_cons, ih]
    · rw [List.filter_cons_of_neg (by simp)]

theorem mem_place {entry : DeviceId × Record} {records : Table DeviceId Record} :
    entry ∈ place id record records ↔ entry = (id, record) ∨ entry ∈ records := by
  induction records with
  | nil => simp [place]
  | cons first rest ih =>
    unfold place
    split
    · rw [List.mem_cons, List.mem_cons, ih]
      exact or_left_comm
    · exact List.mem_cons

theorem length_place (id : DeviceId) (record : Record) (records : Table DeviceId Record) :
    List.length (place id record records) = List.length records + 1 := by
  induction records with
  | nil => rfl
  | cons entry rest ih =>
    unfold place
    split
    · rw [List.length_cons, List.length_cons, ih]
    · rfl

theorem Effect.onlyAbout (h : Effect store call after) : OnlyAbout call.device store after := by
  cases h with
  | enters => exact ⟨rfl, erase_place _ _ _⟩
  | removes => exact ⟨rfl, Table.erase_erase _ _⟩
  | rewrites => exact ⟨rfl, Table.erase_put _ _ _⟩
  | keeps => exact .refl _ store

/-- Only a device that is registered for the first time takes room, and there was some. -/
theorem Effect.count_le (h : Effect store call after) : after.count ≤ store.count ∨
    (∃ id deviceType, call = .register id deviceType) ∧ after.count ≤ store.maxDevices := by
  cases h with
  | @enters id deviceType _ hroom =>
    refine .inr ⟨⟨id, deviceType, rfl⟩, ?_⟩
    unfold count
    rw [length_place]
    exact hroom
  | removes => exact .inl (List.length_filter_le _ _)
  | rewrites hrecord new =>
    have hfound : store.record? call.device = some _ := hrecord
    exact .inl (Nat.le_of_eq (Rewrites.replaced hfound new).count)
  | keeps => exact .inl (Nat.le_refl _)

theorem Effect.values (h : Effect store call after) (hv : v ∈ after.values) :
    v ∈ store.values ∨ v ∈ call.written := by
  obtain ⟨entry, hentry, hvalue⟩ := List.mem_flatMap.1 hv
  cases h with
  | enters deviceType =>
    rcases mem_place.1 hentry with rfl | hentry
    · exact .inr hvalue
    · exact .inl (List.mem_flatMap.2 ⟨entry, hentry, hvalue⟩)
  | removes => exact .inl (List.mem_flatMap.2 ⟨entry, (List.mem_filter.1 hentry).1, hvalue⟩)
  | rewrites hrecord new hnew =>
    rcases Table.mem_put hentry with rfl | hentry
    · exact (hnew v hvalue).imp_left fun hold =>
        List.mem_flatMap.2 ⟨_, Table.mem_of_get? hrecord, hold⟩
    · exact .inl (List.mem_flatMap.2 ⟨entry, hentry, hvalue⟩)
  | keeps => exact .inl hv

/-! ### Several calls -/

/-- The store after calls of which none fails. -/
def editedBy (store : Store) (calls : List Edit) : Except StoreError Store :=
  calls.foldlM edited store

theorem editedBy_cons_of_ok (h : store.edited call = .ok after) (calls : List Edit) :
    store.editedBy (call :: calls) = after.editedBy calls := by
  unfold editedBy
  rw [List.foldlM_cons, h]
  rfl

theorem editedBy_single (call : Edit) : store.editedBy [call] = store.edited call := by
  unfold editedBy
  rw [List.foldlM_cons]
  cases store.edited call with
  | ok after => rfl
  | error error => rfl

/-- What each call keeps is kept by all of them. -/
theorem editedBy_induct {motive : Store → Prop} (hbegin : motive store)
    (hstep : ∀ call ∈ calls, ∀ a b, motive a → Effect a call b → motive b)
    (h : store.editedBy calls = .ok after) : motive after := by
  induction calls generalizing store with
  | nil =>
    obtain rfl := Except.ok.inj h
    exact hbegin
  | cons call rest ih =>
    cases hcall : store.edited call with
    | error error =>
      unfold editedBy at h
      rw [List.foldlM_cons, hcall] at h
      cases h
    | ok next =>
      rw [editedBy_cons_of_ok hcall] at h
      refine ih ?_ ?_ h
      · exact hstep call List.mem_cons_self _ _ hbegin (effect_edited hcall)
      · intro other hother
        exact hstep other (List.mem_cons_of_mem _ hother)

end Store

end AlarmMesh.Shadow
