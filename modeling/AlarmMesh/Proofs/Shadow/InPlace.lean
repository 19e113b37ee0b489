import AlarmMesh.Proofs.Shadow.Edit
import AlarmMesh.Proofs.Shadow.Rewrite
import AlarmMesh.Shadow.InPlace

/-!
# Step by step and in one go

What is done in place, step by step, is what the store and the platform say in one go, also where a
step fails after others were made: what those left behind is then the store as it was.  A record
that is not there is removed from a table that has none, a property likewise, and a new record that
is put in place empty and then filled is one that is put in place full.

* `Operation`, `Answer` — what can be done with a store, and what is given for it;
* `Operation.outcome`, `Operation.work` — an operation in one go, and step by step;
* `on_bind`, `on_tryCatch`, `on_amend` — what the steps of some work do to a store;
* `on_edit`, `on_reportGroup`, `on_increment`, `on_read` — the kinds of operation;
* `on_work` — both come to the same.
-/

namespace AlarmMesh.Shadow

open Radio (DeviceId)

/-! ### Operations -/

/-- A question about a store. -/
inductive Reading where
  | isRegistered (id : DeviceId)
  | isSubscribed (id : DeviceId) (property : Property)
  | count
  | devices
  | reported (id : DeviceId) (property : Property)
  | desired (id : DeviceId) (property : Property)
  | deviceAt (sid : UInt8)

/-- What can be done with a store. -/
inductive Operation where
  | read (reading : Reading)
  | edit (call : Edit)
  | reportGroup (id : DeviceId) (values : List (Property × Value))
  | increment (id : DeviceId) (property : Property)

/-- What an operation gives. -/
inductive Answer where
  | done
  | truth (b : Bool)
  | number (n : Int)
  | value (value : Value)
  | devices (ids : List DeviceId)
  | device (id? : Option DeviceId)

/-- What a question gives. -/
def Reading.answer (store : Store) : Reading → Except StoreError Answer
  | isRegistered id => .ok (.truth (store.isRegistered id))
  | isSubscribed id property => .ok (.truth (store.isSubscribed id property))
  | count => .ok (.number store.count)
  | devices => .ok (.devices store.devices)
  | reported id property => (store.getReported id property).map .value
  | desired id property => (store.getDesired id property).map .value
  | deviceAt sid => .ok (.device (Platform.deviceAt { store := store } sid))

/-- What an operation gives, and the store after it, each call in one go. -/
def Operation.outcome (store : Store) : Operation → Except StoreError Answer × Store
  | read reading => (reading.answer store, store)
  | edit call =>
    match store.edited call with
    | .ok after => (.ok .done, after)
    | .error error => (.error error, store)
  | reportGroup id values =>
    match Platform.reportGroup { store := store } id values with
    | (none, platform) => (.ok .done, platform.store)
    | (some error, platform) => (.error error, platform.store)
  | increment id property =>
    match Platform.increment { store := store } id property with
    | .ok (n, platform) => (.ok (.number n), platform.store)
    | .error error => (.error error, store)

/-- A question, in place. -/
def Reading.work : Reading → StoreM Answer
  | isRegistered id => return .truth ((← get).isRegistered id)
  | isSubscribed id property => return .truth ((← get).isSubscribed id property)
  | count => return .number (← get).count
  | devices => return .devices (← get).devices
  | reported id property => .value <$> StoreM.getReported id property
  | desired id property => .value <$> StoreM.getDesired id property
  | deviceAt sid => .device <$> StoreM.deviceAt sid

/-- A call that changes a store, in place. -/
def Edit.work : Edit → StoreM Unit
  | register id deviceType => StoreM.register id deviceType
  | delete id => StoreM.delete id
  | report id property value => StoreM.setReported id property value
  | forget id property => StoreM.deleteProperty id property
  | desire id property value => StoreM.setDesired id property value
  | subscribe id property => StoreM.subscribe id property

/-- An operation, in place. -/
def Operation.work : Operation → StoreM Answer
  | read reading => reading.work
  | edit call => (fun _ => .done) <$> call.work
  | reportGroup id values => (fun _ => .done) <$> StoreM.reportGroup id values
  | increment id property => .number <$> StoreM.increment id property

/-! ### Steps -/

theorem Platform.setReported_alone (store : Store) (id : DeviceId) (property : Property)
    (value : Value) : Platform.setReported { store := store } id property value =
      (store.setReported id property value).map fun after => { store := after } := rfl

theorem Platform.getReported_alone (store : Store) (id : DeviceId) (property : Property) :
    Platform.getReported { store := store } id property = store.getReported id property := rfl

theorem Platform.isRegistered_alone (store : Store) (id : DeviceId) :
    Platform.isRegistered { store := store } id = store.isRegistered id := rfl

namespace StoreM

variable {α β : Type}

theorem on_bind (work : StoreM α) (next : α → StoreM β) (store : Store) :
    (work >>= next).on store =
      match work.on store with
      | (.ok answer, after) => (next answer).on after
      | (.error error, after) => (.error error, after) := by
  show ExceptT.bindCont next (work.on store).1 (work.on store).2 = _
  rcases work.on store with ⟨answer | error, after⟩
  · rfl
  · rfl

theorem on_map (answer : α → β) (work : StoreM α) (store : Store) :
    (answer <$> work).on store = ((work.on store).1.map answer, (work.on store).2) := by
  rw [map_eq_pure_bind, on_bind]
  rcases work.on store with ⟨result | error, after⟩
  · rfl
  · rfl

theorem on_get (store : Store) : (get : StoreM Store).on store = (.ok store, store) := rfl

theorem on_set (store after : Store) : (set after : StoreM PUnit).on store = (.ok (), after) := rfl

theorem on_modify (change : Store → Store) (store : Store) :
    (modify change : StoreM PUnit).on store = (.ok (), change store) := rfl

theorem on_tryCatch (work : StoreM α) (handle : StoreError → StoreM α) (store : Store) :
    (tryCatch work handle).on store =
      match work.on store with
      | (.ok answer, after) => (.ok answer, after)
      | (.error error, after) => (handle error).on after := by
  unfold on
  simp only [tryCatch, tryCatchThe, MonadExceptOf.tryCatch, ExceptT.tryCatch, ExceptT.run,
    ExceptT.mk, bind, StateT.bind]
  rcases work store with ⟨answer | error, after⟩
  · rfl
  · rfl

theorem on_recordOf (id : DeviceId) (store : Store) :
    (recordOf id).on store = (store.record id, store) := by
  unfold recordOf Store.record
  rw [on_bind]
  dsimp only [on_get]
  cases store.record? id with
  | some record => rfl
  | none => rfl

theorem on_amend (id : DeviceId) (change : Record → Record) (store : Store) :
    (amend id change).on store =
      match store.record? id with
      | some record => (.ok (), store.withRecord id (change record))
      | none => (.error (.deviceNotFound id), store) := by
  unfold amend
  rw [on_bind, on_recordOf]
  unfold Store.record
  cases store.record? id with
  | some record => rfl
  | none => rfl

theorem on_ofExcept (outcome : Except StoreError α) (store : Store) :
    (ofExcept outcome : StoreM α).on store = (outcome, store) := by
  cases outcome with
  | ok answer => rfl
  | error error => rfl

theorem on_getReported (id : DeviceId) (property : Property) (store : Store) :
    (getReported id property).on store = (store.getReported id property, store) := by
  unfold getReported Store.getReported
  rw [on_bind, on_recordOf]
  cases store.record id with
  | error error => rfl
  | ok record => exact on_ofExcept (Store.valueIn record.reported id property) store

theorem on_getDesired (id : DeviceId) (property : Property) (store : Store) :
    (getDesired id property).on store = (store.getDesired id property, store) := by
  unfold getDesired Store.getDesired
  rw [on_bind, on_recordOf]
  cases store.record id with
  | error error => rfl
  | ok record => exact on_ofExcept (Store.valueIn record.desired id property) store

end StoreM

/-! ### Calls -/

theorem Table.erase_of_not_has {κ ν : Type} [DecidableEq κ] {table : Table κ ν} {key : κ}
    (h : table.has key = false) : table.erase key = table := by
  apply List.filter_eq_self.2
  intro entry hentry
  have hne : entry.1 ≠ key := by
    rintro rfl
    have hhas := (mem_keys table entry.1).1 (List.mem_map_of_mem hentry)
    rw [h] at hhas
    cases hhas
  simpa using hne

namespace Store

/-- What comes of a call that gives another store. -/
def settled (store : Store) : Except StoreError Store → Except StoreError Unit × Store
  | .ok after => (.ok (), after)
  | .error error => (.error error, store)

variable {store : Store} {id : DeviceId}

theorem put_place {records : Table DeviceId Record} (h : records.get? id = none)
    (old new : Record) : (place id old records).put id new = place id new records := by
  induction records with
  | nil => simp [place, Table.put]
  | cons entry rest ih =>
    obtain ⟨k, v⟩ := entry
    unfold Table.get? at h
    split at h
    · cases h
    · next hne =>
      unfold place
      split
      · rw [Table.put, if_neg hne, ih h]
      · simp [Table.put]

theorem withRecord_place (h : store.record? id = none) (old new : Record) :
    withRecord { store with records := place id old store.records } id new =
      { store with records := place id new store.records } := by
  unfold withRecord
  rw [put_place h]

theorem on_enter (id : DeviceId) (store : Store) : (StoreM.enter id).on store =
    (.ok (), if store.isRegistered id then store
      else { store with records := place id {} store.records }) := rfl

theorem isRegistered_eq (store : Store) (id : DeviceId) :
    store.isRegistered id = (store.record? id).isSome := rfl

theorem on_register (id : DeviceId) (deviceType : Nat) (store : Store) :
    (StoreM.register id deviceType).on store = store.settled (store.register id deviceType) := by
  unfold StoreM.register register
  rw [StoreM.on_bind]
  dsimp only [StoreM.on_get]
  cases hrecord : store.record? id with
  | some record =>
    have hregistered : store.isRegistered id = true := by rw [isRegistered_eq, hrecord]; rfl
    rw [if_neg (by simp [hregistered]), StoreM.on_bind, on_enter, if_pos hregistered]
    dsimp only
    rw [StoreM.on_amend, hrecord]
    rfl
  | none =>
    have hregistered : store.isRegistered id = false := by rw [isRegistered_eq, hrecord]; rfl
    by_cases hroom : store.count < store.maxDevices
    · -- a record is placed empty, and the type is put into it then
      have hplaced : record? { store with records := place id {} store.records } id = some {} :=
        (get?_place id id {} _ hrecord).trans (if_pos rfl)
      rw [if_neg (by simp [hregistered, hroom]), StoreM.on_bind, on_enter,
        if_neg (by simp [hregistered])]
      dsimp only
      rw [StoreM.on_amend, hplaced, if_pos hroom]
      exact congrArg (Prod.mk (Except.ok ())) (withRecord_place hrecord {} _)
    · rw [if_pos (by simpa [hregistered] using hroom), if_neg hroom]
      rfl

theorem on_delete (id : DeviceId) (store : Store) :
    (StoreM.delete id).on store = store.settled (store.delete id) := by
  unfold StoreM.delete delete
  rw [StoreM.on_bind]
  dsimp only [StoreM.on_get]
  rw [StoreM.on_bind]
  dsimp only [StoreM.on_set]
  cases hregistered : store.isRegistered id with
  | true => rfl
  | false =>
    -- the table was written, but nothing was there to be removed
    rw [Table.erase_of_not_has hregistered]
    rfl

theorem on_setReported (id : DeviceId) (property : Property) (value : Value) (store : Store) :
    (StoreM.setReported id property value).on store =
      store.settled (store.setReported id property value) := by
  unfold StoreM.setReported setReported record
  rw [StoreM.on_amend]
  cases store.record? id with
  | some record => rfl
  | none => rfl

theorem on_setDesired (id : DeviceId) (property : Property) (value : Value) (store : Store) :
    (StoreM.setDesired id property value).on store =
      store.settled (store.setDesired id property value) := by
  unfold StoreM.setDesired setDesired record
  rw [StoreM.on_amend]
  cases store.record? id with
  | some record => rfl
  | none => rfl

theorem on_deleteProperty (id : DeviceId) (property : Property) (store : Store) :
    (StoreM.deleteProperty id property).on store =
      store.settled (store.deleteProperty id property) := by
  unfold StoreM.deleteProperty deleteProperty
  rw [StoreM.on_bind, StoreM.on_recordOf]
  unfold record
  cases hrecord : store.record? id with
  | none => rfl
  | some record =>
    dsimp only
    rw [StoreM.on_bind]
    dsimp only [StoreM.on_modify, bind, Except.bind]
    cases hhas : record.reported.has property with
    | true => rfl
    | false =>
      rw [Table.erase_of_not_has hhas, withRecord_self hrecord]
      rfl

theorem on_subscribe (id : DeviceId) (property : Property) (store : Store) :
    (StoreM.subscribe id property).on store = store.settled (store.subscribe id property) := by
  unfold StoreM.subscribe subscribe
  rw [StoreM.on_amend]
  unfold record
  cases hrecord : store.record? id with
  | none => rfl
  | some record =>
    dsimp only [bind, Except.bind]
    by_cases hsubscribed : record.subscriptions.contains property = true
    · rw [if_pos hsubscribed, if_pos hsubscribed, withRecord_self hrecord]
      rfl
    · rw [if_neg hsubscribed, if_neg hsubscribed]
      rfl

theorem on_edit (edit : Edit) (store : Store) :
    edit.work.on store = store.settled (store.edited edit) := by
  cases edit with
  | register id deviceType => exact on_register id deviceType store
  | delete id => exact on_delete id store
  | report id property value => exact on_setReported id property value store
  | forget id property => exact on_deleteProperty id property store
  | desire id property value => exact on_setDesired id property value store
  | subscribe id property => exact on_subscribe id property store

/-! ### Calls built from others -/

/-- What comes of a group of reports. -/
def grouped : Option StoreError × Platform → Except StoreError Unit × Store
  | (none, platform) => (.ok (), platform.store)
  | (some error, platform) => (.error error, platform.store)

theorem on_reportGroup (id : DeviceId) (values : List (Property × Value)) (store : Store) :
    (StoreM.reportGroup id values).on store =
      grouped (Platform.reportGroup { store := store } id values) := by
  induction values generalizing store with
  | nil => rfl
  | cons entry rest ih =>
    obtain ⟨property, value⟩ := entry
    show (StoreM.setReported id property value >>= fun _ => StoreM.reportGroup id rest).on store = _
    rw [StoreM.on_bind, on_setReported]
    unfold Platform.reportGroup
    rw [Platform.setReported_alone]
    cases store.setReported id property value with
    | ok after => exact ih after
    | error error => rfl

theorem on_reported? (id : DeviceId) (property : Property) (store : Store) :
    (StoreM.reported? id property).on store =
      (match store.getReported id property with
        | .ok value => .ok (some value)
        | .error error =>
          if error.isNotFound && store.isRegistered id then .ok none else .error error, store) := by
  unfold StoreM.reported?
  rw [StoreM.on_tryCatch, StoreM.on_map, StoreM.on_getReported]
  cases store.getReported id property with
  | ok value => rfl
  | error error =>
    dsimp only [Except.map]
    rw [StoreM.on_bind]
    dsimp only [StoreM.on_get]
    split
    · rfl
    · rfl

theorem on_nextCount (id : DeviceId) (property : Property) (store : Store) :
    (StoreM.nextCount id property).on store =
      (Platform.nextCount { store := store } id property, store) := by
  unfold StoreM.nextCount Platform.nextCount
  rw [Platform.getReported_alone, StoreM.on_bind, on_reported?]
  cases store.getReported id property with
  | ok value =>
    dsimp only
    cases value.asInt with
    | some n => rfl
    | none => rfl
  | error error =>
    dsimp only
    rw [Platform.isRegistered_alone]
    by_cases hunset : (error.isNotFound && store.isRegistered id) = true
    · rw [if_pos hunset, if_pos hunset]
      rfl
    · rw [if_neg hunset, if_neg hunset]

/-- What comes of an increment. -/
def incremented (store : Store) : Except StoreError (Int × Platform) → Except StoreError Int × Store
  | .ok (n, platform) => (.ok n, platform.store)
  | .error error => (.error error, store)

theorem on_increment (id : DeviceId) (property : Property) (store : Store) :
    (StoreM.increment id property).on store =
      store.incremented (Platform.increment { store := store } id property) := by
  unfold StoreM.increment Platform.increment
  rw [StoreM.on_bind, on_nextCount]
  cases Platform.nextCount { store := store } id property with
  | error error => rfl
  | ok next =>
    dsimp only
    rw [StoreM.on_bind, on_setReported]
    dsimp only [bind, Except.bind]
    rw [Platform.setReported_alone]
    cases store.setReported id property (.integer next) with
    | ok after => rfl
    | error error => rfl

/-! ### Questions -/

theorem on_slotOf (id : DeviceId) (store : Store) :
    (StoreM.slotOf id).on store = (.ok (Platform.slotOf { store := store } id), store) := by
  unfold StoreM.slotOf Platform.slotOf
  rw [StoreM.on_tryCatch, StoreM.on_map, StoreM.on_getReported, Platform.getReported_alone]
  cases store.getReported id .sid with
  | ok value => rfl
  | error error => rfl

/-- A search whose test changes nothing changes nothing. -/
theorem on_findM? {test : DeviceId → StoreM Bool} {p : DeviceId → Bool} {store : Store}
    (h : ∀ id, (test id).on store = (.ok (p id), store)) (ids : List DeviceId) :
    (ids.findM? test).on store = (.ok (ids.find? p), store) := by
  induction ids with
  | nil => rfl
  | cons id rest ih =>
    unfold List.findM?
    rw [StoreM.on_bind, h id]
    dsimp only
    cases hp : p id with
    | true =>
      rw [List.find?_cons_of_pos hp]
      rfl
    | false =>
      rw [List.find?_cons_of_neg (by simp [hp])]
      exact ih

theorem on_deviceAt (sid : UInt8) (store : Store) :
    (StoreM.deviceAt sid).on store = (.ok (Platform.deviceAt { store := store } sid), store) := by
  unfold StoreM.deviceAt
  rw [StoreM.on_bind]
  apply on_findM?
  intro id
  rw [StoreM.on_bind, on_slotOf]
  rfl

theorem on_read (reading : Reading) (store : Store) :
    reading.work.on store = (reading.answer store, store) := by
  cases reading with
  | isRegistered id => rfl
  | isSubscribed id property => rfl
  | count => rfl
  | devices => rfl
  | reported id property =>
    show (Answer.value <$> StoreM.getReported id property).on store = _
    rw [StoreM.on_map, StoreM.on_getReported]
    rfl
  | desired id property =>
    show (Answer.value <$> StoreM.getDesired id property).on store = _
    rw [StoreM.on_map, StoreM.on_getDesired]
    rfl
  | deviceAt sid =>
    show (Answer.device <$> StoreM.deviceAt sid).on store = _
    rw [StoreM.on_map, on_deviceAt]
    rfl

/-- Step by step, an operation does what it does in one go. -/
theorem on_work (operation : Operation) (store : Store) :
    operation.work.on store = operation.outcome store := by
  cases operation with
  | read reading => exact on_read reading store
  | edit call =>
    show ((fun _ => Answer.done) <$> call.work).on store = _
    unfold Operation.outcome
    rw [StoreM.on_map, on_edit]
    dsimp only
    cases store.edited call with
    | ok after => rfl
    | error error => rfl
  | reportGroup id values =>
    show ((fun _ => Answer.done) <$> StoreM.reportGroup id values).on store = _
    unfold Operation.outcome
    rw [StoreM.on_map, on_reportGroup]
    dsimp only
    rcases Platform.reportGroup { store := store } id values with ⟨_ | error, platform⟩
    · rfl
    · rfl
  | increment id property =>
    show (Answer.number <$> StoreM.increment id property).on store = _
    unfold Operation.outcome
    rw [StoreM.on_map, on_increment]
    dsimp only
    cases Platform.increment { store := store } id property with
    | ok entry => rfl
    | error error => rfl

end Store

end AlarmMesh.Shadow
