import AlarmMesh.Proofs.Shadow.Effect
import Mathlib.Algebra.Group.Int.Defs

/-!
# Operations that fail change nothing

An operation may be made of several calls, and a call of several steps, each of which can fail.
None leaves half of its work behind, for one reason: calls about one device fail at the first if it
has no record, and a call that reports something fails for no other reason and leaves a record for
the next one.

* `Operation.calls`, `Operation.ends` — an operation fails and leaves the store as it was, or all
  of its calls are made;
* `onlyAbout_leaves`, `count_leaves`, `values_leaves` — what an operation leaves alone;
* `Operation.refusal?`, `gives_eq_error_iff` — when an operation fails, and why;
* `Value.Fits`, `Operation.Fits` — numbers of 64 bits;
* `Atomic`, `atomic` — what holds of every operation on a store.
-/

namespace AlarmMesh.Shadow

open Radio (DeviceId)

/-! ### Operations and their calls -/

/-- The device whose record an operation may change. -/
def Operation.device? : Operation → Option DeviceId
  | read _ => none
  | edit call => some call.device
  | reportGroup id _ | increment id _ => some id

/-- The calls that an operation comes to, if it does not fail. -/
def Operation.calls (store : Store) : Operation → List Edit
  | read _ => []
  | edit call => [call]
  | reportGroup id values => values.map fun entry => .report id entry.1 entry.2
  | increment id property =>
    match Platform.nextCount { store := store } id property with
    | .ok next => [.report id property (.integer next)]
    | .error _ => []

/-- An operation fails and leaves the store as it was, or all of its calls are made. -/
inductive Operation.Ends (store : Store) (operation : Operation) :
    Except StoreError Answer × Store → Prop
  | fails (error : StoreError) : Ends store operation (.error error, store)
  | succeeds (answer : Answer) {after : Store}
      (h : store.editedBy (operation.calls store) = .ok after) :
      Ends store operation (.ok answer, after)

namespace Operation

variable {store after : Store} {id : DeviceId}

/-- A registered device can report any group of values. -/
theorem reportGroup_of_registered (h : id ∈ store.devices) (values : List (Property × Value)) :
    ∃ after, Platform.reportGroup { store := store } id values = (none, { store := after }) ∧
      store.editedBy (values.map fun entry => .report id entry.1 entry.2) = .ok after := by
  induction values generalizing store with
  | nil => exact ⟨store, rfl, rfl⟩
  | cons entry rest ih =>
    obtain ⟨property, value⟩ := entry
    obtain ⟨next, hnext⟩ := Store.exists_setReported h property value
    have hcall : store.edited (.report id property value) = .ok next := hnext
    have hmem : id ∈ next.devices := by rwa [Store.devices_setReported hnext]
    obtain ⟨after, hrest, hcalls⟩ := ih hmem
    refine ⟨after, ?_, ?_⟩
    · unfold Platform.reportGroup
      rw [Platform.setReported_alone, hnext]
      exact hrest
    · rw [List.map_cons, Store.editedBy_cons_of_ok hcall]
      exact hcalls

/-- A device without a record fails to report at the first value of a group. -/
theorem reportGroup_of_not_registered (h : id ∉ store.devices) (entry : Property × Value)
    (rest : List (Property × Value)) :
    Platform.reportGroup { store := store } id (entry :: rest) =
      (some (.deviceNotFound id), { store := store }) := by
  have hnone : store.record? id = none := by
    cases hrecord : store.record? id with
    | none => rfl
    | some record => exact absurd (Store.mem_devices.2 ⟨record, hrecord⟩) h
  obtain ⟨property, value⟩ := entry
  unfold Platform.reportGroup
  rw [Platform.setReported_alone]
  unfold Store.setReported Store.record
  rw [hnone]
  rfl

theorem ends_reportGroup (store : Store) (id : DeviceId) (values : List (Property × Value)) :
    Ends store (.reportGroup id values) ((reportGroup id values).outcome store) := by
  unfold outcome
  dsimp only
  by_cases h : id ∈ store.devices
  · obtain ⟨after, hgroup, hcalls⟩ := reportGroup_of_registered h values
    rw [hgroup]
    exact .succeeds _ hcalls
  · cases values with
    | nil => exact .succeeds _ rfl
    | cons entry rest =>
      rw [reportGroup_of_not_registered h]
      exact .fails _

theorem calls_increment {property : Property} {next : Int}
    (h : Platform.nextCount { store := store } id property = .ok next) :
    (increment id property).calls store = [.report id property (.integer next)] := by
  unfold calls
  dsimp only
  rw [h]

theorem mem_calls_increment {property : Property} {call : Edit}
    (h : call ∈ (increment id property).calls store) : ∃ next,
      Platform.nextCount { store := store } id property = .ok next ∧
        call = .report id property (.integer next) := by
  cases hnext : Platform.nextCount { store := store } id property with
  | error error =>
    unfold calls at h
    dsimp only at h
    rw [hnext] at h
    cases h
  | ok next =>
    rw [calls_increment hnext] at h
    exact ⟨next, rfl, List.mem_singleton.1 h⟩

theorem ends_increment (store : Store) (id : DeviceId) (property : Property) :
    Ends store (.increment id property) ((increment id property).outcome store) := by
  unfold outcome Platform.increment
  dsimp only
  cases hnext : Platform.nextCount { store := store } id property with
  | error error => exact .fails error
  | ok next =>
    dsimp only [bind, Except.bind]
    rw [Platform.setReported_alone]
    cases hreport : store.setReported id property (.integer next) with
    | error error => exact .fails error
    | ok after =>
      refine .succeeds _ ?_
      rw [calls_increment hnext, Store.editedBy_single]
      exact hreport

/-- All that can come of an operation. -/
theorem ends (operation : Operation) (store : Store) :
    Ends store operation (operation.outcome store) := by
  cases operation with
  | read reading =>
    show Ends store _ (reading.answer store, store)
    cases reading.answer store with
    | ok answer => exact .succeeds answer rfl
    | error error => exact .fails error
  | edit call =>
    unfold outcome
    dsimp only
    cases hcall : store.edited call with
    | ok after => exact .succeeds _ ((Store.editedBy_single call).trans hcall)
    | error error => exact .fails error
  | reportGroup id values => exact ends_reportGroup store id values
  | increment id property => exact ends_increment store id property

/-- What an operation gives, step by step. -/
def gives (operation : Operation) (store : Store) : Except StoreError Answer :=
  (operation.work.on store).1

/-- The store that an operation leaves, step by step. -/
def leaves (operation : Operation) (store : Store) : Store := (operation.work.on store).2

theorem leaves_eq_or (operation : Operation) (store : Store) :
    (∃ error, operation.gives store = .error error ∧ operation.leaves store = store) ∨
      ∃ answer, operation.gives store = .ok answer ∧
        store.editedBy (operation.calls store) = .ok (operation.leaves store) := by
  have hends := ends operation store
  unfold gives leaves
  rw [Store.on_work]
  generalize operation.outcome store = result at hends ⊢
  cases hends with
  | fails error => exact .inl ⟨error, rfl, rfl⟩
  | succeeds answer h => exact .inr ⟨answer, rfl, h⟩

theorem device_of_mem_calls {operation : Operation} {call : Edit}
    (h : call ∈ operation.calls store) : operation.device? = some call.device := by
  cases operation with
  | read reading => cases h
  | edit other =>
    obtain rfl := List.mem_singleton.1 h
    rfl
  | reportGroup id values =>
    obtain ⟨entry, -, rfl⟩ := List.mem_map.1 h
    rfl
  | increment id property =>
    obtain ⟨next, -, rfl⟩ := mem_calls_increment h
    rfl

theorem edit_of_mem_calls {operation : Operation} {deviceType : Nat}
    (h : .register id deviceType ∈ operation.calls store) :
    operation = .edit (.register id deviceType) := by
  cases operation with
  | read reading => cases h
  | edit other => rw [List.mem_singleton.1 h]
  | reportGroup id values =>
    obtain ⟨entry, -, hentry⟩ := List.mem_map.1 h
    cases hentry
  | increment id property =>
    obtain ⟨next, -, hreport⟩ := mem_calls_increment h
    cases hreport

/-- An operation changes no other record than that of its device. -/
theorem onlyAbout_leaves {operation : Operation} (h : operation.device? = some id)
    (store : Store) : Store.OnlyAbout id store (operation.leaves store) := by
  rcases leaves_eq_or operation store with ⟨error, -, hleaves⟩ | ⟨answer, -, hcalls⟩
  · rw [hleaves]
    exact .refl id store
  · refine Store.editedBy_induct (.refl id store) ?_ hcalls
    intro call hcall a b hab heffect
    have hdevice := (device_of_mem_calls hcall).symm.trans h
    exact hab.trans (Option.some.inj hdevice ▸ heffect.onlyAbout)

theorem leaves_read (reading : Reading) (store : Store) :
    (read reading).leaves store = store := by
  rcases leaves_eq_or (read reading) store with ⟨error, -, hleaves⟩ | ⟨answer, -, hcalls⟩
  · exact hleaves
  · exact (Except.ok.inj hcalls).symm

theorem maxDevices_leaves (operation : Operation) (store : Store) :
    (operation.leaves store).maxDevices = store.maxDevices := by
  cases operation with
  | read reading => rw [leaves_read]
  | edit | reportGroup | increment => exact (onlyAbout_leaves rfl store).maxDevices

/-- There are no more records than before, or one that was new found room. -/
theorem count_leaves (operation : Operation) (store : Store) :
    (operation.leaves store).count ≤ store.count ∨
      (∃ id deviceType, operation = .edit (.register id deviceType)) ∧
        (operation.leaves store).count ≤ store.maxDevices := by
  rcases leaves_eq_or operation store with ⟨error, -, hleaves⟩ | ⟨answer, -, hcalls⟩
  · rw [hleaves]
    exact .inl (Nat.le_refl _)
  · have hcount := Store.editedBy_induct
      (motive := fun next => next.maxDevices = store.maxDevices ∧ (next.count ≤ store.count ∨
        (∃ id deviceType, operation = .edit (.register id deviceType)) ∧
          next.count ≤ store.maxDevices))
      ⟨rfl, .inl (Nat.le_refl _)⟩ ?_ hcalls
    · exact hcount.2
    · rintro call hcall a b ⟨hmax, hcount⟩ heffect
      refine ⟨heffect.onlyAbout.maxDevices.trans hmax, ?_⟩
      rcases heffect.count_le with hle | ⟨⟨id, deviceType, rfl⟩, hle⟩
      · exact hcount.imp (Nat.le_trans hle) (And.imp_right (Nat.le_trans hle))
      · exact .inr ⟨⟨id, deviceType, edit_of_mem_calls hcall⟩, hmax ▸ hle⟩

/-- After any operations there are no more records than before, or no more than there may be. -/
theorem count_foldl_leaves (operations : List Operation) (store : Store) :
    (operations.foldl (fun store operation => operation.leaves store) store).count ≤
      max store.count store.maxDevices := by
  induction operations generalizing store with
  | nil => exact Nat.le_max_left _ _
  | cons operation rest ih =>
    have hrest := ih (operation.leaves store)
    have hmax := maxDevices_leaves operation store
    rw [List.foldl_cons]
    rcases count_leaves operation store with hcount | ⟨-, hcount⟩
    · omega
    · omega

end Operation

/-! ### Why an operation fails -/

namespace Store

/-- Why a call about a device fails that has no record. -/
def unknown? (store : Store) (id : DeviceId) : Option StoreError :=
  if (store.record? id).isSome then none else some (.deviceNotFound id)

/-- Why a call about a property fails that one of the two tables of a record must have. -/
def unset? (store : Store) (table : Record → Table Property Value) (id : DeviceId)
    (property : Property) : Option StoreError :=
  match store.record? id with
  | none => some (.deviceNotFound id)
  | some record =>
    if (table record).has property then none else some (.propertyNotFound id property)

end Store

/-- Why an operation fails, if it does. -/
def Operation.refusal? (store : Store) : Operation → Option StoreError
  | read (.reported id property) => store.unset? Record.reported id property
  | read (.desired id property) => store.unset? Record.desired id property
  | read _ => none
  | edit (.register id _) =>
    if store.record? id = none ∧ store.maxDevices ≤ store.count then some (.full store.maxDevices)
    else none
  | edit (.forget id property) => store.unset? Record.reported id property
  | edit call => store.unknown? call.device
  | reportGroup id values => if values = [] then none else store.unknown? id
  | increment id property =>
    match store.record? id with
    | none => some (.deviceNotFound id)
    | some record =>
      match record.reported.get? property with
      | none | some (.integer _) => none
      | some _ => some (.typeMismatch id property "an integer")

namespace Operation

variable {store : Store} {id : DeviceId} {error : StoreError}

/-- A value is found unless the device has no record, or its record has none. -/
theorem valueIn_eq_error_iff (table : Record → Table Property Value) {property : Property} :
    (store.record id >>= fun record => Store.valueIn (table record) id property) = .error error ↔
      store.unset? table id property = some error := by
  unfold Store.record Store.unset?
  cases store.record? id with
  | none => simp [bind, Except.bind]
  | some record =>
    dsimp only [bind, Except.bind]
    unfold Store.valueIn Table.has
    cases (table record).get? property with
    | none => simp
    | some value => simp

theorem edited_eq_error_iff (call : Edit) :
    store.edited call = .error error ↔ (edit call).refusal? store = some error := by
  cases call with
  | register id deviceType =>
    show store.register id deviceType = .error error ↔ _
    unfold Store.register refusal?
    cases hrecord : store.record? id with
    | some record => simp [hrecord]
    | none =>
      by_cases hroom : store.count < store.maxDevices
      · simp [hroom, hrecord, Nat.not_le_of_lt hroom]
      · simp [hroom, hrecord, Nat.le_of_not_lt hroom]
  | delete id =>
    show store.delete id = .error error ↔ store.unknown? id = some error
    unfold Store.delete Store.unknown?
    rw [Store.isRegistered_eq]
    cases store.record? id with
    | some record => simp
    | none => simp
  | report id property value =>
    show store.setReported id property value = .error error ↔ store.unknown? id = some error
    unfold Store.setReported Store.record Store.unknown?
    cases store.record? id with
    | some record => simp [bind, Except.bind, pure, Except.pure]
    | none => simp [bind, Except.bind]
  | forget id property =>
    show store.deleteProperty id property = .error error ↔
      store.unset? Record.reported id property = some error
    unfold Store.deleteProperty Store.record Store.unset?
    cases store.record? id with
    | none => simp [bind, Except.bind]
    | some record =>
      dsimp only [bind, Except.bind]
      cases record.reported.has property with
      | true => simp [pure, Except.pure]
      | false => simp [throw, throwThe, MonadExceptOf.throw]
  | desire id property value =>
    show store.setDesired id property value = .error error ↔ store.unknown? id = some error
    unfold Store.setDesired Store.record Store.unknown?
    cases store.record? id with
    | some record => simp [bind, Except.bind, pure, Except.pure]
    | none => simp [bind, Except.bind]
  | subscribe id property =>
    show store.subscribe id property = .error error ↔ store.unknown? id = some error
    unfold Store.subscribe Store.record Store.unknown?
    cases store.record? id with
    | none => simp [bind, Except.bind]
    | some record =>
      dsimp only [bind, Except.bind]
      split <;> simp [pure, Except.pure]

theorem outcome_reportGroup_eq_error_iff (values : List (Property × Value)) :
    ((reportGroup id values).outcome store).1 = .error error ↔
      (reportGroup id values).refusal? store = some error := by
  unfold outcome refusal? Store.unknown?
  dsimp only
  by_cases hmem : id ∈ store.devices
  · obtain ⟨after, hgroup, -⟩ := reportGroup_of_registered hmem values
    rw [hgroup, if_pos (Store.mem_devices_iff_record?.1 hmem)]
    simp
  · cases values with
    | nil =>
      rw [if_pos rfl]
      simp [Platform.reportGroup]
    | cons entry rest =>
      rw [reportGroup_of_not_registered hmem, if_neg (List.cons_ne_nil entry rest),
        if_neg fun hrecord => hmem (Store.mem_devices_iff_record?.2 hrecord)]
      simp

theorem outcome_increment_eq_error_iff (property : Property) :
    ((increment id property).outcome store).1 = .error error ↔
      (increment id property).refusal? store = some error := by
  unfold outcome refusal? Platform.increment Platform.nextCount
  dsimp only
  rw [Platform.getReported_alone, Platform.isRegistered_alone, Store.isRegistered_eq]
  unfold Store.getReported Store.record
  cases hrecord : store.record? id with
  | none => simp [bind, Except.bind, StoreError.isNotFound]
  | some record =>
    have hwrites (next : Int) : store.setReported id property (.integer next) =
        .ok (store.withRecord id
          { record with reported := record.reported.put property (.integer next) }) := by
      unfold Store.setReported Store.record
      rw [hrecord]
      rfl
    dsimp only [bind, Except.bind]
    unfold Store.valueIn
    cases record.reported.get? property with
    | none =>
      simp [StoreError.isNotFound, Platform.setReported_alone, hwrites, Except.map, pure,
        Except.pure]
    | some value =>
      cases value with
      | integer n =>
        simp [Value.asInt, Platform.setReported_alone, hwrites, Except.map, pure, Except.pure]
      | bool b => simp [Value.asInt]
      | text s => simp [Value.asInt]

theorem gives_eq_error_iff (operation : Operation) (store : Store) (error : StoreError) :
    operation.gives store = .error error ↔ operation.refusal? store = some error := by
  unfold gives
  rw [Store.on_work]
  cases operation with
  | read reading =>
    show reading.answer store = .error error ↔ _
    cases reading with
    | isRegistered | isSubscribed | count | devices | deviceAt => simp [Reading.answer, refusal?]
    | reported id property =>
      refine Iff.trans ?_ (valueIn_eq_error_iff Record.reported)
      show (store.getReported id property).map Answer.value = .error error ↔
        store.getReported id property = .error error
      cases store.getReported id property with
      | ok value => simp [Except.map]
      | error other => simp [Except.map]
    | desired id property =>
      refine Iff.trans ?_ (valueIn_eq_error_iff Record.desired)
      show (store.getDesired id property).map Answer.value = .error error ↔
        store.getDesired id property = .error error
      cases store.getDesired id property with
      | ok value => simp [Except.map]
      | error other => simp [Except.map]
  | edit call =>
    rw [← edited_eq_error_iff]
    unfold outcome
    dsimp only
    cases store.edited call with
    | ok after => simp
    | error other => simp
  | reportGroup id values => exact outcome_reportGroup_eq_error_iff values
  | increment id property => exact outcome_increment_eq_error_iff property

end Operation

/-! ### Numbers of 64 bits -/

namespace Operation

variable {store : Store}

/-- The values that an operation writes, if it does not fail. -/
def written (operation : Operation) (store : Store) : List Value :=
  (operation.calls store).flatMap Edit.written

theorem values_leaves {operation : Operation} {v : Value}
    (h : v ∈ (operation.leaves store).values) :
    v ∈ store.values ∨ v ∈ operation.written store := by
  rcases leaves_eq_or operation store with ⟨error, -, hleaves⟩ | ⟨answer, -, hcalls⟩
  · rw [hleaves] at h
    exact .inl h
  · revert h
    refine Store.editedBy_induct (motive := fun next => v ∈ next.values → _) .inl ?_ hcalls
    intro call hcall a b hab heffect hv
    rcases heffect.values hv with hold | hnew
    · exact hab hold
    · exact .inr (List.mem_flatMap.2 ⟨call, hcall, hnew⟩)

end Operation

/-- A number has 64 bits. -/
def Value.Fits : Value → Prop
  | integer n => -2 ^ 63 ≤ n ∧ n < 2 ^ 63
  | bool _ | text _ => True

namespace Operation

variable {store : Store} {id : DeviceId} {property : Property}

/-- An operation writes numbers of 64 bits, and does not add one to the largest of them. -/
def Fits (store : Store) : Operation → Prop
  | read _ => True
  | edit call => ∀ v ∈ call.written, v.Fits
  | reportGroup _ values => ∀ entry ∈ values, entry.2.Fits
  | increment id property => store.getReported id property ≠ .ok (.integer (2 ^ 63 - 1))

theorem mem_values_of_getReported {value : Value}
    (h : store.getReported id property = .ok value) : value ∈ store.values := by
  have hvalue := Store.getReported_eq store id property
  rw [h] at hvalue
  obtain ⟨record, hrecord, hproperty⟩ := Option.bind_eq_some_iff.1 hvalue.symm
  have hmem : value ∈ record.reported.values :=
    List.mem_map.2 ⟨_, Table.mem_of_get? hproperty, rfl⟩
  exact List.mem_flatMap.2 ⟨_, Table.mem_of_get? hrecord, List.mem_append_left _ hmem⟩

theorem nextCount_fits {next : Int} (hstore : ∀ v ∈ store.values, v.Fits)
    (hlargest : store.getReported id property ≠ .ok (.integer (2 ^ 63 - 1)))
    (h : Platform.nextCount { store := store } id property = .ok next) :
    (Value.integer next).Fits := by
  unfold Platform.nextCount at h
  rw [Platform.getReported_alone] at h
  cases hvalue : store.getReported id property with
  | error error =>
    rw [hvalue] at h
    dsimp only at h
    split at h
    · obtain rfl := Except.ok.inj h
      exact ⟨by decide, by decide⟩
    · cases h
  | ok value =>
    rw [hvalue] at h hlargest
    cases value with
    | integer n =>
      obtain rfl := Except.ok.inj h
      have hfits : -2 ^ 63 ≤ n ∧ n < 2 ^ 63 := hstore _ (mem_values_of_getReported hvalue)
      have hne : n ≠ 2 ^ 63 - 1 := fun hn => hlargest (hn ▸ rfl)
      refine ⟨?_, ?_⟩
      · omega
      · omega
    | bool b => cases h
    | text s => cases h

theorem fits_written {operation : Operation} (hstore : ∀ v ∈ store.values, v.Fits)
    (h : operation.Fits store) : ∀ v ∈ operation.written store, v.Fits := by
  intro v hv
  obtain ⟨call, hcall, hcallWrites⟩ := List.mem_flatMap.1 hv
  cases operation with
  | read reading => cases hcall
  | edit other =>
    obtain rfl := List.mem_singleton.1 hcall
    exact h v hcallWrites
  | reportGroup id values =>
    obtain ⟨entry, hentry, rfl⟩ := List.mem_map.1 hcall
    obtain rfl := List.mem_singleton.1 hcallWrites
    exact h entry hentry
  | increment id property =>
    obtain ⟨next, hnext, rfl⟩ := mem_calls_increment hcall
    obtain rfl := List.mem_singleton.1 hcallWrites
    exact nextCount_fits hstore h hnext

end Operation

namespace Store

/-- A record differs from another one only in the type it reports. -/
structure Retyped (deviceType : Nat) (old new : Record) : Prop where
  type : new.reported.get? .deviceType = some (.ofNat deviceType)
  others : new.reported.erase .deviceType = old.reported.erase .deviceType
  desired : new.desired = old.desired
  subscriptions : new.subscriptions = old.subscriptions

/-- What holds of every operation on a store, whichever calls it comes to. -/
structure Atomic (store : Store) : Prop where
  /-- Step by step, an operation does what it does in one go. -/
  agrees (operation : Operation) : operation.work.on store = operation.outcome store
  /-- Whether an operation fails, and why. -/
  fails (operation : Operation) (error : StoreError) :
    operation.gives store = .error error ↔ operation.refusal? store = some error
  /-- An operation that fails leaves the store as it was. -/
  restores {operation : Operation} {error : StoreError}
    (h : operation.gives store = .error error) : operation.leaves store = store
  /-- One that does not fail makes all of its calls. -/
  completes {operation : Operation} {answer : Answer}
    (h : operation.gives store = .ok answer) :
    store.editedBy (operation.calls store) = .ok (operation.leaves store)
  /-- A question changes nothing. -/
  reads (reading : Reading) : (Operation.read reading).leaves store = store
  /-- Any other operation changes at most the record of its device. -/
  spares {operation : Operation} {id : DeviceId} (h : operation.device? = some id) :
    OnlyAbout id store (operation.leaves store)
  /-- There are more records only after a registration, and no more than there may be. -/
  grows {operation : Operation} (h : store.count < (operation.leaves store).count) :
    (∃ id deviceType, operation = .edit (.register id deviceType)) ∧
      (operation.leaves store).count ≤ store.maxDevices
  /-- So it is after any operations. -/
  room (operations : List Operation) :
    (operations.foldl (fun store operation => operation.leaves store) store).count ≤
      max store.count store.maxDevices
  /-- A device that is registered again gets another type, and nothing else changes. -/
  again {id : DeviceId} {old : Record} (h : store.record? id = some old) (deviceType : Nat) :
    ∃ new, (Operation.edit (.register id deviceType)).work.on store =
      (.ok .done, store.withRecord id new) ∧ Retyped deviceType old new
  /-- Numbers of 64 bits stay such, as long as one is not added to the largest. -/
  fits (hstore : ∀ v ∈ store.values, v.Fits) {operation : Operation} (h : operation.Fits store) :
    ∀ v ∈ (operation.leaves store).values, v.Fits

theorem registered_again {store : Store} {id : DeviceId} {old : Record}
    (h : store.record? id = some old) (deviceType : Nat) :
    ∃ new, (Operation.edit (.register id deviceType)).work.on store =
      (.ok .done, store.withRecord id new) ∧ Retyped deviceType old new := by
  refine ⟨{ old with reported := old.reported.put .deviceType (.ofNat deviceType) }, ?_, ?_⟩
  · have hok : store.edited (.register id deviceType) = .ok (store.withRecord id
        { old with reported := old.reported.put .deviceType (.ofNat deviceType) }) := by
      show store.register id deviceType = _
      unfold register
      rw [h]
    rw [on_work]
    unfold Operation.outcome
    dsimp only
    rw [hok]
  · exact ⟨(Table.get?_put ..).trans (if_pos rfl), Table.erase_put .., rfl, rfl⟩

theorem atomic (store : Store) : Atomic store where
  agrees operation := on_work operation store
  fails operation error := operation.gives_eq_error_iff store error
  restores {operation error} h := by
    rcases operation.leaves_eq_or store with ⟨-, -, hleaves⟩ | ⟨answer, hgives, -⟩
    · exact hleaves
    · rw [h] at hgives
      cases hgives
  completes {operation answer} h := by
    rcases operation.leaves_eq_or store with ⟨error, hgives, -⟩ | ⟨-, -, hcalls⟩
    · rw [h] at hgives
      cases hgives
    · exact hcalls
  reads reading := Operation.leaves_read reading store
  spares h := Operation.onlyAbout_leaves h store
  grows {operation} h := (operation.count_leaves store).resolve_left (Nat.not_le_of_lt h)
  room operations := Operation.count_foldl_leaves operations store
  again h deviceType := registered_again h deviceType
  fits hstore {operation} h := by
    intro v hv
    rcases Operation.values_leaves hv with hold | hnew
    · exact hstore v hold
    · exact Operation.fits_written hstore h v hnew

/-- There is room for one device, and it is there. -/
example : (Operation.edit (.register (.ofNat 2) 1)).work.on
    { records := [(.ofNat 1, {})], maxDevices := 1 } =
      (.error (.full 1), { records := [(.ofNat 1, {})], maxDevices := 1 }) := by
  rfl

end Store

end AlarmMesh.Shadow
