import AlarmMesh.Proofs.Gateway.MoveFootprint

/-!
# What events write

An event reaches the store if its device is registered and the calls that it is made of do not
fail.  Then the first value of the event is what the store has afterwards, and what else happens
leaves it there.

* `Site.stored`, `Site.marked` — a reported value and the state of a fault as the store has them;
* `Site.Tracks site id calls` — these calls about the device reach the store;
* `stored_writeAlarm`, `marked_writeFault` — what an event leaves in the store;
* `Engine.stored_move` — what a move does not write is as it was.
-/

namespace AlarmMesh.Gateway

open Radio (DeviceId Report)
open Shadow (Call Footprint Property Value)

namespace Site

/-- What the store has of a reported property, whether it can be read at the moment or not. -/
def stored (site : Site) (id : DeviceId) (property : Property) : Option Value :=
  (site.platform.store.getReported id property).toOption

/-- The store has the fault as active. -/
def marked (site : Site) (id : DeviceId) (code : UInt8) : Bool :=
  ((site.stored id (.fault code .state)).bind Value.asBool).getD false

/-- The device is registered, and these calls about it reach the store. -/
def Tracks (site : Site) (id : DeviceId) (calls : List (Call × Property)) : Prop :=
  site.platform.isRegistered id ∧
    ∀ call ∈ calls, site.platform.isDown call.1 (some call.2) = false

instance (site : Site) (id : DeviceId) (calls : List (Call × Property)) :
    Decidable (site.Tracks id calls) :=
  inferInstanceAs (Decidable (_ ∧ ∀ call ∈ calls, _))

variable {f : Footprint} {site site' : Site} {id : DeviceId} {property : Property} {value : Value}
  {calls : List (Call × Property)} {code : UInt8}

theorem Tracks.congr (h : site.Tracks id calls) (hplatform : site'.platform = site.platform) :
    site'.Tracks id calls := by
  unfold Tracks
  rw [hplatform]
  exact h

/-- A change that does not remove the device lets it be tracked. -/
theorem Tracks.edits (h : site.Tracks id calls) (hedits : site.Edits f site')
    (hid : ¬ f.removes id) : site'.Tracks id calls := by
  refine ⟨?_, fun call hcall => (isDown_congr hedits.outages _ _).trans (h.2 call hcall)⟩
  exact Shadow.Store.isRegistered_iff.2
    (hedits.store.mem_of_not_removes hid (Shadow.Store.isRegistered_iff.1 h.1))

/-- What a footprint does not write is stored as before. -/
theorem stored_of_edits (hedits : site.Edits f site') (hid : ¬ f.admits id)
    (hwrites : ¬ f.writes id property) (hroutine : property.isRoutine = false)
    (hafter : site'.platform.isRegistered id) :
    site'.stored id property = site.stored id property :=
  hedits.store.getReported_eq hid hwrites hroutine (Shadow.Store.isRegistered_iff.1 hafter)

/-- What can be read is what is stored. -/
theorem reported_eq_stored (h : site.platform.isDown .getReported (some property) = false)
    (id : DeviceId) : site.reported id property = site.stored id property := by
  unfold reported stored Shadow.Platform.getReported
  rw [Shadow.Platform.guarded_of_up h]

/-! ### Events -/

/-- Anything but this property of any device may be reported. -/
def sparing (property : Property) : Footprint where
  admits _ := False
  removes _ := False
  writes _ other := other ≠ property

/-- The first value of a group is stored unless a later one replaces it. -/
theorem stored_reportGroup (h : site.Tracks id [(.setReported, property)])
    (hroutine : property.isRoutine = false) {rest : List (Property × Value)}
    (hrest : ∀ entry ∈ rest, entry.1 ≠ property) :
    (site.reportGroup id ((property, value) :: rest)).stored id property = some value := by
  obtain ⟨store, hstore⟩ := Shadow.Store.exists_setReported
    (Shadow.Store.isRegistered_iff.1 h.1) property value
  let first : Site := { site with platform := { site.platform with store := store } }
  have hset : site.platform.setReported id property value = .ok first.platform := by
    unfold Shadow.Platform.setReported
    rw [hstore]
    exact Shadow.Platform.updated_of_up (h.2 _ (List.mem_singleton_self _)) store
  have hgroup : site.reportGroup id ((property, value) :: rest) = first.reportGroup id rest := by
    unfold reportGroup
    rw [Shadow.Platform.reportGroup, hset]
  have hfirst : first.stored id property = some value :=
    (Shadow.Store.getReported_setReported hstore id property).trans (if_pos ⟨rfl, rfl⟩)
  have hregistered : first.platform.isRegistered id := by
    refine Shadow.Store.isRegistered_iff.2 ?_
    rw [Shadow.Store.devices_setReported hstore]
    exact Shadow.Store.isRegistered_iff.1 h.1
  have hedits : first.Edits (sparing property) (first.reportGroup id rest) :=
    edits_reportGroup first fun entry hentry => .inr (hrest entry hentry)
  have htracks : first.Tracks id [] := ⟨hregistered, by simp⟩
  rw [hgroup, ← hfirst]
  exact stored_of_edits hedits not_false (· rfl) hroutine (htracks.edits hedits not_false).1

/-- An alarm event leaves its state in the store. -/
theorem stored_writeAlarm (h : site.Tracks id [(.setReported, .alarmState)]) (state : Nat)
    (temperature : Option UInt16) :
    (site.writeAlarm id state temperature).stored id .alarmState = some (.ofNat state) := by
  cases temperature with
  | none => exact stored_reportGroup h rfl (by simp)
  | some raw =>
    have hmeasured : site.Edits (sparing .alarmState)
        (site.report id .alarmTemperature (.integer (Device.temperature raw))) :=
      edits_report _ (.inr (by simp [sparing])) _
    exact stored_reportGroup (h.edits hmeasured not_false) rfl (by simp)

/-- The calls that an event of a fault depends on. -/
def faultCalls (code : UInt8) : List (Call × Property) :=
  [(.getReported, .fault code .state), (.setReported, .fault code .state)]

theorem marked_of_stored {active : Bool}
    (h : site.stored id (.fault code .state) = some (.bool active)) :
    site.marked id code = active := by
  unfold marked
  rw [h]
  rfl

theorem faultActive_eq (h : site.Tracks id (faultCalls code)) :
    site.faultActive id code = site.marked id code := by
  unfold faultActive marked
  rw [reported_eq_stored (h.2 _ List.mem_cons_self)]

/-- A fault event leaves its state in the store, also if there is nothing to write. -/
theorem marked_writeFault (h : site.Tracks id (faultCalls code)) (hcode : isFaultCode code)
    (active : Bool) (millivolts : Option UInt16) :
    (site.writeFault id active code millivolts).marked id code = active := by
  unfold writeFault
  rw [if_neg (by simp [hcode]), faultActive_eq h]
  split
  · next hnothing =>
    have hboth : site.marked id code = false ∧ active = false := by simpa using hnothing
    rw [hboth.1, hboth.2]
  · have htracks : site.Tracks id [(.setReported, .fault code .state)] :=
      ⟨h.1, fun call hcall => h.2 call (List.mem_cons_of_mem _ hcall)⟩
    cases millivolts with
    | none => exact marked_of_stored (stored_reportGroup htracks rfl (by simp))
    | some raw =>
      have hmeasured : site.Edits (sparing (.fault code .state))
          (site.report id (.fault code .volts) (.ofNat (Device.centivolts raw))) :=
        edits_report _ (.inr (by simp [sparing])) _
      exact marked_of_stored (stored_reportGroup (htracks.edits hmeasured not_false) rfl (by simp))

end Site

/-! ### Moves -/

namespace Engine

variable {engine : Engine} {move : Move} {id : DeviceId} {property : Property}

/-- Taking note of a frame lets the device be tracked. -/
theorem tracks_noted {calls : List (Call × Property)} (h : engine.site.Tracks id calls)
    (frame : List UInt8) (report : Report) : (engine.noted frame report).site.Tracks id calls :=
  h.edits (edits_noted_noting engine frame report) not_false

/-- What a move does not write is stored as before, as long as the device stays registered. -/
theorem stored_move (move : Move)
    (hsingle : move.Single) (hbefore : engine.site.platform.isRegistered id)
    (hafter : (engine.move move).site.platform.isRegistered id)
    (hwrites : ¬ (engine.footprint move).writes id property)
    (hroutine : property.isRoutine = false) :
    (engine.move move).site.stored id property = engine.site.stored id property := by
  exact (edits_move engine hsingle).getReported_eq (not_admits_of_registered engine hbefore)
    hwrites hroutine (Shadow.Store.isRegistered_iff.1 hafter)

/-- A report that is dealt with writes nothing but events. -/
theorem isEvent_of_reportWrites {report : Report} (h : reportWrites report id property) :
    property.isFault ∨ property.isAlarm := by
  cases report with
  | fault | faultDetails => exact .inl h.2
  | slotValue => exact h.2
  | alarm | alarmStop | locate => exact .inr h.2
  | hush => exact .inr h
  | _ => exact h.elim

/-- So does a timer. -/
theorem isEvent_of_timerWrites {kind : TimerKind} (h : timerWrites kind id property) :
    property.isFault ∨ property.isAlarm := by
  cases kind with
  | faultTimeout => exact .inl h.2
  | alarmTimeout => exact .inr h.2
  | _ => exact h.elim

/-- A move writes nothing but sequence numbers and events. -/
theorem isEvent_of_writes (h : (engine.footprint move).writes id property) :
    property = .lastSequence ∨ property.isFault ∨ property.isAlarm := by
  cases move with
  | receive frame =>
    obtain ⟨report, -, hnotes, -⟩ | ⟨report, -, hwrites⟩ := h
    · exact .inl hnotes
    exact .inr (isEvent_of_reportWrites hwrites)
  | expire =>
    obtain ⟨kind, -, hwrites⟩ := h
    exact .inr (isEvent_of_timerWrites hwrites)
  | _ => exact False.elim h

end Engine

end AlarmMesh.Gateway
