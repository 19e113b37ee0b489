import AlarmMesh.Proofs.Gateway.LatestFault
import AlarmMesh.Proofs.Gateway.Lifetime
import AlarmMesh.Proofs.Gateway.View

/-!
# Which question a value answers

A voltage and a temperature are asked for in the same way and arrive in the same way, and a value is
taken for the voltage if a fault waits for one.  That is right because no device is asked for both:
its type decides which, and stays what it is as long as the device is registered.  But a record
waits on when its device is removed, and when the device is then registered anew with another type
that is asked for the other value, both wait.

* `Site.asks`, `asks_temperature_of_volts` — what a device is asked for, which is never both;
* `volts_receive`, `hasAlarm_receive` — a record begins to wait only for what the device is asked;
* `Engine.Fits`, `fits_move` — what waits fits the device, unless it is registered anew meanwhile;
* `TakesVolts`, `TakesTemperature` — what a value ends and what is written;
* `answers_question` — each value is what was asked for.
-/

namespace AlarmMesh.Gateway

open Device (Profile)
open Radio (DeviceId FaultFlag FaultReport Report SlotReport)
open Shadow (Footprint Property Value)

/-! ### What a device is asked for -/

namespace Site

variable {site site' : Site} {id : DeviceId} {question : Profile → Bool}

/-- What a device can do, by the type that is stored of it. -/
def kindOf (site : Site) (id : DeviceId) : Option Profile :=
  ((site.stored id .deviceType).bind Value.asWord).bind Profile.find?

/-- The device is put this question, as its profile says. -/
def asks (question : Profile → Bool) (site : Site) (id : DeviceId) : Bool :=
  ((site.kindOf id).map question).getD false

/-- No device is asked for both. -/
theorem asks_temperature_of_volts (h : site.asks Profile.readsVolts id) :
    site.asks Profile.readsTemperature id = false := by
  unfold asks at h ⊢
  cases hkind : site.kindOf id with
  | none => rfl
  | some profile =>
    rw [hkind] at h
    obtain ⟨deviceType, -, hfind⟩ := Option.bind_eq_some_iff.1 hkind
    have hall : ∀ profile ∈ Profile.all, profile.readsVolts →
      profile.readsTemperature = false := by decide
    exact hall profile (List.mem_of_find?_eq_some hfind) h

/-- What can be read of the type is what is stored. -/
theorem kindOf_of_profileOf {profile : Profile} (h : site.profileOf id = some profile) :
    site.kindOf id = some profile := by
  have hup : site.platform.isDown .getReported (some .deviceType) = false := by
    by_contra hdown
    unfold profileOf reported Shadow.Platform.getReported Shadow.Platform.guarded at h
    rw [if_pos (eq_true_of_ne_false hdown)] at h
    cases h
  unfold profileOf at h
  rw [reported_eq_stored hup] at h
  exact h

theorem asks_of_profileOf (h : ((site.profileOf id).map question).getD false) :
    site.asks question id := by
  cases hprofile : site.profileOf id with
  | none => simp [hprofile] at h
  | some profile =>
    unfold asks
    rwa [kindOf_of_profileOf hprofile, ← hprofile]

/-- A device that is asked for something is registered. -/
theorem isRegistered_of_asks (h : site.asks question id) : site.platform.isRegistered id := by
  by_contra hnew
  have hkind : site.kindOf id = none := by
    unfold kindOf
    rw [stored_of_unregistered (eq_false_of_ne_true hnew)]
    rfl
  simp [asks, hkind] at h

theorem kindOf_of_stored (h : site'.stored id .deviceType = site.stored id .deviceType) :
    site'.kindOf id = site.kindOf id := by
  unfold kindOf
  rw [h]

end Site

/-! ### Records that begin to wait -/

namespace Correlator

variable {c : Correlator} {id : DeviceId}

/-- A flag lets a fault wait for a voltage only if the device is asked for it. -/
theorem volts_applyFlag {profile : Option Profile} {report : FaultReport} {frame : List UInt8}
    {flag : FaultFlag}
    (h : (applyFlag profile report frame c flag).awaiting report.id = some .volts) :
    c.awaiting report.id = some .volts ∨ (profile.map Profile.readsVolts).getD false := by
  cases flag with
  | detectorBattery =>
    cases hreads : (profile.map Profile.readsVolts).getD false with
    | true => exact .inr rfl
    | false =>
      have hwritten : applyFlag profile report frame c .detectorBattery =
          c.writeFault report.id (FaultFlag.detectorBattery.isSet report.flags)
            .detectorBattery := by
        show c.applyBattery ((profile.map Profile.readsVolts).getD false) report frame = _
        unfold applyBattery
        dsimp only
        rw [hreads, Bool.and_false, if_neg Bool.false_ne_true]
      rw [hwritten] at h
      exact .inl h
  | _ => exact .inl ((awaiting_applyFlag (by simp [followUp?])).1 h)

theorem volts_foldl_applyFlag {profile : Option Profile} {report : FaultReport}
    {frame : List UInt8} {flags : List FaultFlag}
    (h : (flags.foldl (applyFlag profile report frame) c).awaiting report.id = some .volts) :
    c.awaiting report.id = some .volts ∨ (profile.map Profile.readsVolts).getD false := by
  induction flags generalizing c with
  | nil => exact .inl h
  | cons flag flags ih =>
    obtain hbefore | hreads := ih h
    · exact volts_applyFlag hbefore
    · exact .inr hreads

/-- So does a report. -/
theorem volts_receiveFault {report : FaultReport} {frame : List UInt8}
    (h : (c.receiveFault report frame).awaiting id = some .volts) :
    c.awaiting id = some .volts ∨ c.site.asks Profile.readsVolts id := by
  by_cases hid : report.id = id
  · subst hid
    exact (volts_foldl_applyFlag h).imp_right Site.asks_of_profileOf
  · unfold Incidents.awaiting at h ⊢
    rw [receiveFault_of_ne c frame hid] at h
    exact .inl h

/-- An alarm begins to wait only if the device is asked for its temperature. -/
theorem hasAlarm_receiveAlarm {report : Radio.AlarmReport} {frame : List UInt8}
    (h : (c.receiveAlarm report frame).hasAlarm id) :
    c.hasAlarm id ∨ c.site.asks Profile.readsTemperature id := by
  by_cases hid : report.id = id
  · subst hid
    cases hreads : ((c.site.profileOf report.id).map Profile.readsTemperature).getD false with
    | true => exact .inr (Site.asks_of_profileOf hreads)
    | false =>
      unfold receiveAlarm at h
      rw [hreads] at h
      exact .inl h
  · unfold Incidents.hasAlarm Shadow.Table.has at h ⊢
    rw [receiveAlarm_of_ne c frame hid] at h
    exact .inl h

end Correlator

namespace Engine

variable {engine : Engine} {id : DeviceId} {move : Move} {frame : List UInt8} {report : Report}

/-! ### One move -/

/-- A report that is neither a fault nor an alarm lets no record begin. -/
theorem sheds_dispatch (hfault : ∀ r, report ≠ .fault r) (halarm : ∀ r, report ≠ .alarm r)
    (frame : List UInt8) :
    engine.incidents.Sheds (engine.dispatch report frame).incidents := by
  let c : Correlator := ⟨engine.incidents, engine.site⟩
  unfold dispatch
  cases report with
  | fault report => exact absurd rfl (hfault report)
  | alarm report => exact absurd rfl (halarm report)
  | slotValue report =>
    exact .of_erased (c.receiveSlotValue_faults report.id report.value)
      (c.receiveSlotValue_alarms report.id report.value)
  | faultDetails report =>
    exact .of_erased (c.receiveFaultDetails_faults report.id report.faults)
      (.inl (c.receiveFaultDetails_alarms report.id report.faults))
  | _ => exact .of_eq rfl

theorem volts_dispatch (frame : List UInt8)
    (h : (engine.dispatch report frame).incidents.awaiting id = some .volts) :
    engine.incidents.awaiting id = some .volts ∨ engine.site.asks Profile.readsVolts id := by
  cases report with
  | fault report => exact Correlator.volts_receiveFault (c := engine.correlator) h
  | alarm report =>
    have hsame : (engine.dispatch (.alarm report) frame).incidents.faults =
        engine.incidents.faults := engine.correlator.receiveAlarm_faults report frame
    unfold Incidents.awaiting at h ⊢
    exact .inl (hsame ▸ h)
  | _ => exact .inl ((sheds_dispatch (by simp) (by simp) frame).awaiting h)

theorem hasAlarm_dispatch (frame : List UInt8)
    (h : (engine.dispatch report frame).incidents.hasAlarm id) :
    engine.incidents.hasAlarm id ∨ engine.site.asks Profile.readsTemperature id := by
  cases report with
  | alarm report => exact Correlator.hasAlarm_receiveAlarm (c := engine.correlator) h
  | fault report =>
    have hsame : (engine.dispatch (.fault report) frame).incidents.alarms =
        engine.incidents.alarms := engine.correlator.receiveFault_alarms report frame
    unfold Incidents.hasAlarm at h ⊢
    exact .inl (hsame ▸ h)
  | _ => exact .inl ((sheds_dispatch (by simp) (by simp) frame).hasAlarm h)

/-- Taking note of a frame leaves what a device is asked for. -/
theorem kindOf_noted (frame : List UInt8) (report : Report) (id : DeviceId) :
    (engine.noted frame report).site.kindOf id = engine.site.kindOf id :=
  Site.kindOf_of_stored (Site.stored_of_unmoved (edits_noted_noting engine frame report) not_false
    not_false (fun hseq => Property.noConfusion hseq) rfl)

/-- If a record begins with a frame that is dealt with only as the device is asked, so it does with
any frame, since an ignored one begins none. -/
theorem begins_receive (begun : Incidents → Prop) {question : Profile → Bool}
    (hdispatch : ∀ (engine : Engine) (report : Report),
      begun (engine.dispatch report frame).incidents →
        begun engine.incidents ∨ engine.site.asks question id)
    (h : begun (engine.receive frame).incidents) :
    begun engine.incidents ∨ engine.site.asks question id := by
  cases haccepted : engine.accepted? frame with
  | none =>
    obtain ⟨site, hreceive, -⟩ := receive_of_ignored engine haccepted
    rw [hreceive] at h
    exact .inl h
  | some report =>
    rw [receive_of_accepted engine haccepted] at h
    have hnoted := hdispatch _ report h
    unfold Site.asks at hnoted ⊢
    rwa [incidents_noted, kindOf_noted] at hnoted

theorem volts_receive (h : (engine.receive frame).incidents.awaiting id = some .volts) :
    engine.incidents.awaiting id = some .volts ∨ engine.site.asks Profile.readsVolts id :=
  begins_receive (fun incidents => incidents.awaiting id = some .volts)
    (fun _ _ => volts_dispatch frame) h

theorem hasAlarm_receive (h : (engine.receive frame).incidents.hasAlarm id) :
    engine.incidents.hasAlarm id ∨ engine.site.asks Profile.readsTemperature id :=
  begins_receive (fun incidents => incidents.hasAlarm id)
    (fun _ _ => hasAlarm_dispatch frame) h

/-! ### What waits fits the device -/

/-- A record of the device waits for a value. -/
def waits (engine : Engine) (id : DeviceId) : Bool :=
  engine.incidents.awaiting id = some .volts || engine.incidents.hasAlarm id

/-- The move registers the device anew while a record of it waits for a value. -/
def renews (engine : Engine) (id : DeviceId) (move : Move) : Bool :=
  engine.waits id && !engine.site.platform.isRegistered id &&
    (engine.move move).site.platform.isRegistered id

/-- At most one record of the device waits for a value, and if the device is registered, it is asked
for that value. -/
structure Fits (engine : Engine) (id : DeviceId) : Prop where
  apart : ¬ (engine.incidents.awaiting id = some .volts ∧ engine.incidents.hasAlarm id)
  volts : engine.site.platform.isRegistered id → engine.incidents.awaiting id = some .volts →
    engine.site.asks Profile.readsVolts id
  temperature : engine.site.platform.isRegistered id → engine.incidents.hasAlarm id →
    engine.site.asks Profile.readsTemperature id

variable {engine' : Engine}

/-- What waits fits the device after a step if what waited fitted it before, records begin only as
the device is asked, and its type changes only while no record waits. -/
theorem asks_of_step {question : Profile → Bool} {waited waiting : Prop}
    (hfits : engine.site.platform.isRegistered id → waited → engine.site.asks question id)
    (hbegins : waiting → waited ∨ engine.site.asks question id)
    (hkind : engine.site.platform.isRegistered id → engine'.site.platform.isRegistered id →
      engine'.site.kindOf id = engine.site.kindOf id)
    (hnew : engine.site.platform.isRegistered id = false →
      engine'.site.platform.isRegistered id → ¬ waited)
    (hregistered : engine'.site.platform.isRegistered id) (hwaiting : waiting) :
    engine'.site.asks question id := by
  have hasked : engine.site.asks question id := by
    obtain hwaited | hasked := hbegins hwaiting
    · cases hbefore : engine.site.platform.isRegistered id with
      | true => exact hfits hbefore hwaited
      | false => exact absurd hwaited (hnew hbefore hregistered)
    · exact hasked
  unfold Site.asks
  rw [hkind (Site.isRegistered_of_asks hasked) hregistered]
  exact hasked

theorem Fits.step (h : engine.Fits id)
    (hvolts : engine'.incidents.awaiting id = some .volts →
      engine.incidents.awaiting id = some .volts ∨ engine.site.asks Profile.readsVolts id)
    (halarm : engine'.incidents.hasAlarm id →
      engine.incidents.hasAlarm id ∨ engine.site.asks Profile.readsTemperature id)
    (hkind : engine.site.platform.isRegistered id → engine'.site.platform.isRegistered id →
      engine'.site.kindOf id = engine.site.kindOf id)
    (hnew : engine.site.platform.isRegistered id = false →
      engine'.site.platform.isRegistered id → engine.waits id = false) : engine'.Fits id where
  apart := by
    rintro ⟨hfault, htemperature⟩
    have hboth (hasked : engine.site.asks Profile.readsVolts id) :
        ¬ engine.site.asks Profile.readsTemperature id :=
      ne_true_of_eq_false (Site.asks_temperature_of_volts hasked)
    obtain hfault | hasked := hvolts hfault
    · obtain htemperature | hasked := halarm htemperature
      · exact h.apart ⟨hfault, htemperature⟩
      · exact hboth (h.volts (Site.isRegistered_of_asks hasked) hfault) hasked
    · obtain htemperature | hasked' := halarm htemperature
      · exact hboth hasked (h.temperature (Site.isRegistered_of_asks hasked) htemperature)
      · exact hboth hasked hasked'
  volts := asks_of_step h.volts hvolts hkind fun hbefore hafter hfault => by
    simpa [waits, hfault] using hnew hbefore hafter
  temperature := asks_of_step h.temperature halarm hkind fun hbefore hafter htemperature => by
    simpa [waits, htemperature] using hnew hbefore hafter

/-- The type of a device stays what it is as long as the device stays registered. -/
theorem kindOf_move (hsingle : move.Single) (hbefore : engine.site.platform.isRegistered id)
    (hafter : (engine.move move).site.platform.isRegistered id) :
    (engine.move move).site.kindOf id = engine.site.kindOf id := by
  refine Site.kindOf_of_stored
    (stored_move move hsingle hbefore hafter (fun hwrites => ?_) rfl)
  simpa [Property.isFault, Property.isAlarm] using isEvent_of_writes hwrites

/-- Without a frame no device is registered. -/
theorem isRegistered_before (hsingle : move.Single) (hmove : ∀ frame, move ≠ .receive frame)
    (hafter : (engine.move move).site.platform.isRegistered id) :
    engine.site.platform.isRegistered id := by
  have hadmits : ¬ (engine.footprint move).admits id := by
    cases move with
    | receive frame => exact absurd rfl (hmove frame)
    | _ => exact not_false
  exact Shadow.Store.isRegistered_iff.2 ((edits_move engine hsingle).mem_of_not_admits hadmits
    (Shadow.Store.isRegistered_iff.1 hafter))

theorem fits_of_quiet (h : engine.Fits id) (hsingle : move.Single)
    (hmove : ∀ frame, move ≠ .receive frame) : (engine.move move).Fits id := by
  have hsheds : engine.incidents.Sheds (engine.move move).incidents := sheds_move hsingle hmove
  refine h.step (.inl ∘ hsheds.awaiting) (.inl ∘ hsheds.hasAlarm) (kindOf_move hsingle)
    fun hbefore hafter => ?_
  rw [isRegistered_before hsingle hmove hafter] at hbefore
  cases hbefore

theorem fits_receive (h : engine.Fits id) (hrenews : engine.renews id (.receive frame) = false) :
    (engine.move (.receive frame)).Fits id := by
  refine h.step volts_receive hasAlarm_receive (kindOf_move trivial) fun hbefore hafter => ?_
  unfold renews at hrenews
  rw [hbefore, hafter] at hrenews
  simpa using hrenews

/-- Every move keeps that, unless it registers the device anew while a record of it waits. -/
theorem fits_move (h : engine.Fits id) (hrenews : engine.renews id move = false) :
    (engine.move move).Fits id := by
  by_cases hmove : ∃ frame, move = .receive frame
  · obtain ⟨frame, rfl⟩ := hmove
    exact fits_receive h hrenews
  · have hquiet : ∀ single ∈ engine.singles move,
        single.Single ∧ ∀ frame, single ≠ .receive frame := by
      refine fun single hmem => ⟨single_of_mem_singles engine hmem, fun frame hframe => hmove ?_⟩
      exact ⟨frame, receive_of_mem_singles (hframe ▸ hmem)⟩
    rw [← moves_singles]
    generalize engine.singles move = singles at hquiet
    clear hrenews
    induction singles generalizing engine with
    | nil => exact h
    | cons single singles ih =>
      obtain ⟨⟨hsingle, hnot⟩, hrest⟩ := List.forall_mem_cons.1 hquiet
      exact ih (fits_of_quiet h hsingle hnot) hrest

theorem fits_moves {moves : List Move} (h : engine.Fits id)
    (halong : Along (fun _ => True) (fun e move => e.renews id move = false) engine moves) :
    (engine.moves moves).Fits id :=
  along_induct (I := fun e => e.Fits id) (fun _ _ _ hrenews _ hfits => fits_move hfits hrenews)
    halong h

/-- At the start nothing waits. -/
theorem fits_started (settings : Config.Settings) (platform : Shadow.Platform) (pool : Link.Pool)
    (clock : Clock) (contention : List Bool) (id : DeviceId) :
    (started settings platform pool clock contention).Fits id := by
  obtain ⟨hfaults, halarms⟩ :
      (started settings platform pool clock contention).incidents.faults = [] ∧
        (started settings platform pool clock contention).incidents.alarms = [] := by
    unfold started
    rw [start_eq]
    exact ⟨rfl, rfl⟩
  have hfault : (started settings platform pool clock contention).incidents.awaiting id =
      none := by
    unfold Incidents.awaiting
    rw [hfaults]
    rfl
  have halarm : (started settings platform pool clock contention).incidents.hasAlarm id =
      false := by
    unfold Incidents.hasAlarm
    rw [halarms]
    rfl
  exact ⟨by simp [hfault], by simp [hfault], by simp [halarm]⟩

end Engine

/-! ### What a value ends -/

theorem isRoutine_of_isEvent {property : Property} (h : property.isFault ∨ property.isAlarm) :
    property.isRoutine = false := by
  cases property <;> simp_all [Property.isFault, Property.isAlarm, Property.isRoutine]

/-- What is kept of alarms is not kept of faults. -/
theorem not_isFault_of_isAlarm {property : Property} (h : property.isAlarm) :
    ¬ property.isFault := by
  cases property <;> simp_all [Property.isFault, Property.isAlarm]

namespace Site

variable {site : Site} {id : DeviceId} {code : UInt8} {property : Property}

/-- Events like these may be reported. -/
def writing (events : Property → Bool) : Footprint where
  admits _ := False
  removes _ := False
  writes _ property := events property

theorem stored_volts_writeFault (h : site.Tracks id [(.setReported, .fault code .volts)])
    (hcode : isFaultCode code) (value : UInt16) :
    (site.writeFault id true code (some value)).stored id (.fault code .volts) =
      some (.ofNat (Device.centivolts value)) := by
  unfold writeFault
  rw [if_neg (by simp [hcode]), if_neg (by simp)]
  refine Eq.trans ?_ (stored_report h (.ofNat (Device.centivolts value)))
  exact stored_of_unmoved (f := sparing (.fault code .volts))
    ((edits_reportGroup _ (by simp [sparing])).trans (edits_of_platform rfl))
    not_false not_false (· rfl) rfl

theorem stored_temperature_writeAlarm (h : site.Tracks id [(.setReported, .alarmTemperature)])
    (state : Nat) (value : UInt16) :
    (site.writeAlarm id state (some value)).stored id .alarmTemperature =
      some (.integer (Device.temperature value)) := by
  unfold writeAlarm
  refine Eq.trans ?_ (stored_report h (.integer (Device.temperature value)))
  exact stored_of_unmoved (f := sparing .alarmTemperature)
    ((edits_reportGroup _ (by simp [sparing])).trans (edits_of_platform rfl))
    not_false not_false (· rfl) rfl

/-- A fault leaves what is reported of alarms. -/
theorem stored_alarm_writeFault (hproperty : property.isAlarm) (value : Option UInt16) :
    (site.writeFault id true code value).stored id property = site.stored id property := by
  exact stored_of_unmoved (f := writing Property.isFault)
    (edits_writeFault site (fun _ => rfl) true value) not_false not_false
    (not_isFault_of_isAlarm hproperty) (isRoutine_of_isEvent (.inr hproperty))

/-- An alarm leaves what is reported of faults. -/
theorem stored_fault_writeAlarm (hproperty : property.isFault) (state : Nat)
    (value : Option UInt16) :
    (site.writeAlarm id state value).stored id property = site.stored id property := by
  exact stored_of_unmoved (f := writing Property.isAlarm)
    (edits_writeAlarm site (fun _ h => h) state value) not_false not_false
    (fun halarm => not_isFault_of_isAlarm halarm hproperty) (isRoutine_of_isEvent (.inl hproperty))

end Site

namespace Correlator

variable {c : Correlator} {id : DeviceId}

/-- The fault that waits for a voltage ends with the value. -/
theorem receiveSlotValue_of_volts (h : c.awaiting id = some .volts) (value : UInt16) :
    (c.receiveSlotValue id value).faults = c.faults.erase id ∧
      (c.receiveSlotValue id value).alarms = c.alarms ∧
      ∃ site : Site, site.platform = c.site.platform ∧
        (c.receiveSlotValue id value).site.platform =
          (site.writeFault id true FlagFault.detectorBattery.code (some value)).platform := by
  obtain ⟨pending, hpending, hvolts⟩ := Option.map_eq_some_iff.1 h
  unfold receiveSlotValue
  rw [hpending]
  dsimp only
  rw [if_pos hvolts]
  exact ⟨rfl, rfl, c.site.cancel (some pending.timer), rfl, rfl⟩

/-- The alarm that waits for a temperature ends with the value. -/
theorem receiveSlotValue_of_alarm (h : c.awaiting id ≠ some .volts) {pending : PendingAlarm}
    (hpending : c.alarms.get? id = some pending) {report : Radio.AlarmReport}
    (hreport : parkedAlarm? pending.frame = some report) (value : UInt16) :
    (c.receiveSlotValue id value).alarms = c.alarms.erase id ∧
      (c.receiveSlotValue id value).faults = c.faults ∧
      ∃ site : Site, site.platform = c.site.platform ∧
        (c.receiveSlotValue id value).site.platform =
          (site.writeAlarm id (Device.alarmState report.status) (some value)).platform := by
  rw [receiveSlotValue_unasked h]
  unfold receiveTemperature
  rw [hpending]
  dsimp only
  unfold resolveAlarm
  rw [hreport]
  exact ⟨rfl, rfl, c.site.cancel (some pending.timer), rfl, rfl⟩

end Correlator

namespace Engine

/-- The value is the voltage of the fault that waited for it: the fault ends, the value is written
as its voltage, and nothing about alarms is touched. -/
structure TakesVolts (engine after : Engine) (id : DeviceId) (value : UInt16) : Prop where
  faults : after.incidents.faults = engine.incidents.faults.erase id
  alarms : after.incidents.alarms = engine.incidents.alarms
  written : engine.site.Tracks id
      [(.setReported, .fault FlagFault.detectorBattery.code .volts)] →
    after.site.stored id (.fault FlagFault.detectorBattery.code .volts) =
      some (.ofNat (Device.centivolts value))
  spares : ∀ property, property.isAlarm →
    after.site.stored id property = engine.site.stored id property

/-- The value is the temperature of the alarm that waited for it: the alarm ends, the value is
written as its temperature, and nothing about faults is touched. -/
structure TakesTemperature (engine after : Engine) (id : DeviceId) (value : UInt16) : Prop where
  alarms : after.incidents.alarms = engine.incidents.alarms.erase id
  faults : after.incidents.faults = engine.incidents.faults
  written : engine.site.Tracks id [(.setReported, .alarmTemperature)] →
    after.site.stored id .alarmTemperature = some (.integer (Device.temperature value))
  spares : ∀ property, property.isFault →
    after.site.stored id property = engine.site.stored id property

variable {engine : Engine} {id : DeviceId} {frame : List UInt8} {report : SlotReport}
  {property : Property}

theorem records_noted (frame : List UInt8) (report : Report) :
    (engine.noted frame report).correlator.toIncidents = engine.incidents :=
  incidents_noted engine frame report

theorem correlator_of_slotValue (h : engine.accepted? frame = some (.slotValue report)) :
    (engine.move (.receive frame)).correlator =
      (engine.noted frame (.slotValue report)).correlator.receiveSlotValue
        report.id report.value := by
  show (engine.receive frame).correlator = _
  rw [receive_of_accepted engine h, correlator_slotValue]

/-- Taking note of a frame leaves what is stored of events. -/
theorem stored_event_noted (hproperty : property.isFault ∨ property.isAlarm) (frame : List UInt8)
    (report : Report) (id : DeviceId) :
    (engine.noted frame report).site.stored id property = engine.site.stored id property := by
  have hseq : property ≠ .lastSequence := by
    rintro rfl
    simp [Property.isFault, Property.isAlarm] at hproperty
  exact Site.stored_of_unmoved (edits_noted_noting engine frame report) not_false not_false hseq
    (isRoutine_of_isEvent hproperty)

theorem takesVolts (h : engine.accepted? frame = some (.slotValue report))
    (hvolts : engine.incidents.awaiting report.id = some .volts) :
    engine.TakesVolts (engine.move (.receive frame)) report.id report.value := by
  have hreceived := correlator_of_slotValue h
  obtain ⟨hfaults, halarms, site, hplatform, hwritten⟩ :=
    Correlator.receiveSlotValue_of_volts (c := (engine.noted frame (.slotValue report)).correlator)
      (by rw [records_noted]; exact hvolts) report.value
  rw [← hreceived] at hfaults halarms hwritten
  rw [records_noted] at hfaults halarms
  have hstored (property : Property) :
      (engine.move (.receive frame)).site.stored report.id property =
        (site.writeFault report.id true FlagFault.detectorBattery.code
          (some report.value)).stored report.id property :=
    Site.stored_congr hwritten report.id property
  refine ⟨hfaults, halarms, fun htracks => ?_, fun property hproperty => ?_⟩
  · rw [hstored]
    exact Site.stored_volts_writeFault ((tracks_noted htracks frame _).congr hplatform) rfl _
  · rw [hstored, Site.stored_alarm_writeFault hproperty, Site.stored_congr hplatform]
    exact stored_event_noted (.inr hproperty) frame _ report.id

theorem takesTemperature (h : engine.accepted? frame = some (.slotValue report))
    (hreadable : engine.incidents.Readable)
    (hvolts : engine.incidents.awaiting report.id ≠ some .volts)
    (halarm : engine.incidents.hasAlarm report.id) :
    engine.TakesTemperature (engine.move (.receive frame)) report.id report.value := by
  have hreceived := correlator_of_slotValue h
  obtain ⟨pending, hpending⟩ := Option.isSome_iff_exists.1 halarm
  obtain ⟨parked, hparked⟩ := Option.isSome_iff_exists.1 (hreadable report.id pending hpending)
  obtain ⟨halarms, hfaults, site, hplatform, hwritten⟩ :=
    Correlator.receiveSlotValue_of_alarm (c := (engine.noted frame (.slotValue report)).correlator)
      (by rw [records_noted]; exact hvolts) (by rw [records_noted]; exact hpending) hparked
      report.value
  rw [← hreceived] at hfaults halarms hwritten
  rw [records_noted] at hfaults halarms
  have hstored (property : Property) :
      (engine.move (.receive frame)).site.stored report.id property =
        (site.writeAlarm report.id (Device.alarmState parked.status)
          (some report.value)).stored report.id property :=
    Site.stored_congr hwritten report.id property
  refine ⟨halarms, hfaults, fun htracks => ?_, fun property hproperty => ?_⟩
  · rw [hstored]
    exact Site.stored_temperature_writeAlarm ((tracks_noted htracks frame _).congr hplatform) _ _
  · rw [hstored, Site.stored_fault_writeAlarm hproperty, Site.stored_congr hplatform]
    exact stored_event_noted (.inl hproperty) frame _ report.id

/-- A value that nothing waits for is passed over. -/
theorem passedOver (h : engine.accepted? frame = some (.slotValue report))
    (hwaits : engine.waits report.id = false) :
    (engine.move (.receive frame)).incidents = engine.incidents ∧
      ∀ property, property.isFault ∨ property.isAlarm →
        (engine.move (.receive frame)).site.stored report.id property =
          engine.site.stored report.id property := by
  obtain ⟨hvolts, halarm⟩ : engine.incidents.awaiting report.id ≠ some .volts ∧
      engine.incidents.alarms.get? report.id = none := by
    simpa [waits, Incidents.hasAlarm, Shadow.Table.has] using hwaits
  let noted := engine.noted frame (.slotValue report)
  have hpassed : (engine.move (.receive frame)).correlator = noted.correlator := by
    rw [correlator_of_slotValue h, Correlator.receiveSlotValue_unasked
      (by rw [records_noted]; exact hvolts)]
    unfold Correlator.receiveTemperature
    rw [records_noted, halarm]
  refine ⟨(congrArg Correlator.toIncidents hpassed).trans (records_noted frame _),
    fun property hproperty => ?_⟩
  have hsite : (engine.move (.receive frame)).site = noted.site :=
    congrArg Correlator.site hpassed
  rw [hsite]
  exact stored_event_noted hproperty frame _ report.id

end Engine

/-! ### The result -/

/-- In every run a value is the voltage if a fault waits for one, else the temperature if an alarm
waits for one, and else passed over.  As long as the device is not registered anew while a record of
it waits, never both wait, and what waits is what a registered device is asked for, so that the
value is what was asked for. -/
theorem answers_question (settings : Config.Settings) (platform : Shadow.Platform)
    (pool : Link.Pool) (clock : Clock) (contention : List Bool) (moves : List Move)
    (id : DeviceId) :
    let start := Engine.started settings platform pool clock contention
    let engine := start.moves moves
    (Engine.Along (fun _ => True) (fun e move => e.renews id move = false) start moves →
      engine.Fits id) ∧
    ∀ frame report, engine.accepted? frame = some (.slotValue report) → report.id = id →
      (engine.incidents.awaiting id = some .volts →
        engine.TakesVolts (engine.move (.receive frame)) id report.value) ∧
      (engine.incidents.awaiting id ≠ some .volts → engine.incidents.hasAlarm id →
        engine.TakesTemperature (engine.move (.receive frame)) id report.value) ∧
      (engine.waits id = false →
        (engine.move (.receive frame)).incidents = engine.incidents ∧
          ∀ property, property.isFault ∨ property.isAlarm →
            (engine.move (.receive frame)).site.stored id property =
              engine.site.stored id property) := by
  intro start engine
  refine ⟨Engine.fits_moves (Engine.fits_started settings platform pool clock contention id), ?_⟩
  rintro frame report haccepted rfl
  have hreachable : Reachable settings engine :=
    (Reachable.start platform pool clock contention).moves moves
  exact ⟨Engine.takesVolts haccepted, Engine.takesTemperature haccepted hreachable.readable,
    Engine.passedOver haccepted⟩

/-- An engine whose first device told of an alarm and was asked for its temperature. -/
def askedForTemperature : Engine :=
  (Engine.started {} askedDevices (.ofSlots 10) { unix := 0 } []).moves
    [.receive [0x50, 1, 0, 0, 1, 0, 5, 1]]

/-- The value that it answers is its temperature. -/
theorem answers_question_askedForTemperature :
    askedForTemperature.Fits (.ofNat 1) ∧ askedForTemperature.TakesTemperature
      (askedForTemperature.move (.receive [0xc2, 1, 0, 0, 2, 25, 0, 0, 0, 5, 2]))
      (.ofNat 1) 25 := by
  have halong : Engine.Along (fun _ => True)
      (fun engine move => engine.renews (.ofNat 1) move = false)
      (Engine.started {} askedDevices (.ofSlots 10) { unix := 0 } [])
      [.receive [0x50, 1, 0, 0, 1, 0, 5, 1]] := by decide +kernel
  obtain ⟨hfits, hvalues⟩ := answers_question {} askedDevices (.ofSlots 10) { unix := 0 } []
    [.receive [0x50, 1, 0, 0, 1, 0, 5, 1]] (.ofNat 1)
  have haccepted : askedForTemperature.accepted? [0xc2, 1, 0, 0, 2, 25, 0, 0, 0, 5, 2] =
      some (.slotValue ⟨.ofNat 1, 2, 25, 5, 2⟩) := by decide +kernel
  exact ⟨hfits halong,
    (hvalues _ _ haccepted rfl).2.1 (by decide +kernel) (by decide +kernel)⟩

/-- A device of which a fault waited for the voltage was removed, registered anew as one that is
asked for its temperature, and told of an alarm. -/
def replaced : Engine :=
  (Engine.started {} askedDevices (.ofSlots 10) { unix := 0 } []).moves
    [.receive [0xd4, 3, 0x41, 0, 0, 0, 0, 0, 0, 0], .receive [0x71, 2, 0, 0, 0, 0, 0x0d, 6, 1],
      .control (.flush (.ofNat 2)), .receive [0xd4, 1, 0, 0, 0, 0, 0, 0, 0, 0, 0],
      .receive [0x70, 2, 0, 0, 0x81, 0, 0x85, 4, 6, 2], .receive [0x50, 2, 0, 0, 1, 0, 6, 3]]

-- its temperature is written as a voltage
example : replaced.incidents.awaiting (.ofNat 2) = some .volts ∧
    replaced.incidents.hasAlarm (.ofNat 2) ∧
    (replaced.move (.receive [0xc2, 2, 0, 0, 2, 0x78, 2, 0, 0, 6, 4])).site.stored (.ofNat 2)
      (.fault FlagFault.detectorBattery.code .volts) = some (.ofNat 63) := by
  decide +kernel

end AlarmMesh.Gateway
