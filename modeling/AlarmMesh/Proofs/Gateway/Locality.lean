import AlarmMesh.Proofs.Gateway.Silent
import AlarmMesh.Proofs.Shadow.Rewrite

/-!
# What is written of one device

What the gateway writes of a device depends on the record of that device alone, and changes no other
record.  Both are told at once of two runs *in step*: of two sites that look alike to the device,
at which the same thing is done.

* `Site.Alike id a b` — the two sites look alike to a device;
* `Site.Within id site site'` — at most the record of the device and what is counted differ;
* `Site.InStep id a b a' b'` — each run stays within its device, and the sites stay alike;
* `Alike.reported`, … — what is read in such runs;
* `inStep_report`, `inStep_writeFault`, `inStep_writeAlarm`, … — what is written.
-/

namespace AlarmMesh.Gateway

open Radio (DeviceId)
open Shadow (Call Platform Property Record Store StoreError Value)

namespace Site

variable {a b c site site' a' b' a'' b'' : Site} {id : DeviceId} {property : Property}

/-! ### Two runs -/

/-- What a device can tell of a site is the same at both. -/
structure Alike (id : DeviceId) (a b : Site) : Prop where
  record : a.platform.store.record? id = b.platform.store.record? id
  outages : a.platform.outages = b.platform.outages
  clock : a.clock = b.clock

/-- At most the record of the device and what is counted differ. -/
structure Within (id : DeviceId) (site site' : Site) : Prop where
  store : site.platform.store.Rewrites id site'.platform.store
  outages : site'.platform.outages = site.platform.outages
  clock : site'.clock = site.clock
  pool : site'.pool = site.pool
  contention : site'.contention = site.contention
  sent : site'.sent = site.sent

/-- At two sites that look alike something was done about a device. -/
structure InStep (id : DeviceId) (a b a' b' : Site) : Prop where
  left : a.Within id a'
  right : b.Within id b'
  alike : a'.Alike id b'

theorem Alike.refl (id : DeviceId) (site : Site) : site.Alike id site := ⟨rfl, rfl, rfl⟩

theorem Within.refl (id : DeviceId) (site : Site) : site.Within id site :=
  ⟨.same, rfl, rfl, rfl, rfl, rfl⟩

theorem Within.trans (h : a.Within id b) (h' : b.Within id c) : a.Within id c where
  store := h.store.trans h'.store
  outages := h'.outages.trans h.outages
  clock := h'.clock.trans h.clock
  pool := h'.pool.trans h.pool
  contention := h'.contention.trans h.contention
  sent := h'.sent.trans h.sent

/-- What happens to one device does not show to the others. -/
theorem Within.alike (h : site.Within id site') {other : DeviceId} (hne : other ≠ id) :
    site.Alike other site' :=
  ⟨(h.store.record?_of_ne hne).symm, h.outages.symm, h.clock.symm⟩

theorem InStep.refl (h : a.Alike id b) : InStep id a b a b := ⟨.refl id a, .refl id b, h⟩

theorem InStep.trans (h : InStep id a b a' b') (h' : InStep id a' b' a'' b'') :
    InStep id a b a'' b'' :=
  ⟨h.left.trans h'.left, h.right.trans h'.right, h'.alike⟩

/-- The same is done at both sites for each entry of a list. -/
theorem inStep_foldl {α : Type} {f : Site → α → Site}
    (hf : ∀ x {a b : Site}, a.Alike id b → InStep id a b (f a x) (f b x)) (xs : List α)
    (h : a.Alike id b) : InStep id a b (xs.foldl f a) (xs.foldl f b) := by
  induction xs generalizing a b with
  | nil => exact .refl h
  | cons x xs ih => exact (hf x h).trans (ih (hf x h).alike)

/-! ### What is read -/

namespace Alike

variable (h : a.Alike id b)
include h

theorem isDown (call : Call) (p : Option Property) :
    a.platform.isDown call p = b.platform.isDown call p := by
  unfold Platform.isDown
  rw [h.outages]

theorem isRegistered : a.platform.isRegistered id = b.platform.isRegistered id :=
  congrArg Option.isSome h.record

theorem getReported (property : Property) :
    a.platform.getReported id property = b.platform.getReported id property := by
  unfold Platform.getReported Platform.guarded Store.getReported Store.record
  rw [h.isDown, h.record]

theorem reported (property : Property) : a.reported id property = b.reported id property := by
  unfold Site.reported
  rw [h.getReported]

theorem faultActive (code : UInt8) : a.faultActive id code = b.faultActive id code := by
  unfold Site.faultActive
  rw [h.reported]

theorem nextFaultSeq (code : UInt8) (begins : Bool) :
    a.nextFaultSeq id code begins = b.nextFaultSeq id code begins := by
  unfold Site.nextFaultSeq
  rw [h.reported]

theorem alarmStateOf : a.alarmStateOf id = b.alarmStateOf id := by
  unfold Site.alarmStateOf
  rw [h.reported]

theorem nextAlarmSeq (state : Nat) : a.nextAlarmSeq id state = b.nextAlarmSeq id state := by
  unfold Site.nextAlarmSeq
  rw [h.reported]

theorem profileOf : a.profileOf id = b.profileOf id := by
  unfold Site.profileOf
  rw [h.reported]

theorem faultTableOf : a.faultTableOf id = b.faultTableOf id := by
  unfold Site.faultTableOf
  rw [h.profileOf]

theorem modelOf : a.modelOf id = b.modelOf id := by
  unfold Site.modelOf
  rw [h.reported]

theorem nextCount (property : Property) :
    a.platform.nextCount id property = b.platform.nextCount id property := by
  unfold Platform.nextCount
  rw [h.getReported, h.isRegistered]

end Alike

/-! ### What is written -/

theorem inStep_count (h : a.Alike id b) (counter : Metric.Counter) :
    InStep id a b (a.count counter) (b.count counter) where
  left := ⟨.same, rfl, rfl, rfl, rfl, rfl⟩
  right := ⟨.same, rfl, rfl, rfl, rfl, rfl⟩
  alike := ⟨h.record, h.outages, h.clock⟩

/-- A value is reported at both sites, or at neither. -/
theorem Alike.setReported (h : a.Alike id b) (property : Property) (value : Value) :
    (∃ error, a.platform.setReported id property value = .error error ∧
      b.platform.setReported id property value = .error error) ∨
    ∃ left right, a.platform.setReported id property value = .ok left ∧
      b.platform.setReported id property value = .ok right ∧
      InStep id a b { a with platform := left } { b with platform := right } := by
  unfold Platform.setReported Platform.updated Platform.guarded
  rw [h.isDown]
  split
  · exact .inl ⟨_, rfl, rfl⟩
  unfold Store.setReported Store.record
  cases hb : b.platform.store.record? id with
  | none =>
    rw [h.record.trans hb]
    exact .inl ⟨_, rfl, rfl⟩
  | some record =>
    have ha := h.record.trans hb
    rw [ha]
    refine .inr ⟨_, _, rfl, rfl, ?_, ?_, ?_⟩
    · exact ⟨.replaced ha _, rfl, rfl, rfl, rfl, rfl⟩
    · exact ⟨.replaced hb _, rfl, rfl, rfl, rfl, rfl⟩
    · refine ⟨?_, h.outages, h.clock⟩
      exact (Store.record?_withRecord_self _ _ _).trans (Store.record?_withRecord_self _ _ _).symm

theorem inStep_report (h : a.Alike id b) (property : Property) (value : Value) :
    InStep id a b (a.report id property value) (b.report id property value) := by
  unfold report
  obtain ⟨error, ha, hb⟩ | ⟨left, right, ha, hb, hstep⟩ := h.setReported property value
  · rw [ha, hb]
    exact .refl h
  · rw [ha, hb]
    exact hstep

theorem inStep_reportGroup (h : a.Alike id b) (values : List (Property × Value)) :
    InStep id a b (a.reportGroup id values) (b.reportGroup id values) := by
  unfold reportGroup
  induction values generalizing a b with
  | nil => exact .refl h
  | cons entry values ih =>
    obtain ⟨property, value⟩ := entry
    unfold Platform.reportGroup
    obtain ⟨error, ha, hb⟩ | ⟨left, right, ha, hb, hstep⟩ := h.setReported property value
    · rw [ha, hb]
      exact .refl h
    · rw [ha, hb]
      exact hstep.trans (ih hstep.alike)

theorem inStep_writeFault (h : a.Alike id b) (active : Bool) (code : UInt8)
    (millivolts : Option UInt16) :
    InStep id a b (a.writeFault id active code millivolts)
      (b.writeFault id active code millivolts) := by
  unfold writeFault
  rw [h.faultActive, h.nextFaultSeq]
  split
  · exact .refl h
  split
  · exact .refl h
  · dsimp only
    cases millivolts with
    | none =>
      dsimp only
      rw [h.clock]
      have hwritten := inStep_reportGroup h
      exact (hwritten _).trans (inStep_count (hwritten _).alike _)
    | some millivolts =>
      have hvolts := inStep_report h (.fault code .volts)
        (.ofNat (Device.centivolts millivolts))
      dsimp only
      rw [hvolts.alike.clock]
      have hwritten := inStep_reportGroup hvolts.alike
      exact hvolts.trans ((hwritten _).trans (inStep_count (hwritten _).alike _))

theorem inStep_writeAlarm (h : a.Alike id b) (state : Nat) (temperature : Option UInt16) :
    InStep id a b (a.writeAlarm id state temperature) (b.writeAlarm id state temperature) := by
  unfold writeAlarm
  rw [h.nextAlarmSeq]
  cases temperature with
  | none =>
    dsimp only
    rw [h.clock]
    have hwritten := inStep_reportGroup h
    exact (hwritten _).trans (inStep_count (hwritten _).alike _)
  | some raw =>
    have hread := inStep_report h .alarmTemperature (.integer (Device.temperature raw))
    dsimp only
    rw [hread.alike.clock]
    have hwritten := inStep_reportGroup hread.alike
    exact hread.trans ((hwritten _).trans (inStep_count (hwritten _).alike _))

theorem inStep_silence (h : a.Alike id b) : InStep id a b (a.silence id) (b.silence id) := by
  unfold silence
  rw [h.alarmStateOf]
  split
  · exact inStep_writeAlarm h _ _
  · exact .refl h

theorem inStep_writeDetails (h : a.Alike id b) (table : UInt8) (faults : UInt16) :
    InStep id a b (a.writeDetails id table faults) (b.writeDetails id table faults) := by
  unfold writeDetails
  refine inStep_foldl ?_ _ h
  intro bit a b h
  exact inStep_writeFault h _ _ _

theorem inStep_increment (h : a.Alike id b) (property : Property) :
    InStep id a b (a.after ((a.platform.increment id property).map Prod.snd))
      (b.after ((b.platform.increment id property).map Prod.snd)) := by
  unfold Platform.increment
  rw [h.nextCount]
  cases b.platform.nextCount id property with
  | error error => exact .refl h
  | ok next =>
    obtain ⟨error, ha, hb⟩ | ⟨left, right, ha, hb, hstep⟩ :=
      h.setReported property (.integer next)
    · simp only [bind, Except.bind, ha, hb]
      exact .refl h
    · simp only [bind, Except.bind, ha, hb]
      exact hstep

end Site

end AlarmMesh.Gateway
