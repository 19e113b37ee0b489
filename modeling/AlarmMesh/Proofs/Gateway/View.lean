import AlarmMesh.Proofs.Gateway.Written

/-!
# What a step leaves as it is

What becomes of a device shows in few places: in what the store has of its presence and of its
being missing, in the report that all devices are deleted and the wish for it, and in the slots that
are asked who is there.  Nearly everything that the gateway does leaves all of them as they are.

* `Subject`, `Site.view` — these places, and what a site has at one of them;
* `view_report`, `view_send`, … — the calls that leave it as it is, and when they do;
* `Discovery.view_receiveSidMap`, `Correlator.view_receiveFault`, … — the handlers beside the test.
-/

namespace AlarmMesh.Shadow

open Radio (DeviceId)

namespace Store

variable {store store' : Store} {id : DeviceId} {property : Property}

/-- To register a device sets its type and nothing else. -/
theorem getReported_register {deviceType : Nat} (h : store.register id deviceType = .ok store')
    (hp : property ≠ .deviceType) (other : DeviceId) :
    (store'.getReported other property).toOption =
      (store.getReported other property).toOption := by
  by_cases hid : id = other
  · subst hid
    rw [getReported_eq, getReported_eq]
    unfold register at h
    split at h
    · next record hrecord =>
      obtain rfl := Except.ok.inj h
      rw [record?_withRecord, if_pos rfl, hrecord]
      simp [Table.get?_put, hp.symm]
    · next hnone =>
      split at h
      · obtain rfl := Except.ok.inj h
        have hplaced := get?_place id id { reported := [(.deviceType, .ofNat deviceType)] }
          store.records hnone
        rw [if_pos rfl] at hplaced
        rw [hnone, show Store.record? { store with records := place id _ store.records } id = _
          from hplaced]
        simp [Table.get?, hp.symm]
      · simp at h
  · rw [getReported_eq, getReported_eq, register_eq_ok h hid]

end Store

/-- Some subject is reported as this property. -/
def Property.isSubject : Property → Bool
  | presence | missing | deleteAllCommand => true
  | _ => false

end AlarmMesh.Shadow

namespace AlarmMesh.Gateway

open Radio (Command DeviceId Identity SidMap)
open Shadow (Call Edit Footprint Platform Property Store Value)

/-- The slot that a command asks who is there. -/
def slotAsked? : Command → Option UInt8
  | .requestRemoteId sid => some sid
  | _ => none

/-- The slots that were asked who is there, latest first. -/
def Site.asked (site : Site) : List UInt8 := site.sent.filterMap slotAsked?

/-! ### Subjects -/

/-- What is looked at. -/
inductive Subject where
  /-- The slots that are asked who is there. -/
  | questions
  /-- Whether a device is in the network. -/
  | presence (id : DeviceId)
  /-- Whether a device was left out of a SID map. -/
  | missing (id : DeviceId)
  /-- The report that all devices are deleted. -/
  | deletion
  /-- What is wished for as this report. -/
  | wish

/-- What is seen there. -/
def Subject.Seen : Subject → Type
  | questions => List UInt8
  | presence _ | missing _ | deletion | wish => Option Value

/-- What the platform wants to be reported when all devices are deleted. -/
def Site.wished (site : Site) : Option Value :=
  (site.platform.store.getDesired .gateway .deleteAllCommand).toOption

/-- What a site has there. -/
def Site.view (site : Site) : (s : Subject) → s.Seen
  | .questions => site.asked
  | .presence id => site.stored id .presence
  | .missing id => site.stored id .missing
  | .deletion => site.stored .gateway .deleteAllCommand
  | .wish => site.wished

namespace Subject

/-- It is about this device. -/
def IsOf (id : DeviceId) : Subject → Prop
  | questions => False
  | presence other | missing other => id = other
  | deletion | wish => id = .gateway

/-- It is not what is reported of this device as this property. -/
def Spares (id : DeviceId) (property : Property) : Subject → Prop
  | questions | wish => True
  | presence other => ¬ (id = other ∧ property = .presence)
  | missing other => ¬ (id = other ∧ property = .missing)
  | deletion => ¬ (id = .gateway ∧ property = .deleteAllCommand)

/-- The missing-node test does not report it. -/
def Apart : Subject → Prop
  | questions | missing _ | wish => True
  | presence _ | deletion => False

/-- The mesh device that it is about is registered. -/
def Registered (s : Subject) (site : Site) : Prop :=
  ∀ id, s.IsOf id → id.isGateway = false → site.platform.isRegistered id

variable {s : Subject} {id : DeviceId} {property : Property}

theorem spares_of_other (h : property.isSubject = false) : s.Spares id property := by
  cases s <;> first | trivial | (rintro ⟨-, rfl⟩; simp [Property.isSubject] at h)

theorem spares_of_not_isOf (h : ¬ s.IsOf id) (property : Property) : s.Spares id property := by
  cases s with
  | questions | wish => trivial
  | presence | missing | deletion => exact fun heq => h heq.1

theorem Apart.spares_presence (h : s.Apart) : s.Spares id .presence := by
  cases s <;> first | trivial | exact absurd h id | simp [Spares]

theorem Apart.ne_deletion (h : s.Apart) : s ≠ .deletion := by
  rintro rfl
  exact h

theorem spares_deleteAllCommand (h : s ≠ .deletion) : s.Spares id .deleteAllCommand := by
  cases s <;> first | trivial | exact absurd rfl h | simp [Spares]

end Subject

/-! ### The site -/

namespace Site

variable {s : Subject} {site site' : Site} {id : DeviceId} {property : Property}

theorem view_of (hsent : site'.sent = site.sent) (hplatform : site'.platform = site.platform) :
    site'.view s = site.view s := by
  have hasked : site'.asked = site.asked := congrArg (List.filterMap slotAsked?) hsent
  have hstored (id : DeviceId) (property : Property) :
      site'.stored id property = site.stored id property := by
    unfold stored
    rw [hplatform]
  cases s with
  | questions => exact hasked
  | presence | missing | deletion => exact hstored _ _
  | wish =>
    show site'.wished = site.wished
    unfold wished
    rw [hplatform]

/-- Nothing is sent, and the store has what it had of a property. -/
theorem view_of_store (hsent : site'.sent = site.sent)
    (hstored : ∀ id property, ¬ s.Spares id property →
      site'.stored id property = site.stored id property)
    (hwished : s = .wish → site'.wished = site.wished) : site'.view s = site.view s := by
  cases s with
  | questions => exact congrArg (List.filterMap slotAsked?) hsent
  | presence id | missing id => exact hstored _ _ fun h => h ⟨rfl, rfl⟩
  | deletion => exact hstored _ _ fun h => h ⟨rfl, rfl⟩
  | wish => exact hwished rfl

/-! ### Calls to the shadow -/

theorem view_edited (edit : Edit) {call : Call} {p : Option Property}
    (h : ∀ id property, ¬ s.Spares id property → ¬ Store.Concerns id property edit)
    (hw : s = .wish → ¬ Store.AltersWish .gateway .deleteAllCommand edit) :
    (site.after (site.platform.updated call p (site.platform.store.edited edit))).view s =
      site.view s := by
  cases hedit : site.platform.updated call p (site.platform.store.edited edit) with
  | error error => rfl
  | ok platform =>
    obtain ⟨store, hstore, rfl⟩ := Platform.updated_eq_ok hedit
    exact view_of_store rfl
      (fun id property hs => Store.getReported_edited hstore (h id property hs))
      fun hs => Store.getDesired_edited hstore (hw hs)

theorem view_report_of_spares (h : s.Spares id property) (value : Value) :
    (site.report id property value).view s = site.view s := by
  refine view_edited (.report id property value) (fun other p hs hconcerns => hs ?_)
    fun _ h => h
  obtain ⟨rfl, rfl⟩ := hconcerns
  exact h

theorem view_report (h : property.isSubject = false) (value : Value) :
    (site.report id property value).view s = site.view s :=
  view_report_of_spares (Subject.spares_of_other h) value

theorem Tracks.exists_setReported (h : site.Tracks id [(.setReported, property)]) (value : Value) :
    ∃ store, site.platform.store.setReported id property value = .ok store ∧
      site.platform.setReported id property value = .ok { site.platform with store := store } := by
  obtain ⟨store, hstore⟩ := Store.exists_setReported (Store.isRegistered_iff.1 h.1) property value
  refine ⟨store, hstore, ?_⟩
  unfold Platform.setReported
  rw [hstore]
  exact Platform.updated_of_up (h.2 _ (List.mem_singleton_self _)) store

/-- A report that reaches the store is there. -/
theorem stored_report (h : site.Tracks id [(.setReported, property)]) (value : Value) :
    (site.report id property value).stored id property = some value := by
  obtain ⟨store, hstore, hset⟩ := h.exists_setReported value
  unfold report
  rw [hset]
  exact (Store.getReported_setReported hstore id property).trans (if_pos ⟨rfl, rfl⟩)

/-- The first value of a group reaches the store as any other report does. -/
theorem reportGroup_cons (h : site.Tracks id [(.setReported, property)]) (value : Value)
    (rest : List (Property × Value)) : site.reportGroup id ((property, value) :: rest) =
      (site.report id property value).reportGroup id rest := by
  obtain ⟨store, -, hset⟩ := h.exists_setReported value
  unfold reportGroup report
  rw [Platform.reportGroup, hset]
  rfl

/-- To report again what the store has changes nothing, of whatever device. -/
theorem stored_report_again {value : Value} (h : site.stored id property = some value)
    (other : DeviceId) : (site.report other property value).stored id property = some value := by
  unfold report
  cases hset : site.platform.setReported other property value with
  | error error => exact h
  | ok platform =>
    obtain ⟨store, hstore, rfl⟩ := Platform.updated_eq_ok hset
    refine (Store.getReported_setReported hstore id property).trans ?_
    split
    · rfl
    · exact h

theorem view_reportGroup_of_spares {values : List (Property × Value)}
    (h : ∀ entry ∈ values, s.Spares id entry.1) :
    (site.reportGroup id values).view s = site.view s := by
  unfold reportGroup
  induction values generalizing site with
  | nil => exact view_of rfl rfl
  | cons entry values ih =>
    obtain ⟨property, value⟩ := entry
    have hfirst : (site.report id property value).view s = site.view s :=
      view_report_of_spares (h _ List.mem_cons_self) value
    unfold report at hfirst
    unfold Platform.reportGroup
    cases hset : site.platform.setReported id property value with
    | error error => exact view_of rfl rfl
    | ok platform =>
      rw [hset] at hfirst
      exact (@ih { site with platform := platform }
        fun entry he => h entry (List.mem_cons_of_mem _ he)).trans hfirst

theorem view_reportGroup {values : List (Property × Value)}
    (h : ∀ entry ∈ values, entry.1.isSubject = false) :
    (site.reportGroup id values).view s = site.view s :=
  view_reportGroup_of_spares fun entry he => Subject.spares_of_other (h entry he)

@[simp]
theorem view_subscribe (site : Site) (id : DeviceId) (property : Property) :
    (site.subscribe id property).view s = site.view s :=
  view_edited (.subscribe id property) (fun _ _ _ h => h) fun _ h => h

theorem view_desire (site : Site) (id : DeviceId) (property : Property) (value : Value)
    (h : s = .wish → ¬ (id = .gateway ∧ property = .deleteAllCommand)) :
    (site.after (site.platform.setDesired id property value)).view s = site.view s :=
  view_edited (.desire id property value) (fun _ _ _ h => h) h

theorem view_forget (h : property.isSubject = false) :
    (site.after (site.platform.deleteProperty id property)).view s = site.view s := by
  refine view_edited (.forget id property) (fun other p hs hconcerns => hs ?_) fun _ h => h
  obtain ⟨rfl, rfl⟩ := hconcerns
  exact Subject.spares_of_other h

theorem view_increment (h : property.isSubject = false) :
    (site.after ((site.platform.increment id property).map Prod.snd)).view s = site.view s := by
  unfold Platform.increment
  cases site.platform.nextCount id property with
  | error error => rfl
  | ok next =>
    have hreport : (site.report id property (.integer next)).view s = site.view s :=
      view_report h _
    unfold report at hreport
    simp only [bind, Except.bind, pure, Except.pure]
    cases hset : site.platform.setReported id property (.integer next) with
    | error error => rfl
    | ok platform =>
      rw [hset] at hreport
      exact hreport

theorem view_register {deviceType : Nat} {platform : Platform}
    (h : site.platform.register id deviceType = .ok platform) :
    ({ site with platform := platform } : Site).view s = site.view s := by
  obtain ⟨store, hstore, rfl⟩ := Platform.updated_eq_ok h
  have hedited : site.platform.store.edited (.register id deviceType) = .ok store := hstore
  refine view_of_store rfl (fun other property hs => Store.getReported_register hstore ?_ other)
    fun _ => Store.getDesired_edited hedited (fun h => h)
  rintro rfl
  exact hs (Subject.spares_of_other rfl)

theorem view_foldl {α : Type} {step : Site → α → Site} {as : List α}
    (h : ∀ (site : Site), ∀ a ∈ as, (step site a).view s = site.view s) (site : Site) :
    (as.foldl step site).view s = site.view s := by
  induction as generalizing site with
  | nil => rfl
  | cons a as ih =>
    exact (ih (fun site other ho => h site other (List.mem_cons_of_mem _ ho)) _).trans
      (h site a List.mem_cons_self)

/-! ### Buffers, timers and commands -/

@[simp]
theorem view_count (site : Site) (counter : Metric.Counter) :
    (site.count counter).view s = site.view s := view_of rfl rfl

@[simp]
theorem view_release (site : Site) (buffer : Link.Buffer) :
    (site.release buffer).view s = site.view s := view_of rfl rfl

@[simp]
theorem view_cancel (site : Site) (handle : Option TimerHandle) :
    (site.cancel handle).view s = site.view s := by
  cases handle <;> exact view_of rfl rfl

@[simp]
theorem view_schedule (site : Site) (kind : TimerKind) (delay : Duration) :
    (site.schedule kind delay).2.view s = site.view s := view_of rfl rfl

@[simp]
theorem view_restart (site : Site) (handle : Option TimerHandle) (kind : TimerKind)
    (delay : Duration) : (site.restart handle kind delay).2.view s = site.view s := by
  simp [restart]

theorem takeBuffer_sent (site : Site) (take : Link.Pool → Option Link.Buffer × Link.Pool) :
    (site.takeBuffer take).2.sent = site.sent := by
  unfold takeBuffer
  split <;> rfl

/-- What a command adds to the slots that were asked. -/
theorem asked_send (site : Site) (command : Command) : (site.send command).2.asked =
    (if site.hasBuffer then (slotAsked? command).toList else []) ++ site.asked := by
  have h := site.takeBuffer_sent fun pool => pool.acquireFor command
  rw [← send_fst site command]
  unfold Site.send
  split
  · cases hslot : slotAsked? command <;> simp_all [asked]
  · simp_all [asked, count]

/-- Commands alone change nothing in the shadow. -/
theorem view_send_of_stored (hs : s ≠ .questions) (site : Site) (command : Command) :
    (site.send command).2.view s = site.view s := by
  have hstored (id : DeviceId) (property : Property) :
      (site.send command).2.stored id property = site.stored id property := by
    unfold stored
    rw [send_platform]
  cases s with
  | questions => exact absurd rfl hs
  | presence | missing | deletion => exact hstored _ _
  | wish =>
    show Site.wished _ = site.wished
    unfold wished
    rw [send_platform]

theorem view_send (site : Site) {command : Command} (h : slotAsked? command = none) :
    (site.send command).2.view s = site.view s := by
  by_cases hs : s = .questions
  · subst hs
    exact (asked_send site command).trans (by simp [h, view])
  · exact view_send_of_stored hs site command

theorem view_transmit (site : Site) {command : Command} (h : slotAsked? command = none) :
    (site.transmit command).view s = site.view s := view_send site h

theorem view_park (site : Site) (report : List UInt8) (use : Link.SlotUse) {question : Command}
    (h : slotAsked? question = none) : (site.park report use question).2.view s = site.view s :=
  (parks_of_park rfl).follow (R := fun a b => b.view s = a.view s) (fun h h' => h'.trans h)
    (view_of (site.takeBuffer_sent _) (site.takeBuffer_platform _)) (fun _ _ => view_of rfl rfl)
    fun site => view_send site h

/-! ### Devices and events -/

@[simp]
theorem view_initDevice (site : Site) (id : DeviceId) :
    (site.initDevice id).view s = site.view s := by
  unfold initDevice
  refine (view_foldl (fun site property _ => view_subscribe site id property) _).trans ?_
  rw [view_report rfl, view_report rfl]
  split
  · rw [view_report rfl, view_report rfl]
  · rw [view_report rfl]

/-- An identity is written with the presence of its device. -/
theorem view_writeIdentity (identity : Identity) (presence : Shadow.Presence)
    (h : s.Spares identity.id .presence) :
    (site.writeIdentity identity presence).view s = site.view s := by
  refine view_reportGroup_of_spares fun entry he => ?_
  by_cases hp : entry.1 = .presence
  · exact hp ▸ h
  · refine Subject.spares_of_other ?_
    simp only [List.mem_cons, List.not_mem_nil, or_false] at he
    rcases he with rfl | rfl | rfl | rfl | rfl | rfl <;> first | rfl | exact absurd rfl hp

/-- The device has a slot, and the map leaves it out. -/
def isLeftOut (map : SidMap) (site : Site) (id : DeviceId) : Bool :=
  (site.slotOf id).any fun sid => !map.contains sid

/-- A device that the map does not leave out is not marked. -/
theorem view_markUnlessIn (map : SidMap) (site : Site) (id : DeviceId)
    (h : s.IsOf id → site.isLeftOut map id = false) :
    (site.markUnlessIn map id).view s = site.view s := by
  unfold markUnlessIn
  split
  · next sid hsid =>
    split
    · rfl
    · next hout =>
      have hother : ¬ s.IsOf id := fun hof => by
        have := h hof
        simp_all [isLeftOut]
      rw [view_report_of_spares (Subject.spares_of_not_isOf hother _),
        view_report_of_spares (Subject.spares_of_not_isOf hother _)]
  · rfl

theorem keeps_markUnlessIn (map : SidMap) (site : Site) (id : DeviceId) :
    site.Keeps [.sid] (site.markUnlessIn map id) := by
  unfold markUnlessIn
  split
  · split
    · exact .refl _ _
    · exact (keeps_report _ (.inr (by simp)) _).trans (keeps_report _ (.inr (by simp)) _)
  · exact .refl _ _

theorem Keeps.isLeftOut_eq {map : SidMap} (h : site.Keeps [.sid] site')
    (hid : id.isGateway = false) : site'.isLeftOut map id = site.isLeftOut map id := by
  unfold isLeftOut
  rw [Site.slotOf_eq, Site.slotOf_eq, h.reported id hid .sid (by simp)]

theorem view_foldl_markUnlessIn {map : SidMap} {ids : List DeviceId}
    (hids : ∀ id ∈ ids, id.isGateway = false)
    (h : ∀ id ∈ ids, s.IsOf id → site.isLeftOut map id = false) :
    (ids.foldl (markUnlessIn map) site).view s = site.view s := by
  induction ids generalizing site with
  | nil => rfl
  | cons first ids ih =>
    have hkeeps := keeps_markUnlessIn map site first
    refine (ih (fun id hid => hids id (List.mem_cons_of_mem _ hid)) fun id hid hof => ?_).trans
      (view_markUnlessIn map site first (h first List.mem_cons_self))
    rw [hkeeps.isLeftOut_eq (hids id (List.mem_cons_of_mem _ hid))]
    exact h id (List.mem_cons_of_mem _ hid) hof

theorem view_markDevice (missing : SidMap) (site : Site) (id : DeviceId)
    (h : s.Spares id .presence) : (site.markDevice missing id).view s = site.view s := by
  unfold markDevice
  split
  · exact view_report_of_spares h _
  · rfl

@[simp]
theorem view_writeFault (site : Site) (id : DeviceId) (active : Bool) (code : UInt8)
    (millivolts : Option UInt16) :
    (site.writeFault id active code millivolts).view s = site.view s := by
  unfold writeFault
  split
  · rfl
  split
  · rfl
  · rw [view_count, view_reportGroup (by simp [Property.isSubject])]
    cases millivolts with
    | none => rfl
    | some _ => exact view_report rfl _

@[simp]
theorem view_writeDetails (site : Site) (id : DeviceId) (table : UInt8) (faults : UInt16) :
    (site.writeDetails id table faults).view s = site.view s :=
  view_foldl (fun _ _ _ => view_writeFault _ _ _ _ _) site

@[simp]
theorem view_writeAlarm (site : Site) (id : DeviceId) (state : Nat)
    (temperature : Option UInt16) :
    (site.writeAlarm id state temperature).view s = site.view s := by
  unfold writeAlarm
  rw [view_count, view_reportGroup (by simp [Property.isSubject])]
  cases temperature with
  | none => rfl
  | some _ => exact view_report rfl _

@[simp]
theorem view_silence (site : Site) (id : DeviceId) : (site.silence id).view s = site.view s := by
  unfold silence
  split <;> simp

end Site

/-! ### Discovery beside the test -/

namespace Discovery

variable {s : Subject} (d : Discovery)

theorem view_report {property : Property} (h : property.isSubject = false) (value : Value) :
    (d.report property value).site.view s = d.site.view s :=
  Site.view_report h value

theorem view_transmit {command : Command} (h : slotAsked? command = none) :
    (d.transmit command).site.view s = d.site.view s :=
  Site.view_send d.site h

@[simp]
theorem view_restartRefresh (delay : Duration) :
    (d.restartRefresh delay).site.view s = d.site.view s := Site.view_restart _ _ _ _

@[simp]
theorem view_restartMissing (kind : TimerKind) (delay : Duration) :
    (d.restartMissing kind delay).site.view s = d.site.view s := Site.view_restart _ _ _ _

@[simp]
theorem view_cancelMissing : d.cancelMissing.site.view s = d.site.view s := Site.view_cancel _ _

@[simp]
theorem view_restartLearn (delay : Duration) :
    (d.restartLearn delay).site.view s = d.site.view s := Site.view_restart _ _ _ _

@[simp]
theorem view_cancelLearn : d.cancelLearn.site.view s = d.site.view s := Site.view_cancel _ _

@[simp]
theorem view_restartInterrogate (delay : Duration) :
    (d.restartInterrogate delay).site.view s = d.site.view s := Site.view_restart _ _ _ _

@[simp]
theorem view_cancelInterrogate : d.cancelInterrogate.site.view s = d.site.view s :=
  Site.view_cancel _ _

@[simp]
theorem view_refresh : d.refresh.site.view s = d.site.view s := by
  unfold refresh
  rw [view_restartRefresh]
  split
  · rfl
  · exact view_transmit d rfl

/-! ### Interrogation -/

@[simp]
theorem view_setInterrogating (active : Bool) :
    (d.setInterrogating active).site.view s = d.site.view s :=
  view_report { d with interrogation := _ } rfl _

/-- An interrogation goes on with a question, if it is on. -/
theorem view_continueInterrogation (h : s = .questions → d.interrogation.active = false) :
    d.continueInterrogation.site.view s = d.site.view s := by
  unfold continueInterrogation
  split
  · next hactive =>
    have hstored : s ≠ .questions := fun hs => by simp [h hs] at hactive
    have hsend (d : Discovery) (command : Command) :
        (d.transmit command).site.view s = d.site.view s :=
      Site.view_send_of_stored hstored d.site command
    dsimp only
    split
    · rw [view_restartInterrogate, hsend]
    · rw [view_setInterrogating]
  · rfl

/-- While a session is running no interrogation begins. -/
theorem view_checkInterrogation (h : s = .questions → d.scan.active) :
    d.checkInterrogation.site.view s = d.site.view s := by
  unfold checkInterrogation
  split
  · rfl
  · next hidle =>
    have hstored : s ≠ .questions := fun hs => hidle (h hs)
    split
    · split
      · rfl
      · rw [view_continueInterrogation _ fun hs => absurd hs hstored, view_setInterrogating]
    split
    · rw [view_setInterrogating, view_cancelInterrogate]
    · rfl

@[simp]
theorem view_suspendInterrogation : d.suspendInterrogation.site.view s = d.site.view s := by
  unfold suspendInterrogation
  rw [view_setInterrogating]
  split
  · exact view_cancelInterrogate d
  · rfl

/-! ### Members -/

@[simp]
theorem view_setUnknown (unknown : Nat) :
    (d.setUnknown unknown).site.view s = d.site.view s :=
  (Site.view_of rfl rfl).trans (view_report { d with unknown := unknown } rfl _)

@[simp]
theorem view_requestDiagnostics : d.requestDiagnostics.site.view s = d.site.view s := by
  unfold requestDiagnostics
  rw [send_eq]
  split
  · cases d.site.hasBuffer
    · exact view_transmit d rfl
    · exact view_transmit d rfl
  · rfl

theorem requestDiagnostics_scan : d.requestDiagnostics.scan = d.scan := by
  unfold requestDiagnostics
  rw [send_eq]
  split
  · cases d.site.hasBuffer <;> rfl
  · rfl

theorem view_receiveSidMap (map : SidMap) (h : s = .questions → d.scan.active) :
    (d.receiveSidMap map).site.view s = d.site.view s := by
  let joined := { d with inNetwork := map.inNetwork }.report .inNetwork (.bool map.inNetwork)
  have hjoined : joined.site.view s = d.site.view s := view_report { d with inNetwork := _ } rfl _
  have hscan : joined.requestDiagnostics.scan = d.scan := requestDiagnostics_scan joined
  have hcheck := view_checkInterrogation (s := s)
    { joined.requestDiagnostics.setUnknown ((map.difference d.site.knownSids).count - 1) with
      current := map } fun hs => (congrArg Scan.active hscan).trans (h hs)
  refine hcheck.trans ?_
  exact (view_setUnknown _ _).trans ((view_requestDiagnostics joined).trans hjoined)

/-- The devices that the map leaves out are marked. -/
theorem view_receiveSidMapUpdate (map : SidMap)
    (h : ∀ id ∈ d.site.meshDevices, s.IsOf id → d.site.isLeftOut map id = false) :
    (d.receiveSidMapUpdate map).site.view s = d.site.view s :=
  Site.view_foldl_markUnlessIn (fun _ hid => (Site.mem_meshDevices.1 hid).2) h

@[simp]
theorem view_receiveDiagnostic (status : Radio.RadioStatus) :
    (d.receiveDiagnostic status).site.view s = d.site.view s :=
  (Site.view_report rfl _).trans (Site.view_report rfl _)

@[simp]
theorem view_receiveRumourTarget : d.receiveRumourTarget.site.view s = d.site.view s :=
  view_transmit d rfl

@[simp]
theorem view_countKnown : d.countKnown.site.view s = d.site.view s := by
  unfold countKnown
  split
  · exact view_setUnknown d _
  · rfl

theorem view_register (identity : Identity) (presence : Shadow.Presence)
    (h : s.Spares identity.id .presence) :
    (d.register identity presence).site.view s = d.site.view s := by
  unfold register
  dsimp only
  split
  · exact view_countKnown d
  · next platform hregister =>
    dsimp only
    rw [Site.view_writeIdentity identity presence h, Site.view_initDevice, Site.view_count,
      Site.view_register hregister, view_countKnown]

/-- What a device tells of itself is written with its presence. -/
theorem view_receiveIdentity (identity : Identity) (presence : Shadow.Presence) (real : Bool)
    (h : s.Spares identity.id .presence) :
    (d.receiveIdentity identity presence real).site.view s = d.site.view s := by
  unfold receiveIdentity
  split
  · rfl
  split
  · exact view_register d identity presence h
  split
  · exact Site.view_writeIdentity identity presence h
  · rfl

theorem interrogation_receiveIdentity (identity : Identity) (presence : Shadow.Presence)
    (real : Bool) :
    (d.receiveIdentity identity presence real).interrogation = d.interrogation := by
  have hcount : d.countKnown.interrogation = d.interrogation := by
    unfold countKnown
    split <;> rfl
  unfold receiveIdentity register
  split
  · rfl
  split
  · dsimp only
    split
    · exact hcount
    · exact hcount
  split <;> rfl

theorem view_receiveRemoteId (identity : Identity) (h : s.Spares identity.id .presence)
    (hs : s = .questions → d.interrogation.active = false) :
    (d.receiveRemoteId identity).site.view s = d.site.view s := by
  have hsame := interrogation_receiveIdentity d identity .online false
  unfold receiveRemoteId
  dsimp only
  split
  · next hactive =>
    rw [hsame] at hactive
    rw [view_continueInterrogation _ fun hs' => by simp [hs hs'] at hactive,
      view_cancelInterrogate, view_receiveIdentity d identity _ _ h]
  · exact view_receiveIdentity d identity _ _ h

/-! ### Learn mode -/

@[simp]
theorem view_setLearnMode (enabled : Bool) (seconds : Nat) :
    (d.setLearnMode enabled seconds).site.view s = d.site.view s := by
  have hlearn (d : Discovery) :
      (if 0 < seconds then d.restartLearn (.ofSeconds seconds) else d.cancelLearn).site.view s =
        d.site.view s := by
    split
    · exact view_restartLearn d _
    · exact view_cancelLearn d
  unfold setLearnMode
  split
  · rfl
  split
  · unfold enterLearnMode
    dsimp only
    rw [hlearn, view_restartRefresh]
    have hmode := view_report (s := s) { d with learning := true }
      (show Property.isSubject .mode = false from rfl) Shadow.Mode.learning.value
    split
    · exact hmode
    · exact (view_transmit _ rfl).trans hmode
  · unfold leaveLearnMode
    dsimp only
    rw [view_cancelLearn, view_restartRefresh]
    exact view_report { d with learning := false } rfl _

end Discovery

/-! ### Faults and alarms -/

namespace Correlator

variable {s : Subject} (c : Correlator)

@[simp]
theorem view_writeFault (id : DeviceId) (active : Bool) (fault : FlagFault) :
    (c.writeFault id active fault).site.view s = c.site.view s := Site.view_writeFault _ _ _ _ _

theorem view_beginFault (id : DeviceId) (report : List UInt8) (awaiting : FollowUp)
    {question : Command} (h : slotAsked? question = none) :
    (c.beginFault id report awaiting question).2.site.view s = c.site.view s := by
  have hpark := Site.view_park (s := s) c.site report .pendingFault h
  unfold beginFault
  split
  · rfl
  split
  · next heq => rwa [heq] at hpark
  · next heq =>
    rw [heq] at hpark
    exact (Site.view_schedule _ _ _).trans hpark

theorem view_applyGeneral (table : UInt8) (report : Radio.FaultReport) (frame : List UInt8) :
    (c.applyGeneral table report frame).site.view s = c.site.view s := by
  have hbegin := c.view_beginFault (s := s) report.id frame .faultDetails
    (show slotAsked? (.requestFaultDetails report.id report.model) = none from rfl)
  unfold applyGeneral
  dsimp only
  split
  · exact view_writeFault c _ _ _
  split
  · split
    · next heq => rwa [heq] at hbegin
    · next heq =>
      rw [heq] at hbegin
      exact (view_writeFault _ _ _ _).trans hbegin
  · exact (view_writeFault _ _ _ _).trans (Site.view_writeDetails _ _ _ _)

theorem view_applyBattery (readsVolts : Bool) (report : Radio.FaultReport) (frame : List UInt8) :
    (c.applyBattery readsVolts report frame).site.view s = c.site.view s := by
  have hbegin := c.view_beginFault (s := s) report.id frame .volts
    (show slotAsked? (.readVolts report.id report.model) = none from rfl)
  unfold applyBattery
  dsimp only
  split
  · split
    · next heq => rwa [heq] at hbegin
    · next heq =>
      rw [heq] at hbegin
      exact (view_writeFault _ _ _ _).trans hbegin
  · exact view_writeFault c _ _ _

theorem view_applyFlag (profile : Option Device.Profile) (report : Radio.FaultReport)
    (frame : List UInt8) (flag : Radio.FaultFlag) :
    (applyFlag profile report frame c flag).site.view s = c.site.view s := by
  unfold applyFlag
  cases flag with
  | faulty => exact view_applyGeneral c _ _ _
  | detectorBattery => exact view_applyBattery c _ _ _
  | unassigned6 | unassigned7 => rfl
  | _ => exact view_writeFault c _ _ _

@[simp]
theorem view_receiveFault (report : Radio.FaultReport) (frame : List UInt8) :
    (c.receiveFault report frame).site.view s = c.site.view s := by
  unfold receiveFault
  generalize c.site.profileOf report.id = profile
  induction Radio.FaultFlag.all generalizing c with
  | nil => rfl
  | cons flag flags ih => exact (ih _).trans (view_applyFlag c profile report frame flag)

theorem view_takeFault (id : DeviceId) (pending : PendingFault) :
    (c.takeFault id pending).site.view s = c.site.view s := Site.view_cancel _ _

@[simp]
theorem view_receiveFaultDetails (id : DeviceId) (faults : UInt16) :
    (c.receiveFaultDetails id faults).site.view s = c.site.view s := by
  unfold receiveFaultDetails
  split
  · next pending _ =>
    split
    · have htake : ((c.takeFault id pending).onSite fun site =>
          site.release pending.frame).site.view s = c.site.view s :=
        (Site.view_release _ _).trans (view_takeFault c id pending)
      dsimp only
      split
      · exact htake
      · exact (Site.view_writeDetails _ _ _ _).trans htake
    · rfl
  · rfl

theorem view_beginAlarm (id : DeviceId) (report : List UInt8) :
    (c.beginAlarm id report).2.site.view s = c.site.view s := by
  have hpark := Site.view_park (s := s) c.site report .pendingAlarm
    (show slotAsked? (.readTemperature id (c.site.modelOf id)) = none from rfl)
  unfold beginAlarm
  split
  · rfl
  split
  · next heq => rwa [heq] at hpark
  · next heq =>
    rw [heq] at hpark
    exact (Site.view_schedule _ _ _).trans hpark

@[simp]
theorem view_receiveAlarm (report : Radio.AlarmReport) (frame : List UInt8) :
    (c.receiveAlarm report frame).site.view s = c.site.view s := by
  unfold receiveAlarm
  generalize ((c.site.profileOf report.id).map Device.Profile.readsTemperature).getD false = wanted
  have hbegin : (if wanted then c.beginAlarm report.id frame else (false, c)).2.site.view s =
      c.site.view s := by
    cases wanted with
    | true => exact view_beginAlarm c _ _
    | false => rfl
  dsimp only
  generalize (if wanted then c.beginAlarm report.id frame else (false, c)) = begun at hbegin ⊢
  split
  · exact hbegin
  · exact (Site.view_writeAlarm _ _ _ _).trans hbegin

theorem view_resolveAlarm (id : DeviceId) (pending : PendingAlarm)
    (temperature : Option UInt16) :
    (c.resolveAlarm id pending temperature).site.view s = c.site.view s := by
  unfold resolveAlarm
  refine (Site.view_release _ _).trans ?_
  split
  · exact Site.view_writeAlarm _ _ _ _
  · rfl

theorem view_receiveTemperature (id : DeviceId) (value : UInt16) :
    (c.receiveTemperature id value).site.view s = c.site.view s := by
  unfold receiveTemperature
  split
  · exact (view_resolveAlarm _ _ _ _).trans (Site.view_cancel _ _)
  · rfl

@[simp]
theorem view_receiveSlotValue (id : DeviceId) (value : UInt16) :
    (c.receiveSlotValue id value).site.view s = c.site.view s := by
  unfold receiveSlotValue
  split
  · next pending _ =>
    split
    · exact (Site.view_release _ _).trans
        ((Site.view_writeFault _ _ _ _ _).trans (view_takeFault c id pending))
    · exact view_receiveTemperature c id value
  · exact view_receiveTemperature c id value

@[simp]
theorem view_receiveHush : c.receiveHush.site.view s = c.site.view s :=
  Site.view_foldl (fun site id _ => Site.view_silence site id) _

@[simp]
theorem view_receiveDetectorFault (id : DeviceId) :
    (c.receiveDetectorFault id).site.view s = c.site.view s := Site.view_increment rfl

@[simp]
theorem view_receiveRemoteStatus (status : Radio.RadioStatus) :
    (c.receiveRemoteStatus status).site.view s = c.site.view s :=
  (Site.view_report rfl _).trans ((Site.view_report rfl _).trans (Site.view_report rfl _))

@[simp]
theorem view_onTimeout (kind : TimerKind) : (c.onTimeout kind).site.view s = c.site.view s := by
  unfold onTimeout
  split
  · unfold faultTimedOut
    split
    · exact (Site.view_release _ _).trans
        ((Site.view_writeFault _ _ _ _ _).trans (Site.view_count _ _))
    · rfl
  · unfold alarmTimedOut
    split
    · exact (view_resolveAlarm _ _ _ _).trans (Site.view_count _ _)
    · rfl
  · rfl

end Correlator

end AlarmMesh.Gateway
