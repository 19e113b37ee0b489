import AlarmMesh.Proofs.Gateway.Locality
import AlarmMesh.Proofs.Gateway.Repetition
import Mathlib.Data.List.TakeWhile

/-!
# Devices that tell who they are

What the store has of a device after it told who it is, and what that leaves as it was.

* `within_initDevice`, `within_writeIdentity` — what is written of one device;
* `stored_reportGroup_eq`, `stored_writeIdentity` — what the store has of it then;
* `Site.About id site site'` — at most the gateway and one device were written of;
* `Site.Rejects`, `rejects_iff` — a new device that the store gives no record;
* `Site.admitted`, `Site.enrolled` — one that has a record, and of which it is written who it is;
* `Telling`, `Discovery.hear` — a device tells who it is;
* `hear_of_rejects`, `hear_of_new`, `hear_of_known` — what becomes of what is told;
* `about_hear` — which devices it is about.
-/

namespace AlarmMesh.Gateway

open Radio (DeviceId Identity)
open Shadow (Call Footprint Platform Presence Property Store Table Value)

namespace Site

variable {site site' a b c : Site} {id other : DeviceId} {identity : Identity}
  {property : Property} {value : Value} {calls : List (Call × Property)}

/-! ### One device -/

theorem within_report (site : Site) (id : DeviceId) (property : Property) (value : Value) :
    site.Within id (site.report id property value) :=
  (inStep_report (.refl id site) property value).left

theorem within_subscribe (site : Site) (id : DeviceId) (property : Property) :
    site.Within id (site.subscribe id property) := by
  unfold subscribe
  cases hsubscribe : site.platform.subscribe id property with
  | error error => exact .refl id site
  | ok platform =>
    obtain ⟨store, hstore, rfl⟩ := Platform.updated_eq_ok hsubscribe
    obtain rfl | ⟨record, hrecord, rfl⟩ := Store.subscribe_eq_ok hstore
    · exact ⟨.same, rfl, rfl, rfl, rfl, rfl⟩
    · exact ⟨.replaced hrecord _, rfl, rfl, rfl, rfl, rfl⟩

theorem within_initDevice (site : Site) (id : DeviceId) :
    site.Within id (site.initDevice id) := by
  have hsubscribed (site : Site) (properties : List Property) :
      site.Within id (properties.foldl (fun site => site.subscribe id) site) := by
    induction properties generalizing site with
    | nil => exact .refl id site
    | cons property properties ih => exact (within_subscribe site id property).trans (ih _)
  unfold initDevice
  refine .trans ?_ (hsubscribed _ _)
  refine .trans (.trans ?_ (within_report _ _ _ _)) (within_report _ _ _ _)
  split
  · exact (within_report _ _ _ _).trans (within_report _ _ _ _)
  · exact within_report _ _ _ _

theorem within_writeIdentity (site : Site) (identity : Identity) (presence : Presence) :
    site.Within identity.id (site.writeIdentity identity presence) :=
  (inStep_reportGroup (.refl identity.id site) _).left

/-- The same devices are registered. -/
theorem Within.isRegistered (h : site.Within id site') (other : DeviceId) :
    site'.platform.isRegistered other = site.platform.isRegistered other := by
  rw [Bool.eq_iff_iff]
  exact Store.isRegistered_iff.trans (h.store.devices ▸ Store.isRegistered_iff.symm)

theorem Tracks.within (h : site.Tracks id calls) (hwithin : site.Within other site') :
    site'.Tracks id calls :=
  ⟨(hwithin.isRegistered id).trans h.1,
    fun call hcall => (isDown_congr hwithin.outages _ _).trans (h.2 call hcall)⟩

/-! ### Groups of reports -/

/-- What the store has of other properties is as it was, also if the report does not reach it. -/
theorem stored_report_of_ne {p : Property} (hne : property ≠ p) :
    (site.report id property value).stored other p = site.stored other p := by
  unfold report
  cases hset : site.platform.setReported id property value with
  | error error => rfl
  | ok platform =>
    obtain ⟨store, hstore, rfl⟩ := Platform.updated_eq_ok hset
    exact (Store.getReported_setReported hstore other p).trans (if_neg fun h => hne h.2)

/-- The reports of a group that reach the store: those before the first that fails. -/
def reaching (site : Site) (values : List (Property × Value)) : List (Property × Value) :=
  values.takeWhile fun entry => !site.platform.isDown .setReported (some entry.1)

theorem reaching_congr (h : site'.platform.outages = site.platform.outages)
    (values : List (Property × Value)) : site'.reaching values = site.reaching values := by
  unfold reaching
  congr 1
  funext entry
  rw [isDown_congr h]

/-- What a group of reports leaves in the store. -/
theorem stored_reportGroup_eq {values : List (Property × Value)}
    (h : site.platform.isRegistered id) (hkeys : (Table.keys values).Nodup) (p : Property) :
    (site.reportGroup id values).stored id p =
      (Table.get? (site.reaching values) p).or (site.stored id p) := by
  induction values generalizing site with
  | nil => rfl
  | cons entry rest ih =>
    obtain ⟨property, value⟩ := entry
    obtain ⟨hnot, hrest⟩ := List.nodup_cons.1 hkeys
    cases hdown : site.platform.isDown .setReported (some property) with
    | true =>
      have hfails : ∃ error, site.platform.setReported id property value = .error error := by
        unfold Platform.setReported Platform.updated Platform.guarded
        rw [hdown]
        exact ⟨_, rfl⟩
      obtain ⟨error, hset⟩ := hfails
      unfold reportGroup reaching Platform.reportGroup
      rw [hset, List.takeWhile_cons, hdown]
      rfl
    | false =>
      have hfirst : site.Tracks id [(.setReported, property)] :=
        ⟨h, fun call hcall => List.mem_singleton.1 hcall ▸ hdown⟩
      have hwithin := within_report site id property value
      have hreaching : site.reaching ((property, value) :: rest) =
          (property, value) :: site.reaching rest := by
        unfold reaching
        rw [List.takeWhile_cons, hdown]
        rfl
      rw [reportGroup_cons hfirst value rest, ih ((hwithin.isRegistered id).trans h) hrest,
        reaching_congr hwithin.outages, hreaching]
      by_cases hp : property = p
      · subst hp
        have hnone : Table.get? (site.reaching rest) property = none :=
          (Table.get?_eq_none_iff _ _).2 fun hmem =>
            hnot (List.Sublist.subset ((List.takeWhile_sublist _).map Prod.fst) hmem)
        simp [hnone, Table.get?, stored_report hfirst]
      · simp [Table.get?, hp, stored_report_of_ne hp]

/-- What is reported of a device that tells who it is, and does not depend on when. -/
def lastingValues (identity : Identity) (presence : Presence) : List (Property × Value) :=
  [(.manufacturer, .text manufacturer), (.modelValue, .ofNat identity.model.toNat),
    (.model, .text (toString identity.model.toNat)), (.presence, presence.value),
    (.sid, .ofNat identity.sid.toNat)]

/-- What is reported of it at a time. -/
def identityValues (site : Site) (identity : Identity) (presence : Presence) :
    List (Property × Value) :=
  lastingValues identity presence ++ [(.tested, .integer site.clock.unix)]

/-- The calls by which it is reported. -/
def identityCalls : List (Call × Property) :=
  [(.setReported, .manufacturer), (.setReported, .modelValue), (.setReported, .model),
    (.setReported, .presence), (.setReported, .sid), (.setReported, .tested)]

theorem stored_writeIdentity (h : site.platform.isRegistered identity.id) (presence : Presence)
    (p : Property) : (site.writeIdentity identity presence).stored identity.id p =
      (Table.get? (site.reaching (site.identityValues identity presence)) p).or
        (site.stored identity.id p) := by
  have hkeys : (Table.keys (site.identityValues identity presence)).Nodup := by
    simp [Table.keys, identityValues, lastingValues]
  exact stored_reportGroup_eq h hkeys p

/-- If every call reaches the store, everything is there. -/
theorem stored_writeIdentity_of_up (h : site.Tracks identity.id identityCalls)
    (presence : Presence) (p : Property) :
    (site.writeIdentity identity presence).stored identity.id p =
      (Table.get? (site.identityValues identity presence) p).or (site.stored identity.id p) := by
  have hall : site.reaching (site.identityValues identity presence) =
      site.identityValues identity presence := by
    refine List.takeWhile_eq_self_iff.2 fun entry hentry => ?_
    have hcall : (Call.setReported, entry.1) ∈ identityCalls := by
      simp only [identityValues, lastingValues, List.cons_append, List.nil_append, List.mem_cons,
        List.not_mem_nil, or_false] at hentry
      rcases hentry with rfl | rfl | rfl | rfl | rfl | rfl <;> simp [identityCalls]
    simp [h.2 _ hcall]
  rw [stored_writeIdentity h.1, hall]

/-! ### What is about a device -/

/-- Of the mesh devices, at most one was written of, and maybe it is new. -/
structure About (id : DeviceId) (site site' : Site) : Prop where
  outages : site'.platform.outages = site.platform.outages
  others : ∀ other, other ≠ id → other.isGateway = false →
    site'.platform.store.record? other = site.platform.store.record? other

theorem About.refl (id : DeviceId) (site : Site) : site.About id site := ⟨rfl, fun _ _ _ => rfl⟩

theorem About.trans (h : a.About id b) (h' : b.About id c) : a.About id c where
  outages := h'.outages.trans h.outages
  others other hne hmesh := (h'.others other hne hmesh).trans (h.others other hne hmesh)

theorem Within.about (h : site.Within id site') : site.About id site' where
  outages := h.outages
  others _ hne _ := h.store.record?_of_ne hne

theorem Within.about_of_gateway (h : site.Within .gateway site') (id : DeviceId) :
    site.About id site' where
  outages := h.outages
  others other _ hmesh := by
    refine h.store.record?_of_ne ?_
    rintro rfl
    cases hmesh

theorem about_register {deviceType : Nat} {platform : Platform}
    (h : site.platform.register id deviceType = .ok platform) :
    site.About id { site with platform := platform } := by
  obtain ⟨store, hstore, rfl⟩ := Platform.updated_eq_ok h
  exact ⟨rfl, fun other hne _ => Store.register_eq_ok hstore hne.symm⟩

namespace About

variable (h : site.About id site') (hne : other ≠ id) (hmesh : other.isGateway = false)
include h hne hmesh

theorem isRegistered_eq :
    site'.platform.isRegistered other = site.platform.isRegistered other :=
  congrArg Option.isSome (h.others other hne hmesh)

theorem slotOf_eq : site'.slotOf other = site.slotOf other := by
  have hsame : site'.reported other .sid = site.reported other .sid := by
    refine reported_congr h.outages ?_
    rw [Store.getReported_eq, Store.getReported_eq, h.others other hne hmesh]
  rw [Site.slotOf_eq, Site.slotOf_eq, hsame]

end About

/-! ### New devices -/

/-- The device has no record, and the store gives it none. -/
def Rejects (site : Site) (identity : Identity) : Prop :=
  site.platform.isRegistered identity.id = false ∧ ∃ error,
    site.platform.register identity.id (Device.typeFor identity.model identity.priority) =
      .error error

theorem record?_eq_none (hnew : site.platform.isRegistered id = false) :
    site.platform.store.record? id = none := by
  show site.platform.store.records.get? id = none
  simpa [Platform.isRegistered, Store.isRegistered, Table.has] using hnew

/-- A new device is rejected if the call fails or no room is left. -/
theorem rejects_iff (hnew : site.platform.isRegistered identity.id = false) :
    site.Rejects identity ↔ site.platform.isDown .register none ∨
      site.platform.store.maxDevices ≤ site.platform.store.count := by
  unfold Rejects Platform.register Platform.updated Platform.guarded Store.register
  rw [record?_eq_none hnew]
  by_cases hdown : site.platform.isDown .register none
  · simp [hdown, hnew, Except.map]
  · by_cases hroom : site.platform.store.count < site.platform.store.maxDevices
    · simp [hdown, hroom, Except.map]
    · simp [hdown, hroom, hnew, Except.map, Nat.not_lt.1 hroom]

/-- What is reported of any device makes no difference to that. -/
theorem rejects_of_within (h : site.Within id site') :
    site'.Rejects identity ↔ site.Rejects identity := by
  have hregistered := h.isRegistered identity.id
  by_cases hnew : site.platform.isRegistered identity.id = false
  · rw [rejects_iff hnew, rejects_iff (hregistered.trans hnew), h.store.count,
      h.store.maxDevices, isDown_congr h.outages]
  · exact ⟨fun hrejects => absurd (hregistered.symm.trans hrejects.1) hnew,
      fun hrejects => absurd hrejects.1 hnew⟩

/-- The site once a new device has a record. -/
def admitted (site : Site) (id : DeviceId) (platform : Platform) : Site :=
  ({ site with platform := platform }.count .deviceRegistered).initDevice id

/-- The site once it is also written who the device is. -/
def enrolled (site : Site) (identity : Identity) (presence : Presence) (platform : Platform) :
    Site :=
  (site.admitted identity.id platform).writeIdentity identity presence

theorem within_admitted (site : Site) (id : DeviceId) (platform : Platform) :
    Site.Within id { site with platform := platform } (site.admitted id platform) := by
  let registered : Site := { site with platform := platform }
  have hcounted : registered.Within id (registered.count .deviceRegistered) :=
    ⟨.same, rfl, rfl, rfl, rfl, rfl⟩
  exact hcounted.trans (within_initDevice _ id)

theorem within_enrolled (site : Site) (identity : Identity) (presence : Presence)
    (platform : Platform) : Site.Within identity.id { site with platform := platform }
      (site.enrolled identity presence platform) :=
  (within_admitted site identity.id platform).trans (within_writeIdentity _ identity presence)

section Enrolled

variable {platform : Platform} {deviceType : Nat}
  (h : site.platform.register identity.id deviceType = .ok platform) (presence : Presence)
include h

theorem about_enrolled : site.About identity.id (site.enrolled identity presence platform) :=
  (about_register h).trans (within_enrolled site identity presence platform).about

variable (hnew : site.platform.isRegistered identity.id = false)
include hnew

theorem record?_registered : platform.store.record? identity.id =
    some { reported := [(.deviceType, .ofNat deviceType)] } := by
  obtain ⟨store, hstore, rfl⟩ := Platform.updated_eq_ok h
  exact Store.record?_register_of_new hstore (record?_eq_none hnew)

theorem isRegistered_admitted :
    (site.admitted identity.id platform).platform.isRegistered identity.id := by
  rw [(within_admitted site identity.id platform).isRegistered]
  exact congrArg Option.isSome (record?_registered h hnew)

theorem isRegistered_enrolled :
    (site.enrolled identity presence platform).platform.isRegistered identity.id :=
  ((within_writeIdentity _ identity presence).isRegistered identity.id).trans
    (isRegistered_admitted h hnew)

/-- A new device has no sequence number. -/
theorem lastSequence_enrolled :
    (site.enrolled identity presence platform).stored identity.id .lastSequence = none := by
  let registered : Site := { site with platform := platform }
  have hcounted : registered.Edits .routine (registered.count .deviceRegistered) :=
    edits_of_platform rfl
  have hedits : registered.Edits .routine (site.enrolled identity presence platform) :=
    hcounted.trans ((edits_initDevice _ _).trans (edits_writeIdentity _ _ _))
  have hstored : registered.stored identity.id .lastSequence = none := by
    refine (Store.getReported_eq _ _ _).trans ?_
    rw [show registered.platform.store.record? identity.id = _ from record?_registered h hnew]
    rfl
  rw [← hstored]
  exact stored_of_edits hedits not_false not_false rfl (isRegistered_enrolled h presence hnew)

end Enrolled

end Site

/-! ### What is told -/

/-- A device tells who it is: by itself, which is `real`, or because it was asked. -/
structure Telling where
  identity : Identity
  presence : Presence
  real : Bool

/-- A device tells by itself who it is. -/
def Telling.tested (identity : Identity) : Telling :=
  { identity := identity, presence := .unknown, real := true }

namespace Discovery

variable (d : Discovery) {telling : Telling}

/-- A device told who it is. -/
def hear (telling : Telling) : Discovery :=
  d.receiveIdentity telling.identity telling.presence telling.real

theorem within_countKnown : d.site.Within .gateway d.countKnown.site := by
  unfold countKnown
  split
  · exact (Site.within_report d.site _ _ _).trans ⟨.same, rfl, rfl, rfl, rfl, rfl⟩
  · exact .refl _ _

theorem current_countKnown : d.countKnown.current = d.current := by
  unfold countKnown
  split <;> rfl

/-- What is told of a slot that is not occupied is ignored. -/
theorem hear_of_absent (h : d.current.contains telling.identity.sid = false) :
    d.hear telling = d := by
  unfold hear receiveIdentity
  rw [h]
  rfl

/-- What a known device tells is written if it tells so by itself. -/
theorem hear_of_known (hoccupied : d.current.contains telling.identity.sid)
    (hknown : d.site.platform.isRegistered telling.identity.id) :
    d.hear telling = if telling.real then
      d.onSite fun site => site.writeIdentity telling.identity telling.presence else d := by
  unfold hear receiveIdentity
  rw [hoccupied, hknown]
  rfl

/-- A device that the store rejects is counted, and that is all. -/
theorem hear_of_rejects (h : d.site.Rejects telling.identity) : d.hear telling =
    if d.current.contains telling.identity.sid then d.countKnown else d := by
  obtain ⟨-, error, herror⟩ := (Site.rejects_of_within (within_countKnown d)).2 h
  unfold hear receiveIdentity register
  rw [h.1]
  cases d.current.contains telling.identity.sid
  · rfl
  · simp [herror]

/-- Any other new device is counted and put into the shadow. -/
theorem hear_of_new (hoccupied : d.current.contains telling.identity.sid)
    (hnew : d.site.platform.isRegistered telling.identity.id = false)
    (hroom : ¬ d.site.Rejects telling.identity) :
    ∃ platform, d.countKnown.site.platform.register telling.identity.id
        (Device.typeFor telling.identity.model telling.identity.priority) = .ok platform ∧
      d.hear telling = { d.countKnown with
        site := d.countKnown.site.enrolled telling.identity telling.presence platform } := by
  have hwithin := within_countKnown d
  have hnew' := (hwithin.isRegistered telling.identity.id).trans hnew
  cases hregister : d.countKnown.site.platform.register telling.identity.id
      (Device.typeFor telling.identity.model telling.identity.priority) with
  | error error =>
    exact absurd ((Site.rejects_of_within hwithin).1 ⟨hnew', error, hregister⟩) hroom
  | ok platform =>
    refine ⟨platform, rfl, ?_⟩
    unfold hear receiveIdentity register
    rw [hoccupied, hnew]
    simp [hregister, Site.enrolled, Site.admitted]

/-- What is told is about the device that tells it. -/
theorem about_hear (telling : Telling) :
    d.site.About telling.identity.id (d.hear telling).site := by
  have hcounted := d.within_countKnown.about_of_gateway telling.identity.id
  cases hoccupied : d.current.contains telling.identity.sid with
  | false =>
    rw [hear_of_absent d hoccupied]
    exact .refl _ _
  | true =>
    by_cases hrejects : d.site.Rejects telling.identity
    · rw [hear_of_rejects d hrejects, if_pos hoccupied]
      exact hcounted
    cases hknown : d.site.platform.isRegistered telling.identity.id with
    | false =>
      obtain ⟨platform, hregister, hhear⟩ := hear_of_new d hoccupied hknown hrejects
      rw [hhear]
      exact hcounted.trans (Site.about_enrolled hregister telling.presence)
    | true =>
      rw [hear_of_known d hoccupied hknown]
      split
      · exact (Site.within_writeIdentity _ _ _).about
      · exact .refl _ _

end Discovery

/-! ### A new device -/

/-- A SID map with the three devices, the gateway and one more slot. -/
def oneMoreSlot : List UInt8 := [0xd4, 3, 0xf1, 0, 0, 0, 0, 0, 0, 0]

/-- The three devices, and one more slot that is occupied. -/
def oneUnknown : Engine := joined.move (.receive oneMoreSlot)

/-- A new device tells that it is at a slot. -/
def newcomerAt (sid : UInt8) : Telling :=
  .tested { id := .ofNat 9, priority := 0x81, status := 0, model := 0, sid := sid, seq := 1 }

end AlarmMesh.Gateway
