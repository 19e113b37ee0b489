import AlarmMesh.Proofs.Gateway.Session
import AlarmMesh.Proofs.Shadow.Store

/-!
# What a session does to the devices in the shadow

A session reports of every mesh device whether it is in the network, and deletes in the end those
that are not.  Whatever happens beside that changes neither the devices nor what they are judged by.

* `Site.Serves`, `Site.Sweeps` — the calls that this takes reach the store;
* `Site.Keeps properties site site'` — the same devices, and the same values of some properties;
* `keeps_report`, `keeps_writeFault`, … — what keeps them;
* `Site.Marked` — every mesh device is reported as it is judged, `marked_markDevices`;
* `Site.Swept` — the devices that were offline are gone, `swept_updateMap`.
-/

namespace AlarmMesh.Gateway

open Radio (DeviceId SidMap)
open Shadow (Call Platform Presence Property Store Value)

namespace Site

/-- The properties that a device is judged by. -/
def evidence : List Property := [.sid, .missing]

/-- These, and the one that tells how it was judged. -/
def watched : List Property := .presence :: evidence

/-- The calls by which devices are listed, judged, marked and deleted. -/
def verdictCalls : List (Call × Option Property) :=
  [(.enumerate, none), (.getReported, some .sid), (.getReported, some .missing),
    (.getReported, some .presence), (.setReported, some .presence), (.delete, none)]

/-- The calls by which devices are listed, judged, marked and deleted reach the store. -/
def Serves (site : Site) : Prop :=
  ∀ call ∈ verdictCalls, site.platform.isDown call.1 call.2 = false

instance (site : Site) : Decidable site.Serves :=
  inferInstanceAs (Decidable (∀ call ∈ verdictCalls, _))

/-- Of these, the calls by which devices are listed, marked and deleted, however they are judged. -/
def sweepCalls : List (Call × Option Property) :=
  [(.enumerate, none), (.getReported, some .presence), (.setReported, some .presence),
    (.delete, none)]

/-- The calls by which devices are listed, marked and deleted reach the store. -/
def Sweeps (site : Site) : Prop :=
  ∀ call ∈ sweepCalls, site.platform.isDown call.1 call.2 = false

instance (site : Site) : Decidable site.Sweeps :=
  inferInstanceAs (Decidable (∀ call ∈ sweepCalls, _))

theorem Serves.sweeps {site : Site} (h : site.Serves) : site.Sweeps := fun call hcall =>
  h call ((by decide : sweepCalls ⊆ verdictCalls) hcall)

/-! ### What is read -/

variable {site site' a b c : Site} {properties : List Property} {id other : DeviceId}
  {property : Property} {value : Value}

theorem isDown_congr (h : site'.platform.outages = site.platform.outages) (call : Call)
    (p : Option Property) : site'.platform.isDown call p = site.platform.isDown call p := by
  unfold Platform.isDown
  rw [h]

theorem Serves.congr (h : site.Serves) (ho : site'.platform.outages = site.platform.outages) :
    site'.Serves :=
  fun call hc => (isDown_congr ho _ _).trans (h call hc)

theorem Sweeps.congr (h : site.Sweeps) (ho : site'.platform.outages = site.platform.outages) :
    site'.Sweeps :=
  fun call hc => (isDown_congr ho _ _).trans (h call hc)

/-- What is read of the presence is what the store has. -/
theorem Sweeps.reported_presence (h : site.Sweeps) (id : DeviceId) :
    site.reported id .presence = (site.platform.store.getReported id .presence).toOption := by
  have hread : site.platform.isDown .getReported (some .presence) = false :=
    h (.getReported, some .presence) (by simp [sweepCalls])
  unfold reported Platform.getReported
  rw [Platform.guarded_of_up hread]

theorem Sweeps.devices_eq (h : site.Sweeps) : site.devices = site.platform.store.devices := by
  unfold devices Platform.devices
  rw [Platform.guarded_of_up (h (.enumerate, none) (by simp [sweepCalls]))]
  rfl

theorem reported_congr (ho : site'.platform.outages = site.platform.outages)
    (h : (site'.platform.store.getReported id property).toOption =
      (site.platform.store.getReported id property).toOption) :
    site'.reported id property = site.reported id property := by
  unfold reported Platform.getReported Platform.guarded
  rw [isDown_congr ho]
  split
  · rfl
  · exact h

theorem devices_congr (ho : site'.platform.outages = site.platform.outages)
    (h : site'.platform.store.devices = site.platform.store.devices) :
    site'.devices = site.devices := by
  unfold devices Platform.devices Platform.guarded
  rw [isDown_congr ho, h]

theorem slotOf_eq (site : Site) (id : DeviceId) :
    site.slotOf id = (site.reported id .sid).bind Value.asByte := by
  unfold slotOf Platform.slotOf reported
  cases site.platform.getReported id .sid <;> rfl

/-- A device that reports a slot has a record. -/
theorem isRegistered_of_slotOf {sid : UInt8} (h : site.slotOf id = some sid) :
    site.platform.isRegistered id := by
  rw [slotOf_eq] at h
  obtain ⟨value, hreported, -⟩ := Option.bind_eq_some_iff.1 h
  unfold reported Platform.getReported Platform.guarded at hreported
  split at hreported
  · cases hreported
  · exact Store.isRegistered_iff.2 (Store.mem_devices_of_getReported hreported)

theorem mem_meshDevices : id ∈ site.meshDevices ↔ id ∈ site.devices ∧ id.isGateway = false := by
  simp [meshDevices, List.mem_filter]

/-- The mesh devices that can be listed are those that are registered. -/
theorem Sweeps.mem_meshDevices_iff (h : site.Sweeps) (hmesh : id.isGateway = false) :
    id ∈ site.meshDevices ↔ site.platform.isRegistered id := by
  rw [mem_meshDevices, h.devices_eq]
  exact (and_iff_left hmesh).trans Store.isRegistered_iff.symm

/-! ### Steps beside the verdict -/

/-- The same devices are listed, and what mesh devices report of these properties is the same. -/
structure Keeps (properties : List Property) (site site' : Site) : Prop where
  outages : site'.platform.outages = site.platform.outages
  devices : site'.devices = site.devices
  reported : ∀ id, id.isGateway = false → ∀ property ∈ properties,
    site'.reported id property = site.reported id property

namespace Keeps

theorem refl (properties : List Property) (site : Site) : site.Keeps properties site :=
  ⟨rfl, rfl, fun _ _ _ _ => rfl⟩

theorem trans (h : a.Keeps properties b) (h' : b.Keeps properties c) : a.Keeps properties c where
  outages := h'.outages.trans h.outages
  devices := h'.devices.trans h.devices
  reported id hid p hp := (h'.reported id hid p hp).trans (h.reported id hid p hp)

theorem mono {fewer : List Property} (h : a.Keeps properties b) (hsub : fewer ⊆ properties) :
    a.Keeps fewer b :=
  ⟨h.outages, h.devices, fun id hid p hp => h.reported id hid p (hsub hp)⟩

theorem foldl {α : Type} {f : Site → α → Site}
    (h : ∀ (site : Site) (a : α), site.Keeps properties (f site a)) (as : List α) (site : Site) :
    site.Keeps properties (as.foldl f site) := by
  induction as generalizing site with
  | nil => exact refl properties site
  | cons a as ih => exact (h site a).trans (ih (f site a))

theorem meshDevices (h : a.Keeps properties b) : b.meshDevices = a.meshDevices :=
  congrArg (List.filter fun id : DeviceId => !id.isGateway) h.devices

end Keeps

theorem keeps_of_platform (h : site'.platform = site.platform) : site.Keeps properties site' where
  outages := congrArg Platform.outages h
  devices := by unfold devices; rw [h]
  reported id _ p _ := by unfold reported; rw [h]

/-- The value is of the gateway, or of a property that does not matter. -/
theorem keeps_report (site : Site) (h : id.isGateway ∨ property ∉ properties) (value : Value) :
    site.Keeps properties (site.report id property value) := by
  unfold report
  cases hset : site.platform.setReported id property value with
  | error error => exact .refl _ _
  | ok platform =>
    obtain ⟨store, hstore, rfl⟩ := Platform.updated_eq_ok hset
    refine ⟨rfl, devices_congr rfl (Store.devices_setReported hstore), fun other ho p hp => ?_⟩
    refine reported_congr rfl ((Store.getReported_setReported hstore other p).trans (if_neg ?_))
    rintro ⟨rfl, rfl⟩
    rcases h with h | h
    · simp [h] at ho
    · exact h hp

theorem keeps_reportGroup {values : List (Property × Value)}
    (h : id.isGateway ∨ ∀ entry ∈ values, entry.1 ∉ properties) :
    site.Keeps properties (site.reportGroup id values) := by
  unfold reportGroup
  induction values generalizing site with
  | nil => exact keeps_of_platform rfl
  | cons entry values ih =>
    obtain ⟨property, value⟩ := entry
    have hfirst := keeps_report site (h.imp_right fun h => h _ List.mem_cons_self) value
    unfold report at hfirst
    unfold Platform.reportGroup
    cases hset : site.platform.setReported id property value with
    | error error => exact keeps_of_platform rfl
    | ok platform =>
      rw [hset] at hfirst
      exact hfirst.trans (@ih { site with platform := platform }
        (h.imp_right fun h entry he => h entry (List.mem_cons_of_mem _ he)))

theorem keeps_deleteProperty (h : id.isGateway) :
    site.Keeps properties (site.after (site.platform.deleteProperty id property)) := by
  cases hdelete : site.platform.deleteProperty id property with
  | error error => exact .refl _ _
  | ok platform =>
    obtain ⟨store, hstore, rfl⟩ := Platform.updated_eq_ok hdelete
    refine ⟨rfl, devices_congr rfl (Store.devices_deleteProperty hstore), fun other ho p _ => ?_⟩
    refine reported_congr rfl (Store.getReported_deleteProperty hstore (.inl ?_))
    rintro rfl
    simp [h] at ho

theorem keeps_writeFault (site : Site) (id : DeviceId) (active : Bool) (code : UInt8)
    (millivolts : Option UInt16) :
    site.Keeps watched (site.writeFault id active code millivolts) := by
  unfold writeFault
  split
  · exact .refl _ _
  split
  · exact .refl _ _
  · refine .trans ?_ (.trans (keeps_reportGroup (.inr ?_)) (keeps_of_platform rfl))
    · cases millivolts with
      | none => exact .refl _ _
      | some _ => exact keeps_report _ (.inr (by simp [watched, evidence])) _
    · simp [watched, evidence]

theorem keeps_writeAlarm (site : Site) (id : DeviceId) (state : Nat)
    (temperature : Option UInt16) :
    site.Keeps watched (site.writeAlarm id state temperature) := by
  unfold writeAlarm
  refine .trans ?_ (.trans (keeps_reportGroup (.inr ?_)) (keeps_of_platform rfl))
  · cases temperature with
    | none => exact .refl _ _
    | some _ => exact keeps_report _ (.inr (by simp [watched, evidence])) _
  · simp [watched, evidence]

/-! ### Marking -/

/-- A device is missing: its slot is, or it was left out of an acknowledged map. -/
def isGone (missing : SidMap) (site : Site) (id : DeviceId) : Bool :=
  (site.slotOf id).any missing.contains || site.isFlaggedMissing id

/-- What is reported of a device, given the slots that are missing. -/
def judge (missing : SidMap) (site : Site) (id : DeviceId) : Presence :=
  if site.isGone missing id then .offline else .online

theorem Keeps.slotOf_eq (h : a.Keeps evidence b) (hid : id.isGateway = false) :
    b.slotOf id = a.slotOf id := by
  rw [Site.slotOf_eq, Site.slotOf_eq, h.reported id hid .sid (by simp [evidence])]

theorem Keeps.judge_eq (h : a.Keeps evidence b) (missing : SidMap) (hid : id.isGateway = false) :
    b.judge missing id = a.judge missing id := by
  have hslot : b.slotOf id = a.slotOf id := h.slotOf_eq hid
  have hflag : b.isFlaggedMissing id = a.isFlaggedMissing id := by
    unfold isFlaggedMissing
    rw [h.reported id hid .missing (by simp [evidence])]
  unfold judge isGone
  rw [hslot, hflag]

theorem markDevice_eq {sid : UInt8} (h : site.slotOf id = some sid) (missing : SidMap) :
    site.markDevice missing id = site.report id .presence (site.judge missing id).value := by
  unfold markDevice judge isGone
  rw [h]
  rfl

theorem keeps_markDevice (missing : SidMap) (site : Site) (id : DeviceId) :
    site.Keeps evidence (site.markDevice missing id) := by
  unfold markDevice
  split
  · exact keeps_report _ (.inr (by simp [evidence])) _
  · exact .refl _ _

/-- A presence that is reported can be read. -/
theorem reported_report_presence (h : site.Sweeps) (hid : id ∈ site.devices) (value : Value)
    (other : DeviceId) : (site.report id .presence value).reported other .presence =
      if id = other then some value else site.reported other .presence := by
  obtain ⟨store, hstore⟩ := Store.exists_setReported (h.devices_eq ▸ hid) .presence value
  have hset : site.platform.setReported id .presence value =
      .ok { site.platform with store := store } := by
    unfold Platform.setReported
    rw [hstore]
    exact Platform.updated_of_up (h (.setReported, some .presence) (by simp [sweepCalls])) store
  have hreport : site.report id .presence value =
      { site with platform := { site.platform with store := store } } := by
    unfold report
    rw [hset]
    rfl
  have hsweeps : Sweeps { site with platform := { site.platform with store := store } } :=
    h.congr rfl
  rw [hreport, hsweeps.reported_presence, h.reported_presence,
    Store.getReported_setReported hstore]
  simp

/-- Marking goes through the devices one by one, and judges each by what none of them changes. -/
theorem reported_foldl_markDevice (missing : SidMap) {ids : List DeviceId} (h : site.Sweeps)
    (hids : ∀ id ∈ ids, id ∈ site.meshDevices) (hsid : id ∈ ids → (site.slotOf id).isSome) :
    (ids.foldl (markDevice missing) site).reported id .presence =
      if id ∈ ids then some (site.judge missing id).value else site.reported id .presence := by
  induction ids generalizing site with
  | nil => simp
  | cons first ids ih =>
    obtain ⟨hfirst, hmesh⟩ := mem_meshDevices.1 (hids first List.mem_cons_self)
    have hkeeps := keeps_markDevice missing site first
    have hrest (other : DeviceId) (ho : other ∈ ids) : other.isGateway = false :=
      (mem_meshDevices.1 (hids other (List.mem_cons_of_mem _ ho))).2
    rw [List.foldl_cons, ih (h.congr hkeeps.outages)
      (fun other ho => hkeeps.meshDevices ▸ hids other (List.mem_cons_of_mem _ ho))
      (fun ho => by
        rw [hkeeps.slotOf_eq (hrest id ho)]
        exact hsid (List.mem_cons_of_mem _ ho))]
    by_cases hid : id ∈ ids
    · rw [if_pos hid, if_pos (List.mem_cons_of_mem _ hid), hkeeps.judge_eq missing (hrest id hid)]
    rw [if_neg hid]
    by_cases hsame : id = first
    · subst hsame
      obtain ⟨sid, hslot⟩ := Option.isSome_iff_exists.1 (hsid List.mem_cons_self)
      rw [if_pos List.mem_cons_self, markDevice_eq hslot, reported_report_presence h hfirst,
        if_pos rfl]
    · rw [if_neg (by simp [hsame, hid])]
      unfold markDevice
      split
      · rw [reported_report_presence h hfirst, if_neg (Ne.symm hsame)]
      · rfl

/-- Every mesh device is reported as it is judged by these slots. -/
structure Marked (missing : SidMap) (base site : Site) : Prop where
  outages : site.platform.outages = base.platform.outages
  meshDevices : site.meshDevices = base.meshDevices
  presence : ∀ id ∈ base.meshDevices,
    site.reported id .presence = some (base.judge missing id).value

theorem Marked.keeps {missing : SidMap} (h : a.Marked missing b) (hk : b.Keeps [.presence] c) :
    a.Marked missing c where
  outages := hk.outages.trans h.outages
  meshDevices := hk.meshDevices.trans h.meshDevices
  presence id hid :=
    (hk.reported id (mem_meshDevices.1 hid).2 .presence (by simp)).trans (h.presence id hid)

/-! ### Deleting -/

theorem isOffline_of_reported {presence : Presence}
    (h : site.reported id .presence = some presence.value) :
    site.isOffline id = decide (presence = .offline) := by
  unfold isOffline
  rw [h, Option.bind_some, Presence.ofValue?_value]
  simp

theorem isOffline_congr (h : b.reported id .presence = a.reported id .presence) :
    b.isOffline id = a.isOffline id := by
  unfold isOffline
  rw [h]

/-- What is reported offline has a record. -/
theorem mem_of_isOffline (h : site.Sweeps) (hid : site.isOffline id) :
    id ∈ site.platform.store.devices := by
  cases hreported : site.reported id .presence with
  | none => simp [isOffline, hreported] at hid
  | some value =>
    rw [h.reported_presence] at hreported
    exact Store.mem_devices_of_getReported hreported

/-- A device that is reported offline is deleted. -/
theorem deleteIfOffline_eq (h : site.Sweeps) (hid : site.isOffline id) :
    (site.deleteIfOffline id).platform = { site.platform with
      store := { site.platform.store with records := site.platform.store.records.erase id } } := by
  have hdelete : site.platform.delete id = .ok { site.platform with
      store := { site.platform.store with records := site.platform.store.records.erase id } } := by
    unfold Platform.delete
    rw [Store.delete_of_mem (mem_of_isOffline h hid)]
    exact Platform.updated_of_up (h (.delete, none) (by simp [sweepCalls])) _
  unfold deleteIfOffline
  rw [if_pos hid, hdelete]
  rfl

theorem deleteIfOffline_of_not (hid : ¬ site.isOffline id) : site.deleteIfOffline id = site :=
  if_neg hid

theorem deleteIfOffline_outages (h : site.Sweeps) (id : DeviceId) :
    (site.deleteIfOffline id).platform.outages = site.platform.outages := by
  by_cases hid : site.isOffline id
  · rw [deleteIfOffline_eq h hid]
  · rw [deleteIfOffline_of_not hid]

theorem devices_deleteIfOffline (h : site.Sweeps) (id : DeviceId) :
    (site.deleteIfOffline id).devices =
      site.devices.filter fun other => !(decide (other = id) && site.isOffline other) := by
  by_cases hid : site.isOffline id
  · rw [(h.congr (deleteIfOffline_outages h id)).devices_eq, h.devices_eq,
      deleteIfOffline_eq h hid]
    refine (Store.devices_delete (Store.delete_of_mem (mem_of_isOffline h hid))).trans
      (List.filter_congr fun other _ => ?_)
    by_cases ho : other = id
    · simp [ho, hid]
    · simp [ho]
  · rw [deleteIfOffline_of_not hid, eq_comm, List.filter_eq_self]
    intro other _
    by_cases ho : other = id
    · simp [ho, hid]
    · simp [ho]

theorem reported_deleteIfOffline (h : site.Sweeps) (hne : other ≠ id ∨ ¬ site.isOffline id) :
    (site.deleteIfOffline id).reported other .presence = site.reported other .presence := by
  by_cases hid : site.isOffline id
  · have ho : id ≠ other := (hne.resolve_right (not_not_intro hid)).symm
    rw [(h.congr (deleteIfOffline_outages h id)).reported_presence, h.reported_presence,
      deleteIfOffline_eq h hid]
    exact (Store.getReported_delete (Store.delete_of_mem (mem_of_isOffline h hid)) _ _).trans
      (if_neg ho)
  · rw [deleteIfOffline_of_not hid]

/-- Deleting goes through the devices one by one, and leaves the others as they were. -/
theorem foldl_deleteIfOffline (h : site.Sweeps) (ids : List DeviceId) :
    (ids.foldl deleteIfOffline site).devices =
      (site.devices.filter fun id => !(decide (id ∈ ids) && site.isOffline id)) ∧
    ∀ id, id ∉ ids ∨ ¬ site.isOffline id →
      (ids.foldl deleteIfOffline site).reported id .presence = site.reported id .presence := by
  induction ids generalizing site with
  | nil => simp
  | cons first ids ih =>
    have hsame {id : DeviceId} (hid : ¬ (id = first ∧ site.isOffline id)) :
        (site.deleteIfOffline first).reported id .presence = site.reported id .presence := by
      refine reported_deleteIfOffline h ?_
      by_cases hf : id = first
      · exact .inr fun ho => hid ⟨hf, hf ▸ ho⟩
      · exact .inl hf
    obtain ⟨hdevices, hreported⟩ := ih (h.congr (deleteIfOffline_outages h first))
    refine ⟨?_, fun id hid => ?_⟩
    · rw [List.foldl_cons, hdevices, devices_deleteIfOffline h, List.filter_filter]
      refine List.filter_congr fun id _ => ?_
      by_cases hfirst : id = first ∧ site.isOffline id
      · simp [hfirst.1, hfirst.1 ▸ hfirst.2]
      · rw [isOffline_congr (hsame hfirst)]
        by_cases hf : id = first
        · simp [hf, show ¬ site.isOffline first from fun ho => hfirst ⟨hf, hf ▸ ho⟩]
        · simp [hf]
    · have hfirst : ¬ (id = first ∧ site.isOffline id) := fun ⟨hf, ho⟩ =>
        hid.resolve_right (not_not_intro ho) (by simp [hf])
      rw [List.foldl_cons, hreported id, hsame hfirst]
      rw [isOffline_congr (hsame hfirst)]
      exact hid.imp_left fun hn hmem => hn (List.mem_cons_of_mem _ hmem)

/-- The mesh devices that were offline are gone, and what the others report is the same. -/
structure Swept (base site : Site) : Prop where
  meshDevices : site.meshDevices = base.meshDevices.filter fun id => !base.isOffline id
  presence : ∀ id ∈ site.meshDevices, site.reported id .presence = base.reported id .presence

theorem Swept.keeps (h : a.Swept b) (hk : b.Keeps [.presence] c) : a.Swept c where
  meshDevices := hk.meshDevices.trans h.meshDevices
  presence id hid := by
    rw [hk.meshDevices] at hid
    exact (hk.reported id (mem_meshDevices.1 hid).2 .presence (by simp)).trans (h.presence id hid)

theorem Swept.of_keeps (h : b.Swept c) (hk : a.Keeps [.presence] b) : a.Swept c where
  meshDevices := by
    rw [h.meshDevices, hk.meshDevices]
    refine List.filter_congr fun id hid => ?_
    rw [isOffline_congr (hk.reported id (mem_meshDevices.1 hid).2 .presence (by simp))]
  presence id hid := by
    have hmem := hid
    rw [h.meshDevices, List.mem_filter, mem_meshDevices] at hmem
    exact (h.presence id hid).trans (hk.reported id hmem.1.2 .presence (by simp))

theorem swept_foldl (h : site.Sweeps) :
    site.Swept (site.meshDevices.foldl deleteIfOffline site) := by
  obtain ⟨hdevices, hreported⟩ := foldl_deleteIfOffline h site.meshDevices
  have hmesh : (site.meshDevices.foldl deleteIfOffline site).meshDevices =
      site.meshDevices.filter fun id => !site.isOffline id := by
    show (site.meshDevices.foldl deleteIfOffline site).devices.filter _ =
      (site.devices.filter _).filter _
    rw [hdevices, List.filter_filter, List.filter_filter]
    refine List.filter_congr fun id hid => ?_
    cases hgateway : id.isGateway
    · simp [mem_meshDevices, hid, hgateway]
    · simp
  refine ⟨hmesh, fun id hid => hreported id (.inr ?_)⟩
  rw [hmesh, List.mem_filter] at hid
  simpa using hid.2

/-- Once the devices are judged and those that are offline deleted, exactly the devices that are
not gone are left, and they are online. -/
theorem Swept.verdict {missing : SidMap} (hm : a.Marked missing b) (h : b.Swept c) :
    c.meshDevices = (a.meshDevices.filter fun id => !a.isGone missing id) ∧
      ∀ id ∈ c.meshDevices, c.reported id .presence = some Presence.online.value := by
  have hoffline (id : DeviceId) (hid : id ∈ a.meshDevices) :
      b.isOffline id = a.isGone missing id := by
    rw [isOffline_of_reported (hm.presence id hid), judge]
    cases a.isGone missing id <;> simp
  have hleft : c.meshDevices = a.meshDevices.filter fun id => !a.isGone missing id := by
    rw [h.meshDevices, hm.meshDevices]
    exact List.filter_congr fun id hid => by rw [hoffline id hid]
  refine ⟨hleft, fun id hid => ?_⟩
  rw [h.presence id hid]
  rw [hleft, List.mem_filter] at hid
  rw [hm.presence id hid.1, judge, if_neg (by simpa using hid.2)]

end Site

/-! ### What discovery and the pending records keep -/

namespace Discovery

variable {d : Discovery}

theorem keeps_report (property : Property) (value : Value) :
    d.site.Keeps Site.watched (d.report property value).site :=
  Site.keeps_report _ (.inl rfl) value

theorem keeps_refresh : d.site.Keeps Site.watched d.refresh.site := by
  have hask : (if d.scan.active then d else d.transmit .requestSidMap).site.platform =
      d.site.platform := by
    split
    · rfl
    · exact transmit_platform d _
  exact Site.keeps_of_platform ((Site.cancel_platform _ _).trans hask)

theorem keeps_continueInterrogation :
    d.site.Keeps Site.watched d.continueInterrogation.site := by
  unfold continueInterrogation
  split
  · dsimp only
    split
    · exact Site.keeps_of_platform ((Site.cancel_platform _ _).trans (transmit_platform _ _))
    · exact keeps_report (d := { d with interrogation := _ }) _ _
  · exact .refl _ _

theorem keeps_suspendInterrogation : d.site.Keeps Site.watched d.suspendInterrogation.site := by
  unfold suspendInterrogation
  split
  · exact (Site.keeps_of_platform (Site.cancel_platform _ _)).trans
      (keeps_report (d := { d.cancelInterrogate with interrogation := _ }) _ _)
  · exact keeps_report (d := { d with interrogation := _ }) _ _

theorem keeps_endLearning : d.site.Keeps Site.watched (d.setLearnMode false 0).site := by
  unfold setLearnMode
  split
  · exact .refl _ _
  · refine (keeps_report (d := { d with learning := false }) .mode
      Shadow.Mode.running.value).trans ?_
    exact Site.keeps_of_platform ((Site.cancel_platform _ _).trans (Site.cancel_platform _ _))

theorem keeps_completeFlushAll : d.site.Keeps Site.watched d.completeFlushAll.site := by
  unfold completeFlushAll
  dsimp only
  split
  · exact keeps_report (d := { d with scan := _ }) _ _
  · exact .refl _ _

theorem keeps_countFlushAll : d.site.Keeps Site.watched d.countFlushAll.site := by
  unfold countFlushAll
  split
  · exact .refl _ _
  · exact keeps_completeFlushAll
  · exact .refl _ _

theorem keeps_endTestMode : d.site.Keeps Site.watched d.endTestMode.site :=
  Site.keeps_reportGroup (.inl rfl)

/-- Every device is judged once probing is over. -/
theorem marked_markDevices {base : Site} (hk : base.Keeps Site.watched d.site) (h : base.Sweeps)
    (hsid : ∀ id ∈ base.meshDevices, (base.slotOf id).isSome) :
    base.Marked d.scan.removal d.markDevices.site := by
  have hsweeps := h.congr hk.outages
  have hfold : d.site.Keeps Site.evidence d.markDevices.site :=
    .foldl (Site.keeps_markDevice d.scan.removal) _ _
  refine ⟨hfold.outages.trans hk.outages, hfold.meshDevices.trans hk.meshDevices, fun id hid => ?_⟩
  have hevidence : base.Keeps Site.evidence d.site := hk.mono (by simp [Site.watched])
  have hmem : id ∈ d.site.meshDevices := hk.meshDevices ▸ hid
  have hslots : ∀ id ∈ d.site.meshDevices, (d.site.slotOf id).isSome := fun id hid => by
    rw [hk.meshDevices] at hid
    rw [hevidence.slotOf_eq (Site.mem_meshDevices.1 hid).2]
    exact hsid id hid
  refine (Site.reported_foldl_markDevice _ hsweeps (fun _ h => h) (hslots id)).trans ?_
  rw [if_pos hmem, hevidence.judge_eq _ (Site.mem_meshDevices.1 hid).2]

/-- Once the devices are deleted, the end of a session changes nothing else of them. -/
theorem keeps_ending : (if d.deletesAtEnd then d.deleteOffline else d).site.Keeps Site.watched
    d.finishSession.site := by
  have hclosing : (if d.deletesAtEnd then d.deleteOffline else d).site.Keeps Site.watched
      d.closing.site := keeps_countFlushAll.trans (Site.keeps_of_platform rfl)
  rw [finishSession_eq]
  exact (hclosing.trans (Site.keeps_of_platform (restartMissing_platform _ _ _))).trans
    keeps_endTestMode

/-- A session that is given up leaves the devices as they are. -/
theorem keeps_cancelSession : d.site.Keeps Site.watched d.cancelSession.site := by
  by_cases hactive : d.scan.active
  · have hkeeps := keeps_ending
      (d := { d with scan := { d.scan with ranOutOfTime := true } }.cancelMissing)
    rw [if_neg (by simp [deletesAtEnd, cancelMissing])] at hkeeps
    rw [cancelSession_of_active d hactive, runOut, updateMap_of_over _ (by simp [isOver])]
    exact (Site.keeps_of_platform (cancelMissing_platform d)).trans hkeeps
  · rw [cancelSession_of_idle d hactive]
    exact .refl _ _

/-- A session that deletes devices at its end sweeps them. -/
theorem swept_finishSession (h : d.site.Sweeps) (hdelete : d.deletesAtEnd) :
    d.site.Swept d.finishSession.site := by
  have hswept : d.site.Swept (if d.deletesAtEnd then d.deleteOffline else d).site := by
    rw [if_pos hdelete]
    exact Site.swept_foldl h
  exact hswept.keeps (keeps_ending.mono (by simp [Site.watched]))

/-- When the second phase ends a session that has not run out of time, it sweeps the devices. -/
theorem swept_updateMap (h : d.site.Sweeps) (hdelete : d.scan.delete)
    (htime : d.scan.ranOutOfTime = false)
    (hended : d.isOver ∨ d.scan.updateCount = 0 ∧ ¬ d.someMissing) :
    d.site.Swept d.updateMap.site := by
  have hcancel : d.site.Keeps [.presence] d.cancelMissing.site :=
    Site.keeps_of_platform (cancelMissing_platform d)
  have hsweeps : d.cancelMissing.site.Sweeps := h.congr hcancel.outages
  have hdeletes : d.cancelMissing.deletesAtEnd := by
    simp [deletesAtEnd, cancelMissing, hdelete, htime]
  by_cases hover : d.isOver
  · rw [updateMap_of_over d hover]
    exact (swept_finishSession hsweeps hdeletes).of_keeps hcancel
  · obtain ⟨hn, hs⟩ := hended.resolve_left hover
    have hfinish : d.site.Swept d.cancelMissing.unreduced.finishSession.site :=
      (swept_finishSession (d := d.cancelMissing.unreduced) hsweeps hdeletes).of_keeps hcancel
    rw [updateMap_of_none d hover hn hs]
    split
    · exact hfinish.keeps (keeps_completeFlushAll.mono (by simp [Site.watched]))
    · exact hfinish

end Discovery

/-- A timer that is none of the test keeps what is reported of the devices. -/
theorem keeps_fire (engine : Engine) {kind : TimerKind} (h : kind.place ≠ .missing) :
    engine.site.Keeps Site.watched (engine.fire kind).site := by
  cases kind with
  | retrieveSidMap =>
    exact Discovery.keeps_refresh (d := { engine.discovery with refreshTimer := none })
  | learnModeTimeout =>
    exact Discovery.keeps_endLearning (d := { engine.discovery with learnTimer := none })
  | interrogate =>
    exact Discovery.keeps_continueInterrogation
      (d := { engine.discovery with interrogateTimer := none })
  | faultTimeout id =>
    show engine.site.Keeps _ (Correlator.faultTimedOut ⟨engine.incidents, engine.site⟩ id).site
    unfold Correlator.faultTimedOut
    split
    · next pending _ =>
      have hcount : engine.site.Keeps Site.watched
          (engine.site.count (.pendingTimeout .fault)) := Site.keeps_of_platform rfl
      exact (hcount.trans (Site.keeps_writeFault _ id true pending.awaiting.fault.code none)).trans
        (Site.keeps_of_platform rfl)
    · exact .refl _ _
  | alarmTimeout id =>
    show engine.site.Keeps _ (Correlator.alarmTimedOut ⟨engine.incidents, engine.site⟩ id).site
    unfold Correlator.alarmTimedOut
    split
    · have hcount : engine.site.Keeps Site.watched
          (engine.site.count (.pendingTimeout .alarm)) := Site.keeps_of_platform rfl
      dsimp only [Correlator.resolveAlarm, Correlator.onSite]
      split
      · exact (hcount.trans (Site.keeps_writeAlarm _ id _ none)).trans (Site.keeps_of_platform rfl)
      · exact hcount.trans (Site.keeps_of_platform rfl)
    · exact .refl _ _
  | _ => simp [TimerKind.place] at h

end AlarmMesh.Gateway
