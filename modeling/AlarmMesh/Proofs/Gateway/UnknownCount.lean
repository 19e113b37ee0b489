import AlarmMesh.Proofs.Gateway.CurrentMap
import AlarmMesh.Proofs.Gateway.Identified
import AlarmMesh.Proofs.Radio.SlotCount

/-!
# The count of unknown slots

The number of unknown slots is counted anew with each SID map, and counted down in between when a
new device tells who it is.  The two do not always agree: a device is counted also if the store
then rejects it, and if its slot was not unknown; and a known device that tells of another slot is
not counted, though its old slot may become unknown by it.

* `Discovery.recount` — the number as it is counted anew, `unknown_receiveSidMap`;
* `Discovery.countDown` — the number as it is counted down;
* `hears_of_rejects` — what rejected devices leave behind;
* `Discovery.fills`, `Discovery.vacates` — what a device does to the slots that are unclaimed;
* `unknown_eq_recount_iff` — when the two still agree after a device told who it is.
-/

namespace AlarmMesh.Gateway

open Radio (DeviceId Identity SidMap)
open Shadow (Platform Presence Property Store Value)

/-! ### Slots of devices -/

namespace Site

variable {site site' : Site} {id : DeviceId} {sid : UInt8}

/-- The calls by which devices are listed, and their slots read and reported, reach the store. -/
structure Locates (site : Site) : Prop where
  lists : site.platform.isDown .enumerate none = false
  reads : site.platform.isDown .getReported (some .sid) = false
  writes : ∀ call ∈ identityCalls, site.platform.isDown call.1 (some call.2) = false

instance (site : Site) : Decidable site.Locates :=
  decidable_of_iff (site.platform.isDown .enumerate none = false ∧
    site.platform.isDown .getReported (some .sid) = false ∧
    ∀ call ∈ identityCalls, site.platform.isDown call.1 (some call.2) = false)
    ⟨fun h => ⟨h.1, h.2.1, h.2.2⟩, fun h => ⟨h.lists, h.reads, h.writes⟩⟩

theorem Locates.congr (h : site.Locates) (ho : site'.platform.outages = site.platform.outages) :
    site'.Locates where
  lists := (isDown_congr ho _ _).trans h.lists
  reads := (isDown_congr ho _ _).trans h.reads
  writes call hcall := (isDown_congr ho _ _).trans (h.writes call hcall)

theorem Locates.mem_meshDevices (h : site.Locates) :
    id ∈ site.meshDevices ↔ site.platform.isRegistered id ∧ id.isGateway = false := by
  have hdevices : site.devices = site.platform.store.devices := by
    unfold devices Platform.devices
    rw [Platform.guarded_of_up h.lists]
    rfl
  rw [Site.mem_meshDevices, hdevices]
  exact and_congr_left' Store.isRegistered_iff.symm

theorem contains_knownSids :
    site.knownSids.contains sid = true ↔
      (∃ id ∈ site.meshDevices, site.slotOf id = some sid) ∧ sid.toNat < 64 := by
  unfold knownSids
  rw [SidMap.contains_ofList, List.mem_filterMap]

/-- What is written of the gateway makes no difference to the slots of mesh devices. -/
theorem Within.knownSids (h : site.Within .gateway site') : site'.knownSids = site.knownSids := by
  have hmesh : site'.meshDevices = site.meshDevices :=
    congrArg (List.filter fun id : DeviceId => !id.isGateway)
      (devices_congr h.outages h.store.devices)
  unfold Site.knownSids
  rw [hmesh]
  congr 1
  refine List.filterMap_congr fun id hid => ?_
  have hid := (Site.mem_meshDevices.1 hid).2
  refine (h.about_of_gateway .gateway).slotOf_eq ?_ hid
  rintro rfl
  cases hid

/-- A device that tells who it is reports its slot afterwards. -/
theorem slotOf_writeIdentity {identity : Identity} (h : site.Locates)
    (hregistered : site.platform.isRegistered identity.id) (presence : Presence) :
    (site.writeIdentity identity presence).slotOf identity.id = some identity.sid := by
  have hwritten := stored_writeIdentity_of_up ⟨hregistered, h.writes⟩ presence .sid
  have hread := (h.congr (within_writeIdentity site identity presence).outages).reads
  rw [slotOf_eq, reported_eq_stored hread, hwritten]
  exact asByte_ofNat identity.sid

theorem slotOf_enrolled {identity : Identity} {presence : Presence} {platform : Platform}
    (h : (site.enrolled identity presence platform).Locates)
    (hregistered : (site.admitted identity.id platform).platform.isRegistered identity.id) :
    (site.enrolled identity presence platform).slotOf identity.id = some identity.sid := by
  have hwithin := within_writeIdentity (site.admitted identity.id platform) identity presence
  exact slotOf_writeIdentity (h.congr hwithin.outages.symm) hregistered presence

/-- Another mesh device reports the slot. -/
def claims (site : Site) (id : DeviceId) (sid : UInt8) : Bool :=
  site.meshDevices.any fun other => other ≠ id && site.slotOf other = some sid

/-- The slots that are known are that of the device and those that others report. -/
theorem contains_knownSids_iff (h : site.Locates) (hmesh : id.isGateway = false)
    (hsid : sid.toNat < 64) :
    site.knownSids.contains sid = true ↔ site.claims id sid ∨ site.slotOf id = some sid := by
  rw [contains_knownSids, and_iff_left hsid]
  constructor
  · rintro ⟨other, hother, hat⟩
    by_cases hid : other = id
    · exact .inr (hid ▸ hat)
    · exact .inl (List.any_eq_true.2 ⟨other, hother, by simp [hid, hat]⟩)
  · rintro (hclaims | hat)
    · obtain ⟨other, hother, hat⟩ := List.any_eq_true.1 hclaims
      exact ⟨other, hother, by simpa using (Bool.and_eq_true_iff.1 hat).2⟩
    · exact ⟨id, h.mem_meshDevices.2 ⟨isRegistered_of_slotOf hat, hmesh⟩, hat⟩

section About

variable (h : site.Locates) (habout : site.About id site')
include h habout

/-- Other devices are at the slots that they were at. -/
theorem isAt_of_about {other : DeviceId} (hne : other ≠ id) :
    (other ∈ site'.meshDevices ∧ site'.slotOf other = some sid) ↔
      other ∈ site.meshDevices ∧ site.slotOf other = some sid := by
  rw [h.mem_meshDevices, (h.congr habout.outages).mem_meshDevices]
  by_cases hmesh : other.isGateway = false
  · rw [habout.isRegistered_eq hne hmesh, habout.slotOf_eq hne hmesh]
  · simp [hmesh]

theorem claims_of_about : site'.claims id sid = site.claims id sid := by
  unfold claims
  rw [Bool.eq_iff_iff, List.any_eq_true, List.any_eq_true]
  refine exists_congr fun other => ?_
  by_cases hid : other = id
  · simp [hid]
  · simpa [hid] using isAt_of_about h habout hid

/-- What is about the gateway makes no difference to the slots of mesh devices. -/
theorem knownSids_of_about (hgateway : id.isGateway) : site'.knownSids = site.knownSids := by
  refine SidMap.ext_contains fun sid => ?_
  rw [Bool.eq_iff_iff, contains_knownSids, contains_knownSids]
  refine and_congr_left' (exists_congr fun other => ?_)
  by_cases hid : other = id
  · simp [hid, Site.mem_meshDevices, hgateway]
  · exact isAt_of_about h habout hid

end About

/-- Reporting a property again replaces what was reported. -/
theorem report_report (site : Site) (id : DeviceId) (property : Property) (old new : Value) :
    (site.report id property old).report id property new = site.report id property new := by
  unfold report
  cases hset : site.platform.setReported id property old with
  | error error => rfl
  | ok platform =>
    obtain ⟨final, hfirst, hagain⟩ := Platform.setReported_again hset new
    show Site.after { site with platform := platform } (platform.setReported id property new) = _
    rw [hfirst, hagain]
    rfl

theorem report_gauge (site : Site) (gauge : Option Nat) (id : DeviceId) (property : Property)
    (value : Value) : Site.report { site with unknownGauge := gauge } id property value =
      { site.report id property value with unknownGauge := gauge } := by
  unfold report
  cases site.platform.setReported id property value <;> rfl

end Site

namespace Discovery

variable (d : Discovery) {telling : Telling}

/-! ### Counting anew -/

/-- The occupied slots that no mesh device reports, the gateway's among them. -/
def unclaimed : SidMap := d.current.difference d.site.knownSids

/-- The number of unknown slots, counted anew. -/
def recount : Nat := d.unclaimed.count - 1

theorem unknown_continueInterrogation : d.continueInterrogation.unknown = d.unknown := by
  unfold continueInterrogation
  split
  · dsimp only
    split <;> rfl
  · rfl

theorem unknown_checkInterrogation : d.checkInterrogation.unknown = d.unknown := by
  unfold checkInterrogation
  split
  · rfl
  split
  · split
    · rfl
    · exact unknown_continueInterrogation _
  split <;> rfl

/-- With a SID map the unknown slots are counted anew. -/
theorem unknown_receiveSidMap (map : SidMap) :
    (d.receiveSidMap map).unknown = { d with current := map }.recount :=
  unknown_checkInterrogation _

/-! ### Counting down -/

/-- There are `n` unknown slots less, if there are so many. -/
def countDown (n : Nat) : Discovery :=
  if min n d.unknown = 0 then d else d.setUnknown (d.unknown - n)

theorem setUnknown_setUnknown (old new : Nat) :
    (d.setUnknown old).setUnknown new = d.setUnknown new := by
  unfold setUnknown report onSite
  dsimp only
  rw [Site.report_gauge, Site.report_report]

variable {d} in
theorem countDown_of_none {n : Nat} (h : min n d.unknown = 0) : d.countDown n = d := if_pos h

variable {d} in
theorem countDown_of_some {n : Nat} (h : min n d.unknown ≠ 0) :
    d.countDown n = d.setUnknown (d.unknown - n) := if_neg h

theorem countKnown_eq : d.countKnown = d.countDown 1 := by
  unfold countKnown
  rcases Nat.eq_zero_or_pos d.unknown with h | h
  · rw [if_neg (by omega), countDown_of_none (by omega)]
  · rw [if_pos h, countDown_of_some (by omega)]

theorem unknown_countDown (n : Nat) : (d.countDown n).unknown = d.unknown - n := by
  unfold countDown
  split
  · omega
  · rfl

theorem countDown_countDown (m n : Nat) : (d.countDown m).countDown n = d.countDown (m + n) := by
  have hunknown := unknown_countDown d m
  by_cases hm : min m d.unknown = 0
  · rw [countDown_of_none hm]
    by_cases hn : min n d.unknown = 0
    · rw [countDown_of_none hn, countDown_of_none (by omega)]
    · rw [countDown_of_some hn, countDown_of_some (by omega),
        show d.unknown - n = d.unknown - (m + n) by omega]
  · rw [countDown_of_some (n := m + n) (by omega)]
    by_cases hn : min n (d.countDown m).unknown = 0
    · rw [countDown_of_none hn, countDown_of_some hm,
        show d.unknown - m = d.unknown - (m + n) by omega]
    · rw [countDown_of_some hn, hunknown, countDown_of_some hm, setUnknown_setUnknown,
        Nat.sub_sub]

theorem within_countDown (n : Nat) : d.site.Within .gateway (d.countDown n).site := by
  unfold countDown
  split
  · exact .refl _ _
  · exact (Site.within_report d.site _ _ _).trans ⟨.same, rfl, rfl, rfl, rfl, rfl⟩

theorem current_countDown (n : Nat) : (d.countDown n).current = d.current := by
  unfold countDown
  split <;> rfl

/-- Counting down changes nothing exactly if nothing is counted or nothing was unknown. -/
theorem countDown_eq_self_iff (n : Nat) : d.countDown n = d ↔ n = 0 ∨ d.unknown = 0 := by
  constructor
  · intro hsame
    have hunknown := (unknown_countDown d n).symm.trans
      (congrArg (fun d : Discovery => d.unknown) hsame)
    omega
  · intro hnothing
    exact countDown_of_none (by omega)

/-- What is counted down is not counted anew. -/
theorem recount_countDown (n : Nat) : (d.countDown n).recount = d.recount := by
  unfold recount unclaimed
  rw [current_countDown, (within_countDown d n).knownSids]

/-! ### Rejected devices -/

/-- Devices told who they are, one after the other. -/
def hears (tellings : List Telling) : Discovery := tellings.foldl hear d

/-- The telling is of an occupied slot. -/
def isOccupied (telling : Telling) : Bool := d.current.contains telling.identity.sid

/-- A rejected device that tells of an occupied slot is counted down, and that is all. -/
theorem hears_eq_countDown {tellings : List Telling}
    (h : ∀ telling ∈ tellings, d.site.Rejects telling.identity) :
    d.hears tellings = d.countDown (tellings.countP d.isOccupied) := by
  induction tellings generalizing d with
  | nil => exact (countDown_of_none (by simp)).symm
  | cons telling tellings ih =>
    obtain ⟨hfirst, hrest⟩ := List.forall_mem_cons.1 h
    have hhear : d.hear telling = d.countDown (if d.isOccupied telling then 1 else 0) := by
      rw [hear_of_rejects d hfirst, countKnown_eq]
      unfold isOccupied
      split
      · rfl
      · exact (countDown_of_none (by simp)).symm
    have hwithin := within_countDown d (if d.isOccupied telling then 1 else 0)
    have hoccupied : (d.hear telling).isOccupied = d.isOccupied := by
      funext telling
      unfold isOccupied
      rw [hhear, current_countDown]
    have hlater := ih (d.hear telling) fun telling htelling =>
      (Site.rejects_of_within (hhear ▸ hwithin)).2 (hrest telling htelling)
    rw [hoccupied, hhear, countDown_countDown] at hlater
    rw [List.countP_cons, Nat.add_comm]
    exact (congrArg (fun d : Discovery => d.hears tellings) hhear).trans hlater

end Discovery

/-- Devices that the store rejects are counted as known all the same: the count of unknown slots
falls by one for each of them that tells of an occupied slot, down to zero, and is shown so.  It is
left as it was exactly if there is none of them or it was zero; and the number of unknown slots as a
SID map would tell it stays. -/
theorem hears_of_rejects (d : Discovery) {tellings : List Telling}
    (h : ∀ telling ∈ tellings, d.site.Rejects telling.identity) :
    d.hears tellings = d.countDown (tellings.countP d.isOccupied) ∧
    (d.hears tellings = d ↔
      (∀ telling ∈ tellings, d.isOccupied telling = false) ∨ d.unknown = 0) ∧
    (d.hears tellings).recount = d.recount := by
  have hcounted := d.hears_eq_countDown h
  refine ⟨hcounted, ?_, hcounted ▸ d.recount_countDown _⟩
  rw [hcounted, d.countDown_eq_self_iff, List.countP_eq_zero]
  simp only [Bool.not_eq_true]

/-- An engine whose store has room for the three devices and the gateway only. -/
def crowded : Engine :=
  (Engine.started {} { store := { threeDevices.store with maxDevices := 4 } } (.ofSlots 10)
    { unix := 0 } []).move (.receive oneMoreSlot)

/-- A device that is rejected is counted as known, though its slot stays unknown. -/
theorem hears_of_rejects_crowded :
    crowded.discovery.site.Rejects (newcomerAt 4).identity ∧ crowded.discovery.unknown = 1 ∧
      (crowded.discovery.hears [newcomerAt 4]).unknown = 0 ∧
      (crowded.discovery.hears [newcomerAt 4]).recount = 1 := by
  have hrejects : crowded.discovery.site.Rejects (newcomerAt 4).identity :=
    (Site.rejects_iff (by decide +kernel)).2 (.inr (by decide +kernel))
  have hall : ∀ telling ∈ [newcomerAt 4], crowded.discovery.site.Rejects telling.identity := by
    simpa using hrejects
  obtain ⟨hcounted, -, hrecount⟩ := hears_of_rejects crowded.discovery hall
  refine ⟨hrejects, by decide +kernel, ?_, ?_⟩
  · rw [hcounted, Discovery.unknown_countDown]
    decide +kernel
  · rw [hrecount]
    decide +kernel

/-! ### Slots that change hands -/

namespace Discovery

variable {d : Discovery} {telling : Telling}

/-- What is told is written: the slot is occupied, and the device is put into the shadow or tells so
by itself. -/
structure Writes (d : Discovery) (telling : Telling) : Prop where
  occupied : d.current.contains telling.identity.sid
  room : ¬ d.site.Rejects telling.identity
  real : d.site.platform.isRegistered telling.identity.id → telling.real

/-- The device is at the slot then that it told of. -/
theorem slotOf_hear (h : d.site.Locates) (hwrites : d.Writes telling) :
    (d.hear telling).site.slotOf telling.identity.id = some telling.identity.sid := by
  cases hknown : d.site.platform.isRegistered telling.identity.id with
  | true =>
    rw [hear_of_known d hwrites.occupied hknown, if_pos (hwrites.real hknown)]
    exact Site.slotOf_writeIdentity h hknown _
  | false =>
    obtain ⟨platform, hregister, hhear⟩ := hear_of_new d hwrites.occupied hknown hwrites.room
    have hnew := (d.within_countKnown.isRegistered telling.identity.id).trans hknown
    have hlocates := h.congr (d.about_hear telling).outages
    rw [hhear] at hlocates ⊢
    exact Site.slotOf_enrolled hlocates (Site.isRegistered_admitted hregister hnew)

/-- The slot was unknown until the device told of it. -/
def fills (d : Discovery) (identity : Identity) : Bool :=
  !identity.id.isGateway && d.unclaimed.contains identity.sid

/-- The slot that the device was at before, if it is another one that is occupied and that no other
device reports. -/
def vacated? (d : Discovery) (identity : Identity) : Option UInt8 :=
  if identity.id.isGateway then none
  else (d.site.slotOf identity.id).filter fun old =>
    old ≠ identity.sid && d.current.contains old && !d.site.claims identity.id old

/-- Such a slot becomes unknown. -/
def vacates (d : Discovery) (identity : Identity) : Bool := (d.vacated? identity).isSome

variable {identity : Identity} {sid : UInt8}

theorem vacated?_eq_some (hmesh : identity.id.isGateway = false) :
    d.vacated? identity = some sid ↔ d.site.slotOf identity.id = some sid ∧
      sid ≠ identity.sid ∧ d.current.contains sid ∧ d.site.claims identity.id sid = false := by
  unfold vacated?
  rw [hmesh, if_neg Bool.false_ne_true, Option.filter_eq_some_iff]
  simp [and_assoc]

theorem contains_unclaimed : d.unclaimed.contains sid = true ↔
    d.current.contains sid ∧ d.site.knownSids.contains sid = false := by
  simp [unclaimed]

/-- The device takes the slot that it told of, and leaves the one that it was at. -/
theorem contains_unclaimed_hear (h : d.site.Locates) (hwrites : d.Writes telling)
    (hmesh : telling.identity.id.isGateway = false) :
    (d.hear telling).unclaimed.contains sid = true ↔ sid ≠ telling.identity.sid ∧
      (d.unclaimed.contains sid ∨ d.vacated? telling.identity = some sid) := by
  have habout := d.about_hear telling
  have hcurrent : (d.hear telling).current = d.current := d.current_receiveIdentity _ _ _
  rw [contains_unclaimed, contains_unclaimed, vacated?_eq_some hmesh, hcurrent]
  by_cases hoccupied : d.current.contains sid
  · have hsid : sid.toNat < 64 := SidMap.lt_of_contains hoccupied
    have hbefore := Site.contains_knownSids_iff h hmesh hsid
    have hafter := Site.contains_knownSids_iff (h.congr habout.outages) hmesh hsid
    rw [Site.claims_of_about h habout, slotOf_hear h hwrites, Option.some_inj, or_comm,
      @eq_comm _ telling.identity.sid] at hafter
    rw [← Bool.not_eq_true, ← Bool.not_eq_true, hafter, hbefore]
    simp only [hoccupied, true_and, not_or, Bool.not_eq_true]
    by_cases hat : d.site.slotOf telling.identity.id = some sid
    · simp [hat]
    · simp [hat]
  · simp [hoccupied]

/-- A slot that becomes unknown was known. -/
theorem not_unclaimed_of_vacated? (h : d.site.Locates) (hmesh : identity.id.isGateway = false)
    (hvacated : d.vacated? identity = some sid) : d.unclaimed.contains sid = false := by
  obtain ⟨hslot, -, hoccupied, -⟩ := (vacated?_eq_some hmesh).1 hvacated
  have hknown := (Site.contains_knownSids_iff h hmesh (SidMap.lt_of_contains hoccupied)).2
    (.inr hslot)
  simp [unclaimed, hknown]

theorem unclaimed_hear_of_none (h : d.site.Locates) (hwrites : d.Writes telling)
    (hmesh : telling.identity.id.isGateway = false) (hnone : d.vacated? telling.identity = none) :
    (d.hear telling).unclaimed = d.unclaimed.remove telling.identity.sid := by
  refine SidMap.ext_contains fun sid => ?_
  rw [Bool.eq_iff_iff, contains_unclaimed_hear h hwrites hmesh]
  simp [hnone, and_comm]

theorem unclaimed_hear_of_some (h : d.site.Locates) (hwrites : d.Writes telling)
    (hmesh : telling.identity.id.isGateway = false)
    (hold : d.vacated? telling.identity = some sid) :
    (d.hear telling).unclaimed = (d.unclaimed.remove telling.identity.sid).insert sid := by
  obtain ⟨-, hne, hoccupied, -⟩ := (vacated?_eq_some hmesh).1 hold
  have hsid : sid.toNat < 64 := SidMap.lt_of_contains hoccupied
  refine SidMap.ext_contains fun other => ?_
  rw [Bool.eq_iff_iff, contains_unclaimed_hear h hwrites hmesh]
  by_cases hsame : other = sid
  · subst hsame
    simp [hold, hne, hsid]
  · simp [hold, hsame, Ne.symm hsame, and_comm]

theorem count_remove_unclaimed (hmesh : identity.id.isGateway = false) :
    (d.unclaimed.remove identity.sid).count + (d.fills identity).toNat = d.unclaimed.count := by
  unfold fills
  cases hunclaimed : d.unclaimed.contains identity.sid with
  | true => simpa [hmesh] using SidMap.count_remove hunclaimed
  | false => simp [hmesh, SidMap.remove_of_not_contains hunclaimed]

/-- One slot may become known, and one unknown. -/
theorem count_unclaimed_hear (h : d.site.Locates) (hwrites : d.Writes telling) :
    (d.hear telling).unclaimed.count + (d.fills telling.identity).toNat =
      d.unclaimed.count + (d.vacates telling.identity).toNat := by
  cases hmesh : telling.identity.id.isGateway with
  | true =>
    have hcurrent : (d.hear telling).current = d.current := d.current_receiveIdentity _ _ _
    have hknown := Site.knownSids_of_about h (d.about_hear telling) hmesh
    simp [unclaimed, hcurrent, hknown, fills, vacates, vacated?, hmesh]
  | false =>
    have hremoved := d.count_remove_unclaimed hmesh
    cases hvacated : d.vacated? telling.identity with
    | none =>
      rw [unclaimed_hear_of_none h hwrites hmesh hvacated, hremoved]
      simp [vacates, hvacated]
    | some old =>
      obtain ⟨-, -, hoccupied, -⟩ := (vacated?_eq_some hmesh).1 hvacated
      have hfree : (d.unclaimed.remove telling.identity.sid).contains old = false := by
        simp [not_unclaimed_of_vacated? h hmesh hvacated]
      rw [unclaimed_hear_of_some h hwrites hmesh hvacated,
        SidMap.count_insert hfree (SidMap.lt_of_contains hoccupied), ← hremoved]
      simp only [vacates, hvacated, Option.isSome_some, Bool.toNat_true]
      omega

/-- A new device leaves no slot. -/
theorem vacates_of_new (hnew : d.site.platform.isRegistered identity.id = false) :
    d.vacates identity = false := by
  have hslot : d.site.slotOf identity.id = none := by
    by_contra hsome
    obtain ⟨sid, hsid⟩ := Option.ne_none_iff_exists'.1 hsome
    exact Bool.false_ne_true (hnew.symm.trans (Site.isRegistered_of_slotOf hsid))
  unfold vacates vacated?
  rw [hslot]
  split <;> rfl

/-- A new device at an occupied slot is counted down. -/
theorem unknown_hear_of_new (hoccupied : d.current.contains telling.identity.sid)
    (hnew : d.site.platform.isRegistered telling.identity.id = false) :
    (d.hear telling).unknown = d.unknown - 1 := by
  by_cases hrejects : d.site.Rejects telling.identity
  · rw [hear_of_rejects d hrejects, if_pos hoccupied, countKnown_eq, unknown_countDown]
  · obtain ⟨platform, -, hhear⟩ := hear_of_new d hoccupied hnew hrejects
    rw [hhear]
    show d.countKnown.unknown = d.unknown - 1
    rw [countKnown_eq, unknown_countDown]

theorem unknown_hear_of_known (hknown : d.site.platform.isRegistered telling.identity.id) :
    (d.hear telling).unknown = d.unknown := by
  cases hoccupied : d.current.contains telling.identity.sid with
  | false => rw [hear_of_absent d hoccupied]
  | true =>
    rw [hear_of_known d hoccupied hknown]
    split <;> rfl

/-- A new device is counted rightly if its slot was unknown, or if there is nothing to count. -/
theorem agrees_of_new (h : d.site.Locates) (hroom : ¬ d.site.Rejects telling.identity)
    (hagrees : d.unknown = d.recount) (hoccupied : d.current.contains telling.identity.sid)
    (hnew : d.site.platform.isRegistered telling.identity.id = false) :
    (d.hear telling).unknown = (d.hear telling).recount ↔
      d.fills telling.identity ∨ d.unclaimed.count ≤ 1 := by
  have hwrites : d.Writes telling :=
    ⟨hoccupied, hroom, fun hknown => absurd (hnew.symm.trans hknown) Bool.false_ne_true⟩
  have hcount := count_unclaimed_hear h hwrites
  rw [vacates_of_new hnew, Bool.toNat_false] at hcount
  rw [unknown_hear_of_new hoccupied hnew, hagrees]
  unfold recount
  cases hfills : d.fills telling.identity <;>
  · simp only [hfills, Bool.toNat_false, Bool.toNat_true] at hcount
    simp
    omega

/-- The count is right after a known device was written of if that changes nothing in what there is
to count. -/
theorem agrees_of_known (h : d.site.Locates) (hagrees : d.unknown = d.recount)
    (hoccupied : d.current.contains telling.identity.sid)
    (hknown : d.site.platform.isRegistered telling.identity.id) (hreal : telling.real) :
    (d.hear telling).unknown = (d.hear telling).recount ↔
      d.fills telling.identity = d.vacates telling.identity ∨
        d.unclaimed.count + (d.vacates telling.identity).toNat ≤ 1 := by
  have hwrites : d.Writes telling := ⟨hoccupied, fun hrejects =>
    absurd (hrejects.1.symm.trans hknown) Bool.false_ne_true, fun _ => hreal⟩
  have hcount := count_unclaimed_hear h hwrites
  rw [unknown_hear_of_known hknown, hagrees]
  unfold recount
  cases hfills : d.fills telling.identity <;> cases hvacates : d.vacates telling.identity <;>
  · simp only [hfills, hvacates, Bool.toNat_false, Bool.toNat_true] at hcount
    simp
    omega

end Discovery

/-- If the number of unknown slots was the one that a SID map would tell, and a device told who it
is that the store does not reject, then the two agree again in these cases, and in no others: the
slot is not occupied; a new device tells of an unknown slot, or at most one slot was unclaimed, the
gateway's; a known device was asked, or fills as many unknown slots as it vacates, or at most one
slot is unclaimed before and afterwards. -/
theorem unknown_eq_recount_iff (d : Discovery) (telling : Telling) (h : d.site.Locates)
    (hroom : ¬ d.site.Rejects telling.identity) (hagrees : d.unknown = d.recount) :
    (d.hear telling).unknown = (d.hear telling).recount ↔ (d.isOccupied telling →
      (d.site.platform.isRegistered telling.identity.id = false →
        d.fills telling.identity ∨ d.unclaimed.count ≤ 1) ∧
      (d.site.platform.isRegistered telling.identity.id → telling.real →
        d.fills telling.identity = d.vacates telling.identity ∨
          d.unclaimed.count + (d.vacates telling.identity).toNat ≤ 1)) := by
  unfold Discovery.isOccupied
  cases hoccupied : d.current.contains telling.identity.sid with
  | false => simp [d.hear_of_absent hoccupied, hagrees]
  | true =>
    cases hknown : d.site.platform.isRegistered telling.identity.id with
    | false =>
      rw [Discovery.agrees_of_new h hroom hagrees hoccupied hknown]
      simp
    | true =>
      cases hreal : telling.real with
      | false =>
        have hsame := d.hear_of_known hoccupied hknown
        rw [hreal] at hsame
        simp [hsame, hagrees]
      | true =>
        rw [Discovery.agrees_of_known h hagrees hoccupied hknown hreal]
        simp

/-- A new device that tells of the slot of another one is counted as if it were at the unknown
one. -/
theorem unknown_eq_recount_iff_oneUnknown :
    oneUnknown.discovery.unknown = oneUnknown.discovery.recount ∧
      (oneUnknown.discovery.hear (newcomerAt 4)).unknown =
        (oneUnknown.discovery.hear (newcomerAt 4)).recount ∧
      (oneUnknown.discovery.hear (newcomerAt 5)).unknown ≠
        (oneUnknown.discovery.hear (newcomerAt 5)).recount := by
  have hserves : oneUnknown.discovery.site.Locates := by decide +kernel
  have hroom (sid : UInt8) : ¬ oneUnknown.discovery.site.Rejects (newcomerAt sid).identity := by
    have hnew : oneUnknown.discovery.site.platform.isRegistered (newcomerAt sid).identity.id =
        false := by
      show oneUnknown.discovery.site.platform.isRegistered (.ofNat 9) = false
      decide +kernel
    rw [Site.rejects_iff hnew]
    decide +kernel
  have hagrees : oneUnknown.discovery.unknown = oneUnknown.discovery.recount := by decide +kernel
  refine ⟨hagrees, ?_, ?_⟩
  · rw [unknown_eq_recount_iff _ (newcomerAt 4) hserves (hroom 4) hagrees]
    decide +kernel
  · rw [Ne, unknown_eq_recount_iff _ (newcomerAt 5) hserves (hroom 5) hagrees]
    decide +kernel

end AlarmMesh.Gateway
