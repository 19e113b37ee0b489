import AlarmMesh.Proofs.Gateway.Pending
import AlarmMesh.Proofs.Gateway.Written

/-!
# What a fault report leaves

The flags of a fault report are dealt with one by one, and each writes faults of its own.  Two of
them may leave a question open instead: that of a low battery, and that of a general fault.

* `Device.faultCode_inj` — no two bits of a detailed fault word stand for the same fault;
* `detailCalls` — the calls that these faults depend on;
* `Site.marked_writeDetails` — what a detailed fault word leaves in the store;
* `Correlator.dueBattery`, `dueBattery_receiveFault` — the battery, also if it is asked about;
* `cleared_receiveFault` — what a report clears that tells of no general fault.
-/

namespace AlarmMesh.Device

/-! ### The codes of detailed faults -/

theorem faultCode_le (table : UInt8) (bit : Nat) : faultCode table bit ≤ 50 := by
  have hrows : ∀ row ∈ faultTables, ∀ code ∈ row, code ≤ (50 : UInt8) := by decide +kernel
  unfold faultCode
  rw [List.getD_eq_getElem?_getD, List.getD_eq_getElem?_getD]
  cases hrow : faultTables[table.toNat]? with
  | none => simp
  | some row =>
    cases hcode : row[bit]? with
    | none => simp [hcode]
    | some code =>
      have hle := hrows row (List.mem_of_getElem? hrow) code (List.mem_of_getElem? hcode)
      simpa [hcode] using hle

/-- The first table has no codes. -/
theorem faultCode_zero (bit : Nat) : faultCode 0 bit = 0 := by
  by_cases hbit : bit < faultBits
  · have hrow : ∀ bit < faultBits, faultCode 0 bit = 0 := by decide
    exact hrow bit hbit
  · exact faultCode_eq_zero (by omega)

/-- No code stands for two bits of a detailed fault word. -/
theorem faultCode_inj {table : UInt8} {bit other : Nat}
    (h : faultCode table bit = faultCode table other) (hcode : faultCode table bit ≠ 0) :
    bit = other := by
  have hrows : ∀ row ∈ faultTables, ∀ bit < faultBits, ∀ other < faultBits,
      row.getD bit 0 = row.getD other 0 → row.getD bit 0 ≠ 0 → bit = other := by decide +kernel
  have hbit : bit < faultBits := by
    by_contra hbit
    exact hcode (faultCode_eq_zero (by omega))
  have hother : other < faultBits := by
    by_contra hother
    exact hcode (h.trans (faultCode_eq_zero (by omega)))
  unfold faultCode at h hcode
  cases hrow : faultTables[table.toNat]? with
  | none => simp [List.getD_eq_getElem?_getD, hrow] at hcode
  | some row =>
    have heq : faultTables.getD table.toNat [] = row := by simp [List.getD_eq_getElem?_getD, hrow]
    rw [heq] at h hcode
    exact hrows row (List.mem_of_getElem? hrow) bit hbit other hother h hcode

theorem faultCode_mem {table : UInt8} {bit : Nat} (hcode : faultCode table bit ≠ 0) :
    bit ∈ List.range faultBits := by
  rw [List.mem_range]
  by_contra hbit
  exact hcode (faultCode_eq_zero (by omega))

end AlarmMesh.Device

namespace AlarmMesh.Gateway

open Device (faultCode faultCodes)
open Radio (DeviceId FaultFlag FaultReport Report)
open Shadow (Call FaultField Footprint Property Value)

/-- A detailed fault is none of those that have a flag of their own. -/
theorem faultCode_ne_code (table : UInt8) (bit : Nat) (fault : FlagFault) :
    faultCode table bit ≠ fault.code := by
  intro h
  have hle := Device.faultCode_le table bit
  rw [h] at hle
  cases fault <;> exact absurd hle (by decide)

/-- Every flag but that of a general fault writes a fault of its own. -/
theorem exists_code_of_mem_flagCodes {flag : FaultFlag} {table code : UInt8}
    (hflag : flag ≠ .faulty) (hcode : code ∈ flagCodes table flag) :
    ∃ fault : FlagFault, fault ≠ .general ∧ fault.code = code := by
  cases flag with
  | faulty => exact absurd rfl hflag
  | unassigned6 | unassigned7 => simp [flagCodes] at hcode
  | _ => exact ⟨_, by decide, (List.mem_singleton.1 hcode).symm⟩

theorem code_notMem_flagCodes_faulty (table : UInt8) {fault : FlagFault}
    (hfault : fault ≠ .general) : fault.code ∉ flagCodes table .faulty := by
  intro hcode
  obtain hgeneral | hdetail := List.mem_cons.1 hcode
  · cases fault <;> simp [FlagFault.code] at hgeneral hfault
  · obtain ⟨bit, -, heq⟩ := List.mem_map.1 hdetail
    exact faultCode_ne_code table bit fault heq

theorem isFaultCode_faultCode {table : UInt8} {bit : Nat} (h : faultCode table bit ≠ 0) :
    Site.isFaultCode (faultCode table bit) := by
  have hle := Device.faultCode_le table bit
  have hpos : 1 ≤ faultCode table bit := by
    rw [UInt8.le_iff_toNat_le]
    have hne : (faultCode table bit).toNat ≠ 0 := fun h0 => h (UInt8.toNat_inj.1 h0)
    exact Nat.pos_of_ne_zero hne
  have hlt : faultCode table bit ≤ 99 := UInt8.le_trans hle (by decide)
  simp [Site.isFaultCode, hpos, hlt]

/-- The calls that the faults of a device depend on whose details are in a table. -/
def detailCalls (table : UInt8) : List (Call × Property) :=
  (.getReported, .deviceType) ::
    (FlagFault.detectorBattery.code :: FlagFault.general.code :: faultCodes table).flatMap
      Site.faultCalls

namespace Site

variable {site site' : Site} {id : DeviceId} {code table : UInt8}

/-- What does not write the state of a fault leaves it. -/
theorem marked_of_spared (hedits : site.Edits (sparing (.fault code .state)) site')
    (h : site.platform.isRegistered id) : site'.marked id code = site.marked id code := by
  have htracks : site.Tracks id [] := ⟨h, by simp⟩
  unfold marked
  rw [stored_of_edits hedits not_false (· rfl) rfl (htracks.edits hedits not_false).1]

/-- Anything of any device may be reported. -/
def reporting : Footprint where
  admits _ := False
  removes _ := False
  writes _ _ := True

theorem stored_congr (h : site'.platform = site.platform) (id : DeviceId) (property : Property) :
    site'.stored id property = site.stored id property := by
  unfold stored
  rw [h]

theorem marked_congr (h : site'.platform = site.platform) (id : DeviceId) (code : UInt8) :
    site'.marked id code = site.marked id code := by
  unfold marked
  rw [stored_congr h]

/-- Anything but what is kept of this fault of this device may be reported. -/
def sparingFault (id : DeviceId) (code : UInt8) : Footprint where
  admits _ := False
  removes _ := False
  writes other property := ¬ (other = id ∧ ∃ field, property = .fault code field)

theorem stored_of_unregistered (h : site.platform.isRegistered id = false) (property : Property) :
    site.stored id property = none := by
  cases hstored : site.stored id property with
  | none => rfl
  | some value =>
    have hmem := Shadow.Store.mem_devices_of_getReported hstored
    rw [Shadow.Platform.isRegistered, Shadow.Store.isRegistered_iff.2 hmem] at h
    exact absurd h (by decide)

/-- What a footprint does not write is stored as before if it neither registers nor removes the
device. -/
theorem stored_of_unmoved {f : Shadow.Footprint} {property : Property}
    (hedits : site.Edits f site') (hadmits : ¬ f.admits id) (hremoves : ¬ f.removes id)
    (hwrites : ¬ f.writes id property) (hroutine : property.isRoutine = false) :
    site'.stored id property = site.stored id property := by
  have hsame : site'.platform.isRegistered id = site.platform.isRegistered id :=
    hedits.store.isRegistered_eq hadmits hremoves
  cases hafter : site'.platform.isRegistered id with
  | true => exact stored_of_edits hedits hadmits hwrites hroutine hafter
  | false =>
    rw [stored_of_unregistered hafter, stored_of_unregistered (hsame.symm.trans hafter)]

/-- What does not concern a fault leaves all that is kept of it. -/
theorem stored_of_sparingFault (hedits : site.Edits (sparingFault id code) site')
    (field : FaultField) :
    site'.stored id (.fault code field) = site.stored id (.fault code field) :=
  stored_of_unmoved hedits not_false not_false (· ⟨rfl, field, rfl⟩) rfl

/-- The device is tracked through any event of a fault. -/
theorem tracks_writeFault {calls : List (Call × Property)} (h : site.Tracks id calls)
    (active : Bool) (other : UInt8) (millivolts : Option UInt16) :
    (site.writeFault id active other millivolts).Tracks id calls :=
  h.edits (f := reporting) (edits_writeFault site (fun _ => trivial) active millivolts) not_false

/-- An event of another fault leaves this one. -/
theorem marked_writeFault_of_ne {other : UInt8} (hne : other ≠ code)
    (h : site.platform.isRegistered id) (active : Bool) (millivolts : Option UInt16) :
    (site.writeFault id active other millivolts).marked id code = site.marked id code := by
  have hedits : site.Edits (sparing (.fault code .state))
      (site.writeFault id active other millivolts) :=
    edits_writeFault site (fun field => by simp [sparing, hne]) active millivolts
  exact marked_of_spared hedits h

theorem tracks_of_mem (h : site.Tracks id (detailCalls table))
    (hcode : code ∈ FlagFault.detectorBattery.code :: FlagFault.general.code :: faultCodes table) :
    site.Tracks id (faultCalls code) :=
  ⟨h.1, fun call hcall => h.2 call
    (List.mem_cons_of_mem _ (List.mem_flatMap.2 ⟨code, hcode, hcall⟩))⟩

/-- A detailed fault word leaves the state of each of its faults in the store. -/
theorem marked_foldl_writeFault {faults : UInt16} {bit : Nat} (hcode : faultCode table bit ≠ 0)
    (bits : List Nat) (h : site.Tracks id (faultCalls (faultCode table bit))) :
    (bits.foldl (fun site bit =>
      site.writeFault id (faults.toNat.testBit bit) (faultCode table bit) none) site).marked id
        (faultCode table bit) =
      if bit ∈ bits then faults.toNat.testBit bit else site.marked id (faultCode table bit) := by
  induction bits generalizing site with
  | nil => rfl
  | cons first bits ih =>
    rw [List.foldl_cons, ih (tracks_writeFault h _ _ _)]
    by_cases hfirst : first = bit
    · subst hfirst
      simp [marked_writeFault h (isFaultCode_faultCode hcode)]
    · have hne : faultCode table first ≠ faultCode table bit := fun heq =>
        hfirst (Device.faultCode_inj heq.symm hcode).symm
      rw [marked_writeFault_of_ne hne h.1]
      simp [Ne.symm hfirst]

theorem marked_writeDetails {bit : Nat} (hcode : faultCode table bit ≠ 0)
    (h : site.Tracks id (faultCalls (faultCode table bit))) (faults : UInt16) :
    (site.writeDetails id table faults).marked id (faultCode table bit) =
      faults.toNat.testBit bit :=
  (marked_foldl_writeFault hcode _ h).trans (if_pos (Device.faultCode_mem hcode))

/-- Details leave the faults that are none of them. -/
theorem marked_writeDetails_of_notMem (hcode : code ∉ faultCodes table)
    (h : site.platform.isRegistered id) (faults : UInt16) :
    (site.writeDetails id table faults).marked id code = site.marked id code := by
  have hedits : site.Edits (sparing (.fault code .state)) (site.writeDetails id table faults) := by
    refine edits_writeDetails site (fun other hother field => ?_) faults
    have hne : other ≠ code := fun heq => hcode (heq ▸ hother)
    simp [sparing, hne]
  exact marked_of_spared hedits h

/-- Without a table there is nothing to write. -/
theorem writeDetails_zero (site : Site) (id : DeviceId) (faults : UInt16) :
    site.writeDetails id 0 faults = site := by
  unfold writeDetails
  induction List.range Device.faultBits with
  | nil => rfl
  | cons bit bits ih =>
    rw [List.foldl_cons, Device.faultCode_zero]
    exact ih

/-- The table of a device depends on the type that is stored, if that can be read. -/
theorem faultTableOf_of_stored (h : site.Tracks id (detailCalls table))
    (h' : site'.Tracks id (detailCalls table))
    (hstored : site'.stored id .deviceType = site.stored id .deviceType) :
    site'.faultTableOf id = site.faultTableOf id := by
  unfold faultTableOf profileOf
  rw [reported_eq_stored (h.2 _ List.mem_cons_self), reported_eq_stored (h'.2 _ List.mem_cons_self),
    hstored]

theorem faultTableOf_congr (h : site'.platform = site.platform) (id : DeviceId) :
    site'.faultTableOf id = site.faultTableOf id := by
  unfold faultTableOf profileOf reported
  rw [h]

end Site

namespace Correlator

/-- Once no fault of the device waits, the store has its battery as low. -/
def dueBattery (c : Correlator) (id : DeviceId) : Bool :=
  c.awaiting id = some .volts || c.site.marked id FlagFault.detectorBattery.code

variable {c c' : Correlator} {id : DeviceId} {table code : UInt8} {awaited : FollowUp}

/-! ### Reports -/

section Reports

variable {profile : Option Device.Profile} {report : FaultReport} {frame : List UInt8}
  {flag : FaultFlag} {flags : List FaultFlag}

theorem awaiting_of_none (h : c.faults.get? id = none) : c.awaiting id = none := by
  simp [Incidents.awaiting, h]

theorem awaiting_of_put {pending : PendingFault}
    (h : c'.toIncidents = { c.toIncidents with faults := c.faults.put id pending }) :
    c'.awaiting id = some pending.awaiting := by
  rw [h]
  simp [Incidents.awaiting, Shadow.Table.get?_put]

/-- A flag that does not ask for something lets no fault begin to wait for it. -/
theorem awaiting_applyFlag (hflag : followUp? flag ≠ some awaited) :
    (applyFlag profile report frame c flag).awaiting report.id = some awaited ↔
      c.awaiting report.id = some awaited := by
  obtain hsame | ⟨hnone, pending, hfollow, hput⟩ := c.applyFlag_cases profile report frame flag
  · rw [hsame]
  · rw [awaiting_of_none hnone, awaiting_of_put hput]
    exact ⟨fun h => absurd (hfollow.trans h) hflag, by simp⟩

theorem awaiting_foldl_applyFlag (hflags : ∀ flag ∈ flags, followUp? flag ≠ some awaited) :
    (flags.foldl (applyFlag profile report frame) c).awaiting report.id = some awaited ↔
      c.awaiting report.id = some awaited := by
  induction flags generalizing c with
  | nil => rfl
  | cons flag flags ih =>
    obtain ⟨hfirst, hrest⟩ := List.forall_mem_cons.1 hflags
    exact (ih hrest).trans (awaiting_applyFlag hfirst)

/-- Flags leave the faults of others. -/
theorem marked_foldl_applyFlag (h : c.site.platform.isRegistered report.id)
    (hflags : ∀ flag ∈ flags,
      code ∉ flagCodes ((profile.map Device.Profile.faultTable).getD 0) flag) :
    (flags.foldl (applyFlag profile report frame) c).site.marked report.id code =
      c.site.marked report.id code := by
  have hedits : c.site.Edits (Site.sparing (.fault code .state))
      (flags.foldl (applyFlag profile report frame) c).site := by
    refine edits_foldl_applyFlag c profile frame fun flag hflag other hother field => ?_
    have hne : other ≠ code := fun heq => hflags flag hflag (heq ▸ hother)
    simp [Site.sparing, hne]
  exact Site.marked_of_spared hedits h

theorem tracks_foldl_applyFlag {calls : List (Call × Property)} (profile : Option Device.Profile)
    (frame : List UInt8) (flags : List FaultFlag) (h : c.site.Tracks report.id calls) :
    (flags.foldl (applyFlag profile report frame) c).site.Tracks report.id calls :=
  h.edits (f := Site.reporting)
    (edits_foldl_applyFlag c profile frame fun _ _ _ _ _ => trivial) not_false

/-- What is due after the battery flag: what it says, unless the voltage is still waited for. -/
theorem dueBattery_applyBattery (readsVolts : Bool)
    (h : c.site.Tracks report.id (Site.faultCalls FlagFault.detectorBattery.code)) :
    (c.applyBattery readsVolts report frame).dueBattery report.id =
      (c.awaiting report.id = some .volts || FaultFlag.detectorBattery.isSet report.flags) := by
  have hwritten (c : Correlator) (active : Bool)
      (h : c.site.Tracks report.id (Site.faultCalls FlagFault.detectorBattery.code)) :
      (c.writeFault report.id active .detectorBattery).site.marked report.id
        FlagFault.detectorBattery.code = active :=
    Site.marked_writeFault h rfl active none
  have hplatform := c.beginFault_platform report.id frame .volts (.readVolts report.id report.model)
  have hcases := c.beginFault_cases report.id frame .volts (.readVolts report.id report.model)
  unfold applyBattery
  dsimp only
  split
  · next hasked =>
    have hset : FaultFlag.detectorBattery.isSet report.flags = true :=
      (Bool.and_eq_true_iff.1 hasked).1
    generalize c.beginFault report.id frame .volts (.readVolts report.id report.model) = begun
      at hplatform hcases ⊢
    obtain ⟨first, after⟩ := begun
    obtain ⟨rfl, -⟩ | ⟨rfl, -, pending, hpending, hput⟩ := hcases
    · have htracks : after.site.Tracks report.id
          (Site.faultCalls FlagFault.detectorBattery.code) := h.congr hplatform
      simp [dueBattery, hwritten after true htracks, hset]
    · have hafter : after.awaiting report.id = some .volts := hpending ▸ awaiting_of_put hput
      simp [dueBattery, hafter, hset]
  · rw [dueBattery, hwritten c _ h]
    rfl

/-- The battery flag comes after `pre` and before `post`, which neither ask for the voltage nor
write that fault. -/
theorem dueBattery_receiveFault
    (h : c.site.Tracks report.id (Site.faultCalls FlagFault.detectorBattery.code)) :
    (c.receiveFault report frame).dueBattery report.id =
      (c.awaiting report.id = some .volts || FaultFlag.detectorBattery.isSet report.flags) := by
  let pre : List FaultFlag := [.calibrated, .faulty, .onBase]
  let post : List FaultFlag := [.mainsFailed, .radioBattery, .unassigned6, .unassigned7]
  let profile := c.site.profileOf report.id
  let before := pre.foldl (applyFlag profile report frame) c
  let battery := applyFlag profile report frame before .detectorBattery
  let after := post.foldl (applyFlag profile report frame) battery
  have hbefore : before.awaiting report.id = some .volts ↔ c.awaiting report.id = some .volts :=
    awaiting_foldl_applyFlag (by simp [pre, followUp?])
  have hafter : after.awaiting report.id = some .volts ↔
      battery.awaiting report.id = some .volts :=
    awaiting_foldl_applyFlag (by simp [post, followUp?])
  have hmarked : after.site.marked report.id FlagFault.detectorBattery.code =
      battery.site.marked report.id FlagFault.detectorBattery.code := by
    refine marked_foldl_applyFlag ?_ (by simp [post, flagCodes, FlagFault.code])
    exact (tracks_foldl_applyFlag profile frame (pre ++ [.detectorBattery]) h).1
  have hbattery : battery.dueBattery report.id =
      (before.awaiting report.id = some .volts || FaultFlag.detectorBattery.isSet report.flags) :=
    dueBattery_applyBattery _ (tracks_foldl_applyFlag profile frame pre h)
  show after.dueBattery report.id = _
  rw [dueBattery, hmarked, decide_eq_decide.2 hafter, ← decide_eq_decide.2 hbefore]
  exact hbattery

/-- Without a general fault the flag clears that fault and all that the details could tell of. -/
theorem marked_applyGeneral_of_clear (frame : List UInt8)
    (hclear : FaultFlag.faulty.isSet report.flags = false)
    (h : ∀ code ∈ flagCodes table .faulty, code ≠ 0 →
      c.site.Tracks report.id (Site.faultCalls code)) :
    (c.applyGeneral table report frame).toIncidents = c.toIncidents ∧
      ∀ code ∈ flagCodes table .faulty, code ≠ 0 →
        (c.applyGeneral table report frame).site.marked report.id code = false := by
  have hgeneral : c.site.Tracks report.id (Site.faultCalls FlagFault.general.code) :=
    h _ List.mem_cons_self (by decide)
  unfold applyGeneral
  dsimp only
  split
  · next htable =>
    -- the table of a device without details has no codes
    subst htable
    refine ⟨rfl, fun code hcode hne => ?_⟩
    obtain rfl | hcode := List.mem_cons.1 hcode
    · exact (Site.marked_writeFault hgeneral rfl _ none).trans hclear
    · obtain ⟨bit, -, rfl⟩ := List.mem_map.1 hcode
      exact absurd (Device.faultCode_zero bit) hne
  rw [if_neg (by simp [hclear])]
  refine ⟨rfl, fun code hcode hne => ?_⟩
  let details := c.site.writeDetails report.id table 0
  have htracks : details.Tracks report.id (Site.faultCalls FlagFault.general.code) :=
    hgeneral.edits (f := Site.reporting)
      (Site.edits_writeDetails c.site (fun _ _ _ => trivial) 0) not_false
  have hcodes := h code hcode hne
  obtain rfl | hcode := List.mem_cons.1 hcode
  · exact Site.marked_writeFault htracks rfl false none
  · obtain ⟨bit, -, rfl⟩ := List.mem_map.1 hcode
    have hkept : (details.writeFault report.id false FlagFault.general.code none).marked report.id
        (faultCode table bit) = details.marked report.id (faultCode table bit) :=
      Site.marked_writeFault_of_ne (faultCode_ne_code table bit .general).symm htracks.1 _ _
    have hbits : details.marked report.id (faultCode table bit) = false := by
      rw [Site.marked_writeDetails hne hcodes]
      simp
    exact hkept.trans hbits

/-- A report without a general fault clears it, and all that the details could tell of, but does
not take back the question for the details. -/
theorem cleared_receiveFault (frame : List UInt8)
    (hclear : FaultFlag.faulty.isSet report.flags = false)
    (h : ∀ code ∈ flagCodes (c.site.faultTableOf report.id) .faulty, code ≠ 0 →
      c.site.Tracks report.id (Site.faultCalls code)) :
    ((c.receiveFault report frame).awaiting report.id = some .faultDetails ↔
      c.awaiting report.id = some .faultDetails) ∧
    ∀ code ∈ flagCodes (c.site.faultTableOf report.id) .faulty, code ≠ 0 →
      (c.receiveFault report frame).site.marked report.id code = false := by
  let post : List FaultFlag :=
    [.onBase, .detectorBattery, .mainsFailed, .radioBattery, .unassigned6, .unassigned7]
  let profile := c.site.profileOf report.id
  let before := applyFlag profile report frame c .calibrated
  let general := applyFlag profile report frame before .faulty
  let after := post.foldl (applyFlag profile report frame) general
  obtain ⟨hsame, hcleared⟩ := marked_applyGeneral_of_clear (c := before) frame hclear
    fun code hcode hne => tracks_foldl_applyFlag profile frame [.calibrated] (h code hcode hne)
  have hbefore : before.awaiting report.id = some .faultDetails ↔
      c.awaiting report.id = some .faultDetails := awaiting_applyFlag (by simp [followUp?])
  have hgeneral : general.awaiting report.id = before.awaiting report.id :=
    congrArg (Incidents.awaiting · report.id) hsame
  have hafter : after.awaiting report.id = some .faultDetails ↔
      general.awaiting report.id = some .faultDetails :=
    awaiting_foldl_applyFlag (by simp [post, followUp?])
  refine ⟨hafter.trans (hgeneral ▸ hbefore), fun code hcode hne => ?_⟩
  have hmarked : after.site.marked report.id code = general.site.marked report.id code := by
    have htracks := tracks_foldl_applyFlag profile frame [.calibrated, .faulty] (h code hcode hne)
    refine marked_foldl_applyFlag htracks.1 fun flag hflag hother => ?_
    have hne : flag ≠ .faulty := by
      rintro rfl
      simp [post] at hflag
    obtain ⟨fault, hfault, rfl⟩ := exists_code_of_mem_flagCodes hne hother
    exact code_notMem_flagCodes_faulty _ hfault hcode
  exact hmarked.trans (hcleared code hcode hne)

end Reports

/-! ### Details -/

theorem awaiting_of_erased (h : c'.faults = c.faults.erase id) : c'.awaiting id = none := by
  simp [Incidents.awaiting, h, Shadow.Table.get?_erase]

/-- Details that a fault waits for are written, and it waits no longer. -/
theorem receiveFaultDetails_of_awaiting (h : c.awaiting id = some .faultDetails)
    (faults : UInt16) :
    (c.receiveFaultDetails id faults).awaiting id = none ∧
      ∃ site : Site, site.platform = c.site.platform ∧
        (c.receiveFaultDetails id faults).site =
          site.writeDetails id (c.site.faultTableOf id) faults := by
  obtain ⟨pending, hget, hawaits⟩ := Option.map_eq_some_iff.1 h
  let answered := (c.takeFault id pending).onSite fun site => site.release pending.frame
  have hplatform : answered.site.platform = c.site.platform := Site.cancel_platform _ _
  have htable : answered.site.faultTableOf id = c.site.faultTableOf id :=
    Site.faultTableOf_congr hplatform id
  have hanswered : c.receiveFaultDetails id faults =
      if c.site.faultTableOf id = 0 then answered
      else answered.onSite fun site => site.writeDetails id (c.site.faultTableOf id) faults := by
    unfold receiveFaultDetails
    rw [hget, ← htable]
    exact if_pos hawaits
  have hgone : answered.faults = c.faults.erase id := rfl
  rw [hanswered]
  split
  · next hzero =>
    rw [hzero]
    exact ⟨awaiting_of_erased hgone, answered.site, hplatform, (Site.writeDetails_zero _ _ _).symm⟩
  · exact ⟨awaiting_of_erased hgone, answered.site, hplatform, rfl⟩

end Correlator

end AlarmMesh.Gateway
