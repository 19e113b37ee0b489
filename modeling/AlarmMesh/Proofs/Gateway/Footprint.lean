import AlarmMesh.Proofs.Gateway.Session
import AlarmMesh.Proofs.Shadow.Edit

/-!
# What the handlers change in the shadow

Most of what the gateway reports is routine.  Beside that it registers and removes devices and
writes events, and each handler does so within a footprint of its own.

* `Site.Edits f site site'` — what changed in the shadow is within a footprint;
* `edits_report`, `edits_writeFault`, … — what a site is changed by;
* `Discovery.edits_receiveIdentity` — a device is registered only if it is not yet;
* `FaultFlag.codes` — the faults that a flag of a report can write;
* `Correlator.edits_receiveFault`, … — faults and alarms.
-/

namespace AlarmMesh.Device

/-- The codes of the detailed faults of a table; 0 stands for a bit without one. -/
def faultCodes (table : UInt8) : List UInt8 := (List.range faultBits).map (faultCode table)

end AlarmMesh.Device

namespace AlarmMesh.Gateway

open Radio (AlarmReport Command DeviceId FaultFlag FaultReport Identity SidMap)
open Shadow (Call Edit Footprint Platform Property Store Value)

namespace Site

variable {f g : Footprint} {site site' a b c : Site} {id : DeviceId} {property : Property}

/-- What changed in the shadow is within a footprint. -/
structure Edits (f : Footprint) (site site' : Site) : Prop where
  outages : site'.platform.outages = site.platform.outages
  store : site.platform.store.Edits f site'.platform.store

theorem Edits.refl (f : Footprint) (site : Site) : site.Edits f site := ⟨rfl, .refl⟩

theorem Edits.trans (h : a.Edits f b) (h' : b.Edits f c) : a.Edits f c :=
  ⟨h'.outages.trans h.outages, Relation.ReflTransGen.trans h.store h'.store⟩

theorem Edits.foldl {α : Type} {step : Site → α → Site} {as : List α}
    (h : ∀ (site : Site), ∀ a ∈ as, site.Edits f (step site a)) (site : Site) :
    site.Edits f (as.foldl step site) := by
  induction as generalizing site with
  | nil => exact .refl f site
  | cons a as ih =>
    exact (h site a List.mem_cons_self).trans
      (ih (fun site other ho => h site other (List.mem_cons_of_mem _ ho)) _)

theorem edits_of_platform (h : site'.platform = site.platform) : site.Edits f site' := by
  refine ⟨congrArg Platform.outages h, ?_⟩
  rw [h]
  exact .refl

/-! ### Calls -/

theorem edits_updated (edit : Edit) {call : Call} {p : Option Property} {platform : Platform}
    (h : site.platform.updated call p (site.platform.store.edited edit) = .ok platform)
    (hallows : f.Allows edit) : site.Edits f { site with platform := platform } := by
  obtain ⟨store, hstore, rfl⟩ := Platform.updated_eq_ok h
  exact ⟨rfl, Store.Edits.single hallows hstore⟩

theorem edits_after {edit : Edit} (hallows : f.Allows edit) (call : Call) (p : Option Property) :
    site.Edits f (site.after (site.platform.updated call p (site.platform.store.edited edit))) := by
  cases h : site.platform.updated call p (site.platform.store.edited edit) with
  | error error => exact .refl f site
  | ok platform => exact edits_updated edit h hallows

theorem edits_report (site : Site) (h : property.isRoutine ∨ f.writes id property)
    (value : Value) :
    site.Edits f (site.report id property value) :=
  edits_after (show f.Allows (.report id property value) from h) _ _

theorem edits_reportGroup (site : Site) {values : List (Property × Value)}
    (h : ∀ entry ∈ values, entry.1.isRoutine ∨ f.writes id entry.1) :
    site.Edits f (site.reportGroup id values) := by
  unfold reportGroup
  induction values generalizing site with
  | nil => exact edits_of_platform rfl
  | cons entry values ih =>
    obtain ⟨property, value⟩ := entry
    have hfirst := edits_report site (h _ List.mem_cons_self) value
    unfold report at hfirst
    unfold Platform.reportGroup
    cases hset : site.platform.setReported id property value with
    | error error => exact edits_of_platform rfl
    | ok platform =>
      rw [hset] at hfirst
      exact hfirst.trans (ih { site with platform := platform }
        fun entry he => h entry (List.mem_cons_of_mem _ he))

theorem edits_subscribe (site : Site) (id : DeviceId) (property : Property) :
    site.Edits f (site.subscribe id property) :=
  edits_after (show f.Allows (.subscribe id property) from trivial) _ _

theorem edits_desire (site : Site) (id : DeviceId) (property : Property) (value : Value) :
    site.Edits f (site.after (site.platform.setDesired id property value)) :=
  edits_after (show f.Allows (.desire id property value) from trivial) _ _

theorem edits_forget (site : Site) (h : property.isRoutine ∨ f.writes id property) :
    site.Edits f (site.after (site.platform.deleteProperty id property)) :=
  edits_after (show f.Allows (.forget id property) from h) _ _

theorem edits_increment (site : Site) (h : property.isRoutine ∨ f.writes id property) :
    site.Edits f (site.after ((site.platform.increment id property).map Prod.snd)) := by
  unfold Platform.increment
  cases site.platform.nextCount id property with
  | error error => exact .refl f site
  | ok next =>
    have hreport := edits_report site h (.integer next)
    unfold report at hreport
    simp only [bind, Except.bind, pure, Except.pure]
    cases hset : site.platform.setReported id property (.integer next) with
    | error error => exact .refl f site
    | ok platform =>
      rw [hset] at hreport
      exact hreport

/-! ### Devices and events -/

theorem edits_initDevice (site : Site) (id : DeviceId) : site.Edits f (site.initDevice id) := by
  unfold initDevice
  refine .trans ?_ (.foldl (fun site property _ => edits_subscribe site id property) _)
  refine .trans (.trans ?_ (edits_report _ (.inl rfl) _)) (edits_report _ (.inl rfl) _)
  split
  · exact (edits_report _ (.inl rfl) _).trans (edits_report _ (.inl rfl) _)
  · exact edits_report _ (.inl rfl) _

theorem edits_writeIdentity (site : Site) (identity : Identity) (presence : Shadow.Presence) :
    site.Edits f (site.writeIdentity identity presence) :=
  edits_reportGroup _ (by simp [Property.isRoutine])

theorem edits_markUnlessIn (map : SidMap) (site : Site) (id : DeviceId) :
    site.Edits f (site.markUnlessIn map id) := by
  unfold markUnlessIn
  split
  · split
    · exact .refl f site
    · exact (edits_report _ (.inl rfl) _).trans (edits_report _ (.inl rfl) _)
  · exact .refl f site

theorem edits_markDevice (missing : SidMap) (site : Site) (id : DeviceId) :
    site.Edits f (site.markDevice missing id) := by
  unfold markDevice
  split
  · exact edits_report _ (.inl rfl) _
  · exact .refl f site

theorem edits_writeFault (site : Site) {code : UInt8}
    (h : ∀ field, f.writes id (.fault code field)) (active : Bool) (millivolts : Option UInt16) :
    site.Edits f (site.writeFault id active code millivolts) := by
  unfold writeFault
  split
  · exact .refl f site
  split
  · exact .refl f site
  · refine .trans ?_ ((edits_reportGroup _ ?_).trans (edits_of_platform rfl))
    · cases millivolts with
      | none => exact .refl f site
      | some _ => exact edits_report _ (.inr (h _)) _
    · simp [h]

theorem edits_writeDetails (site : Site) {table : UInt8}
    (h : ∀ code ∈ Device.faultCodes table, ∀ field, f.writes id (.fault code field))
    (faults : UInt16) : site.Edits f (site.writeDetails id table faults) :=
  .foldl (fun site _ hbit =>
    edits_writeFault site (h _ (List.mem_map_of_mem hbit)) _ none) site

theorem edits_writeAlarm (site : Site) (h : ∀ property, property.isAlarm → f.writes id property)
    (state : Nat) (temperature : Option UInt16) :
    site.Edits f (site.writeAlarm id state temperature) := by
  unfold writeAlarm
  refine .trans ?_ ((edits_reportGroup _ ?_).trans (edits_of_platform rfl))
  · cases temperature with
    | none => exact .refl f site
    | some _ => exact edits_report _ (.inr (h _ rfl)) _
  · simp [h .alarmState rfl, h .alarmSeq rfl, h .alarmTime rfl]

theorem edits_silence (site : Site) (h : ∀ property, property.isAlarm → f.writes id property) :
    site.Edits f (site.silence id) := by
  unfold silence
  split
  · exact edits_writeAlarm site h _ none
  · exact .refl f site

theorem park_platform (site : Site) (report : List UInt8) (use : Link.SlotUse)
    (question : Command) : (site.park report use question).2.platform = site.platform :=
  (parks_of_park rfl).follow (R := fun a b => b.platform = a.platform) (fun h h' => h'.trans h)
    (takeBuffer_platform _ _) (fun _ _ => rfl) fun site => send_platform site question

end Site

/-! ### Discovery -/

namespace Discovery

variable {f : Footprint} (d : Discovery)

theorem edits_report {property : Property} (h : property.isRoutine) (value : Value) :
    d.site.Edits f (d.report property value).site :=
  Site.edits_report _ (.inl h) value

theorem edits_transmit (command : Command) : d.site.Edits f (d.transmit command).site :=
  Site.edits_of_platform (transmit_platform d command)

theorem edits_restartMissing (kind : TimerKind) (delay : Duration) :
    d.site.Edits f (d.restartMissing kind delay).site :=
  Site.edits_of_platform (restartMissing_platform d kind delay)

theorem edits_cancelMissing : d.site.Edits f d.cancelMissing.site :=
  Site.edits_of_platform (cancelMissing_platform d)

theorem edits_restartRefresh (delay : Duration) :
    d.site.Edits f (d.restartRefresh delay).site :=
  Site.edits_of_platform (Site.cancel_platform _ _)

theorem edits_cancelInterrogate : d.site.Edits f d.cancelInterrogate.site :=
  Site.edits_of_platform (Site.cancel_platform _ _)

theorem edits_refresh : d.site.Edits f d.refresh.site := by
  unfold refresh
  refine .trans ?_ (edits_restartRefresh _ _)
  split
  · exact .refl f _
  · exact edits_transmit d _

/-! ### Interrogation -/

theorem edits_setInterrogating (active : Bool) :
    d.site.Edits f (d.setInterrogating active).site :=
  Site.edits_report _ (.inl rfl) _

theorem edits_continueInterrogation : d.site.Edits f d.continueInterrogation.site := by
  unfold continueInterrogation
  split
  · dsimp only
    split
    · exact Site.edits_of_platform ((Site.cancel_platform _ _).trans (transmit_platform _ _))
    · exact edits_setInterrogating { d with interrogation := _ } _
  · exact .refl f _

theorem edits_checkInterrogation : d.site.Edits f d.checkInterrogation.site := by
  unfold checkInterrogation
  split
  · exact .refl f _
  split
  · split
    · exact .refl f _
    · let begun : Discovery := { d with interrogation := { d.interrogation with cursor := 0 } }
      have hon : d.site.Edits f (begun.setInterrogating true).site :=
        edits_setInterrogating begun true
      exact hon.trans (edits_continueInterrogation _)
  split
  · exact (edits_cancelInterrogate d).trans (edits_setInterrogating _ _)
  · exact .refl f _

theorem edits_suspendInterrogation : d.site.Edits f d.suspendInterrogation.site := by
  unfold suspendInterrogation
  refine .trans ?_ (edits_setInterrogating _ _)
  split
  · exact edits_cancelInterrogate d
  · exact .refl f _

/-! ### Members -/

theorem edits_setUnknown (unknown : Nat) : d.site.Edits f (d.setUnknown unknown).site :=
  (Site.edits_report _ (.inl rfl) _).trans (Site.edits_of_platform rfl)

theorem edits_requestDiagnostics : d.site.Edits f d.requestDiagnostics.site := by
  unfold requestDiagnostics
  rw [send_eq]
  split
  · cases d.site.hasBuffer
    · exact edits_transmit d _
    · exact edits_transmit d _
  · exact .refl f _

theorem edits_receiveSidMap (map : SidMap) : d.site.Edits f (d.receiveSidMap map).site := by
  let joined := { d with inNetwork := map.inNetwork }.report .inNetwork (.bool map.inNetwork)
  have hjoined : d.site.Edits f joined.site := Site.edits_report _ (.inl rfl) _
  have hasked := hjoined.trans (edits_requestDiagnostics joined)
  exact (hasked.trans (edits_setUnknown _ _)).trans
    (edits_checkInterrogation { joined.requestDiagnostics.setUnknown _ with current := map })

theorem edits_receiveSidMapUpdate (map : SidMap) :
    d.site.Edits f (d.receiveSidMapUpdate map).site :=
  .foldl (fun site id _ => Site.edits_markUnlessIn map site id) _

theorem edits_receiveDiagnostic (status : Radio.RadioStatus) :
    d.site.Edits f (d.receiveDiagnostic status).site :=
  (Site.edits_report _ (.inl rfl) _).trans (Site.edits_report _ (.inl rfl) _)

theorem edits_register (identity : Identity) (presence : Shadow.Presence)
    (hadmits : f.admits identity.id) : d.site.Edits f (d.register identity presence).site := by
  have hcount : d.site.Edits f d.countKnown.site := by
    unfold countKnown
    split
    · exact edits_setUnknown d _
    · exact .refl f _
  unfold register
  dsimp only
  split
  · exact hcount
  · next platform hregister =>
    let registered : Site := { d.countKnown.site with platform := platform }
    have hregistered : d.countKnown.site.Edits f registered :=
      Site.edits_updated (.register identity.id _) hregister hadmits
    have hcounted : registered.Edits f (registered.count .deviceRegistered) :=
      Site.edits_of_platform rfl
    exact ((hcount.trans hregistered).trans hcounted).trans
      ((Site.edits_initDevice _ _).trans (Site.edits_writeIdentity _ _ _))

/-- A device is registered only if it is not yet. -/
theorem edits_receiveIdentity (identity : Identity) (presence : Shadow.Presence) (real : Bool)
    (hadmits : d.site.platform.isRegistered identity.id = false → f.admits identity.id) :
    d.site.Edits f (d.receiveIdentity identity presence real).site := by
  unfold receiveIdentity
  split
  · exact .refl f _
  split
  · next hnew => exact edits_register d identity presence (hadmits (by simpa using hnew))
  split
  · exact Site.edits_writeIdentity _ identity presence
  · exact .refl f _

theorem edits_receiveRemoteId (identity : Identity)
    (hadmits : d.site.platform.isRegistered identity.id = false → f.admits identity.id) :
    d.site.Edits f (d.receiveRemoteId identity).site := by
  unfold receiveRemoteId
  refine (edits_receiveIdentity d identity .online false hadmits).trans ?_
  dsimp only
  split
  · exact (edits_cancelInterrogate _).trans (edits_continueInterrogation _)
  · exact .refl f _

/-! ### Learn mode -/

theorem edits_setLearnMode (enabled : Bool) (seconds : Nat) :
    d.site.Edits f (d.setLearnMode enabled seconds).site := by
  have hlearn (d : Discovery) : d.site.Edits f
      (if 0 < seconds then d.restartLearn (.ofSeconds seconds) else d.cancelLearn).site := by
    split
    · exact Site.edits_of_platform (Site.cancel_platform _ _)
    · exact Site.edits_of_platform (Site.cancel_platform _ _)
  unfold setLearnMode
  split
  · exact .refl f _
  split
  · unfold enterLearnMode
    refine .trans ?_ (hlearn _)
    refine .trans ?_ (edits_restartRefresh _ _)
    have hmode := edits_report { d with learning := true } (f := f)
      (show Property.isRoutine .mode from rfl) Shadow.Mode.learning.value
    split
    · exact hmode
    · exact hmode.trans (edits_transmit _ _)
  · have hmode := edits_report { d with learning := false } (f := f)
      (show Property.isRoutine .mode from rfl) Shadow.Mode.running.value
    exact hmode.trans ((edits_restartRefresh _ _).trans
      (Site.edits_of_platform (Site.cancel_platform _ _)))

end Discovery

/-! ### Faults and alarms -/

/-- The codes of the faults that a flag of a report can write. -/
def flagCodes (table : UInt8) : FaultFlag → List UInt8
  | .calibrated => [FlagFault.calibration.code]
  | .faulty => FlagFault.general.code :: Device.faultCodes table
  | .onBase => [FlagFault.offBase.code]
  | .detectorBattery => [FlagFault.detectorBattery.code]
  | .mainsFailed => [FlagFault.mains.code]
  | .radioBattery => [FlagFault.radioBattery.code]
  | .unassigned6 | .unassigned7 => []

namespace Correlator

variable {f : Footprint} (c : Correlator) {id : DeviceId}

theorem edits_writeFault {fault : FlagFault}
    (h : ∀ field, f.writes id (.fault fault.code field)) (active : Bool) :
    c.site.Edits f (c.writeFault id active fault).site :=
  Site.edits_writeFault _ h _ none

theorem beginFault_platform (id : DeviceId) (report : List UInt8) (awaiting : FollowUp)
    (question : Command) :
    (c.beginFault id report awaiting question).2.site.platform = c.site.platform := by
  have hpark := c.site.park_platform report .pendingFault question
  unfold beginFault
  split
  · rfl
  split
  · next heq => rwa [heq] at hpark
  · next heq => rwa [heq] at hpark

theorem edits_clearDetails {table : UInt8}
    (h : ∀ code ∈ flagCodes table .faulty, ∀ field, f.writes id (.fault code field)) :
    c.site.Edits f (c.clearDetails id table).site := by
  have hdetails := Site.edits_writeDetails c.site
    (fun code hcode => h code (List.mem_cons_of_mem _ hcode)) 0
  exact hdetails.trans (Site.edits_writeFault _ (h _ List.mem_cons_self) false none)

theorem edits_applyGeneral {table : UInt8} {report : FaultReport}
    (h : ∀ code ∈ flagCodes table .faulty, ∀ field, f.writes report.id (.fault code field))
    (frame : List UInt8) : c.site.Edits f (c.applyGeneral table report frame).site := by
  have hgeneral := h _ List.mem_cons_self
  have hbegin := c.beginFault_platform report.id frame .faultDetails
    (.requestFaultDetails report.id report.model)
  unfold applyGeneral
  dsimp only
  split
  · exact edits_writeFault c hgeneral _
  split
  · split
    · next heq =>
      rw [heq] at hbegin
      exact Site.edits_of_platform hbegin
    · next heq =>
      rw [heq] at hbegin
      exact (Site.edits_of_platform hbegin).trans (edits_writeFault _ hgeneral true)
  · exact edits_clearDetails c h

theorem edits_applyBattery (readsVolts : Bool) {report : FaultReport}
    (h : ∀ field, f.writes report.id (.fault FlagFault.detectorBattery.code field))
    (frame : List UInt8) : c.site.Edits f (c.applyBattery readsVolts report frame).site := by
  have hbegin := c.beginFault_platform report.id frame .volts (.readVolts report.id report.model)
  unfold applyBattery
  dsimp only
  split
  · split
    · next heq =>
      rw [heq] at hbegin
      exact Site.edits_of_platform hbegin
    · next heq =>
      rw [heq] at hbegin
      exact (Site.edits_of_platform hbegin).trans (edits_writeFault _ h true)
  · exact edits_writeFault c h _

/-- A flag writes no other faults than its own. -/
theorem edits_applyFlag (profile : Option Device.Profile) {report : FaultReport}
    (frame : List UInt8) (flag : FaultFlag)
    (h : ∀ code ∈ flagCodes ((profile.map Device.Profile.faultTable).getD 0) flag,
      ∀ field, f.writes report.id (.fault code field)) :
    c.site.Edits f (applyFlag profile report frame c flag).site := by
  unfold applyFlag
  cases flag with
  | faulty => exact edits_applyGeneral c h frame
  | detectorBattery => exact edits_applyBattery c _ (h _ List.mem_cons_self) frame
  | unassigned6 | unassigned7 => exact .refl f _
  | _ => exact edits_writeFault c (h _ List.mem_cons_self) _

theorem edits_foldl_applyFlag (profile : Option Device.Profile) {report : FaultReport}
    (frame : List UInt8) {flags : List FaultFlag}
    (h : ∀ flag ∈ flags, ∀ code ∈ flagCodes ((profile.map Device.Profile.faultTable).getD 0) flag,
      ∀ field, f.writes report.id (.fault code field)) :
    c.site.Edits f (flags.foldl (applyFlag profile report frame) c).site := by
  induction flags generalizing c with
  | nil => exact .refl f _
  | cons flag flags ih =>
    exact (edits_applyFlag c profile frame flag (h flag List.mem_cons_self)).trans
      (ih _ fun other ho => h other (List.mem_cons_of_mem _ ho))

theorem edits_receiveFault {report : FaultReport} (frame : List UInt8)
    (h : ∀ code field, f.writes report.id (.fault code field)) :
    c.site.Edits f (c.receiveFault report frame).site :=
  edits_foldl_applyFlag c _ frame fun _ _ code _ => h code

theorem edits_takeFault (id : DeviceId) (pending : PendingFault) :
    c.site.Edits f (c.takeFault id pending).site :=
  Site.edits_of_platform (Site.cancel_platform _ _)

theorem edits_receiveFaultDetails (faults : UInt16)
    (h : ∀ table, ∀ code ∈ Device.faultCodes table, ∀ field, f.writes id (.fault code field)) :
    c.site.Edits f (c.receiveFaultDetails id faults).site := by
  unfold receiveFaultDetails
  split
  · next pending _ =>
    split
    · have htake : c.site.Edits f
          ((c.takeFault id pending).onSite fun site => site.release pending.frame).site :=
        (edits_takeFault c id pending).trans (Site.edits_of_platform rfl)
      dsimp only
      split
      · exact htake
      · exact htake.trans (Site.edits_writeDetails _ (h _) faults)
    · exact .refl f _
  · exact .refl f _

theorem edits_faultTimedOut (h : ∀ pending, c.faults.get? id = some pending →
      ∀ field, f.writes id (.fault pending.awaiting.fault.code field)) :
    c.site.Edits f (c.faultTimedOut id).site := by
  unfold faultTimedOut
  split
  · next pending hget =>
    have hcount : c.site.Edits f (c.site.count (.pendingTimeout .fault)) :=
      Site.edits_of_platform rfl
    exact (hcount.trans (Site.edits_writeFault _ (h pending hget) _ none)).trans
      (Site.edits_of_platform rfl)
  · exact .refl f _

/-! ### Alarms -/

theorem beginAlarm_platform (id : DeviceId) (report : List UInt8) :
    (c.beginAlarm id report).2.site.platform = c.site.platform := by
  have hpark := c.site.park_platform report .pendingAlarm
    (.readTemperature id (c.site.modelOf id))
  unfold beginAlarm
  split
  · rfl
  split
  · next heq => rwa [heq] at hpark
  · next heq => rwa [heq] at hpark

theorem edits_receiveAlarm {report : AlarmReport} (frame : List UInt8)
    (h : ∀ property, property.isAlarm → f.writes report.id property) :
    c.site.Edits f (c.receiveAlarm report frame).site := by
  unfold receiveAlarm
  generalize ((c.site.profileOf report.id).map Device.Profile.readsTemperature).getD false = wanted
  have hbegin : c.site.Edits f
      (if wanted then c.beginAlarm report.id frame else (false, c)).2.site := by
    cases wanted with
    | true => exact Site.edits_of_platform (c.beginAlarm_platform report.id frame)
    | false => exact .refl f _
  dsimp only
  generalize (if wanted then c.beginAlarm report.id frame else (false, c)) = begun at hbegin ⊢
  split
  · exact hbegin
  · exact hbegin.trans (Site.edits_writeAlarm _ h _ none)

theorem edits_resolveAlarm (pending : PendingAlarm) (temperature : Option UInt16)
    (h : ∀ property, property.isAlarm → f.writes id property) :
    c.site.Edits f (c.resolveAlarm id pending temperature).site := by
  have hrelease (site : Site) : site.Edits f (site.release pending.frame) :=
    Site.edits_of_platform rfl
  unfold resolveAlarm
  dsimp only
  split
  · exact (Site.edits_writeAlarm _ h _ _).trans (hrelease _)
  · exact hrelease _

theorem edits_receiveHush (h : ∀ id property, property.isAlarm → f.writes id property) :
    c.site.Edits f c.receiveHush.site :=
  .foldl (fun site id _ => Site.edits_silence site (h id)) _

theorem edits_receiveTemperature (value : UInt16)
    (h : ∀ property, property.isAlarm → f.writes id property) :
    c.site.Edits f (c.receiveTemperature id value).site := by
  unfold receiveTemperature
  split
  · next pending _ =>
    have hcancel : c.site.Edits f (c.site.cancel (some pending.timer)) :=
      Site.edits_of_platform (Site.cancel_platform _ _)
    exact hcancel.trans
      (edits_resolveAlarm (c.onSite fun site => site.cancel (some pending.timer)) pending _ h)
  · exact .refl f _

theorem edits_receiveSlotValue (value : UInt16)
    (hfault : ∀ field, f.writes id (.fault FlagFault.detectorBattery.code field))
    (halarm : ∀ property, property.isAlarm → f.writes id property) :
    c.site.Edits f (c.receiveSlotValue id value).site := by
  unfold receiveSlotValue
  split
  · next pending _ =>
    split
    · exact (edits_takeFault c id pending).trans
        ((Site.edits_writeFault _ hfault true (some value)).trans (Site.edits_of_platform rfl))
    · exact edits_receiveTemperature c value halarm
  · exact edits_receiveTemperature c value halarm

theorem edits_alarmTimedOut (h : ∀ property, property.isAlarm → f.writes id property) :
    c.site.Edits f (c.alarmTimedOut id).site := by
  unfold alarmTimedOut
  split
  · next pending _ =>
    have hcount : c.site.Edits f (c.site.count (.pendingTimeout .alarm)) :=
      Site.edits_of_platform rfl
    exact hcount.trans
      (edits_resolveAlarm (c.onSite fun site => site.count (.pendingTimeout .alarm)) pending _ h)
  · exact .refl f _

/-! ### Diagnostics -/

theorem edits_receiveRemoteStatus (status : Radio.RadioStatus) :
    c.site.Edits f (c.receiveRemoteStatus status).site :=
  (Site.edits_report _ (.inl rfl) _).trans
    ((Site.edits_report _ (.inl rfl) _).trans (Site.edits_report _ (.inl rfl) _))

end Correlator

end AlarmMesh.Gateway
