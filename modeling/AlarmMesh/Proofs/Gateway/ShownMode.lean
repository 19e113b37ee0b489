import AlarmMesh.Proofs.Gateway.Course

/-!
# The mode that the gateway is shown in

The gateway reports what it is doing.  Learn mode reports it, requests for a test report it, and so
does the end of every session, none of them knowing of the others.  Nothing else does.

* `Site.shownMode` — the mode that the store has, and the calls and handlers that leave it;
* `Site.ShowsMode` — what is reported of it reaches the store;
* `Discovery.SameMode` — a step leaves both the mode that is shown and learn mode;
* `Discovery.ShowsEnds` — a step shows that the gateway is running if it ends a session, and leaves
  the mode that is shown if it ends none;
* `Course.showsEnds` — so it is as the test goes on.
-/

namespace AlarmMesh.Gateway

open Radio (Command DeviceId Identity Report SidMap)
open Shadow (Call Edit Mode Platform Property Store Value)

namespace Site

/-- The mode that the gateway is shown in, as the store has it. -/
def shownMode (site : Site) : Option Mode := (site.stored .gateway .mode).bind Mode.ofValue?

/-- The gateway is registered, and what it reports of its mode, alone or with the result of a test,
reaches the store. -/
def ShowsMode (site : Site) : Prop :=
  site.Tracks .gateway [(.setReported, .testModeResult), (.setReported, .mode)]

instance (site : Site) : Decidable site.ShowsMode := by unfold ShowsMode; infer_instance

variable {site site' : Site} {id : DeviceId} {property : Property}

/-- Mesh devices may go; the gateway stays. -/
theorem ShowsMode.of_edits (h : site.ShowsMode) (hedits : site.Edits sweeping site') :
    site'.ShowsMode :=
  Tracks.edits h hedits (show ¬ DeviceId.gateway.isGateway = false by decide)

theorem ShowsMode.before (h : site'.ShowsMode) (hedits : site.Edits sweeping site') :
    site.ShowsMode := by
  refine ⟨Store.isRegistered_iff.2 ?_, fun call hcall => ?_⟩
  · exact hedits.store.mem_of_not_admits not_false (Store.isRegistered_iff.1 h.1)
  · exact (isDown_congr hedits.outages _ _).symm.trans (h.2 call hcall)

theorem ShowsMode.tracks (h : site.ShowsMode) (hp : property = .testModeResult ∨ property = .mode) :
    site.Tracks .gateway [(.setReported, property)] := by
  refine ⟨h.1, fun call hcall => h.2 call ?_⟩
  rcases hp with rfl | rfl <;> simp_all

/-! ### Calls -/

theorem shownMode_of_platform (h : site'.platform = site.platform) :
    site'.shownMode = site.shownMode := by
  unfold shownMode stored
  rw [h]

theorem shownMode_of_stored (h : site'.stored .gateway .mode = site.stored .gateway .mode) :
    site'.shownMode = site.shownMode :=
  congrArg (Option.bind · Mode.ofValue?) h

theorem shownMode_edited (edit : Edit) {call : Call} {p : Option Property}
    (h : ¬ Store.Concerns .gateway .mode edit) :
    (site.after (site.platform.updated call p (site.platform.store.edited edit))).shownMode =
      site.shownMode := by
  cases hedit : site.platform.updated call p (site.platform.store.edited edit) with
  | error error => rfl
  | ok platform =>
    obtain ⟨store, hstore, rfl⟩ := Platform.updated_eq_ok hedit
    exact shownMode_of_stored (Store.getReported_edited hstore h)

@[simp]
theorem shownMode_report (h : property ≠ .mode) (value : Value) :
    (site.report id property value).shownMode = site.shownMode :=
  shownMode_edited (.report id property value) fun hsame => h hsame.2

theorem shownMode_reportGroup {values : List (Property × Value)}
    (h : ∀ entry ∈ values, entry.1 ≠ .mode) :
    (site.reportGroup id values).shownMode = site.shownMode := by
  unfold reportGroup
  induction values generalizing site with
  | nil => rfl
  | cons entry values ih =>
    obtain ⟨property, value⟩ := entry
    have hfirst : (site.report id property value).shownMode = site.shownMode :=
      shownMode_report (h _ List.mem_cons_self) value
    unfold report at hfirst
    unfold Platform.reportGroup
    cases hset : site.platform.setReported id property value with
    | error error => rfl
    | ok platform =>
      rw [hset] at hfirst
      exact (@ih { site with platform := platform }
        fun entry he => h entry (List.mem_cons_of_mem _ he)).trans hfirst

@[simp]
theorem shownMode_subscribe (site : Site) (id : DeviceId) (property : Property) :
    (site.subscribe id property).shownMode = site.shownMode :=
  shownMode_edited (.subscribe id property) not_false

theorem shownMode_desire (site : Site) (id : DeviceId) (property : Property) (value : Value) :
    (site.after (site.platform.setDesired id property value)).shownMode = site.shownMode :=
  shownMode_edited (.desire id property value) not_false

theorem shownMode_forget (h : property ≠ .mode) :
    (site.after (site.platform.deleteProperty id property)).shownMode = site.shownMode :=
  shownMode_edited (.forget id property) fun hsame => h hsame.2

theorem shownMode_increment (h : property ≠ .mode) :
    (site.after ((site.platform.increment id property).map Prod.snd)).shownMode =
      site.shownMode := by
  unfold Platform.increment
  cases site.platform.nextCount id property with
  | error error => rfl
  | ok next =>
    have hreport : (site.report id property (.integer next)).shownMode = site.shownMode :=
      shownMode_report h _
    unfold report at hreport
    simp only [bind, Except.bind, pure, Except.pure]
    cases hset : site.platform.setReported id property (.integer next) with
    | error error => rfl
    | ok platform =>
      rw [hset] at hreport
      exact hreport

theorem shownMode_register {deviceType : Nat} {platform : Platform}
    (h : site.platform.register id deviceType = .ok platform) :
    ({ site with platform := platform } : Site).shownMode = site.shownMode := by
  obtain ⟨store, hstore, rfl⟩ := Platform.updated_eq_ok h
  exact shownMode_of_stored (Store.getReported_register hstore (by simp) _)

theorem shownMode_foldl {α : Type} {step : Site → α → Site} {as : List α}
    (h : ∀ (site : Site), ∀ a ∈ as, (step site a).shownMode = site.shownMode) (site : Site) :
    (as.foldl step site).shownMode = site.shownMode := by
  induction as generalizing site with
  | nil => rfl
  | cons a as ih =>
    exact (ih (fun site other ho => h site other (List.mem_cons_of_mem _ ho)) _).trans
      (h site a List.mem_cons_self)

/-- A mode that is reported is shown. -/
theorem shownMode_report_mode (h : site.ShowsMode) (mode : Mode) :
    (site.report .gateway .mode mode.value).shownMode = some mode := by
  unfold shownMode
  rw [stored_report (h.tracks (.inr rfl))]
  exact Mode.ofValue?_value mode

/-! ### Devices and events -/

theorem shownMode_initDevice (site : Site) (id : DeviceId) :
    (site.initDevice id).shownMode = site.shownMode := by
  unfold initDevice
  refine (shownMode_foldl (fun site property _ => shownMode_subscribe site id property) _).trans ?_
  split <;> simp

theorem shownMode_writeIdentity (site : Site) (identity : Identity)
    (presence : Shadow.Presence) :
    (site.writeIdentity identity presence).shownMode = site.shownMode :=
  shownMode_reportGroup (by simp)

theorem shownMode_markUnlessIn (map : SidMap) (site : Site) (id : DeviceId) :
    (site.markUnlessIn map id).shownMode = site.shownMode := by
  unfold markUnlessIn
  split
  · split
    · rfl
    · simp
  · rfl

theorem shownMode_markDevice (missing : SidMap) (site : Site) (id : DeviceId) :
    (site.markDevice missing id).shownMode = site.shownMode := by
  unfold markDevice
  split
  · simp
  · rfl

theorem shownMode_writeFault (site : Site) (id : DeviceId) (active : Bool) (code : UInt8)
    (millivolts : Option UInt16) :
    (site.writeFault id active code millivolts).shownMode = site.shownMode := by
  unfold writeFault
  split
  · rfl
  split
  · rfl
  · refine (shownMode_of_platform rfl).trans ((shownMode_reportGroup (by simp)).trans ?_)
    cases millivolts with
    | none => rfl
    | some _ => simp

theorem shownMode_writeDetails (site : Site) (id : DeviceId) (table : UInt8) (faults : UInt16) :
    (site.writeDetails id table faults).shownMode = site.shownMode :=
  shownMode_foldl (fun _ _ _ => shownMode_writeFault _ _ _ _ _) site

theorem shownMode_writeAlarm (site : Site) (id : DeviceId) (state : Nat)
    (temperature : Option UInt16) :
    (site.writeAlarm id state temperature).shownMode = site.shownMode := by
  unfold writeAlarm
  refine (shownMode_of_platform rfl).trans ((shownMode_reportGroup (by simp)).trans ?_)
  cases temperature with
  | none => rfl
  | some _ => simp

theorem shownMode_silence (site : Site) (id : DeviceId) :
    (site.silence id).shownMode = site.shownMode := by
  unfold silence
  split
  · exact shownMode_writeAlarm _ _ _ _
  · rfl

end Site

/-! ### Faults and alarms -/

namespace Correlator

variable (c : Correlator)

theorem shownMode_writeFault (id : DeviceId) (active : Bool) (fault : FlagFault) :
    (c.writeFault id active fault).site.shownMode = c.site.shownMode :=
  Site.shownMode_writeFault _ _ _ _ _

/-- A flag that begins to wait, or is written instead. -/
theorem shownMode_beginFault_else (id : DeviceId) (report : List UInt8) (awaiting : FollowUp)
    (question : Command) (fault : FlagFault) :
    (match c.beginFault id report awaiting question with
      | (true, c) => c
      | (false, c) => c.writeFault id true fault).site.shownMode = c.site.shownMode := by
  have hbegun := Site.shownMode_of_platform (c.beginFault_platform id report awaiting question)
  generalize c.beginFault id report awaiting question = begun at hbegun ⊢
  obtain ⟨_ | _, after⟩ := begun
  · exact (shownMode_writeFault after id true fault).trans hbegun
  · exact hbegun

theorem shownMode_applyFlag (profile : Option Device.Profile) (report : Radio.FaultReport)
    (frame : List UInt8) (flag : Radio.FaultFlag) :
    (applyFlag profile report frame c flag).site.shownMode = c.site.shownMode := by
  unfold applyFlag
  cases flag with
  | faulty =>
    dsimp only [applyGeneral]
    split
    · exact shownMode_writeFault c _ _ _
    split
    · exact shownMode_beginFault_else c _ _ _ _ _
    · exact (shownMode_writeFault _ _ _ _).trans (Site.shownMode_writeDetails _ _ _ _)
  | detectorBattery =>
    dsimp only [applyBattery]
    split
    · exact shownMode_beginFault_else c _ _ _ _ _
    · exact shownMode_writeFault c _ _ _
  | unassigned6 | unassigned7 => rfl
  | _ => exact shownMode_writeFault c _ _ _

theorem shownMode_receiveFault (report : Radio.FaultReport) (frame : List UInt8) :
    (c.receiveFault report frame).site.shownMode = c.site.shownMode := by
  unfold receiveFault
  generalize c.site.profileOf report.id = profile
  induction Radio.FaultFlag.all generalizing c with
  | nil => rfl
  | cons flag flags ih => exact (ih _).trans (shownMode_applyFlag c profile report frame flag)

theorem shownMode_receiveFaultDetails (id : DeviceId) (faults : UInt16) :
    (c.receiveFaultDetails id faults).site.shownMode = c.site.shownMode := by
  unfold receiveFaultDetails
  split
  · next pending _ =>
    split
    · have htaken : ((c.takeFault id pending).onSite fun site =>
          site.release pending.frame).site.shownMode = c.site.shownMode :=
        Site.shownMode_of_platform (Site.cancel_platform c.site _)
      dsimp only
      split
      · exact htaken
      · exact (Site.shownMode_writeDetails _ _ _ _).trans htaken
    · rfl
  · rfl

theorem shownMode_receiveAlarm (report : Radio.AlarmReport) (frame : List UInt8) :
    (c.receiveAlarm report frame).site.shownMode = c.site.shownMode := by
  have hwaits := Site.shownMode_of_platform (c.beginAlarm_platform report.id frame)
  unfold receiveAlarm
  generalize ((c.site.profileOf report.id).map Device.Profile.readsTemperature).getD false = wanted
  have hbegun : (if wanted then c.beginAlarm report.id frame else (false, c)).2.site.shownMode =
      c.site.shownMode := by
    cases wanted with
    | true => exact hwaits
    | false => rfl
  dsimp only
  generalize (if wanted then c.beginAlarm report.id frame else (false, c)) = begun at hbegun ⊢
  split
  · exact hbegun
  · exact (Site.shownMode_writeAlarm _ _ _ _).trans hbegun

theorem shownMode_resolveAlarm (id : DeviceId) (pending : PendingAlarm)
    (temperature : Option UInt16) :
    (c.resolveAlarm id pending temperature).site.shownMode = c.site.shownMode := by
  unfold resolveAlarm
  refine (Site.shownMode_of_platform rfl).trans ?_
  split
  · exact Site.shownMode_writeAlarm _ _ _ _
  · rfl

theorem shownMode_receiveTemperature (id : DeviceId) (value : UInt16) :
    (c.receiveTemperature id value).site.shownMode = c.site.shownMode := by
  unfold receiveTemperature
  split
  · exact (shownMode_resolveAlarm _ _ _ _).trans
      (Site.shownMode_of_platform (Site.cancel_platform _ _))
  · rfl

theorem shownMode_receiveSlotValue (id : DeviceId) (value : UInt16) :
    (c.receiveSlotValue id value).site.shownMode = c.site.shownMode := by
  unfold receiveSlotValue
  split
  · next pending _ =>
    split
    · have htaken : (c.takeFault id pending).site.shownMode = c.site.shownMode :=
        Site.shownMode_of_platform (Site.cancel_platform c.site _)
      exact (Site.shownMode_of_platform rfl).trans
        ((Site.shownMode_writeFault _ _ _ _ _).trans htaken)
    · exact shownMode_receiveTemperature c id value
  · exact shownMode_receiveTemperature c id value

theorem shownMode_receiveHush : c.receiveHush.site.shownMode = c.site.shownMode :=
  Site.shownMode_foldl (fun site id _ => Site.shownMode_silence site id) _

theorem shownMode_receiveRemoteStatus (status : Radio.RadioStatus) :
    (c.receiveRemoteStatus status).site.shownMode = c.site.shownMode := by
  simp [receiveRemoteStatus, onSite]

theorem shownMode_onTimeout (kind : TimerKind) :
    (c.onTimeout kind).site.shownMode = c.site.shownMode := by
  unfold onTimeout
  split
  · unfold faultTimedOut
    split
    · exact (Site.shownMode_of_platform rfl).trans (Site.shownMode_writeFault _ _ _ _ _)
    · rfl
  · unfold alarmTimedOut
    split
    · exact shownMode_resolveAlarm _ _ _ _
    · rfl
  · rfl

end Correlator

/-! ### Discovery beside the test -/

namespace Discovery

/-- A step that leaves both the mode that is shown and learn mode as they are. -/
structure SameMode (d d' : Discovery) : Prop where
  shown : d'.site.shownMode = d.site.shownMode
  learning : d'.learning = d.learning

variable {a b c d d' : Discovery}

theorem SameMode.refl (d : Discovery) : d.SameMode d := ⟨rfl, rfl⟩

theorem SameMode.trans (h : a.SameMode b) (h' : b.SameMode c) : a.SameMode c :=
  ⟨h'.shown.trans h.shown, h'.learning.trans h.learning⟩

theorem sameMode_of_platform (hplatform : d'.site.platform = d.site.platform)
    (hlearning : d'.learning = d.learning) : d.SameMode d' :=
  ⟨Site.shownMode_of_platform hplatform, hlearning⟩

variable (d)

theorem sameMode_transmit (command : Command) : d.SameMode (d.transmit command) :=
  sameMode_of_platform (transmit_platform d command) rfl

theorem sameMode_restartInterrogate (delay : Duration) :
    d.SameMode (d.restartInterrogate delay) :=
  sameMode_of_platform (Site.cancel_platform _ _) rfl

theorem sameMode_cancelInterrogate : d.SameMode d.cancelInterrogate :=
  sameMode_of_platform (Site.cancel_platform _ _) rfl

theorem sameMode_restartRefresh (delay : Duration) : d.SameMode (d.restartRefresh delay) :=
  sameMode_of_platform (Site.cancel_platform _ _) rfl

theorem sameMode_refresh : d.SameMode d.refresh := by
  unfold refresh
  refine .trans ?_ (sameMode_restartRefresh _ _)
  split
  · exact .refl d
  · exact sameMode_transmit d _

theorem sameMode_setInterrogating (active : Bool) : d.SameMode (d.setInterrogating active) :=
  ⟨Site.shownMode_report (by simp) _, rfl⟩

theorem sameMode_continueInterrogation : d.SameMode d.continueInterrogation := by
  unfold continueInterrogation
  split
  · have hlooked : d.SameMode { d with interrogation := d.nextUnknown.2 } := ⟨rfl, rfl⟩
    dsimp only
    split
    · exact hlooked.trans ((sameMode_transmit _ _).trans (sameMode_restartInterrogate _ _))
    · exact hlooked.trans (sameMode_setInterrogating _ _)
  · exact .refl d

theorem sameMode_checkInterrogation : d.SameMode d.checkInterrogation := by
  unfold checkInterrogation
  split
  · exact .refl d
  split
  · split
    · exact .refl d
    · have hbegun : d.SameMode
          { d with interrogation := { d.interrogation with cursor := 0 } } := ⟨rfl, rfl⟩
      exact hbegun.trans ((sameMode_setInterrogating _ _).trans (sameMode_continueInterrogation _))
  split
  · exact (sameMode_cancelInterrogate d).trans (sameMode_setInterrogating _ _)
  · exact .refl d

theorem sameMode_suspendInterrogation : d.SameMode d.suspendInterrogation := by
  unfold suspendInterrogation
  refine .trans ?_ (sameMode_setInterrogating _ _)
  split
  · exact sameMode_cancelInterrogate d
  · exact .refl d

theorem sameMode_setUnknown (unknown : Nat) : d.SameMode (d.setUnknown unknown) :=
  ⟨(Site.shownMode_of_platform rfl).trans (Site.shownMode_report (by simp) _), rfl⟩

theorem sameMode_requestDiagnostics : d.SameMode d.requestDiagnostics := by
  have hsent := sameMode_transmit d .radioDiagnosticRequest
  unfold requestDiagnostics
  rw [send_eq]
  split
  · cases d.site.hasBuffer
    · exact hsent
    · exact ⟨hsent.shown, hsent.learning⟩
  · exact .refl d

theorem sameMode_receiveSidMap (map : SidMap) : d.SameMode (d.receiveSidMap map) := by
  have hjoined : d.SameMode
      ({ d with inNetwork := map.inNetwork }.report .inNetwork (.bool map.inNetwork)) :=
    ⟨Site.shownMode_report (by simp) _, rfl⟩
  have hcurrent (d : Discovery) : d.SameMode { d with current := map } := ⟨rfl, rfl⟩
  exact hjoined.trans ((sameMode_requestDiagnostics _).trans ((sameMode_setUnknown _ _).trans
    ((hcurrent _).trans (sameMode_checkInterrogation _))))

theorem sameMode_receiveSidMapUpdate (map : SidMap) : d.SameMode (d.receiveSidMapUpdate map) :=
  ⟨Site.shownMode_foldl (fun site id _ => Site.shownMode_markUnlessIn map site id) _, rfl⟩

theorem sameMode_receiveDiagnostic (status : Radio.RadioStatus) :
    d.SameMode (d.receiveDiagnostic status) :=
  ⟨(Site.shownMode_report (by simp) _).trans (Site.shownMode_report (by simp) _), rfl⟩

theorem sameMode_register (identity : Identity) (presence : Shadow.Presence) :
    d.SameMode (d.register identity presence) := by
  have hcount : d.SameMode d.countKnown := by
    unfold countKnown
    split
    · exact sameMode_setUnknown d _
    · exact .refl d
  unfold register
  refine hcount.trans ?_
  dsimp only
  split
  · exact .refl _
  · next platform hregister =>
    refine ⟨?_, rfl⟩
    refine (Site.shownMode_writeIdentity _ identity presence).trans ?_
    refine (Site.shownMode_initDevice _ identity.id).trans ?_
    exact (Site.shownMode_of_platform rfl).trans (Site.shownMode_register hregister)

theorem sameMode_receiveIdentity (identity : Identity) (presence : Shadow.Presence)
    (real : Bool) : d.SameMode (d.receiveIdentity identity presence real) := by
  unfold receiveIdentity
  split
  · exact .refl d
  split
  · exact sameMode_register d identity presence
  split
  · exact ⟨Site.shownMode_writeIdentity _ identity presence, rfl⟩
  · exact .refl d

theorem sameMode_receiveRemoteId (identity : Identity) :
    d.SameMode (d.receiveRemoteId identity) := by
  unfold receiveRemoteId
  refine (sameMode_receiveIdentity d identity .online false).trans ?_
  dsimp only
  split
  · exact (sameMode_cancelInterrogate _).trans (sameMode_continueInterrogation _)
  · exact .refl _

/-! ### The steps of the test -/

/-- A step of the test that ends these sessions.  It leaves learn mode as it is.  The mode that is
shown it leaves too, unless it ends a session: then it shows that the gateway is running. -/
structure ShowsEnds (d d' : Discovery) (ends : List Discovery) : Prop where
  learning : d'.learning = d.learning
  shows : d.site.ShowsMode → d'.site.ShowsMode
  same : ends = [] → d'.site.shownMode = d.site.shownMode
  ended : ends ≠ [] → d.site.ShowsMode → d'.site.shownMode = some .running

variable {ends ends' : List Discovery} {d d' d'' : Discovery}

theorem ShowsEnds.trans (h : d.ShowsEnds d' ends) (h' : d'.ShowsEnds d'' ends') :
    d.ShowsEnds d'' (ends ++ ends') where
  learning := h'.learning.trans h.learning
  shows hshows := h'.shows (h.shows hshows)
  same hnone := by
    obtain ⟨hfirst, hsecond⟩ := List.append_eq_nil_iff.1 hnone
    exact (h'.same hsecond).trans (h.same hfirst)
  ended hsome hshows := by
    by_cases hsecond : ends' = []
    · have hfirst : ends ≠ [] := fun hfirst => hsome (by rw [hfirst, hsecond]; rfl)
      exact (h'.same hsecond).trans (h.ended hfirst hshows)
    · exact h'.ended hsecond (h.shows hshows)

variable (d)

theorem SameMode.showsEnds (h : d.SameMode d') (hedits : d.site.Edits sweeping d'.site) :
    d.ShowsEnds d' [] where
  learning := h.learning
  shows hshows := hshows.of_edits hedits
  same _ := h.shown
  ended hsome := absurd rfl hsome

theorem showsEnds_of_platform (hplatform : d'.site.platform = d.site.platform)
    (hlearning : d'.learning = d.learning) : d.ShowsEnds d' [] :=
  (sameMode_of_platform hplatform hlearning).showsEnds d (Site.edits_of_platform hplatform)

/-! ### The end of a session -/

/-- The end of a test shows that the gateway is running. -/
theorem shownMode_endTestMode (h : d.site.ShowsMode) :
    d.endTestMode.site.shownMode = some .running := by
  let told := d.site.report .gateway .testModeResult (.bool true)
  have htold : told.ShowsMode := h.of_edits (Site.edits_report _ (.inl rfl) _)
  have hend : d.endTestMode.site = told.report .gateway .mode Mode.running.value :=
    (Site.reportGroup_cons (h.tracks (.inl rfl)) _ _).trans
      (Site.reportGroup_cons (htold.tracks (.inr rfl)) _ [])
  rw [hend]
  exact Site.shownMode_report_mode htold .running

theorem sameMode_completeFlushAll : d.SameMode d.completeFlushAll := by
  unfold completeFlushAll
  dsimp only
  split
  · exact ⟨Site.shownMode_report (by simp) _, rfl⟩
  · exact ⟨rfl, rfl⟩

theorem showsEnds_completeFlushAll : d.ShowsEnds d.completeFlushAll [] :=
  (sameMode_completeFlushAll d).showsEnds d (edits_completeFlushAll d)

/-- Whatever a session does at its end, the mode is reported last. -/
theorem showsEnds_finishSession : d.ShowsEnds d.finishSession [d] where
  learning := (testStep_finishSession d).learning
  shows h := h.of_edits (edits_finishSession d (covers_sweeping _))
  same hnone := absurd hnone (by simp)
  ended _ h := by
    have hclosing : d.closing.site.ShowsMode := h.of_edits (edits_closing d (covers_sweeping _))
    rw [finishSession_eq]
    exact shownMode_endTestMode _ (hclosing.of_edits (edits_restartMissing _ _ _))

theorem showsEnds_markDevices : d.ShowsEnds d.markDevices [] := by
  have hmarked : d.SameMode d.markDevices :=
    ⟨Site.shownMode_foldl (fun site id _ => Site.shownMode_markDevice _ site id) _, rfl⟩
  exact hmarked.showsEnds d (edits_markDevices d)

theorem showsEnds_reportPresence (id : DeviceId) (value : Value) :
    d.ShowsEnds (d.onSite fun site => site.report id .presence value) [] := by
  have hreported : d.SameMode (d.onSite fun site => site.report id .presence value) :=
    ⟨Site.shownMode_report (by simp) value, rfl⟩
  exact hreported.showsEnds d (Site.edits_report _ (.inl rfl) _)

theorem Course.showsEnds {d d' : Discovery} (h : d.Course d' ends) : d.ShowsEnds d' ends := by
  induction h with
  | quiet hplatform hlearning _ => exact showsEnds_of_platform _ hplatform hlearning
  | mark d => exact showsEnds_markDevices d
  | present d id value => exact showsEnds_reportPresence d id value
  | finish d => exact showsEnds_finishSession d
  | finishAll d => exact (showsEnds_finishSession d).trans (showsEnds_completeFlushAll _)
  | trans _ _ ih ih' => exact ih.trans ih'

/-! ### Requests -/

theorem sameMode_beginSession : d.SameMode d.beginSession := by
  refine ⟨?_, (testStep_beginSession d).learning⟩
  by_cases hactive : d.scan.active
  · rw [beginSession_of_active d hactive]
  have hlater (d : Discovery) : d.postpone.site.shownMode = d.site.shownMode :=
    Site.shownMode_of_platform (restartMissing_platform d _ _)
  have hstarted (d : Discovery) : d.sessionStarted.site.shownMode = d.site.shownMode :=
    Site.shownMode_of_platform (Site.cancel_platform _ _)
  by_cases hn : d.inNetwork
  · by_cases hl : d.learning
    · rw [beginSession_of_learning d hactive hn hl]
      exact hlater d.cleared
    · have hsent : (d.cleared.transmit (.updateSidMap d.current)).site.shownMode =
          d.site.shownMode := (sameMode_transmit d.cleared _).shown
      rw [beginSession_of_joined d hactive hn hl]
      split
      · exact (hstarted _).trans hsent
      · exact (hlater _).trans hsent
  · rw [beginSession_of_apart d hactive hn, hlater]
    split
    · exact (sameMode_completeFlushAll d.cleared).shown
    · rfl

theorem showsEnds_beginSession : d.ShowsEnds d.beginSession [] :=
  (sameMode_beginSession d).showsEnds d (edits_beginSession d)

theorem sameMode_cleared : d.SameMode d.suspendInterrogation.clearTestResult :=
  (sameMode_suspendInterrogation d).trans ⟨Site.shownMode_forget (by simp), rfl⟩

theorem inNetwork_cleared :
    d.suspendInterrogation.clearTestResult.inNetwork = d.inNetwork := by
  show d.suspendInterrogation.inNetwork = d.inNetwork
  unfold suspendInterrogation
  split <;> rfl

/-- A request that finds a session or a network shows nothing. -/
theorem sameMode_requestTest (delete : Bool) (h : d.scan.active ∨ d.inNetwork) :
    d.SameMode (d.setTestMode true delete) := by
  by_cases hactive : d.scan.active
  · rw [setTestMode_of_active d hactive delete]
    exact ⟨rfl, rfl⟩
  let chosen : Discovery := { d with scan := { d.scan with delete := delete } }
  have hn : chosen.suspendInterrogation.clearTestResult.inNetwork :=
    (inNetwork_cleared chosen).trans (h.resolve_left hactive)
  have hchosen : d.SameMode chosen := ⟨rfl, rfl⟩
  have hstopped (d : Discovery) : d.SameMode d.cancelMissing :=
    sameMode_of_platform (cancelMissing_platform d) rfl
  rw [setTestMode_of_waiting d (eq_false_of_ne_true hactive) delete]
  unfold startTest
  refine hchosen.trans ((sameMode_cleared chosen).trans ?_)
  dsimp only
  rw [if_pos hn]
  exact (hstopped _).trans (sameMode_beginSession _)

/-- A test that is asked for in no network is over at once, which shows that the gateway is
running. -/
theorem requestTest_in_vain (delete : Bool) (hidle : d.scan.active = false)
    (hn : d.inNetwork = false) (h : d.site.ShowsMode) :
    (d.setTestMode true delete).site.shownMode = some .running ∧
      (d.setTestMode true delete).learning = d.learning := by
  let chosen : Discovery := { d with scan := { d.scan with delete := delete } }
  have hcleared : d.site.Edits sweeping chosen.suspendInterrogation.clearTestResult.site :=
    (edits_suspendInterrogation chosen).trans (Site.edits_forget _ (.inl rfl))
  have hend : d.setTestMode true delete =
      chosen.suspendInterrogation.clearTestResult.endTestMode := by
    rw [setTestMode_of_waiting d hidle delete]
    exact if_neg (by simp [inNetwork_cleared, hn])
  rw [hend]
  exact ⟨shownMode_endTestMode _ (h.of_edits hcleared), (sameMode_cleared chosen).learning⟩

/-! ### Removing devices -/

theorem showsEnds_flushAll : d.ShowsEnds d.flushAll d.flushAllEnds := by
  unfold flushAll flushAllEnds
  split
  · exact showsEnds_of_platform d rfl rfl
  · have haimed : d.cancelSession.SameMode d.beginFlushAll :=
      ⟨Site.shownMode_foldl (fun _ _ _ => Site.shownMode_report (by simp) _) _, rfl⟩
    have hedits : d.cancelSession.site.Edits sweeping d.beginFlushAll.site :=
      .foldl (fun _ _ _ => Site.edits_report _ (.inl rfl) _) _
    exact (course_cancelSession d).showsEnds.trans
      ((haimed.showsEnds _ hedits).trans (course_updateMap _).showsEnds)

theorem showsEnds_fireTest (kind : TimerKind) :
    d.ShowsEnds (d.fireTest kind) (d.fireEnds kind) := by
  cases kind with
  | testMissingInit =>
    have hchosen : d.ShowsEnds { d with scan := { d.scan with delete := true } } [] :=
      showsEnds_of_platform d rfl rfl
    exact hchosen.trans (showsEnds_beginSession _)
  | testMissingUpdateMap => exact (course_updateMap d).showsEnds
  | _ => exact (course_probe d).showsEnds

/-! ### Learn mode -/

/-- What follows the report of the mode when learn mode is entered or left. -/
theorem sameMode_restartLearn (delay : Duration) : d.SameMode (d.restartLearn delay) :=
  sameMode_of_platform (Site.cancel_platform _ _) rfl

theorem sameMode_cancelLearn : d.SameMode d.cancelLearn :=
  sameMode_of_platform (Site.cancel_platform _ _) rfl

/-- To enter learn mode shows it. -/
theorem sameMode_enterLearnMode (seconds : Nat) :
    ({ d with learning := true }.report .mode Mode.learning.value).SameMode
      (d.enterLearnMode seconds) := by
  have hjoin (d : Discovery) : d.SameMode (if d.inNetwork then d else d.transmit .learnIn) := by
    split
    · exact .refl d
    · exact sameMode_transmit d _
  have hlimit (d : Discovery) : d.SameMode
      (if 0 < seconds then d.restartLearn (.ofSeconds seconds) else d.cancelLearn) := by
    split
    · exact sameMode_restartLearn d _
    · exact sameMode_cancelLearn d
  exact (hjoin _).trans ((sameMode_restartRefresh _ _).trans (hlimit _))

theorem sameMode_leaveLearnMode :
    ({ d with learning := false }.report .mode Mode.running.value).SameMode d.leaveLearnMode :=
  (sameMode_restartRefresh _ _).trans (sameMode_cancelLearn _)

theorem setLearnMode_of_same {enabled : Bool} (h : enabled = d.learning) (seconds : Nat) :
    d.setLearnMode enabled seconds = d := if_pos h

theorem learning_setLearnMode (enabled : Bool) (seconds : Nat) :
    (d.setLearnMode enabled seconds).learning = enabled := by
  unfold setLearnMode
  split
  · next hsame => exact hsame.symm
  cases enabled with
  | true => exact (sameMode_enterLearnMode d seconds).learning
  | false => exact (sameMode_leaveLearnMode d).learning

/-- To turn learn mode on or off shows just that. -/
theorem shownMode_setLearnMode {enabled : Bool} (hchange : enabled ≠ d.learning) (seconds : Nat)
    (h : d.site.ShowsMode) : (d.setLearnMode enabled seconds).site.shownMode =
      some (if enabled then .learning else .running) := by
  unfold setLearnMode
  rw [if_neg hchange]
  cases enabled with
  | true =>
    exact (sameMode_enterLearnMode d seconds).shown.trans (Site.shownMode_report_mode h .learning)
  | false => exact (sameMode_leaveLearnMode d).shown.trans (Site.shownMode_report_mode h .running)

end Discovery

end AlarmMesh.Gateway
