import AlarmMesh.Proofs.Gateway.FaultReport

/-!
# Which fault report wins

Whether the battery of a device is low, and which general faults it has, is told by its last fault
report, unless an older one still waits for its answer when that one arrives.  Then the older one
wins: the fault that it waits for is written as active when the answer comes, or when none does,
over what was written meanwhile.

* `Correlator.FaultStep` — what a step that is no fault report does to the faults of a device;
* `Correlator.Settled` — what these steps come to, `Settled.cons`;
* `Engine.faultStep_move`, `settled_moves` — moves make such steps;
* `latest_fault` — what is stored in the end.
-/

namespace AlarmMesh.Gateway

open Device (faultCode faultCodes)
open Radio (DeviceId FaultFlag FaultReport Report)
open Shadow (Property)

namespace Correlator

variable {c c' c'' : Correlator} {id : DeviceId} {table : UInt8}

/-! ### Answers and timeouts -/

/-- What happens to the faults of a device when it reports none: nothing; or the fault that waits is
written; or its details are, which are given. -/
inductive FaultStep (table : UInt8) (id : DeviceId) (c c' : Correlator) : Option UInt16 → Prop
  | keeps (hawaiting : c'.awaiting id = c.awaiting id)
      (hkept : ∀ code, c'.site.marked id code = c.site.marked id code) :
      FaultStep table id c c' none
  | written (awaited : FollowUp) (hbefore : c.awaiting id = some awaited)
      (hafter : c'.awaiting id = none) (hwritten : c'.site.marked id awaited.fault.code = true)
      (hkept : ∀ code ≠ awaited.fault.code, c'.site.marked id code = c.site.marked id code) :
      FaultStep table id c c' none
  | detailed (faults : UInt16) (hbefore : c.awaiting id = some .faultDetails)
      (hafter : c'.awaiting id = none)
      (hwritten : ∀ bit, faultCode table bit ≠ 0 →
        c'.site.marked id (faultCode table bit) = faults.toNat.testBit bit)
      (hkept : ∀ code ∉ faultCodes table, c'.site.marked id code = c.site.marked id code) :
      FaultStep table id c c' (some faults)

/-- What the faults of a device come to once none of them waits: the store has the fault that
waited, unless the details have arrived, and then it has what they tell. -/
structure Settled (table : UInt8) (id : DeviceId) (c c' : Correlator) (answer : Option UInt16) :
    Prop where
  asked : answer.isSome → c.awaiting id = some .faultDetails
  battery : c'.site.marked id FlagFault.detectorBattery.code = c.dueBattery id
  general : c'.site.marked id FlagFault.general.code =
    (c.awaiting id = some .faultDetails && answer.isNone ||
      c.site.marked id FlagFault.general.code)
  details : ∀ bit, faultCode table bit ≠ 0 → c'.site.marked id (faultCode table bit) =
    answer.elim (c.site.marked id (faultCode table bit)) fun faults => faults.toNat.testBit bit

theorem Settled.refl (h : c.awaiting id = none) : Settled table id c c none where
  asked := by simp
  battery := by simp [dueBattery, h]
  general := by simp [h]
  details _ _ := rfl

/-- Without a question there is no answer. -/
theorem Settled.eq_none {answer : Option UInt16} (h : Settled table id c c' answer)
    (hnone : c.awaiting id = none) : answer = none := by
  rw [← Option.not_isSome_iff_eq_none]
  intro hsome
  simp [h.asked hsome] at hnone

theorem Settled.cons {answer rest : Option UInt16} (h : FaultStep table id c c' answer)
    (hrest : Settled table id c' c'' rest) : Settled table id c c'' (answer.or rest) := by
  cases h with
  | keeps hawaiting hkept =>
    have hdue : c'.dueBattery id = c.dueBattery id := by simp [dueBattery, hawaiting, hkept]
    exact {
      asked := fun hsome => hawaiting ▸ hrest.asked hsome
      battery := hrest.battery.trans hdue
      general := by rw [hrest.general, hawaiting, hkept]; rfl
      details := fun bit hne => by rw [hrest.details bit hne, hkept]; rfl }
  | written awaited hbefore hafter hwritten hkept =>
    obtain rfl := hrest.eq_none hafter
    have hdetails (bit : Nat) : c'.site.marked id (faultCode table bit) =
        c.site.marked id (faultCode table bit) := hkept _ (faultCode_ne_code table bit _)
    have hsettled := fun bit hne => (hrest.details bit hne).trans (hdetails bit)
    cases awaited with
    | volts =>
      have hlow : c'.site.marked id FlagFault.detectorBattery.code = true := hwritten
      have hgeneral : c'.site.marked id FlagFault.general.code =
          c.site.marked id FlagFault.general.code := hkept _ (by decide)
      refine ⟨by simp, hrest.battery.trans ?_, hrest.general.trans ?_, hsettled⟩
      · simp [dueBattery, hbefore, hlow]
      · simp [hbefore, hafter, hgeneral]
    | faultDetails =>
      have hgeneral : c'.site.marked id FlagFault.general.code = true := hwritten
      have hbattery : c'.site.marked id FlagFault.detectorBattery.code =
          c.site.marked id FlagFault.detectorBattery.code := hkept _ (by decide)
      refine ⟨by simp, hrest.battery.trans ?_, hrest.general.trans ?_, hsettled⟩
      · simp [dueBattery, hbefore, hafter, hbattery]
      · simp [hbefore, hafter, hgeneral]
  | detailed faults hbefore hafter hwritten hkept =>
    obtain rfl := hrest.eq_none hafter
    have hflag (fault : FlagFault) :
        c'.site.marked id fault.code = c.site.marked id fault.code := by
      refine hkept _ fun hcode => ?_
      obtain ⟨bit, -, heq⟩ := List.mem_map.1 hcode
      exact faultCode_ne_code table bit fault heq
    refine ⟨fun _ => hbefore, hrest.battery.trans ?_, hrest.general.trans ?_,
      fun bit hne => (hrest.details bit hne).trans (hwritten bit hne)⟩
    · simp [dueBattery, hbefore, hafter, hflag]
    · simp [hafter, hflag]

theorem awaiting_of_get? {pending : PendingFault} (h : c.faults.get? id = some pending) :
    c.awaiting id = some pending.awaiting := by
  simp [Incidents.awaiting, h]

/-- A fault that waited is written. -/
theorem FaultStep.resolved {pending : PendingFault} (site : Site) (millivolts : Option UInt16)
    (hget : c.faults.get? id = some pending) (htracks : c.site.Tracks id (detailCalls table))
    (hfaults : c'.faults = c.faults.erase id) (hplatform : site.platform = c.site.platform)
    (hsite : c'.site.platform =
      (site.writeFault id true pending.awaiting.fault.code millivolts).platform) :
    FaultStep table id c c' none := by
  have hbefore : site.Tracks id (detailCalls table) := htracks.congr hplatform
  refine .written pending.awaiting (awaiting_of_get? hget) (awaiting_of_erased hfaults) ?_ ?_
  · rw [Site.marked_congr hsite]
    have hcalls : site.Tracks id (Site.faultCalls pending.awaiting.fault.code) :=
      Site.tracks_of_mem hbefore (by cases pending.awaiting <;> simp [FollowUp.fault])
    exact Site.marked_writeFault hcalls (by cases pending.awaiting <;> rfl) true millivolts
  · intro code hne
    rw [Site.marked_congr hsite, Site.marked_writeFault_of_ne hne.symm hbefore.1]
    exact Site.marked_congr hplatform id code

theorem faultStep_faultTimedOut (h : c.site.Tracks id (detailCalls table)) :
    FaultStep table id c (c.faultTimedOut id) none := by
  unfold faultTimedOut
  split
  · next pending hget =>
    exact .resolved (c.site.count (.pendingTimeout .fault)) none hget h rfl rfl rfl
  · exact .keeps rfl fun _ => rfl

theorem faultStep_receiveTemperature (h : c.site.platform.isRegistered id) (value : UInt16) :
    FaultStep table id c (c.receiveTemperature id value) none := by
  have hfaults := c.receiveTemperature_faults id value
  refine .keeps (by simp [Incidents.awaiting, hfaults]) fun code => ?_
  have hedits : c.site.Edits (Site.sparing (.fault code .state))
      (c.receiveTemperature id value).site := by
    refine edits_receiveTemperature c value fun property halarm => ?_
    rintro rfl
    simp [Property.isAlarm] at halarm
  exact Site.marked_of_spared hedits h

/-- A value is the voltage that a fault waits for, or else it is none of its business. -/
theorem faultStep_receiveSlotValue (h : c.site.Tracks id (detailCalls table)) (value : UInt16) :
    FaultStep table id c (c.receiveSlotValue id value) none := by
  unfold receiveSlotValue
  split
  · next pending hget =>
    split
    · next hvolts =>
      refine .resolved (c.takeFault id pending).site (some value) hget h rfl
        (Site.cancel_platform _ _) ?_
      rw [hvolts]
      rfl
    · exact faultStep_receiveTemperature h.1 value
  · exact faultStep_receiveTemperature h.1 value

theorem faultStep_receiveFaultDetails (htable : c.site.faultTableOf id = table)
    (h : c.site.Tracks id (detailCalls table)) (faults : UInt16) :
    FaultStep table id c (c.receiveFaultDetails id faults)
      (if c.awaiting id = some .faultDetails then some faults else none) := by
  by_cases hawaiting : c.awaiting id = some .faultDetails
  · rw [if_pos hawaiting]
    obtain ⟨hnone, site, hplatform, hsite⟩ := receiveFaultDetails_of_awaiting hawaiting faults
    rw [htable] at hsite
    have htracks : site.Tracks id (detailCalls table) := h.congr hplatform
    refine .detailed faults hawaiting hnone (fun bit hne => ?_) fun code hcode => ?_
    · rw [hsite]
      refine Site.marked_writeDetails hne (Site.tracks_of_mem htracks ?_) faults
      have hbit := List.mem_map_of_mem (f := faultCode table) (Device.faultCode_mem hne)
      simp [faultCodes, hbit]
    · rw [hsite, Site.marked_writeDetails_of_notMem hcode htracks.1]
      exact Site.marked_congr hplatform id code
  · rw [if_neg hawaiting, receiveFaultDetails_unasked hawaiting]
    exact .keeps rfl fun _ => rfl

/-- What happens depends on the fault that waits and on what is stored. -/
theorem FaultStep.after {answer : Option UInt16} (h : FaultStep table id c' c'' answer)
    (hawaiting : c'.awaiting id = c.awaiting id)
    (hkept : ∀ code, c'.site.marked id code = c.site.marked id code) :
    FaultStep table id c c'' answer := by
  cases h with
  | keeps hsame hmarked =>
    exact .keeps (hsame.trans hawaiting) fun code => (hmarked code).trans (hkept code)
  | written awaited hbefore hnone hwritten hmarked =>
    exact .written awaited (hawaiting ▸ hbefore) hnone hwritten fun code hne =>
      (hmarked code hne).trans (hkept code)
  | detailed faults hbefore hnone hwritten hmarked =>
    exact .detailed faults (hawaiting ▸ hbefore) hnone hwritten fun code hcode =>
      (hmarked code hcode).trans (hkept code)

end Correlator

namespace Engine

/-- The flags of a report that is a fault of the device. -/
def flagsOf? (id : DeviceId) : Report → Option UInt8
  | .fault report => if report.id = id then some report.flags else none
  | _ => none

/-- The flags of a fault report of the device that a move tells. -/
def flagsTold? (engine : Engine) (id : DeviceId) : Move → Option UInt8
  | .receive frame => (engine.accepted? frame).bind (flagsOf? id)
  | _ => none

/-- The move deals with one thing, and not with a fault report of the device. -/
def sparesFaults (engine : Engine) (id : DeviceId) (move : Move) : Bool :=
  move.Single && (engine.flagsTold? id move).isNone

/-- The faults of a report that tells the details of one of the device. -/
def detailsOf? (id : DeviceId) : Report → Option UInt16
  | .faultDetails report => if report.id = id then some report.faults else none
  | _ => none

/-- The details that a move tells while a fault of the device waits for them. -/
def answers? (engine : Engine) (id : DeviceId) : Move → Option UInt16
  | .receive frame =>
    if engine.incidents.awaiting id = some .faultDetails then
      (engine.accepted? frame).bind (detailsOf? id)
    else none
  | _ => none

/-- The first details that moves tell while a fault of the device waits for them. -/
def firstAnswer? (engine : Engine) (id : DeviceId) : List Move → Option UInt16
  | [] => none
  | move :: moves => (engine.answers? id move).or ((engine.move move).firstAnswer? id moves)

variable {engine : Engine} {id : DeviceId} {move : Move} {frame : List UInt8} {table : UInt8}

/-- The table of a device stays what it is as long as the device stays registered. -/
theorem faultTableOf_move (move : Move) (hsingle : move.Single)
    (hbefore : engine.site.Tracks id (detailCalls table))
    (hafter : (engine.move move).site.Tracks id (detailCalls table)) :
    (engine.move move).site.faultTableOf id = engine.site.faultTableOf id := by
  have hstored : (engine.move move).site.stored id .deviceType =
      engine.site.stored id .deviceType := by
    refine stored_move move hsingle hbefore.1 hafter.1 (fun hwrites => ?_) rfl
    simpa [Property.isFault, Property.isAlarm] using isEvent_of_writes hwrites
  exact Site.faultTableOf_of_stored hbefore hafter hstored

theorem faultTableOf_noted (h : engine.site.Tracks id (detailCalls table)) (frame : List UInt8)
    (report : Report) : (engine.noted frame report).site.faultTableOf id =
      engine.site.faultTableOf id := by
  have hnoted := tracks_noted h frame report
  refine Site.faultTableOf_of_stored h hnoted ?_
  exact Site.stored_of_edits (edits_noted_noting engine frame report) not_false
    (fun hseq => Shadow.Property.noConfusion hseq) rfl hnoted.1

/-! ### Moves that tell of no fault -/

theorem single_of_sparesFaults (h : engine.sparesFaults id move) : move.Single :=
  of_decide_eq_true (Bool.and_eq_true_iff.1 h).1

theorem ne_of_sparesFaults (h : engine.sparesFaults id (.receive frame)) {report : FaultReport}
    (haccepted : engine.accepted? frame = some (.fault report)) : report.id ≠ id := by
  rintro rfl
  simp [sparesFaults, flagsTold?, flagsOf?, haccepted] at h

/-- Taking note of a frame leaves every fault. -/
theorem marked_noted (h : engine.site.platform.isRegistered id) (frame : List UInt8)
    (report : Report) (code : UInt8) :
    (engine.noted frame report).site.marked id code = engine.site.marked id code :=
  Site.marked_of_spared
    (edits_noted engine frame report fun _ _ hnotes => by simp [Site.sparing, hnotes.1]) h

theorem correlator_faultDetails (engine : Engine) (report : Radio.DetailReport)
    (frame : List UInt8) : (engine.dispatch (.faultDetails report) frame).correlator =
      engine.correlator.receiveFaultDetails report.id report.faults :=
  correlator_onIncidents engine _

theorem correlator_faultTimeout (engine : Engine) (id : DeviceId) :
    (engine.fire (.faultTimeout id)).correlator = engine.correlator.faultTimedOut id :=
  correlator_onIncidents engine _

/-- A move that is about no fault of the device leaves them all. -/
theorem faultStep_of_spared (move : Move) (hsingle : move.Single)
    (hbefore : engine.site.platform.isRegistered id)
    (hafter : (engine.move move).site.platform.isRegistered id)
    (hfaults : (engine.move move).incidents.faults.get? id = engine.incidents.faults.get? id)
    (hwrites : ∀ code, ¬ (engine.footprint move).writes id (.fault code .state)) :
    Correlator.FaultStep table id engine.correlator (engine.move move).correlator none := by
  refine .keeps ?_ fun code => ?_
  · show (engine.move move).incidents.awaiting id = engine.incidents.awaiting id
    unfold Incidents.awaiting
    rw [hfaults]
  · show (engine.move move).site.marked id code = engine.site.marked id code
    unfold Site.marked
    rw [stored_move move hsingle hbefore hafter (hwrites code) rfl]

/-- A report that is about no fault of the device leaves them all. -/
theorem faultStep_receive {report : Report} (haccepted : engine.accepted? frame = some report)
    (hbefore : engine.site.platform.isRegistered id)
    (hafter : (engine.receive frame).site.platform.isRegistered id)
    (hfault : ∀ r, report = .fault r → r.id ≠ id)
    (hdetails : ∀ r, report = .faultDetails r → r.id ≠ id)
    (hvalue : ∀ r, report = .slotValue r → r.id ≠ id) :
    Correlator.FaultStep table id engine.correlator (engine.receive frame).correlator none := by
  refine faultStep_of_spared (.receive frame) trivial hbefore hafter ?_ fun code => ?_
  · show (engine.receive frame).incidents.faults.get? id = engine.incidents.faults.get? id
    rw [receive_of_accepted engine haccepted, ← incidents_noted engine frame report]
    exact faults_dispatch frame hfault hdetails hvalue
  · rintro (⟨other, -, hseq, -⟩ | ⟨other, hother, hwrites⟩)
    · exact Shadow.Property.noConfusion hseq
    obtain rfl := Option.some.inj (haccepted.symm.trans hother)
    cases report with
    | fault r => exact hfault r rfl hwrites.1.symm
    | faultDetails r => exact hdetails r rfl hwrites.1.symm
    | slotValue r => exact hvalue r rfl hwrites.1.symm
    | alarm | alarmStop | locate => exact absurd hwrites.2 (by simp [Property.isAlarm])
    | hush => exact absurd hwrites (by simp [reportWrites, Property.isAlarm])
    | _ => exact hwrites.elim

/-- Nor does a frame that is not dealt with touch them. -/
theorem faultStep_ignored (haccepted : engine.accepted? frame = none)
    (hbefore : engine.site.platform.isRegistered id)
    (hafter : (engine.receive frame).site.platform.isRegistered id) :
    Correlator.FaultStep table id engine.correlator (engine.receive frame).correlator none := by
  obtain ⟨site, hreceive, -⟩ := receive_of_ignored engine haccepted
  refine faultStep_of_spared (.receive frame) trivial hbefore hafter ?_ fun code => ?_
  · show (engine.receive frame).incidents.faults.get? id = engine.incidents.faults.get? id
    rw [hreceive]
  · rintro (⟨other, -, hseq, -⟩ | ⟨other, hother, -⟩)
    · exact Shadow.Property.noConfusion hseq
    · simp [haccepted] at hother

/-- What is dealt with after a frame was taken note of is dealt with at once. -/
theorem faultStep_of_noted {report : Report} {c : Correlator} {answer : Option UInt16}
    (hbefore : engine.site.platform.isRegistered id)
    (h : Correlator.FaultStep table id (engine.noted frame report).correlator c answer) :
    Correlator.FaultStep table id engine.correlator c answer :=
  h.after (congrArg (Incidents.awaiting · id) (incidents_noted engine frame report))
    (marked_noted hbefore frame report)

theorem faultStep_slotValue {value : Radio.SlotReport}
    (haccepted : engine.accepted? frame = some (.slotValue value)) (hid : value.id = id)
    (hbefore : engine.site.Tracks id (detailCalls table)) :
    Correlator.FaultStep table id engine.correlator (engine.receive frame).correlator none := by
  subst hid
  have hnoted := tracks_noted hbefore frame (.slotValue value)
  rw [receive_of_accepted engine haccepted, correlator_slotValue]
  exact faultStep_of_noted hbefore.1 (Correlator.faultStep_receiveSlotValue hnoted value.value)

theorem faultStep_faultDetails {details : Radio.DetailReport}
    (haccepted : engine.accepted? frame = some (.faultDetails details)) (hid : details.id = id)
    (hbefore : engine.site.Tracks id (detailCalls table))
    (htable : engine.site.faultTableOf id = table) :
    Correlator.FaultStep table id engine.correlator (engine.receive frame).correlator
      (if engine.incidents.awaiting id = some .faultDetails then some details.faults
        else none) := by
  subst hid
  have hnoted := tracks_noted hbefore frame (.faultDetails details)
  have htable' := (faultTableOf_noted hbefore frame (.faultDetails details)).trans htable
  let c := (engine.noted frame (.faultDetails details)).correlator
  have hawaiting : c.awaiting details.id = engine.incidents.awaiting details.id :=
    congrArg (Incidents.awaiting · details.id)
      (incidents_noted engine frame (.faultDetails details))
  have hstep := Correlator.faultStep_receiveFaultDetails (c := c) htable' hnoted details.faults
  rw [hawaiting] at hstep
  rw [receive_of_accepted engine haccepted, correlator_faultDetails]
  exact faultStep_of_noted hbefore.1 hstep

/-- What a frame that is no fault report of the device does to its faults. -/
theorem faultStep_frame (hspares : engine.sparesFaults id (.receive frame))
    (hbefore : engine.site.Tracks id (detailCalls table))
    (htable : engine.site.faultTableOf id = table)
    (hafter : (engine.receive frame).site.Tracks id (detailCalls table)) :
    Correlator.FaultStep table id engine.correlator (engine.receive frame).correlator
      (engine.answers? id (.receive frame)) := by
  unfold answers?
  dsimp only
  cases haccepted : engine.accepted? frame with
  | none =>
    rw [Option.bind_none, ite_self]
    exact faultStep_ignored haccepted hbefore.1 hafter.1
  | some report =>
    have hfault (r : FaultReport) (heq : report = .fault r) : r.id ≠ id :=
      ne_of_sparesFaults hspares (heq ▸ haccepted)
    rw [Option.bind_some]
    cases report with
    | slotValue value =>
      rw [show detailsOf? id (.slotValue value) = none from rfl, ite_self]
      by_cases hid : value.id = id
      · exact faultStep_slotValue haccepted hid hbefore
      · exact faultStep_receive haccepted hbefore.1 hafter.1 (by simp) (by simp)
          (by simpa using hid)
    | faultDetails details =>
      by_cases hid : details.id = id
      · rw [show detailsOf? id (.faultDetails details) = some details.faults from if_pos hid]
        exact faultStep_faultDetails haccepted hid hbefore htable
      · rw [show detailsOf? id (.faultDetails details) = none from if_neg hid, ite_self]
        exact faultStep_receive haccepted hbefore.1 hafter.1 (by simp)
          (by simpa using hid) (by simp)
    | _ =>
      rw [show detailsOf? id _ = none from rfl, ite_self]
      exact faultStep_receive haccepted hbefore.1 hafter.1 hfault (by simp) (by simp)

theorem faultStep_expire (hbefore : engine.site.Tracks id (detailCalls table))
    (hafter : engine.expire.site.Tracks id (detailCalls table)) :
    Correlator.FaultStep table id engine.correlator engine.expire.correlator none := by
  by_cases hpop : engine.popDue.1 = some (.faultTimeout id)
  · let rest := engine.popDue.2
    have hexpire : engine.expire = rest.fire (.faultTimeout id) :=
      expire_of_some (Prod.ext hpop rfl)
    have hrest : rest.site.Tracks id (detailCalls table) := hbefore
    rw [hexpire, correlator_faultTimeout]
    exact (Correlator.faultStep_faultTimedOut hrest).after rfl fun _ => rfl
  · refine faultStep_of_spared .expire trivial hbefore.1 hafter.1 (faults_expire hpop) ?_
    rintro code ⟨kind, hkind, hwrites⟩
    cases kind with
    | faultTimeout other => exact hpop (hwrites.1 ▸ hkind)
    | alarmTimeout other => exact absurd hwrites.2 (by simp [Property.isAlarm])
    | _ => exact hwrites

/-- What a move that is no fault report of the device does to its faults. -/
theorem faultStep_move (hspares : engine.sparesFaults id move)
    (hbefore : engine.site.Tracks id (detailCalls table))
    (htable : engine.site.faultTableOf id = table)
    (hafter : (engine.move move).site.Tracks id (detailCalls table)) :
    Correlator.FaultStep table id engine.correlator (engine.move move).correlator
      (engine.answers? id move) := by
  have hsingle := single_of_sparesFaults hspares
  have of_incidents (hsame : (engine.move move).incidents = engine.incidents)
      (hwrites : ∀ code, ¬ (engine.footprint move).writes id (.fault code .state)) :
      Correlator.FaultStep table id engine.correlator (engine.move move).correlator none :=
    faultStep_of_spared move hsingle hbefore.1 hafter.1
      (congrArg (fun incidents => incidents.faults.get? id) hsame) hwrites
  cases move with
  | receive frame => exact faultStep_frame hspares hbefore htable hafter
  | expire => exact faultStep_expire hbefore hafter
  | control operation =>
    exact of_incidents (incidents_control engine hsingle) fun _ => not_false
  | wish delta => exact of_incidents (incidents_applyDelta engine delta) fun _ => not_false
  | fireDue => exact hsingle.elim
  | _ => exact of_incidents rfl fun _ => not_false

/-- What the faults of a device come to along moves that are no fault reports of it. -/
theorem settled_moves {moves : List Move}
    (halong : Along (fun engine => engine.site.Tracks id (detailCalls table))
      (fun engine move => engine.sparesFaults id move) engine moves)
    (htable : engine.site.faultTableOf id = table)
    (hnone : (engine.moves moves).incidents.awaiting id = none) :
    Correlator.Settled table id engine.correlator (engine.moves moves).correlator
      (engine.firstAnswer? id moves) := by
  induction moves generalizing engine with
  | nil => exact .refl hnone
  | cons move moves ih =>
    obtain ⟨hbefore, hspares, hrest⟩ := halong
    have hsingle := single_of_sparesFaults hspares
    have hmoved := (faultTableOf_move move hsingle hbefore hrest.head).trans htable
    exact (ih hrest hmoved hnone).cons (faultStep_move hspares hbefore htable hrest.head)

/-! ### The report -/

theorem correlator_fault (engine : Engine) (report : FaultReport) (frame : List UInt8) :
    (engine.dispatch (.fault report) frame).correlator =
      engine.correlator.receiveFault report frame := correlator_onIncidents engine _

theorem exists_fault_of_flagsTold {flags : UInt8} (h : engine.flagsTold? id move = some flags) :
    ∃ frame report, move = .receive frame ∧ engine.accepted? frame = some (.fault report) ∧
      report.id = id ∧ report.flags = flags := by
  cases move with
  | receive frame =>
    obtain ⟨report, haccepted, hflags⟩ := Option.bind_eq_some_iff.1 h
    cases report with
    | fault report =>
      obtain ⟨hid, hflags⟩ : report.id = id ∧ report.flags = flags := by
        simpa [flagsOf?] using hflags
      exact ⟨frame, report, rfl, haccepted, hid, hflags⟩
    | _ => simp [flagsOf?] at hflags
  | _ => simp [flagsTold?] at h

/-- What a fault report says of the battery holds unless the voltage is still waited for. -/
theorem dueBattery_told {flags : UInt8} (htold : engine.flagsTold? id move = some flags)
    (hbefore : engine.site.Tracks id (detailCalls table)) :
    (engine.move move).correlator.dueBattery id =
      (engine.incidents.awaiting id = some .volts || FaultFlag.detectorBattery.isSet flags) := by
  obtain ⟨frame, report, rfl, haccepted, rfl, rfl⟩ := exists_fault_of_flagsTold htold
  let noted := engine.noted frame (.fault report)
  have hnoted : noted.correlator.site.Tracks report.id
      (Site.faultCalls FlagFault.detectorBattery.code) :=
    Site.tracks_of_mem (tracks_noted hbefore frame (.fault report)) (by simp)
  have hmove : engine.move (.receive frame) = noted.dispatch (.fault report) frame :=
    receive_of_accepted engine haccepted
  rw [hmove, correlator_fault, ← incidents_noted engine frame (.fault report)]
  exact Correlator.dueBattery_receiveFault (c := noted.correlator) hnoted

/-- A fault report without a general fault clears it and its details, unless they are still waited
for. -/
theorem cleared_told {flags : UInt8} (htold : engine.flagsTold? id move = some flags)
    (hclear : FaultFlag.faulty.isSet flags = false)
    (hbefore : engine.site.Tracks id (detailCalls table))
    (htable : engine.site.faultTableOf id = table) :
    ((engine.move move).correlator.awaiting id = some .faultDetails ↔
      engine.incidents.awaiting id = some .faultDetails) ∧
    ∀ code ∈ flagCodes table .faulty, code ≠ 0 →
      (engine.move move).correlator.site.marked id code = false := by
  obtain ⟨frame, report, rfl, haccepted, rfl, rfl⟩ := exists_fault_of_flagsTold htold
  let noted := engine.noted frame (.fault report)
  have htable' : noted.site.faultTableOf report.id = table :=
    (faultTableOf_noted hbefore frame (.fault report)).trans htable
  have hnoted : noted.site.Tracks report.id (detailCalls (noted.site.faultTableOf report.id)) :=
    htable' ▸ tracks_noted hbefore frame (.fault report)
  have hmove : engine.move (.receive frame) = noted.dispatch (.fault report) frame :=
    receive_of_accepted engine haccepted
  have hcleared := Correlator.cleared_receiveFault (c := noted.correlator) frame hclear
    fun code hcode _ => Site.tracks_of_mem hnoted (List.mem_cons_of_mem _ hcode)
  rw [show noted.correlator.site.faultTableOf report.id = table from htable'] at hcleared
  rw [hmove, ← incidents_noted engine frame (.fault report)]
  exact hcleared

end Engine

/-- The faults that are stored once none of the device waits.  Its battery is low if the last report
says so, or if an older one still waited for the voltage when that came.  Where the last report
tells of no general fault, that fault and its details are stored as active only if an older report
waited for the details: as those tell that arrive in time, or else as a fault without details. -/
theorem latest_fault {engine : Engine} {id : DeviceId} {move : Move} {flags table : UInt8}
    (htold : engine.flagsTold? id move = some flags) (htable : engine.site.faultTableOf id = table)
    (hbefore : engine.site.Tracks id (detailCalls table)) (moves : List Move)
    (halong : Engine.Along (fun engine => engine.site.Tracks id (detailCalls table))
      (fun engine move => engine.sparesFaults id move) (engine.move move) moves)
    (hnone : ((engine.move move).moves moves).incidents.awaiting id = none) :
    let last := ((engine.move move).moves moves).site
    let answer := (engine.move move).firstAnswer? id moves
    last.marked id FlagFault.detectorBattery.code =
      (engine.incidents.awaiting id = some .volts || FaultFlag.detectorBattery.isSet flags) ∧
    (FaultFlag.faulty.isSet flags = false →
      (answer.isSome → engine.incidents.awaiting id = some .faultDetails) ∧
      last.marked id FlagFault.general.code =
        (engine.incidents.awaiting id = some .faultDetails && answer.isNone) ∧
      ∀ bit, faultCode table bit ≠ 0 → last.marked id (faultCode table bit) =
        answer.elim false fun faults => faults.toNat.testBit bit) := by
  obtain ⟨frame, report, rfl, haccepted, -, -⟩ := Engine.exists_fault_of_flagsTold htold
  have hmoved : (engine.receive frame).site.faultTableOf id = table :=
    (Engine.faultTableOf_move (.receive frame) trivial hbefore halong.head).trans htable
  have hsettled := Engine.settled_moves halong hmoved hnone
  refine ⟨hsettled.battery.trans (Engine.dueBattery_told htold hbefore), fun hclear => ?_⟩
  obtain ⟨hawaiting, hcleared⟩ := Engine.cleared_told htold hclear hbefore htable
  refine ⟨fun hsome => hawaiting.1 (hsettled.asked hsome), ?_, fun bit hne => ?_⟩
  · refine hsettled.general.trans ?_
    rw [hcleared _ List.mem_cons_self (by decide), Bool.or_false, decide_eq_decide.2 hawaiting]
  · have hcode : faultCode table bit ∈ flagCodes table .faulty :=
      List.mem_cons_of_mem _ (List.mem_map_of_mem (Device.faultCode_mem hne))
    rw [← hcleared _ hcode hne]
    exact hsettled.details bit hne

/-- A shadow of one device, which is asked for the voltage when its battery is low. -/
def lowBattery : Shadow.Platform :=
  { store := { records :=
      [(.ofNat 1, { reported := [(.deviceType, .ofNat 65665), (.sid, .ofNat 5)] })] } }

/-- An engine whose device reported a low battery, and was asked for the voltage. -/
def drained : Engine :=
  (Engine.started {} lowBattery (.ofSlots 10) { unix := 0 } []).move
    (.receive [0x71, 1, 0, 0, 0, 0, 0x0d, 5, 1])

/-- The next report says that the battery is fine, but the voltage is not told in time: the battery
is low in the end. -/
theorem latest_fault_drained :
    drained.flagsTold? (.ofNat 1) (.receive [0x71, 1, 0, 0, 0, 0, 5, 5, 2]) = some 5 ∧
    FaultFlag.detectorBattery.isSet 5 = false ∧
    drained.incidents.awaiting (.ofNat 1) = some .volts ∧
    (drained.moves [.receive [0x71, 1, 0, 0, 0, 0, 5, 5, 2], .advance (.ofSeconds 30), .expire,
      .expire]).site.marked (.ofNat 1) FlagFault.detectorBattery.code := by
  have htold : drained.flagsTold? (.ofNat 1) (.receive [0x71, 1, 0, 0, 0, 0, 5, 5, 2]) =
      some 5 := by decide +kernel
  have hwaits : drained.incidents.awaiting (.ofNat 1) = some .volts := by decide +kernel
  have htable : drained.site.faultTableOf (.ofNat 1) = 1 := by decide +kernel
  have hlatest := latest_fault htold htable (by decide +kernel)
    [.advance (.ofSeconds 30), .expire, .expire] (by decide +kernel) (by decide +kernel)
  refine ⟨htold, by decide, hwaits, ?_⟩
  rw [Engine.moves_cons, hlatest.1, hwaits]
  rfl

end AlarmMesh.Gateway
