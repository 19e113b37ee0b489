import AlarmMesh.Proofs.Gateway.Pending
import AlarmMesh.Proofs.Gateway.Written

/-!
# Which alarm report wins

The alarm state that a device reports is told by its last alarm report, unless an older one still
waits for its temperature when that one arrives.  Then the older one wins: it is written when its
answer comes, or when none does, over what was written meanwhile.

So what the shadow will say once nothing waits, the state that is *due*, is known all along.

* `Correlator.dueAlarm` — the state of the alarm that waits, or else the one that is stored;
* `Engine.alarmTold?` — the state that a report tells; `dueAlarm_told` — what is due after it;
* `Engine.sparesAlarm`, `dueAlarm_move` — moves that tell nothing leave what is due as it is;
* `latest_alarm` — what is stored in the end.
-/

namespace AlarmMesh.Gateway

open Radio (AlarmReport DeviceId Report)
open Shadow (Call Property Value)

/-- The calls that an alarm event depends on. -/
def alarmCalls : List (Call × Property) := [(.setReported, .alarmState)]

namespace Correlator

/-- The state of the alarm of the device that waits, if there is one. -/
def parkedState (c : Correlator) (id : DeviceId) : Option Nat :=
  ((c.alarms.get? id).bind fun pending => parkedAlarm? pending.frame).map fun report =>
    Device.alarmState report.status

/-- The alarm state that the store has once no alarm of the device waits. -/
def dueAlarm (c : Correlator) (id : DeviceId) : Option Value :=
  match c.parkedState id with
  | some state => some (.ofNat state)
  | none => c.site.stored id .alarmState

variable {c c' : Correlator} {id : DeviceId} {pending : PendingAlarm} {report : AlarmReport}
  {state : Nat}

theorem parkedState_of_none (h : c.alarms.get? id = none) : c.parkedState id = none := by
  simp [parkedState, h]

theorem parkedState_of_some (h : c.alarms.get? id = some pending)
    (hread : parkedAlarm? pending.frame = some report) :
    c.parkedState id = some (Device.alarmState report.status) := by
  simp [parkedState, h, hread]

theorem dueAlarm_of_parked (h : c.parkedState id = some state) :
    c.dueAlarm id = some (.ofNat state) := by
  simp [dueAlarm, h]

theorem dueAlarm_of_unparked (h : c.parkedState id = none) :
    c.dueAlarm id = c.site.stored id .alarmState := by
  simp [dueAlarm, h]

/-- The state that is due depends on the alarm that waits and on what is stored. -/
theorem dueAlarm_congr (hpending : c'.alarms.get? id = c.alarms.get? id)
    (hstored : c'.site.stored id .alarmState = c.site.stored id .alarmState) :
    c'.dueAlarm id = c.dueAlarm id := by
  unfold dueAlarm parkedState
  rw [hpending, hstored]

/-- What is due after a write at a site where no more waits than before. -/
theorem dueAlarm_written (hpending : c'.alarms.get? id = c.alarms.get? id)
    (hstored : c'.site.stored id .alarmState = some (.ofNat state)) :
    c'.dueAlarm id = some (.ofNat ((c.parkedState id).getD state)) := by
  have hparked : c'.parkedState id = c.parkedState id := by
    unfold parkedState
    rw [hpending]
  cases hstate : c.parkedState id with
  | some older => exact dueAlarm_of_parked (hparked.trans hstate)
  | none => exact (dueAlarm_of_unparked (hparked.trans hstate)).trans hstored

/-! ### Answers -/

/-- An alarm that is resolved leaves what was due. -/
theorem dueAlarm_resolveAlarm (hget : c.alarms.get? id = some pending)
    (hread : (parkedAlarm? pending.frame).isSome) (htracks : c.site.Tracks id alarmCalls)
    (temperature : Option UInt16) :
    (c.resolveAlarm id pending temperature).dueAlarm id = c.dueAlarm id := by
  obtain ⟨report, hreport⟩ := Option.isSome_iff_exists.1 hread
  have hnone : (c.resolveAlarm id pending temperature).alarms.get? id = none :=
    (Shadow.Table.get?_erase c.alarms id id).trans (if_pos rfl)
  rw [dueAlarm_of_parked (parkedState_of_some hget hreport),
    dueAlarm_of_unparked (parkedState_of_none hnone)]
  unfold resolveAlarm
  rw [hreport]
  exact Site.stored_writeAlarm htracks _ temperature

theorem dueAlarm_receiveTemperature (hreadable : c.Readable)
    (htracks : c.site.Tracks id alarmCalls) (value : UInt16) :
    (c.receiveTemperature id value).dueAlarm id = c.dueAlarm id := by
  unfold receiveTemperature
  split
  · next pending hget =>
    let stopped := c.onSite fun site => site.cancel (some pending.timer)
    have hcancel : c.site.Edits .routine stopped.site :=
      Site.edits_of_platform (Site.cancel_platform _ _)
    have htracks' : stopped.site.Tracks id alarmCalls := htracks.edits hcancel not_false
    have hstopped : stopped.dueAlarm id = c.dueAlarm id :=
      dueAlarm_congr rfl (Site.stored_of_edits hcancel not_false not_false rfl htracks'.1)
    rw [← hstopped]
    exact dueAlarm_resolveAlarm (c := stopped) hget (hreadable id pending hget) htracks' _
  · rfl

theorem dueAlarm_receiveSlotValue (hreadable : c.Readable)
    (htracks : c.site.Tracks id alarmCalls) (value : UInt16) :
    (c.receiveSlotValue id value).dueAlarm id = c.dueAlarm id := by
  unfold receiveSlotValue
  split
  · next pending _ =>
    split
    · -- the value is the voltage that a fault waits for, and no alarm is concerned
      let answered := (c.takeFault id pending).onSite fun site =>
        (site.writeFault id true FlagFault.detectorBattery.code (some value)).release pending.frame
      have hspared (field : Shadow.FaultField) : (Site.sparing .alarmState).writes id
          (.fault FlagFault.detectorBattery.code field) := by simp [Site.sparing]
      have hedits : c.site.Edits (Site.sparing .alarmState) answered.site :=
        (edits_takeFault c id pending).trans
          ((Site.edits_writeFault _ hspared true (some value)).trans (Site.edits_of_platform rfl))
      have hafter := (htracks.edits hedits not_false).1
      exact dueAlarm_congr rfl (Site.stored_of_edits hedits not_false (· rfl) rfl hafter)
    · exact dueAlarm_receiveTemperature hreadable htracks value
  · exact dueAlarm_receiveTemperature hreadable htracks value

theorem dueAlarm_alarmTimedOut (hreadable : c.Readable) (htracks : c.site.Tracks id alarmCalls) :
    (c.alarmTimedOut id).dueAlarm id = c.dueAlarm id := by
  unfold alarmTimedOut
  split
  · next pending hget =>
    let counted := c.onSite fun site => site.count (.pendingTimeout .alarm)
    exact dueAlarm_resolveAlarm (c := counted) hget (hreadable id pending hget) htracks _
  · rfl

/-! ### Reports -/

/-- What is due after an alarm: its state, unless an older one waits. -/
theorem dueAlarm_receiveAlarm {frame : List UInt8}
    (hframe : Report.decode frame = .ok (.alarm report))
    (htracks : c.site.Tracks report.id alarmCalls) :
    (c.receiveAlarm report frame).dueAlarm report.id =
      some (.ofNat ((c.parkedState report.id).getD (Device.alarmState report.status))) := by
  obtain ⟨hnone, pending, hcontent, hput⟩ | ⟨hsame, site, hplatform, hwrite⟩ :=
    c.receiveAlarm_cases report frame
  · have hget : (c.receiveAlarm report frame).alarms.get? report.id = some pending := by
      rw [hput, Shadow.Table.get?_put, if_pos rfl]
    rw [parkedState_of_none hnone]
    exact dueAlarm_of_parked (parkedState_of_some hget (parkedAlarm?_of_content hcontent hframe))
  · refine dueAlarm_written (by rw [hsame]) ?_
    rw [hwrite]
    exact Site.stored_writeAlarm (htracks.congr hplatform) _ none

/-- What is due after an alarm has stopped: that, unless an older one waits. -/
theorem dueAlarm_receiveAlarmStop (htracks : c.site.Tracks id alarmCalls) :
    (c.receiveAlarmStop id).dueAlarm id =
      some (.ofNat ((c.parkedState id).getD Device.alarmInactive)) :=
  dueAlarm_written rfl (Site.stored_writeAlarm htracks _ none)

end Correlator

namespace Engine

/-- The alarm state that a report tells of the device: that of an alarm, or that it has stopped. -/
def stateTold? (id : DeviceId) : Report → Option Nat
  | .alarm report => if report.id = id then some (Device.alarmState report.status) else none
  | .alarmStop report => if report.id = id then some Device.alarmInactive else none
  | _ => none

/-- The alarm state that a move tells of the device. -/
def alarmTold? (engine : Engine) (id : DeviceId) : Move → Option Nat
  | .receive frame => (engine.accepted? frame).bind (stateTold? id)
  | _ => none

/-- The report changes the alarm state of the device at once. -/
def setsAlarm (id : DeviceId) : Report → Bool
  | .alarm report => report.id = id
  | .alarmStop report => report.id = id
  | .locate report => report.id = id
  | .hush _ => true
  | _ => false

/-- The move deals with one thing, and not with a report that changes the alarm state of the
device at once. -/
def sparesAlarm (engine : Engine) (id : DeviceId) : Move → Bool
  | .receive frame => (engine.accepted? frame).all fun report => !setsAlarm id report
  | move => decide move.Single

variable {engine : Engine} {id : DeviceId} {move : Move} {frame : List UInt8} {report : Report}
  {state : Nat}

theorem single_of_sparesAlarm (h : engine.sparesAlarm id move) : move.Single := by
  unfold sparesAlarm at h
  split at h
  · exact trivial
  · exact of_decide_eq_true h

/-! ### Frames -/

theorem dueAlarm_noted (h : engine.site.Tracks id alarmCalls) (frame : List UInt8)
    (report : Report) :
    (engine.noted frame report).correlator.dueAlarm id = engine.correlator.dueAlarm id := by
  refine Correlator.dueAlarm_congr ?_ ?_
  · exact congrArg (fun incidents => incidents.alarms.get? id) (incidents_noted engine frame report)
  · exact Site.stored_of_edits (edits_noted_noting engine frame report) not_false
      (fun hseq => Shadow.Property.noConfusion hseq) rfl (tracks_noted h frame report).1

theorem parkedState_noted (engine : Engine) (frame : List UInt8) (report : Report) (id : DeviceId) :
    (engine.noted frame report).correlator.parkedState id = engine.correlator.parkedState id := by
  have hsame : (engine.noted frame report).correlator.alarms = engine.correlator.alarms :=
    congrArg Incidents.alarms (incidents_noted engine frame report)
  unfold Correlator.parkedState
  rw [hsame]

theorem correlator_alarm (engine : Engine) (report : AlarmReport) (frame : List UInt8) :
    (engine.dispatch (.alarm report) frame).correlator =
      engine.correlator.receiveAlarm report frame := correlator_onIncidents engine _

theorem correlator_alarmStop (engine : Engine) (report : Radio.ButtonReport) (frame : List UInt8) :
    (engine.dispatch (.alarmStop report) frame).correlator =
      engine.correlator.receiveAlarmStop report.id := correlator_onIncidents engine _

/-- After a report that tells a state, that is due unless an older alarm waits. -/
theorem dueAlarm_told (htold : engine.alarmTold? id move = some state)
    (htracks : engine.site.Tracks id alarmCalls) :
    (engine.move move).correlator.dueAlarm id =
      some (.ofNat ((engine.correlator.parkedState id).getD state)) := by
  cases move with
  | receive frame =>
    obtain ⟨report, haccepted, hstate⟩ := Option.bind_eq_some_iff.1 htold
    have hnoted := tracks_noted htracks frame report
    have hmove : engine.move (.receive frame) = (engine.noted frame report).dispatch report frame :=
      receive_of_accepted engine haccepted
    rw [hmove, ← parkedState_noted engine frame report]
    cases report with
    | alarm report =>
      obtain ⟨rfl, rfl⟩ : report.id = id ∧ Device.alarmState report.status = state := by
        simpa [stateTold?] using hstate
      rw [correlator_alarm]
      exact Correlator.dueAlarm_receiveAlarm (decode_of_accepted engine haccepted) hnoted
    | alarmStop report =>
      obtain ⟨rfl, rfl⟩ : report.id = id ∧ Device.alarmInactive = state := by
        simpa [stateTold?] using hstate
      rw [correlator_alarmStop]
      exact Correlator.dueAlarm_receiveAlarmStop hnoted
    | _ => simp [stateTold?] at hstate
  | _ => simp [alarmTold?] at htold

/-! ### Moves that tell nothing -/

theorem correlator_alarmTimeout (engine : Engine) (id : DeviceId) :
    (engine.fire (.alarmTimeout id)).correlator = engine.correlator.alarmTimedOut id :=
  correlator_onIncidents engine _

/-- A value leaves what is due, also if an alarm waits for it. -/
theorem dueAlarm_slotValue (hreadable : engine.incidents.Readable)
    (htracks : engine.site.Tracks id alarmCalls) {value : Radio.SlotReport}
    (haccepted : engine.accepted? frame = some (.slotValue value)) (hid : value.id = id) :
    (engine.receive frame).correlator.dueAlarm id = engine.correlator.dueAlarm id := by
  subst hid
  have hnoted := tracks_noted htracks frame (.slotValue value)
  have hreadable' : (engine.noted frame (.slotValue value)).incidents.Readable := by
    rw [incidents_noted]
    exact hreadable
  rw [receive_of_accepted engine haccepted, correlator_slotValue]
  exact (Correlator.dueAlarm_receiveSlotValue hreadable' hnoted value.value).trans
    (dueAlarm_noted htracks frame (.slotValue value))

/-- So does the timeout of the alarm that waits. -/
theorem dueAlarm_timeout (hreadable : engine.incidents.Readable)
    (htracks : engine.site.Tracks id alarmCalls)
    (hpop : engine.popDue.1 = some (.alarmTimeout id)) :
    engine.expire.correlator.dueAlarm id = engine.correlator.dueAlarm id := by
  let rest := engine.popDue.2
  have hexpire : engine.expire = rest.fire (.alarmTimeout id) := expire_of_some (Prod.ext hpop rfl)
  have htracks' : rest.site.Tracks id alarmCalls := htracks
  have hreadable' : rest.incidents.Readable := hreadable
  rw [hexpire, correlator_alarmTimeout]
  exact Correlator.dueAlarm_alarmTimedOut hreadable' htracks'

/-- A report that neither sets the alarm state nor is a value of the device touches nothing. -/
theorem dueAlarm_receive (hspares : engine.sparesAlarm id (.receive frame))
    (hvalue : ∀ value, engine.accepted? frame = some (.slotValue value) → value.id ≠ id)
    (hbefore : engine.site.platform.isRegistered id)
    (hafter : (engine.receive frame).site.platform.isRegistered id) :
    (engine.receive frame).correlator.dueAlarm id = engine.correlator.dueAlarm id := by
  have hall : ∀ report, engine.accepted? frame = some report → setsAlarm id report = false := by
    intro report haccepted
    have hspared : (engine.accepted? frame).all fun report => !setsAlarm id report := hspares
    rw [haccepted] at hspared
    simpa using hspared
  refine Correlator.dueAlarm_congr ?_
    (stored_move (.receive frame) trivial hbefore hafter ?_ rfl)
  · show (engine.receive frame).incidents.alarms.get? id = engine.incidents.alarms.get? id
    cases haccepted : engine.accepted? frame with
    | none =>
      obtain ⟨site, hreceive, -⟩ := receive_of_ignored engine haccepted
      rw [hreceive]
    | some report =>
      rw [receive_of_accepted engine haccepted, ← incidents_noted engine frame report]
      refine alarms_dispatch frame (fun alarm heq => ?_) fun value heq =>
        hvalue value (heq ▸ haccepted)
      have hspared := hall report haccepted
      rw [heq] at hspared
      simpa [setsAlarm] using hspared
  · rintro (⟨report, -, hseq, -⟩ | ⟨report, haccepted, hwrites⟩)
    · exact Shadow.Property.noConfusion hseq
    have hspared := hall report haccepted
    cases report with
    | slotValue value => exact hvalue value haccepted hwrites.1.symm
    | fault | faultDetails => exact absurd hwrites.2 (by simp [Property.isFault])
    | alarm report | alarmStop report | locate report =>
      simp [setsAlarm, hwrites.1.symm] at hspared
    | hush => simp [setsAlarm] at hspared
    | _ => exact hwrites

/-- A move that does not set the alarm state leaves what is due. -/
theorem dueAlarm_move (hreadable : engine.incidents.Readable)
    (hspares : engine.sparesAlarm id move) (hbefore : engine.site.Tracks id alarmCalls)
    (hafter : (engine.move move).site.Tracks id alarmCalls) :
    (engine.move move).correlator.dueAlarm id = engine.correlator.dueAlarm id := by
  have hsingle := single_of_sparesAlarm hspares
  have of_incidents (hsame : (engine.move move).incidents = engine.incidents)
      (hwrites : ¬ (engine.footprint move).writes id .alarmState) :
      (engine.move move).correlator.dueAlarm id = engine.correlator.dueAlarm id :=
    Correlator.dueAlarm_congr (congrArg (fun incidents => incidents.alarms.get? id) hsame)
      (stored_move move hsingle hbefore.1 hafter.1 hwrites rfl)
  cases move with
  | receive frame =>
    by_cases hvalue : ∃ value, engine.accepted? frame = some (.slotValue value) ∧ value.id = id
    · obtain ⟨value, haccepted, hid⟩ := hvalue
      exact dueAlarm_slotValue hreadable hbefore haccepted hid
    · exact dueAlarm_receive hspares
        (fun value haccepted hid => hvalue ⟨value, haccepted, hid⟩) hbefore.1 hafter.1
  | expire =>
    by_cases hpop : engine.popDue.1 = some (.alarmTimeout id)
    · exact dueAlarm_timeout hreadable hbefore hpop
    · refine Correlator.dueAlarm_congr (alarms_expire hpop)
        (stored_move .expire trivial hbefore.1 hafter.1 ?_ rfl)
      rintro ⟨kind, hkind, hwrites⟩
      cases kind with
      | faultTimeout other => exact absurd hwrites.2 (by simp [Property.isFault])
      | alarmTimeout other => exact hpop (hwrites.1 ▸ hkind)
      | _ => exact hwrites
  | control operation => exact of_incidents (incidents_control engine hsingle) not_false
  | wish delta => exact of_incidents (incidents_applyDelta engine delta) not_false
  | fireDue => exact hsingle.elim
  | _ => exact of_incidents rfl not_false

end Engine

/-- The alarm state that is stored once no alarm of the device waits: the one that was told last, or
that of an older alarm which waited when it was told. -/
theorem latest_alarm {settings : Config.Settings} {engine : Engine}
    (hreachable : Reachable settings engine) {id : DeviceId} {move : Move} {state : Nat}
    (htold : engine.alarmTold? id move = some state)
    (hbefore : engine.site.Tracks id alarmCalls) (moves : List Move)
    (halong : Engine.Along (fun engine => engine.site.Tracks id alarmCalls)
      (fun engine move => engine.sparesAlarm id move) (engine.move move) moves)
    (hnone : ((engine.move move).moves moves).incidents.alarms.get? id = none) :
    ((engine.move move).moves moves).site.stored id .alarmState =
      some (.ofNat ((engine.correlator.parkedState id).getD state)) := by
  have hdue := Engine.along_induct (I := fun later => later.incidents.Readable ∧
      later.correlator.dueAlarm id = (engine.move move).correlator.dueAlarm id)
    (fun later move hp hq hp' hi => ⟨Engine.readable_single hi.1 (Engine.single_of_sparesAlarm hq),
      (Engine.dueAlarm_move hi.1 hq hp hp').trans hi.2⟩) halong
    ⟨(hreachable.move move).readable, rfl⟩
  have hstored : ((engine.move move).moves moves).correlator.dueAlarm id =
      ((engine.move move).moves moves).site.stored id .alarmState :=
    Correlator.dueAlarm_of_unparked (Correlator.parkedState_of_none hnone)
  exact hstored.symm.trans (hdue.2.trans (Engine.dueAlarm_told htold hbefore))

/-- A shadow of one device, which is asked for the temperature when it reports an alarm. -/
def coldAlarm : Shadow.Platform :=
  { store := { records :=
      [(.ofNat 1, { reported := [(.deviceType, .ofNat 65537), (.sid, .ofNat 5)] })] } }

/-- An engine whose device reported an alarm that sounds, and was asked for the temperature. -/
def sounding : Engine :=
  (Engine.started {} coldAlarm (.ofSlots 10) { unix := 0 } []).move
    (.receive [0x50, 1, 0, 0, 1, 0, 5, 1])

theorem reachable_sounding : Reachable {} sounding := .move _ (.start _ _ _ _)

/-- The alarm stops before the temperature is known, which then is not told in time: the device
reports in the end that the alarm sounds. -/
theorem latest_alarm_sounding :
    sounding.alarmTold? (.ofNat 1) (.receive [0x51, 1, 0, 0, 1, 5, 2]) =
      some Device.alarmInactive ∧
    sounding.correlator.parkedState (.ofNat 1) = some Device.alarmActive ∧
    (sounding.moves [.receive [0x51, 1, 0, 0, 1, 5, 2], .advance (.ofSeconds 30), .expire,
      .expire]).site.stored (.ofNat 1) .alarmState = some (.ofNat Device.alarmActive) := by
  have htold : sounding.alarmTold? (.ofNat 1) (.receive [0x51, 1, 0, 0, 1, 5, 2]) =
      some Device.alarmInactive := by decide +kernel
  have hparked : sounding.correlator.parkedState (.ofNat 1) = some Device.alarmActive := by
    decide +kernel
  have hlatest := latest_alarm reachable_sounding htold (by decide +kernel)
    [.advance (.ofSeconds 30), .expire, .expire] (by decide +kernel) (by decide +kernel)
  refine ⟨htold, hparked, ?_⟩
  rw [Engine.moves_cons, hlatest, hparked]
  rfl

end AlarmMesh.Gateway
