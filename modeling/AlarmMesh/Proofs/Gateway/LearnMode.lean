import AlarmMesh.Proofs.Gateway.AlarmAccount
import AlarmMesh.Proofs.Gateway.ShownMode

/-!
# How long learn mode is shown

Learn mode is shown from the move that enters it.  It ceases to be shown when it is left, and also
while it is on: when a session ends that began before, when a test is asked for in no network, and
when one is wished for.  Then a wish to go back to running finds nothing to turn off.

* `Engine.ModeMove`, `modeMove` — what a move can do to the mode that is shown and to learn mode;
* `Engine.Overrides` — the moves that show another mode, whether learn mode is on or not;
* `Engine.LearnsSince` — learn mode was entered in a run, is on since, and nothing overrode it;
* `shownMode_moves` — a run shows learn mode exactly then;
* `tellsLearning` — so it is from the start on, and what a wish to go back to running does.
-/

namespace AlarmMesh.Gateway

open Radio (Report SidMap)
open Shadow (Mode Property Value)

namespace Engine

variable {engine : Engine} {move : Move}

/-! ### Moves beside the test -/

theorem sameMode_noted (engine : Engine) (frame : List UInt8) (report : Report) :
    engine.discovery.SameMode (engine.noted frame report).discovery := by
  unfold noted checkRepetition checkSequence
  split
  · dsimp only
    split
    · exact ⟨(Site.shownMode_report (by simp) _).trans (Site.shownMode_of_platform rfl), rfl⟩
    · exact ⟨Site.shownMode_of_platform rfl, rfl⟩
  · exact ⟨Site.shownMode_of_platform rfl, rfl⟩

theorem sameMode_transmit (engine : Engine) (command : Radio.Command) :
    engine.discovery.SameMode (engine.transmit command).discovery :=
  Discovery.sameMode_of_platform (Site.send_platform _ _) rfl

theorem sameMode_report (engine : Engine) {property : Property} (h : property ≠ .mode)
    (value : Value) : engine.discovery.SameMode (engine.report property value).discovery :=
  ⟨Site.shownMode_report h value, rfl⟩

theorem sameMode_dispatch (engine : Engine) {report : Report} (frame : List UInt8)
    (hother : ∀ map, report ≠ .missingNodes map) :
    engine.discovery.SameMode (engine.dispatch report frame).discovery := by
  unfold dispatch
  cases report with
  | ack | nack | remoteIdNotice => exact .refl _
  | statusRequest => exact sameMode_transmit engine _
  | sidMap map => exact engine.discovery.sameMode_receiveSidMap map
  | missingNodes map => exact absurd rfl (hother map)
  | sidMapUpdate map => exact engine.discovery.sameMode_receiveSidMapUpdate map
  | rumourTarget => exact engine.discovery.sameMode_transmit _
  | deviceTested identity => exact engine.discovery.sameMode_receiveIdentity identity _ _
  | remoteId identity => exact engine.discovery.sameMode_receiveRemoteId identity
  | radioDiagnostic status => exact engine.discovery.sameMode_receiveDiagnostic status
  | remoteStatus status => exact ⟨Correlator.shownMode_receiveRemoteStatus ⟨_, _⟩ status, rfl⟩
  | fault report => exact ⟨Correlator.shownMode_receiveFault ⟨_, _⟩ report frame, rfl⟩
  | alarm report => exact ⟨Correlator.shownMode_receiveAlarm ⟨_, _⟩ report frame, rfl⟩
  | slotValue report =>
    exact ⟨Correlator.shownMode_receiveSlotValue ⟨_, _⟩ report.id report.value, rfl⟩
  | faultDetails report =>
    exact ⟨Correlator.shownMode_receiveFaultDetails ⟨_, _⟩ report.id report.faults, rfl⟩
  | alarmStop report => exact ⟨Site.shownMode_writeAlarm _ report.id _ none, rfl⟩
  | hush => exact ⟨Correlator.shownMode_receiveHush ⟨_, _⟩, rfl⟩
  | locate report => exact ⟨Site.shownMode_silence _ report.id, rfl⟩
  | detectorFault => exact ⟨Site.shownMode_increment (by simp), rfl⟩

theorem sameMode_receive (engine : Engine) {frame : List UInt8}
    (hother : ∀ map, Report.decode frame ≠ .ok (.missingNodes map)) :
    engine.discovery.SameMode (engine.receive frame).discovery := by
  cases haccepted : engine.accepted? frame with
  | none =>
    obtain ⟨reason, hreceive⟩ | ⟨report, -, hreceive⟩ := receive_ignored_cases engine haccepted
    · rw [hreceive]
      exact Discovery.sameMode_of_platform rfl rfl
    · rw [hreceive]
      exact (sameMode_noted engine frame report).trans (Discovery.sameMode_of_platform rfl rfl)
  | some report =>
    rw [receive_of_accepted engine haccepted]
    refine (sameMode_noted engine frame report).trans (sameMode_dispatch _ frame ?_)
    rintro map rfl
    exact hother map (decode_of_accepted engine haccepted)

theorem sameMode_issueTest (engine : Engine) :
    engine.discovery.SameMode engine.issueTest.discovery := by
  unfold issueTest
  split
  · exact .refl _
  split
  · exact sameMode_transmit engine _
  · exact .refl _

theorem sameMode_identify (engine : Engine) (id : Radio.DeviceId) :
    engine.discovery.SameMode (engine.identify id).discovery := by
  unfold identify
  split
  · exact sameMode_transmit engine _
  · exact .refl _

/-! ### What a move does to the mode -/

/-- The move asks for a test, and that is shown: by a wish that also says what becomes of missing
devices, or in no network, where the test is over at once. -/
def AsksOpenly (engine : Engine) : Move → Prop
  | .control (.beginScan _) =>
    engine.network.scan.active = false ∧ engine.network.inNetwork = false
  | .wish delta => delta.device.isGateway ∧ delta.property = .testModeCommand ∧
    ((engine.site.desired .gateway .testModeFlush).bind Value.asBool).isSome
  | _ => False

/-- The move shows another mode than learn mode, whether learn mode is on or not: it ends a session,
or it asks for a test. -/
def Overrides (engine : Engine) (move : Move) : Prop :=
  engine.endings move ≠ [] ∨ engine.AsksOpenly move

/-- The move turns learn mode on. -/
def EntersLearnMode (engine : Engine) (move : Move) : Prop :=
  engine.network.learning = false ∧ (engine.move move).network.learning

/-- What a move can do. -/
inductive ModeMove (engine : Engine) (move : Move) : Prop
  | same (h : engine.discovery.SameMode (engine.move move).discovery)
      (hkeeps : ¬ engine.Overrides move)
  /-- Learn mode is turned on or off, and just that is shown. -/
  | switch (hchange : (engine.move move).network.learning ≠ engine.network.learning)
      (hshown : (engine.move move).site.shownMode =
        some (if (engine.move move).network.learning then .learning else .running))
  /-- Another mode is shown, and learn mode is as it was. -/
  | overridden (h : engine.Overrides move)
      (hlearning : (engine.move move).network.learning = engine.network.learning)
      (hshown : (engine.move move).site.shownMode ≠ some .learning)

theorem not_overrides (hends : engine.endings move = []) (hasks : ¬ move.RequestsTest) :
    ¬ engine.Overrides move := by
  rintro (hsome | hopen)
  · exact hsome hends
  · cases move with
    | control operation =>
      cases operation with
      | beginScan => exact hasks trivial
      | _ => exact hopen
    | wish delta => exact hasks ⟨hopen.1, hopen.2.1⟩
    | _ => exact hopen

theorem ModeMove.of_eq (h : engine.move move = engine) (hkeeps : ¬ engine.Overrides move) :
    engine.ModeMove move := by
  refine .same ?_ hkeeps
  rw [h]
  exact .refl _

/-- A step of the test. -/
theorem ModeMove.of_showsEnds (hshows : engine.site.ShowsMode) (hasks : ¬ move.RequestsTest)
    (h : engine.discovery.ShowsEnds (engine.move move).discovery (engine.endings move)) :
    engine.ModeMove move := by
  by_cases hends : engine.endings move = []
  · exact .same ⟨h.same hends, h.learning⟩ (not_overrides hends hasks)
  · have hrunning : (engine.move move).site.shownMode = some .running := h.ended hends hshows
    exact .overridden (.inl hends) h.learning (by simp [hrunning])

/-- Something is done to learn mode, between what shows nothing. -/
theorem ModeMove.of_setLearnMode {d : Discovery} (enabled : Bool) (seconds : Nat)
    (hbefore : engine.discovery.SameMode d) (hshows : d.site.ShowsMode)
    (hafter : (d.setLearnMode enabled seconds).SameMode (engine.move move).discovery)
    (hkeeps : ¬ engine.Overrides move) : engine.ModeMove move := by
  have hlearning : (engine.move move).network.learning = enabled :=
    hafter.learning.trans (d.learning_setLearnMode enabled seconds)
  by_cases hsame : enabled = d.learning
  · rw [d.setLearnMode_of_same hsame] at hafter
    exact .same (hbefore.trans hafter) hkeeps
  · have hchange : (engine.move move).network.learning ≠ engine.network.learning := by
      rw [hlearning]
      exact fun heq => hsame (heq.trans hbefore.learning.symm)
    refine .switch hchange ?_
    rw [hlearning]
    exact hafter.shown.trans (d.shownMode_setLearnMode hsame seconds hshows)

/-! ### Requests and wishes -/

theorem modeMove_beginScan (hshows : engine.site.ShowsMode) (delete : Bool) :
    engine.ModeMove (.control (.beginScan delete)) := by
  by_cases hvain : engine.network.scan.active = false ∧ engine.network.inNetwork = false
  · obtain ⟨hrunning, hlearning⟩ :=
      engine.discovery.requestTest_in_vain delete hvain.1 hvain.2 hshows
    refine .overridden (.inr hvain) hlearning ?_
    intro hlearn
    have : some Mode.running = some Mode.learning := hrunning.symm.trans hlearn
    simp at this
  · have hfound : engine.network.scan.active ∨ engine.network.inNetwork := by
      by_contra hnone
      simp only [not_or, Bool.not_eq_true] at hnone
      exact hvain hnone
    refine .same (engine.discovery.sameMode_requestTest delete hfound) ?_
    rintro (hsome | hopen)
    · exact hsome rfl
    · exact hvain hopen

theorem modeMove_wishTest (hshows : engine.site.ShowsMode) {delta : Delta}
    (h : (Move.wish delta).RequestsTest) : engine.ModeMove (.wish delta) := by
  have hends : engine.endings (.wish delta) = [] := by
    show engine.wishEnds delta = []
    unfold wishEnds
    rw [if_pos h.1, h.2]
  have hmove : engine.move (.wish delta) = engine.wishTest delta.value := move_wish_of_request h
  unfold wishTest at hmove
  cases hflag : (engine.site.desired .gateway .testModeFlush).bind Value.asBool with
  | none =>
    rw [hflag] at hmove
    refine .of_eq hmove ?_
    rintro (hsome | hopen)
    · exact hsome hends
    · have hsome := hopen.2.2
      rw [hflag] at hsome
      cases hsome
  | some delete =>
    rw [hflag] at hmove
    let told := engine.report .mode Mode.testMode.value
    let begun := told.onNetwork fun d => d.setTestMode true delete
    have hmode : told.site.shownMode = some .testMode :=
      Site.shownMode_report_mode hshows .testMode
    have htold : told.site.ShowsMode := hshows.of_edits (Site.edits_report _ (.inl rfl) _)
    have hbegun : begun.site.shownMode ≠ some .learning ∧
        begun.network.learning = engine.network.learning := by
      by_cases hfound : told.network.scan.active ∨ told.network.inNetwork
      · have hsame := told.discovery.sameMode_requestTest delete hfound
        refine ⟨?_, hsame.learning⟩
        rw [show begun.site.shownMode = told.site.shownMode from hsame.shown, hmode]
        simp
      · simp only [not_or, Bool.not_eq_true] at hfound
        obtain ⟨hrunning, hlearning⟩ :=
          told.discovery.requestTest_in_vain delete hfound.1 hfound.2 htold
        refine ⟨?_, hlearning⟩
        rw [show begun.site.shownMode = some .running from hrunning]
        simp
    have hrest : begun.discovery.SameMode (engine.move (.wish delta)).discovery := by
      rw [hmove]
      exact (sameMode_report begun (by simp) _).trans (sameMode_report _ (by simp) _)
    refine .overridden (.inr ⟨h.1, h.2, by rw [hflag]; rfl⟩) (hrest.learning.trans hbegun.2) ?_
    rw [show (engine.move (.wish delta)).site.shownMode = begun.site.shownMode from hrest.shown]
    exact hbegun.1

theorem modeMove_wishLearn (hshows : engine.site.ShowsMode) {delta : Delta}
    (hmove : engine.move (.wish delta) = engine.wishLearn delta.value)
    (hkeeps : ¬ engine.Overrides (.wish delta)) : engine.ModeMove (.wish delta) := by
  unfold wishLearn at hmove
  dsimp only at hmove
  split at hmove
  · refine .of_setLearnMode true (wishedTimeout engine.site) (.refl _) hshows ?_ hkeeps
    rw [hmove]
    exact (sameMode_report (engine.onNetwork fun d => d.setLearnMode true _) (by simp) _).trans
      (sameMode_report _ (by simp) _)
  · have hnoted : engine.discovery.SameMode (engine.report .learnCommand delta.value).discovery :=
      sameMode_report engine (by simp) delta.value
    refine .of_setLearnMode false 0 hnoted
      (hshows.of_edits (Site.edits_report _ (.inl rfl) _)) ?_ hkeeps
    rw [hmove]
    exact .refl _

/-- A wish for the mode turns off what the gateway is shown in. -/
theorem modeMove_wishMode (hshows : engine.site.ShowsMode) {delta : Delta}
    (hmove : engine.move (.wish delta) = engine.wishMode delta.value)
    (hends : engine.endings (.wish delta) =
      if Mode.ofValue? delta.value = some .running ∧
          (engine.site.reported .gateway .mode).bind Mode.ofValue? = some .testMode then
        engine.discovery.testModeEnds false false
      else []) (hasks : ¬ (Move.wish delta).RequestsTest) : engine.ModeMove (.wish delta) := by
  unfold wishMode at hmove
  by_cases hwish : Mode.ofValue? delta.value = some .running
  · rw [if_pos hwish] at hmove
    split at hmove
    · next hmode =>
      rw [if_neg (by simp [hmode])] at hends
      refine .of_setLearnMode false 0 (.refl _) hshows ?_ (not_overrides hends hasks)
      rw [hmove]
      exact .refl _
    · next hmode =>
      rw [if_pos ⟨hwish, hmode⟩] at hends
      refine .of_showsEnds hshows hasks ?_
      rw [hmove, hends]
      exact engine.discovery.course_stopTest.showsEnds
    · next hother =>
      rw [if_neg fun hstop => hother hstop.2] at hends
      exact .of_eq hmove (not_overrides hends hasks)
  · rw [if_neg hwish] at hmove
    rw [if_neg fun hstop => hwish hstop.1] at hends
    exact .of_eq hmove (not_overrides hends hasks)

theorem modeMove_gatewayWish (hshows : engine.site.ShowsMode) {delta : Delta}
    (hgateway : delta.device.isGateway) : engine.ModeMove (.wish delta) := by
  have hmove : engine.move (.wish delta) =
      engine.applyGatewayDelta delta.property delta.value := if_pos hgateway
  have hends : engine.endings (.wish delta) = engine.wishEnds delta := rfl
  by_cases htest : delta.property = .testModeCommand
  · exact modeMove_wishTest hshows ⟨hgateway, htest⟩
  have hasks : ¬ (Move.wish delta).RequestsTest := fun hasks => htest hasks.2
  unfold applyGatewayDelta at hmove
  unfold wishEnds at hends
  rw [if_pos hgateway] at hends
  cases hproperty : delta.property with
  | testModeCommand => exact absurd hproperty htest
  | mode =>
    rw [hproperty] at hmove hends
    exact modeMove_wishMode hshows hmove hends hasks
  | deleteAllCommand =>
    rw [hproperty] at hmove hends
    refine .of_showsEnds hshows hasks ?_
    rw [hmove, hends]
    exact engine.discovery.showsEnds_flushAll
  | learnCommand =>
    rw [hproperty] at hmove hends
    exact modeMove_wishLearn hshows hmove (not_overrides hends hasks)
  | sounderTestCommand =>
    rw [hproperty] at hmove hends
    refine .same ?_ (not_overrides hends hasks)
    rw [hmove]
    exact (sameMode_issueTest engine).trans (sameMode_report _ (by simp) _)
  | silenceAllCommand | locateCommand =>
    rw [hproperty] at hmove hends
    refine .same ?_ (not_overrides hends hasks)
    rw [hmove]
    exact (sameMode_transmit engine _).trans (sameMode_report _ (by simp) _)
  | _ =>
    rw [hproperty] at hmove hends
    exact .of_eq hmove (not_overrides hends hasks)

theorem modeMove_deviceWish (hshows : engine.site.ShowsMode) {delta : Delta}
    (hdevice : ¬ delta.device.isGateway) : engine.ModeMove (.wish delta) := by
  have hmove : engine.move (.wish delta) =
      engine.applyDeviceDelta delta.device delta.property delta.value := if_neg hdevice
  have hends : engine.endings (.wish delta) = engine.wishEnds delta := rfl
  have hasks : ¬ (Move.wish delta).RequestsTest := fun hasks => hdevice hasks.1
  have hreport (engine : Engine) {property : Property} (h : property ≠ .mode) (value : Value) :
      engine.discovery.SameMode
        (engine.onSite fun site => site.report delta.device property value).discovery :=
    ⟨Site.shownMode_report h value, rfl⟩
  unfold applyDeviceDelta at hmove
  unfold wishEnds at hends
  rw [if_neg hdevice] at hends
  cases hproperty : delta.property with
  | mute =>
    rw [hproperty] at hmove hends
    refine .same ?_ (not_overrides hends hasks)
    rw [hmove]
    dsimp only
    split
    · exact (sameMode_transmit engine _).trans (hreport _ (by simp) _)
    · exact .refl _
  | identifyCommand =>
    rw [hproperty] at hmove hends
    refine .same ?_ (not_overrides hends hasks)
    rw [hmove]
    exact (sameMode_identify engine _).trans (hreport _ (by simp) _)
  | flushCommand =>
    rw [hproperty] at hmove hends
    dsimp only at hmove hends
    split at hmove
    · next hwish =>
      rw [if_pos hwish] at hends
      refine .of_showsEnds hshows hasks ?_
      rw [hmove, hends]
      exact (engine.discovery.course_flush delta.device).showsEnds
    · next hwish =>
      rw [if_neg hwish] at hends
      exact .of_eq hmove (not_overrides hends hasks)
  | _ =>
    rw [hproperty] at hmove hends
    exact .of_eq hmove (not_overrides hends hasks)

/-! ### Every move -/

theorem modeMove_receive (hshows : engine.site.ShowsMode) (frame : List UInt8) :
    engine.ModeMove (.receive frame) := by
  by_cases hmissing : ∃ map, Report.decode frame = .ok (.missingNodes map)
  · obtain ⟨map, hmap⟩ := hmissing
    have hcounted : engine.discovery.ShowsEnds (engine.counted frame).discovery [] :=
      Discovery.showsEnds_of_platform _ rfl rfl
    have hreceive : engine.move (.receive frame) = _ := receive_missingNodes engine hmap
    refine .of_showsEnds hshows id ?_
    rw [hreceive, endings_receive_of_missing engine hmap]
    exact hcounted.trans ((engine.counted frame).discovery.course_receiveMissing map).showsEnds
  · have hother (map : SidMap) : Report.decode frame ≠ .ok (.missingNodes map) :=
      fun hmap => hmissing ⟨map, hmap⟩
    exact .same (sameMode_receive engine hother)
      (not_overrides (endings_receive_of_other engine hother) id)

theorem modeMove_control (hshows : engine.site.ShowsMode) {operation : Control}
    (hsingle : (Move.control operation).Single) : engine.ModeMove (.control operation) := by
  cases operation with
  | beginScan delete => exact modeMove_beginScan hshows delete
  | stopScan => exact .of_showsEnds hshows id engine.discovery.course_stopTest.showsEnds
  | issueTest => exact .same (sameMode_issueTest engine) (not_overrides rfl id)
  | learn enabled seconds =>
    exact .of_setLearnMode enabled seconds (.refl _) hshows (.refl _) (not_overrides rfl id)
  | leave => exact .same (.refl _) (not_overrides rfl id)
  | flushAll => exact .of_showsEnds hshows id engine.discovery.showsEnds_flushAll
  | flush device => exact .of_showsEnds hshows id (engine.discovery.course_flush device).showsEnds
  | identify device => exact .same (sameMode_identify engine device) (not_overrides rfl id)
  | silenceAll | locate | sounder =>
    exact .same (sameMode_transmit engine _) (not_overrides rfl id)
  | deltas => exact absurd hsingle id

/-- A timer that is none of the test ends learn mode, or it leaves the mode as it is. -/
theorem modeMove_fire (hshows : engine.site.ShowsMode) {timer : Timer} {rest : TimerQueue}
    (hmove : engine.move .expire = (engine.popped rest).fire timer.kind)
    (hplace : timer.kind.place ≠ .missing) (hkeeps : ¬ engine.Overrides .expire) :
    engine.ModeMove .expire := by
  let site := (engine.popped rest).site
  cases hkind : timer.kind with
  | retrieveSidMap =>
    let d : Discovery := { engine.discovery with refreshTimer := none, site := site }
    have hpopped : engine.discovery.SameMode d := Discovery.sameMode_of_platform rfl rfl
    refine .same ?_ hkeeps
    rw [hmove, hkind]
    exact hpopped.trans d.sameMode_refresh
  | learnModeTimeout =>
    let d : Discovery := { engine.discovery with learnTimer := none, site := site }
    have hpopped : engine.discovery.SameMode d := Discovery.sameMode_of_platform rfl rfl
    refine .of_setLearnMode false 0 hpopped hshows ?_ hkeeps
    rw [hmove, hkind]
    exact .refl _
  | interrogate =>
    let d : Discovery := { engine.discovery with interrogateTimer := none, site := site }
    have hpopped : engine.discovery.SameMode d := Discovery.sameMode_of_platform rfl rfl
    refine .same ?_ hkeeps
    rw [hmove, hkind]
    exact hpopped.trans d.sameMode_continueInterrogation
  | faultTimeout id | alarmTimeout id =>
    refine .same ?_ hkeeps
    rw [hmove, hkind]
    exact ⟨Correlator.shownMode_onTimeout ⟨engine.incidents, site⟩ _, rfl⟩
  | _ => simp [hkind, TimerKind.place] at hplace

theorem modeMove_expire (hshows : engine.site.ShowsMode) : engine.ModeMove .expire := by
  cases hpop : engine.site.timers.popExpired engine.site.clock.now with
  | mk popped rest =>
    have hdue := popDue_eq engine hpop
    cases popped with
    | none =>
      have hends : engine.expireEnds = [] := by
        unfold expireEnds
        rw [hdue]
        rfl
      exact .of_eq (expire_of_none hdue) (not_overrides hends id)
    | some timer =>
      by_cases hplace : timer.kind.place = .missing
      · obtain ⟨d, hfires, hends, hexpire⟩ := expireEnds_of_due engine (by rw [hdue]; rfl) hplace
        have hfound : engine.discovery.ShowsEnds d [] := by
          obtain ⟨rest, rfl⟩ := hfires.eq
          exact Discovery.showsEnds_of_platform _ rfl rfl
        have hmove : engine.move .expire = _ := hexpire
        have hendings : engine.endings .expire = _ := hends
        refine .of_showsEnds hshows id ?_
        rw [hmove, hendings]
        exact hfound.trans (d.showsEnds_fireTest _)
      · have hends : engine.expireEnds = [] := by
          unfold expireEnds
          rw [hdue]
          exact if_neg hplace
        exact modeMove_fire hshows (expire_of_some hdue) hplace (not_overrides hends id)

/-- Whatever a move that deals with one thing does, it is one of these. -/
theorem modeMove (hshows : engine.site.ShowsMode) (hsingle : move.Single) :
    engine.ModeMove move := by
  cases move with
  | receive frame => exact modeMove_receive hshows frame
  | control operation => exact modeMove_control hshows hsingle
  | wish delta =>
    by_cases hgateway : delta.device.isGateway
    · exact modeMove_gatewayWish hshows hgateway
    · exact modeMove_deviceWish hshows hgateway
  | expire => exact modeMove_expire hshows
  | fireDue => exact absurd hsingle id
  | desire device property value =>
    have hshown := Site.shownMode_desire engine.site device property value
    exact .same ⟨hshown, rfl⟩ (not_overrides rfl id)
  | advance | outages | share | contend =>
    exact .same ⟨rfl, rfl⟩ (not_overrides rfl id)

/-- Learn mode is shown only while it is on. -/
theorem ModeMove.learning_of_shown (h : engine.ModeMove move)
    (hbefore : engine.site.shownMode = some .learning → engine.network.learning)
    (hshown : (engine.move move).site.shownMode = some .learning) :
    (engine.move move).network.learning := by
  cases h with
  | same h =>
    have hlearning : (engine.move move).network.learning = engine.network.learning := h.learning
    exact hlearning ▸ hbefore (h.shown.symm.trans hshown)
  | switch _ hnow =>
    by_contra hoff
    rw [if_neg hoff, hshown] at hnow
    simp at hnow
  | overridden _ _ hother => exact absurd hshown hother

/-- As long as learn mode is on after a move, it is shown if the move entered it, or if it was shown
before and the move did not override that. -/
theorem ModeMove.shown_iff (h : engine.ModeMove move)
    (hon : (engine.move move).network.learning) :
    (engine.move move).site.shownMode = some .learning ↔ engine.EntersLearnMode move ∨
      engine.site.shownMode = some .learning ∧ engine.network.learning ∧
        ¬ engine.Overrides move := by
  cases h with
  | same h hkeeps =>
    have hshown : (engine.move move).site.shownMode = engine.site.shownMode := h.shown
    have hlearning : (engine.move move).network.learning = engine.network.learning := h.learning
    have hbefore : engine.network.learning = true := hlearning ▸ hon
    simp [EntersLearnMode, hshown, hbefore, hkeeps]
  | switch hchange hshown =>
    have hbefore : engine.network.learning = false := by
      by_contra hwas
      exact hchange (hon.trans (eq_true_of_ne_false hwas).symm)
    rw [if_pos hon] at hshown
    simp [EntersLearnMode, hshown, hbefore, hon]
  | overridden hover hlearning hshown =>
    have hbefore : engine.network.learning = true := hlearning ▸ hon
    simp [EntersLearnMode, hshown, hbefore, hover]

/-! ### Runs -/

/-- Some move of a run turned learn mode on, it has been on since, and no move since then showed
another mode. -/
def LearnsSince : Engine → List Move → Prop
  | _, [] => False
  | engine, move :: moves =>
    engine.EntersLearnMode move ∧
      Along (fun e => e.network.learning) (fun e m => ¬ e.Overrides m) (engine.move move) moves ∨
    LearnsSince (engine.move move) moves

theorem learnsSince_cons {moves : List Move} : engine.LearnsSince (move :: moves) ↔
    engine.EntersLearnMode move ∧
      Along (fun e => e.network.learning) (fun e m => ¬ e.Overrides m) (engine.move move) moves ∨
    (engine.move move).LearnsSince moves := .rfl

/-- A run shows learn mode if it was shown before and nothing overrode that, or if it was entered
in the run and nothing overrode that since. -/
theorem shownMode_moves {moves : List Move} (hsingles : ∀ move ∈ moves, move.Single)
    (hshows : Along (fun e => e.site.ShowsMode) (fun _ _ => True) engine moves)
    (hbefore : engine.site.shownMode = some .learning → engine.network.learning) :
    ((engine.moves moves).site.shownMode = some .learning ↔
      engine.site.shownMode = some .learning ∧
        Along (fun e => e.network.learning) (fun e m => ¬ e.Overrides m) engine moves ∨
      engine.LearnsSince moves) ∧
    ((engine.moves moves).site.shownMode = some .learning →
      (engine.moves moves).network.learning) := by
  induction moves generalizing engine with
  | nil => exact ⟨by simpa [LearnsSince, Along] using hbefore, hbefore⟩
  | cons move moves ih =>
    obtain ⟨hsingle, hrest⟩ := List.forall_mem_cons.1 hsingles
    obtain ⟨hhere, -, hafter⟩ := hshows
    have hmove := modeMove hhere hsingle
    obtain ⟨hshown, hon⟩ := ih hrest hafter (hmove.learning_of_shown hbefore)
    refine ⟨?_, hon⟩
    rw [moves_cons, hshown, learnsSince_cons]
    constructor
    · rintro (⟨hnow, hlasts⟩ | hsince)
      · rcases (hmove.shown_iff hlasts.head).1 hnow with henters | ⟨hwas, hlearning, hkeeps⟩
        · exact .inr (.inl ⟨henters, hlasts⟩)
        · exact .inl ⟨hwas, hlearning, hkeeps, hlasts⟩
      · exact .inr (.inr hsince)
    · rintro (⟨hwas, hlearning, hkeeps, hlasts⟩ | ⟨henters, hlasts⟩ | hsince)
      · exact .inl ⟨(hmove.shown_iff hlasts.head).2 (.inr ⟨hwas, hlearning, hkeeps⟩), hlasts⟩
      · exact .inl ⟨(hmove.shown_iff hlasts.head).2 (.inl henters), hlasts⟩
      · exact .inr hsince

/-! ### The wish to go back to running -/

/-- A wish to go back to running turns learn mode off if the gateway reports it, and otherwise
leaves it on. -/
theorem learning_wishMode {wish : Value} (hwish : Mode.ofValue? wish = some .running)
    (hon : engine.network.learning) : (engine.wishMode wish).network.learning = false ↔
      (engine.site.reported .gateway .mode).bind Mode.ofValue? = some .learning := by
  unfold wishMode
  rw [if_pos hwish]
  split
  · next hmode =>
    have hoff : (engine.onNetwork fun d => d.setLearnMode false 0).network.learning = false :=
      engine.discovery.learning_setLearnMode false 0
    simp [hmode, hoff]
  · next hmode =>
    have hsame : (engine.onNetwork fun d => d.setTestMode false false).network.learning =
        engine.network.learning := engine.discovery.course_stopTest.showsEnds.learning
    simp [hmode, hsame, hon]
  · next hother _ => simpa [hon] using hother

theorem move_wish_mode {delta : Delta} (hgateway : delta.device.isGateway)
    (hproperty : delta.property = .mode) :
    engine.move (.wish delta) = engine.wishMode delta.value := by
  show engine.applyDelta delta = _
  unfold applyDelta applyGatewayDelta
  rw [if_pos hgateway, hproperty]

end Engine

/-! ### The start -/

namespace Discovery

variable (d : Discovery)

theorem shownMode_start : d.start.site.shownMode = d.site.shownMode := by
  have hinit : d.start.site.shownMode = d.waiting.site.shownMode :=
    Site.shownMode_foldl (fun site id _ => Site.shownMode_initDevice site id) _
  have hwaiting : d.waiting.site.shownMode = d.unstarted.site.shownMode :=
    Site.shownMode_of_platform
      ((restartMissing_platform _ _ _).trans (Site.cancel_platform _ _))
  have hunstarted : d.unstarted.site.shownMode = d.site.shownMode :=
    (Site.shownMode_report (by simp) _).trans (Site.shownMode_report (by simp) _)
  rw [hinit, hwaiting, hunstarted]

theorem edits_start : d.site.Edits sweeping d.start.site := by
  have hunstarted : d.site.Edits sweeping d.unstarted.site :=
    (Site.edits_report _ (.inl rfl) _).trans (Site.edits_report _ (.inl rfl) _)
  have hwaiting : d.unstarted.site.Edits sweeping d.waiting.site :=
    (edits_restartRefresh _ _).trans (edits_restartMissing _ _ _)
  have hinit : d.waiting.site.Edits sweeping d.start.site :=
    .foldl (fun site id _ => Site.edits_initDevice site id) _
  exact (hunstarted.trans hwaiting).trans hinit

end Discovery

/-- The gateway starts running. -/
theorem shownMode_greeted {site : Site} (h : (greeted site).ShowsMode) :
    (greeted site).shownMode = some .running := by
  unfold greeted at h ⊢
  generalize Engine.initialValues.foldl Engine.reportInitial (Engine.registerGateway site) =
    ready at h ⊢
  have hsubscribed : (ready.report .gateway .mode Mode.running.value).Edits sweeping
      (Engine.subscriptions.foldl (fun site property => site.subscribe .gateway property)
        (ready.report .gateway .mode Mode.running.value)) :=
    .foldl (fun site property _ => Site.edits_subscribe site .gateway property) _
  have hready : ready.ShowsMode :=
    h.before ((Site.edits_report _ (.inl rfl) _).trans hsubscribed)
  exact (Site.shownMode_foldl
    (fun site property _ => Site.shownMode_subscribe site .gateway property) _).trans
      (Site.shownMode_report_mode hready .running)

theorem shownMode_started (settings : Config.Settings) (platform : Shadow.Platform)
    (pool : Link.Pool) (clock : Clock) (contention : List Bool)
    (h : (Engine.started settings platform pool clock contention).site.ShowsMode) :
    (Engine.started settings platform pool clock contention).site.shownMode = some .running := by
  unfold Engine.started at h ⊢
  rw [start_eq] at h ⊢
  generalize Engine.ofSettings settings _ = new at h ⊢
  have hgreeted := @shownMode_greeted new.site
  generalize greeted new.site = site at h hgreeted ⊢
  let d : Discovery := ⟨new.network, site⟩
  have hstarted : d.start.site.ShowsMode := h
  have hsite : site.ShowsMode := hstarted.before d.edits_start
  exact d.shownMode_start.trans (hgreeted hsite)

/-! ### What is shown tells -/

/-- What the mode that is shown after a run tells of learn mode. -/
structure Engine.TellsLearning (first last : Engine) (moves : List Move) : Prop where
  /-- Learn mode is shown if it was entered, is on since, and no session ended and no test was
  openly asked for since; and otherwise it is not, whether it is on or not. -/
  shown : last.site.shownMode = some .learning ↔ first.LearnsSince moves
  /-- It is shown only while it is on. -/
  on : last.site.shownMode = some .learning → last.network.learning
  /-- While it is on, a wish to go back to running turns it off exactly if it is shown. -/
  wish : last.network.learning → last.site.platform.isDown .getReported (some .mode) = false →
    ∀ delta : Delta, delta.device.isGateway → delta.property = .mode →
      Mode.ofValue? delta.value = some .running →
      ((last.move (.wish delta)).network.learning = false ↔ last.site.shownMode = some .learning)

/-- From the start on, as long as the gateway is registered and can report its mode. -/
theorem tellsLearning (settings : Config.Settings) (platform : Shadow.Platform)
    (pool : Link.Pool) (clock : Clock) (contention : List Bool) (moves : List Move) :
    let first := Engine.started settings platform pool clock contention
    Engine.Along (fun e => e.site.ShowsMode) (fun _ _ => True) first (first.steps moves) →
      first.TellsLearning (first.moves moves) (first.steps moves) := by
  intro first hshows
  have hstart : first.site.shownMode = some .running :=
    shownMode_started settings platform pool clock contention hshows.head
  have hother : first.site.shownMode ≠ some .learning := by simp [hstart]
  obtain ⟨hshown, hon⟩ := Engine.shownMode_moves (fun _ => Engine.single_of_mem_steps) hshows
    fun hlearning => absurd hlearning hother
  rw [Engine.moves_steps] at hshown hon
  refine ⟨hshown.trans (or_iff_right fun hwas => hother hwas.1), hon, ?_⟩
  intro hlearning hup delta hgateway hproperty hwish
  rw [Engine.move_wish_mode hgateway hproperty, Engine.learning_wishMode hwish hlearning,
    Site.reported_eq_stored hup]
  rfl

/-- A test begins, learn mode is entered without a limit, and the test ends. -/
def learningThroughTest : List Move :=
  [.receive [0xd4, 3, 0xe1, 0, 0, 0, 0, 0, 0, 0], .control (.beginScan false),
    .control (.learn true 0), .receive emptyReport]

/-- The wish to go back to running. -/
def runningWished : Delta := ⟨.gateway, .mode, Mode.running.value⟩

/-- The end of the test shows that the gateway is running.  Learn mode stays on, and a wish does not
turn it off. -/
theorem tellsLearning_throughTest :
    let first := Engine.started {} threeDevices (.ofSlots 10) { unix := 0 } []
    Engine.Along (fun e => e.site.ShowsMode) (fun _ _ => True) first
        (first.steps learningThroughTest) ∧
      (first.moves learningThroughTest).network.learning ∧
      ¬ first.LearnsSince (first.steps learningThroughTest) ∧
      ((first.moves learningThroughTest).move (.wish runningWished)).network.learning := by
  intro first
  have hshows : Engine.Along (fun e => e.site.ShowsMode) (fun _ _ => True) first
      (first.steps learningThroughTest) := by decide +kernel
  have hon : (first.moves learningThroughTest).network.learning := by decide +kernel
  have hup : (first.moves learningThroughTest).site.platform.isDown .getReported (some .mode) =
      false := by decide +kernel
  have hhidden : (first.moves learningThroughTest).site.shownMode ≠ some .learning := by
    decide +kernel
  have hwish : Mode.ofValue? runningWished.value = some .running := by decide
  have htells : first.TellsLearning (first.moves learningThroughTest)
      (first.steps learningThroughTest) :=
    tellsLearning {} threeDevices (.ofSlots 10) { unix := 0 } [] learningThroughTest hshows
  have hstays := mt (htells.wish hon hup runningWished rfl rfl hwish).1 hhidden
  exact ⟨hshows, hon, mt htells.shown.2 hhidden, eq_true_of_ne_false hstays⟩

end AlarmMesh.Gateway
