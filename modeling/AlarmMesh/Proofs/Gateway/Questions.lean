import AlarmMesh.Proofs.Gateway.TestMove
import AlarmMesh.Proofs.Gateway.Verdict

/-!
# Questions during a session

A session comes before the interrogation of unknown slots: no interrogation begins while one is
running, and a test that is asked for ends the interrogation.  But a session that begins in another
way, to remove devices or because the time for a test has come, leaves the interrogation as it is,
and neither its timer nor the identities that arrive look at the session.  So the questions go on.

* `Engine.question?` — the question that a move asks while a session is running;
* `asked_move` — it is asked, and no other;
* `interrogation_move` — what leaves the interrogation as it is;
* `Engine.AsksInSession`, `asksInSession` — what all of this says of a reachable engine.
-/

namespace AlarmMesh.Gateway

open Radio (DeviceId Identity Report)
open Shadow (Mode Property Value)

namespace Discovery

variable (d : Discovery)

/-- The slot that is asked when the interrogation goes on, if there is one and a buffer is free. -/
def nextQuestion : Option UInt8 :=
  if d.interrogation.active && d.site.hasBuffer then d.nextUnknown.1 else none

theorem nextQuestion_of_inactive (h : d.interrogation.active = false) : d.nextQuestion = none :=
  if_neg (by simp [h])

theorem nextQuestion_cancelInterrogate : d.cancelInterrogate.nextQuestion = d.nextQuestion := by
  unfold cancelInterrogate
  cases d.interrogateTimer <;> rfl

theorem continueInterrogation_of_inactive (h : d.interrogation.active = false) :
    d.continueInterrogation = d :=
  if_neg (ne_true_of_eq_false h)

theorem asked_continueInterrogation :
    d.continueInterrogation.site.asked = d.nextQuestion.toList ++ d.site.asked := by
  by_cases hactive : d.interrogation.active
  · have hsend (d : Discovery) (sid : UInt8) :
        (d.transmit (.requestRemoteId sid)).site.asked =
          (if d.site.hasBuffer then [sid] else []) ++ d.site.asked :=
      Site.asked_send d.site _
    have hrestart (d : Discovery) (delay : Duration) :
        (d.restartInterrogate delay).site.asked = d.site.asked :=
      view_restartInterrogate (s := .questions) d delay
    have hend (d : Discovery) : (d.setInterrogating false).site.asked = d.site.asked :=
      view_setInterrogating (s := .questions) d false
    unfold continueInterrogation nextQuestion
    rw [if_pos hactive]
    dsimp only
    cases d.nextUnknown.1 with
    | none => simp [hend]
    | some sid =>
      dsimp only
      rw [hrestart, hsend]
      cases d.site.hasBuffer <;> simp [hactive]
  · have hoff := eq_false_of_ne_true hactive
    rw [continueInterrogation_of_inactive d hoff, nextQuestion_of_inactive d hoff]
    rfl

theorem asked_receiveRemoteId (identity : Identity) : (d.receiveRemoteId identity).site.asked =
    (d.receiveIdentity identity .online false).nextQuestion.toList ++ d.site.asked := by
  have hidentity : (d.receiveIdentity identity .online false).site.asked = d.site.asked :=
    view_receiveIdentity (s := .questions) d identity .online false trivial
  unfold receiveRemoteId
  generalize d.receiveIdentity identity .online false = told at hidentity ⊢
  dsimp only
  rw [← hidentity]
  split
  · have hcancel : told.cancelInterrogate.site.asked = told.site.asked :=
      view_cancelInterrogate (s := .questions) told
    rw [asked_continueInterrogation, nextQuestion_cancelInterrogate, hcancel]
  · next hactive =>
    rw [nextQuestion_of_inactive told (eq_false_of_ne_true hactive)]
    rfl

end Discovery

namespace Engine

variable (engine : Engine)

/-- The slot that a move asks while a session is running: its timer continues the interrogation,
and so does an identity that was asked for. -/
def question? : Move → Option UInt8
  | .receive frame =>
    match engine.accepted? frame with
    | some (.remoteId identity) =>
      ((engine.noted frame (.remoteId identity)).discovery.receiveIdentity identity .online
        false).nextQuestion
    | _ => none
  | .expire => if engine.popDue.1 = some .interrogate then engine.discovery.nextQuestion else none
  | _ => none

variable {engine} {move : Move}

theorem network_noted (frame : List UInt8) (report : Report) :
    (engine.noted frame report).network = engine.network :=
  congrArg (fun e => e.network) (engine.noted_eq frame report)

/-- What goes on with the interrogation. -/
theorem touches_of_question (h : engine.question? move ≠ none) :
    engine.Touches .questions move := by
  cases move with
  | receive frame =>
    unfold question? at h
    dsimp only at h
    split at h
    · next identity haccepted =>
      refine ⟨_, haccepted, .inr ⟨rfl, ?_⟩⟩
      by_contra hoff
      refine h (Discovery.nextQuestion_of_inactive _ ?_)
      rw [Discovery.interrogation_receiveIdentity]
      exact (congrArg (fun network => network.interrogation.active)
        (network_noted frame (.remoteId identity))).trans (eq_false_of_ne_true hoff)
    · exact absurd rfl h
  | expire =>
    by_cases hdue : engine.popDue.1 = some .interrogate
    · refine ⟨hdue, rfl, ?_⟩
      by_contra hoff
      exact h ((if_pos hdue).trans
        (Discovery.nextQuestion_of_inactive _ (eq_false_of_ne_true hoff)))
    · exact absurd (if_neg hdue) h
  | _ => exact absurd rfl h

/-- A move that does not touch the questions asks none. -/
theorem asked_of_not_touches (hsingle : move.Single) (h : ¬ engine.Touches .questions move) :
    (engine.move move).site.asked = engine.site.asked :=
  view_move (s := .questions) hsingle h (.inl ⟨trivial, fun _ hid => hid.elim⟩)

/-- While a session is running, a move asks its question and no other. -/
theorem asked_move (hactive : engine.network.scan.active) (hsingle : move.Single) :
    (engine.move move).site.asked = (engine.question? move).toList ++ engine.site.asked := by
  by_cases htouches : engine.Touches .questions move
  · cases move with
    | receive frame =>
      obtain ⟨report, haccepted, htouched⟩ := htouches
      have hnoted : (engine.noted frame report).site.asked = engine.site.asked :=
        view_noted (s := .questions) engine frame report
      show (engine.receive frame).site.asked = _
      rw [receive_of_accepted engine haccepted, ← hnoted]
      unfold question?
      dsimp only
      rw [haccepted]
      cases report with
      | remoteId identity => exact Discovery.asked_receiveRemoteId _ identity
      | sidMap => simp [TouchedBy, hactive] at htouched
      | sidMapUpdate => obtain ⟨id, -, hof, -⟩ := htouched; exact hof.elim
      | deviceTested => exact absurd trivial htouched
      | _ => exact htouched.elim
    | expire =>
      obtain ⟨hdue, -, -⟩ := htouches
      unfold question?
      rw [if_pos hdue]
      cases hpop : engine.popDue with
      | mk popped rest =>
        obtain rfl : popped = some .interrogate := by rw [← hdue, hpop]
        obtain rfl : rest = engine.popDue.2 := by rw [hpop]
        show engine.expire.site.asked = _
        rw [expire_of_some hpop]
        exact Discovery.asked_continueInterrogation
          { engine.popDue.2.discovery with interrogateTimer := none }
    | desire => exact Subject.noConfusion htouches.1
    | _ => exact htouches.elim
  · have hnone : engine.question? move = none := by
      by_contra hsome
      exact htouches (touches_of_question hsome)
    rw [asked_of_not_touches hsingle htouches, hnone]
    rfl

/-! ### Whether the interrogation is on -/

end Engine

namespace Discovery

variable (d : Discovery)

theorem TestStep.interrogation {d d' : Discovery} (h : d.TestStep d') :
    d'.interrogation = d.interrogation :=
  congrArg (fun network => network.interrogation) h.network

theorem interrogation_refresh : d.refresh.interrogation = d.interrogation := by
  unfold refresh
  dsimp only
  split <;> rfl

theorem interrogation_setLearnMode (enabled : Bool) (seconds : Nat) :
    (d.setLearnMode enabled seconds).interrogation = d.interrogation := by
  unfold setLearnMode enterLearnMode
  split
  · rfl
  split
  · dsimp only
    split
    · split <;> rfl
    · split <;> rfl
  · rfl

/-- No interrogation begins or ends while a session is running. -/
theorem interrogation_receiveSidMap (map : Radio.SidMap) (h : d.scan.active) :
    (d.receiveSidMap map).interrogation = d.interrogation := by
  let joined := { d with inNetwork := map.inNetwork }.report .inNetwork (.bool map.inNetwork)
  have hasked : joined.requestDiagnostics.interrogation = d.interrogation := by
    unfold requestDiagnostics
    rw [send_eq]
    split
    · cases joined.site.hasBuffer <;> rfl
    · rfl
  have hscan : joined.requestDiagnostics.scan = d.scan := requestDiagnostics_scan joined
  unfold receiveSidMap checkInterrogation
  dsimp only
  rw [if_pos (by exact (congrArg Scan.active hscan).trans h)]
  exact hasked

/-- A session that is asked for while none is running ends the interrogation. -/
theorem interrogation_setTestMode (delete : Bool) (h : d.scan.active = false) :
    (d.setTestMode true delete).interrogation.active = false := by
  let chosen : Discovery := { d with scan := { d.scan with delete := delete } }
  have hstart : d.setTestMode true delete = chosen.startTest := setTestMode_of_waiting d h delete
  have hoff : chosen.suspendInterrogation.clearTestResult.interrogation.active = false := rfl
  rw [hstart]
  unfold startTest
  dsimp only
  split
  · rw [((testStep_cancelMissing _).trans (testStep_beginSession _)).interrogation]
    exact hoff
  · exact hoff

/-- To stop a session leaves the interrogation as it is. -/
theorem interrogation_stopTest (delete : Bool) :
    (d.setTestMode false delete).interrogation = d.interrogation := by
  let chosen : Discovery := { d with scan := { d.scan with delete := delete } }
  unfold setTestMode
  dsimp only
  split
  · rfl
  · exact chosen.testStep_cancelSession.interrogation

end Discovery

namespace Engine

variable {engine : Engine} {move : Move}

theorem interrogation_dispatch {report : Report} (frame : List UInt8)
    (h : ¬ engine.TouchedBy .questions report) :
    (engine.dispatch report frame).network.interrogation = engine.network.interrogation := by
  unfold dispatch
  cases report with
  | sidMap map =>
    refine engine.discovery.interrogation_receiveSidMap map (eq_true_of_ne_false fun hidle => ?_)
    exact h ⟨rfl, hidle⟩
  | missingNodes map => exact (engine.discovery.testStep_receiveMissing map).interrogation
  | deviceTested identity =>
    exact engine.discovery.interrogation_receiveIdentity identity .unknown true
  | remoteId identity =>
    have hoff : ¬ engine.network.interrogation.active := fun hon => h (.inr ⟨rfl, hon⟩)
    have hsame := engine.discovery.interrogation_receiveIdentity identity .online false
    show (engine.discovery.receiveRemoteId identity).interrogation = _
    unfold Discovery.receiveRemoteId
    dsimp only
    rw [if_neg (by rw [hsame]; exact hoff)]
    exact hsame
  | _ => rfl

theorem interrogation_receive {frame : List UInt8}
    (h : ¬ engine.Touches .questions (.receive frame)) :
    (engine.receive frame).network.interrogation = engine.network.interrogation := by
  cases haccepted : engine.accepted? frame with
  | none =>
    obtain ⟨site, hreceive, -⟩ := receive_of_ignored engine haccepted
    rw [hreceive]
  | some report =>
    have hnoted : (engine.noted frame report).network = engine.network :=
      network_noted frame report
    rw [receive_of_accepted engine haccepted]
    refine (interrogation_dispatch frame fun htouched => ?_).trans
      (congrArg (fun network => network.interrogation) hnoted)
    exact h ⟨report, haccepted, touchedBy_noted engine htouched⟩

theorem interrogation_expire (h : ¬ engine.Touches .questions .expire) :
    engine.expire.network.interrogation = engine.network.interrogation := by
  cases hpop : engine.site.timers.popExpired engine.site.clock.now with
  | mk popped rest =>
    have hdue := popDue_eq engine hpop
    cases popped with
    | none => rw [expire_of_none hdue]
    | some timer =>
      by_cases hplace : timer.kind.place = .missing
      · obtain ⟨d, hfires, hexpire⟩ := expire_of_due engine (by rw [hdue]; rfl) hplace
        have hfound : d.interrogation = engine.network.interrogation := by
          obtain ⟨rest, rfl⟩ := hfires.eq
          rfl
        rw [hexpire]
        exact (d.testStep_fireTest timer.kind).interrogation.trans hfound
      · rw [expire_of_some hdue]
        cases hkind : timer.kind with
        | retrieveSidMap => exact Discovery.interrogation_refresh _
        | learnModeTimeout => exact Discovery.interrogation_setLearnMode _ false 0
        | interrogate =>
          have hoff : ¬ engine.network.interrogation.active := fun hon =>
            h ⟨by rw [hdue, ← hkind]; rfl, rfl, hon⟩
          let found := { (engine.popped rest).discovery with interrogateTimer := none }
          exact congrArg (fun d : Discovery => d.interrogation)
            (found.continueInterrogation_of_inactive (eq_false_of_ne_true hoff))
        | faultTimeout | alarmTimeout => rfl
        | _ => simp [hkind, TimerKind.place] at hplace

theorem interrogation_onNetwork {f : Discovery → Discovery}
    (h : engine.discovery.TestStep (f engine.discovery)) :
    (engine.onNetwork f).network.interrogation = engine.network.interrogation := h.interrogation

theorem network_issueTest : engine.issueTest.network = engine.network := by
  unfold issueTest
  split
  · rfl
  split <;> rfl

theorem network_identify (id : DeviceId) : (engine.identify id).network = engine.network := by
  unfold identify
  split <;> rfl

theorem interrogation_wishLearn (wish : Value) :
    (engine.wishLearn wish).network.interrogation = engine.network.interrogation := by
  unfold wishLearn
  dsimp only
  split
  · exact engine.discovery.interrogation_setLearnMode true _
  · exact (engine.report .learnCommand wish).discovery.interrogation_setLearnMode false 0

theorem interrogation_wishMode (wish : Value) :
    (engine.wishMode wish).network.interrogation = engine.network.interrogation := by
  unfold wishMode
  split
  · split
    · exact engine.discovery.interrogation_setLearnMode false 0
    · exact engine.discovery.interrogation_stopTest false
    · rfl
  · rfl

theorem interrogation_applyDelta (delta : Delta) (h : ¬ (Move.wish delta).RequestsTest) :
    (engine.applyDelta delta).network.interrogation = engine.network.interrogation := by
  unfold applyDelta
  split
  · next hgateway =>
    unfold applyGatewayDelta
    cases hproperty : delta.property with
    | testModeCommand => exact absurd ⟨hgateway, hproperty⟩ h
    | learnCommand => exact interrogation_wishLearn _
    | mode => exact interrogation_wishMode _
    | deleteAllCommand => exact interrogation_onNetwork (Discovery.testStep_flushAll _)
    | sounderTestCommand =>
      exact congrArg (fun network => network.interrogation) network_issueTest
    | _ => rfl
  · unfold applyDeviceDelta
    cases delta.property with
    | mute =>
      dsimp only
      split <;> rfl
    | identifyCommand =>
      exact congrArg (fun network => network.interrogation) (network_identify _)
    | flushCommand =>
      dsimp only
      split
      · exact interrogation_onNetwork (Discovery.testStep_flush _ _)
      · rfl
    | _ => rfl

/-- Only the interrogation itself and the request for a test turn the interrogation on or off or
move it on. -/
theorem interrogation_move (hsingle : move.Single) (hrequest : ¬ move.RequestsTest)
    (htouches : ¬ engine.Touches .questions move) :
    (engine.move move).network.interrogation = engine.network.interrogation := by
  cases move with
  | receive frame => exact interrogation_receive htouches
  | control operation =>
    cases operation with
    | beginScan => exact absurd trivial hrequest
    | stopScan => exact engine.discovery.interrogation_stopTest false
    | issueTest => exact congrArg (fun network => network.interrogation) network_issueTest
    | learn enabled seconds => exact engine.discovery.interrogation_setLearnMode enabled seconds
    | flushAll => exact interrogation_onNetwork (Discovery.testStep_flushAll _)
    | flush id => exact interrogation_onNetwork (Discovery.testStep_flush _ id)
    | identify id => exact congrArg (fun network => network.interrogation) (network_identify id)
    | deltas => exact absurd hsingle id
    | leave | silenceAll | locate | sounder => rfl
  | wish delta => exact interrogation_applyDelta delta hrequest
  | expire => exact interrogation_expire htouches
  | fireDue => exact absurd hsingle id
  | advance | desire | outages | share | contend => rfl

/-! ### When a session begins -/

/-- The interrogation does not concern the test. -/
theorem scan_of_touches (h : engine.Touches .questions move) :
    (engine.move move).network.scan = engine.network.scan := by
  cases move with
  | receive frame =>
    obtain ⟨report, haccepted, htouched⟩ := h
    have hdecode := engine.decode_of_accepted haccepted
    refine (engine.beside_receive fun map hmap => ?_).scan
    obtain rfl : report = .missingNodes map := Except.ok.inj (hdecode.symm.trans hmap)
    exact htouched
  | expire =>
    obtain ⟨hdue, -, -⟩ := h
    cases hpop : engine.site.timers.popExpired engine.site.clock.now with
    | mk popped rest =>
      have hpopped := popDue_eq engine hpop
      rw [hpopped] at hdue
      obtain ⟨timer, rfl, hkind⟩ := Option.map_eq_some_iff.1 hdue
      have hplace : timer.kind.place ≠ .missing := by simp [hkind, TimerKind.place]
      show engine.expire.network.scan = _
      rw [expire_of_some hpopped]
      exact (aside_fire hpop hplace).1.scan
  | desire => exact Subject.noConfusion h.1
  | _ => exact h.elim

/-- A session that is begun by the request for a test ends the interrogation. -/
theorem inactive_of_request (hidle : engine.network.scan.active = false)
    (hactive : (engine.move move).network.scan.active) (h : move.RequestsTest) :
    (engine.move move).network.interrogation.active = false := by
  cases move with
  | control operation =>
    cases operation with
    | beginScan delete => exact engine.discovery.interrogation_setTestMode delete hidle
    | _ => exact h.elim
  | wish delta =>
    rw [move_wish_of_request h] at hactive ⊢
    unfold wishTest at hactive ⊢
    split
    · next hnone =>
      simp only [hnone] at hactive
      exact absurd (hidle.symm.trans hactive) Bool.false_ne_true
    · next delete _ =>
      exact (engine.report .mode Mode.testMode.value).discovery.interrogation_setTestMode
        delete hidle
  | _ => exact h.elim

/-- The request for a test means little while a session is running. -/
theorem interrogation_request (hactive : engine.network.scan.active) (h : move.RequestsTest) :
    (engine.move move).network.interrogation = engine.network.interrogation := by
  have hstay (engine : Engine) (delete : Bool) (hactive : engine.network.scan.active) :
      (engine.discovery.setTestMode true delete).interrogation = engine.network.interrogation :=
    congrArg (fun d : Discovery => d.interrogation)
      (engine.discovery.setTestMode_of_active hactive delete)
  cases move with
  | control operation =>
    cases operation with
    | beginScan delete => exact hstay engine delete hactive
    | _ => exact h.elim
  | wish delta =>
    rw [move_wish_of_request h]
    unfold wishTest
    split
    · rfl
    · next delete _ => exact hstay (engine.report .mode Mode.testMode.value) delete hactive
  | _ => exact h.elim

/-- While a session is running, only an interrogation that is on can be touched. -/
theorem active_of_touches (hactive : engine.network.scan.active)
    (h : engine.Touches .questions move) : engine.network.interrogation.active := by
  cases move with
  | receive frame =>
    obtain ⟨report, -, htouched⟩ := h
    cases report with
    | sidMap => exact absurd (htouched.2.symm.trans hactive) Bool.false_ne_true
    | sidMapUpdate => exact htouched.elim fun _ hof => hof.2.1.elim
    | deviceTested => exact absurd trivial htouched
    | remoteId => exact (htouched.resolve_left (not_not_intro trivial)).2
    | _ => exact htouched.elim
  | expire => exact h.2.2
  | desire => exact Subject.noConfusion h.1
  | _ => exact h.elim

/-- An interrogation that is off stays so while a session is running. -/
theorem inactive_move (hactive : engine.network.scan.active) (hsingle : move.Single)
    (hoff : engine.network.interrogation.active = false) :
    (engine.move move).network.interrogation.active = false := by
  have hquiet : ¬ engine.Touches .questions move := fun htouches =>
    absurd (hoff.symm.trans (active_of_touches hactive htouches)) Bool.false_ne_true
  by_cases hrequest : move.RequestsTest
  · rw [interrogation_request hactive hrequest]
    exact hoff
  · rw [interrogation_move hsingle hrequest hquiet]
    exact hoff

theorem asked_of_inactive (hactive : engine.network.scan.active) (hsingle : move.Single)
    (hoff : engine.network.interrogation.active = false) :
    (engine.move move).site.asked = engine.site.asked :=
  asked_of_not_touches hsingle fun htouches =>
    absurd (hoff.symm.trans (active_of_touches hactive htouches)) Bool.false_ne_true

/-! ### Every reachable engine -/

/-- What is asked while sessions run. -/
structure AsksInSession (engine : Engine) : Prop where
  /-- While a session is running, a move asks its question and no other. -/
  asked : engine.network.phase ≠ .idle → ∀ move : Move, move.Single →
    (engine.move move).site.asked = (engine.question? move).toList ++ engine.site.asked
  /-- With the beginning of a session nothing is asked.  The request for a test ends the
  interrogation; whatever else begins a session leaves it as it is. -/
  begun : engine.network.phase = .idle → ∀ move : Move, move.Single →
    (engine.move move).network.phase ≠ .idle →
      (engine.move move).site.asked = engine.site.asked ∧
      (move.RequestsTest → (engine.move move).network.interrogation.active = false) ∧
      (¬ move.RequestsTest →
        (engine.move move).network.interrogation = engine.network.interrogation)
  /-- If the interrogation is off, it stays so and nothing is asked until the session ends. -/
  silent : engine.network.interrogation.active = false → ∀ moves : List Move,
    Along (fun _ => True) (fun engine move => engine.network.phase ≠ .idle ∧ move.Single)
      engine moves →
      (engine.moves moves).network.interrogation.active = false ∧
        (engine.moves moves).site.asked = engine.site.asked
  /-- If it is on, the timer of the next question is running. -/
  timed : engine.network.interrogation.active →
    ∃ timer ∈ engine.site.timers.live, timer.kind = .interrogate

/-- An interrogation that is on has its timer. -/
theorem exists_interrogate (h : engine.Tended) (hon : engine.network.interrogation.active) :
    ∃ timer ∈ engine.site.timers.live, timer.kind = .interrogate := by
  obtain ⟨handle, hhandle⟩ := Option.isSome_iff_exists.1 (h.regular.interrogate.trans hon)
  have hlive := h.tied.map_handle_liveAt .interrogate
  rw [show held engine.network engine.incidents .interrogate = some handle from hhandle] at hlive
  obtain ⟨timer, htimer, -⟩ := List.mem_map.1
    (show handle ∈ (engine.site.timers.liveAt .interrogate).map Timer.handle by simp [hlive])
  obtain ⟨hmem, hplace⟩ := List.mem_filter.1 htimer
  refine ⟨timer, hmem, ?_⟩
  cases hkind : timer.kind <;> simp_all [TimerKind.place]

end Engine

/-- Every reachable engine asks as told during sessions. -/
theorem asksInSession {settings : Config.Settings} {engine : Engine}
    (h : Reachable settings engine) : engine.AsksInSession where
  asked hrunning _ hsingle := Engine.asked_move (Engine.active_of_phase hrunning) hsingle
  begun hidle move hsingle hrunning := by
    have hinactive := Network.phase_eq_idle.1 hidle
    have hactive := Engine.active_of_phase hrunning
    have hquiet : ¬ engine.Touches .questions move := fun htouches => by
      rw [Engine.scan_of_touches htouches, hinactive] at hactive
      cases hactive
    exact ⟨Engine.asked_of_not_touches hsingle hquiet,
      Engine.inactive_of_request hinactive hactive,
      fun hrequest => Engine.interrogation_move hsingle hrequest hquiet⟩
  silent hoff moves halong := by
    refine Engine.along_induct (I := fun e => e.network.interrogation.active = false ∧
      e.site.asked = engine.site.asked) (fun e move _ hmove _ ⟨hoff, hsame⟩ => ?_) halong
      ⟨hoff, rfl⟩
    have hactive := Engine.active_of_phase hmove.1
    exact ⟨Engine.inactive_move hactive hmove.2 hoff,
      (Engine.asked_of_inactive hactive hmove.2 hoff).trans hsame⟩
  timed := Engine.exists_interrogate h.tended

/-- An engine that asks who is at the slots 0 and 4.  Meanwhile the device at slot 7 is to be
removed, and the map without it was sent twice. -/
def removing : Engine :=
  (Engine.started {} threeDevices (.ofSlots 10) { unix := 0 } []).moves
    [.receive [0xd4, 3, 0xf1, 0, 0, 0, 0, 0, 0, 0], .control (.flush (.ofNat 7)),
      .advance (.ofSeconds 60), .expire, .expire]

/-- The next question is asked although the session is still running. -/
theorem asksInSession_removing :
    Reachable {} removing ∧ removing.network.phase = .updatingMap ∧ removing.site.asked = [0] ∧
      (removing.move .expire).network.phase = .updatingMap ∧
      (removing.move .expire).site.asked = [4, 0] := by
  have hreachable : Reachable {} removing := (Reachable.start _ _ _ _).moves _
  have hphase : removing.network.phase = .updatingMap := by decide +kernel
  have hquestion : removing.question? .expire = some 4 := by decide +kernel
  have hbefore : removing.site.asked = [0] := by decide +kernel
  have hasked := (asksInSession hreachable).asked (by simp [hphase]) .expire trivial
  rw [hquestion, hbefore] at hasked
  exact ⟨hreachable, hphase, hbefore, by decide +kernel, hasked⟩

end AlarmMesh.Gateway
