import AlarmMesh.Proofs.Gateway.Course

/-!
# The countdown of the deletion of all devices

To delete all devices takes two sessions: the one that sends the empty map, and the test that
follows it.  The gateway counts them down, and when none is left it reports what was wished for.
It counts every session that ends, whatever the session was for and whatever led to its end.

* `Site.Tells value` — the value is wished for, and the report of it would arrive;
* `Discovery.Counts d d' ends` — a step of the test counts the sessions that it ends, or reports;
* `Course.counts` — so does the test as it goes on;
* `counts_fireTest` — with one more way to report: an attempt to begin a session in no network;
* `Engine.Reason`, `counts_move` — so does every move while the countdown is running.
-/

namespace AlarmMesh.Gateway

open Radio (DeviceId)
open Shadow (Mode Property Value)

/-! ### The wish -/

/-- The value is wished for as the report that all devices are deleted, and it can be read and
reported. -/
structure Site.Tells (value : Value) (site : Site) : Prop where
  desired : site.desired .gateway .deleteAllCommand = some value
  tracks : site.Tracks .gateway [(.setReported, .deleteAllCommand)]

instance (value : Value) (site : Site) : Decidable (site.Tells value) :=
  decidable_of_iff (_ ∧ _) ⟨fun h => ⟨h.1, h.2⟩, fun h => ⟨h.desired, h.tracks⟩⟩

namespace Site

variable {value : Value} {site a b : Site}

theorem Tells.of_platform (h : a.Tells value) (hplatform : b.platform = a.platform) :
    b.Tells value := by
  refine ⟨?_, h.tracks.congr hplatform⟩
  rw [← h.desired]
  unfold Site.desired
  rw [hplatform]

/-- Neither reports nor the removal of mesh devices change what is wished for. -/
theorem Tells.of_edits (h : a.Tells value) (hedits : a.Edits sweeping b)
    (hwish : b.view .wish = a.view .wish) : b.Tells value := by
  refine ⟨?_, h.tracks.edits hedits (show ¬ DeviceId.gateway.isGateway = false by decide)⟩
  have hdown := isDown_congr hedits.outages .getDesired (some .deleteAllCommand)
  have hsame : b.wished = a.wished := hwish
  rw [← h.desired]
  unfold wished at hsame
  unfold Site.desired Shadow.Platform.getDesired Shadow.Platform.guarded
  rw [hdown]
  split
  · rfl
  · exact hsame

end Site

/-- Nothing that is about the gateway is about a mesh device. -/
theorem Subject.registered_of_gateway {s : Subject} (h : ∀ id, s.IsOf id → id = .gateway)
    (site : Site) : s.Registered site := fun id hof hmesh => by
  rw [h id hof] at hmesh
  exact absurd hmesh (by decide)

namespace Discovery

/-! ### Counting -/

/-- The countdown goes on, by the sessions that have ended. -/
structure Waits (d d' : Discovery) (ended : Nat) : Prop where
  left : d'.scan.flushingAll = d.scan.flushingAll - ended
  still : 0 < d.scan.flushingAll → 0 < d'.scan.flushingAll
  view : d'.site.view .deletion = d.site.view .deletion

/-- The countdown is over, and what was wished for is reported. -/
structure Reports (d d' : Discovery) : Prop where
  left : 0 < d.scan.flushingAll
  done : d'.scan.flushingAll = 0
  told : ∀ value, d.site.Tells value → d'.site.stored .gateway .deleteAllCommand = some value

/-- A step that ends these sessions counts them.  It reports if no more are left to be counted, or
if one of them deleted devices. -/
structure Counts (d d' : Discovery) (ends : List Discovery) : Prop where
  tells : ∀ value, d.site.Tells value → d'.site.Tells value
  outcome : d.Waits d' ends.length ∨
    d.Reports d' ∧ (d.scan.flushingAll ≤ ends.length ∨ ∃ e ∈ ends, e.deletesAtEnd)

variable {d d' d'' : Discovery} {ends ends' : List Discovery}

theorem Counts.trans (h : d.Counts d' ends) (h' : d'.Counts d'' ends') :
    d.Counts d'' (ends ++ ends') := by
  refine ⟨fun value hvalue => h'.tells value (h.tells value hvalue), ?_⟩
  rw [List.length_append]
  rcases h.outcome with hwaits | ⟨hreports, hcause⟩
  · rcases h'.outcome with hwaits' | ⟨hreports, hcause⟩
    · have hleft := hwaits.left
      have hleft' := hwaits'.left
      exact .inl ⟨by omega, fun hpos => hwaits'.still (hwaits.still hpos),
        hwaits'.view.trans hwaits.view⟩
    · have hleft := hwaits.left
      have hpos := hreports.left
      refine .inr ⟨⟨by omega, hreports.done,
        fun value hvalue => hreports.told value (h.tells value hvalue)⟩, ?_⟩
      refine hcause.imp (fun hlast => by omega) fun ⟨e, he, hdeletes⟩ => ?_
      exact ⟨e, List.mem_append_right _ he, hdeletes⟩
  · -- nothing is left for the second step to count, and so it cannot report again
    have hdone := hreports.done
    rcases h'.outcome with hwaits | ⟨hreports', -⟩
    · have hleft := hwaits.left
      refine .inr ⟨⟨hreports.left, by omega,
        fun value hvalue => hwaits.view.trans (hreports.told value hvalue)⟩, ?_⟩
      refine hcause.imp (fun hlast => by omega) fun ⟨e, he, hdeletes⟩ => ?_
      exact ⟨e, List.mem_append_left _ he, hdeletes⟩
    · have hpos := hreports'.left
      omega

/-- What leaves the report and the countdown alone. -/
theorem waits_of_eq (hleft : d'.scan.flushingAll = d.scan.flushingAll)
    (hview : d'.site.view .deletion = d.site.view .deletion) : d.Waits d' 0 :=
  ⟨hleft, fun h => hleft ▸ h, hview⟩

/-- What leaves both the shadow and the countdown alone. -/
theorem counts_of_platform (hplatform : d'.site.platform = d.site.platform)
    (hleft : d'.scan.flushingAll = d.scan.flushingAll) : d.Counts d' [] := by
  refine ⟨fun value h => h.of_platform hplatform, .inl (waits_of_eq hleft ?_)⟩
  show d'.site.stored _ _ = d.site.stored _ _
  unfold Site.stored
  rw [hplatform]

/-- What leaves the wish, its report and the countdown alone. -/
theorem counts_of_view (hedits : d.site.Edits sweeping d'.site)
    (hdeletion : d'.site.view .deletion = d.site.view .deletion)
    (hwish : d'.site.view .wish = d.site.view .wish)
    (hleft : d'.scan.flushingAll = d.scan.flushingAll) : d.Counts d' [] :=
  ⟨fun _ h => h.of_edits hedits hwish, .inl (waits_of_eq hleft hdeletion)⟩

variable (d)

/-! ### Reporting -/

theorem flushingAll_completeFlushAll : d.completeFlushAll.scan.flushingAll = 0 :=
  congrArg (fun network => network.scan.flushingAll) (completeFlushAll_toNetwork d)

theorem reports_completeFlushAll (h : 0 < d.scan.flushingAll) : d.Reports d.completeFlushAll where
  left := h
  done := flushingAll_completeFlushAll d
  told value hvalue := by
    unfold completeFlushAll
    dsimp only
    rw [hvalue.desired]
    exact Site.stored_report hvalue.tracks value

theorem tells_completeFlushAll {value : Value} (h : d.site.Tells value) :
    d.completeFlushAll.site.Tells value :=
  h.of_edits (edits_completeFlushAll d) (view_completeFlushAll d (by simp))

/-- One session is counted, whichever it is. -/
theorem counts_countFlushAll (e : Discovery) : d.Counts d.countFlushAll [e] := by
  unfold countFlushAll
  split
  · next hnone => exact ⟨fun _ h => h, .inl ⟨by simp [hnone], fun h => h, rfl⟩⟩
  · next hlast =>
    refine ⟨fun _ => tells_completeFlushAll d, .inr ⟨reports_completeFlushAll d ?_, .inl ?_⟩⟩
    · omega
    · simp [hlast]
  · next left hleft =>
    exact ⟨fun _ h => h, .inl ⟨by simp [hleft], fun _ => Nat.succ_pos left, rfl⟩⟩

/-- A session that deletes devices may be followed by the report at once. -/
theorem Counts.completeFlushAll (h : d.Counts d' ends) (hleft : 0 < d'.scan.flushingAll)
    (hdeletes : ∃ e ∈ ends, e.deletesAtEnd) : d.Counts d'.completeFlushAll ends := by
  have hreports := reports_completeFlushAll d' hleft
  have hbefore : 0 < d.scan.flushingAll := by
    rcases h.outcome with hwaits | ⟨hearlier, -⟩
    · have hsame := hwaits.left
      omega
    · exact hearlier.left
  exact
    { tells := fun value hvalue => tells_completeFlushAll d' (h.tells value hvalue)
      outcome := .inr ⟨⟨hbefore, hreports.done,
        fun value hvalue => hreports.told value (h.tells value hvalue)⟩, .inr hdeletes⟩ }

/-! ### The end of a session -/

theorem counts_deleteOffline : d.Counts d.deleteOffline [] := by
  refine counts_of_view ?_ ?_ ?_ rfl
  · exact Site.edits_foldl_deleteIfOffline _ _ fun id hid _ => (Site.mem_meshDevices.1 hid).2
  · exact view_deleteOffline d (Subject.registered_of_gateway (s := .deletion) (fun _ h => h) _)
  · exact view_deleteOffline d (Subject.registered_of_gateway (s := .wish) (fun _ h => h) _)

theorem counts_endTestMode : d.Counts d.endTestMode [] :=
  counts_of_view (edits_endTestMode d) (view_endTestMode d) (view_endTestMode d) rfl

theorem counts_restartMissing (kind : TimerKind) (delay : Duration) :
    d.Counts (d.restartMissing kind delay) [] :=
  counts_of_platform (restartMissing_platform d kind delay) rfl

theorem counts_finishSession : d.Counts d.finishSession [d] := by
  have hdeleted : d.Counts (if d.deletesAtEnd then d.deleteOffline else d) [] := by
    split
    · exact counts_deleteOffline d
    · exact counts_of_platform rfl rfl
  have hscan : d.finished.flushingAll = d.closing.scan.flushingAll :=
    (congrArg (fun network => network.scan.flushingAll) (closing_toNetwork d)).symm
  have hclosed : d.Counts { d.closing with scan := d.finished } [d] :=
    (hdeleted.trans (counts_countFlushAll _ d)).trans (counts_of_platform rfl hscan)
  rw [finishSession_eq]
  exact (hclosed.trans (counts_restartMissing _ _ _)).trans (counts_endTestMode _)

/-! ### The course of the test -/

/-- To judge the devices is none of the countdown's business. -/
theorem counts_markDevices : d.Counts d.markDevices [] := by
  have hspares (s : Subject) (hs : s = .deletion ∨ s = .wish) (id : DeviceId) :
      s.Spares id .presence := by
    rcases hs with rfl | rfl
    · simp [Subject.Spares]
    · trivial
  exact counts_of_view (edits_markDevices d) (view_markDevices d (hspares _ (.inl rfl)))
    (view_markDevices d (hspares _ (.inr rfl))) rfl

theorem counts_reportPresence (id : DeviceId) (value : Value) :
    d.Counts (d.onSite fun site => site.report id .presence value) [] :=
  counts_of_view (Site.edits_report _ (.inl rfl) _)
    (Site.view_report_of_spares (s := .deletion) (by simp [Subject.Spares]) _)
    (Site.view_report_of_spares (s := .wish) trivial _) rfl

theorem Course.counts {d d' : Discovery} (h : d.Course d' ends) : d.Counts d' ends := by
  induction h with
  | quiet hplatform _ hleft => exact counts_of_platform hplatform hleft
  | mark d => exact counts_markDevices d
  | present d id value => exact counts_reportPresence d id value
  | finish d => exact counts_finishSession d
  | finishAll d hdeletes hleft =>
    exact (counts_finishSession d).completeFlushAll d hleft
      ⟨d, List.mem_singleton_self d, hdeletes⟩
  | trans _ _ ih ih' => exact ih.trans ih'

/-! ### Requests -/

/-- In no network an attempt to begin a session reports. -/
theorem reports_beginSession (hidle : ¬ d.scan.active) (hn : ¬ d.inNetwork)
    (h : 0 < d.scan.flushingAll) : d.Reports d.beginSession := by
  have hreports := reports_completeFlushAll d.cleared h
  have hplatform (d : Discovery) : d.postpone.site.platform = d.site.platform :=
    restartMissing_platform d _ _
  rw [beginSession_of_apart d hidle hn, if_pos h]
  refine ⟨h, hreports.done, fun value hvalue => ?_⟩
  unfold Site.stored
  rw [hplatform]
  exact hreports.told value hvalue

/-- In a network an attempt to begin a session leaves the countdown alone. -/
theorem flushingAll_beginSession (hn : d.inNetwork) :
    d.beginSession.scan.flushingAll = d.scan.flushingAll := by
  by_cases hactive : d.scan.active
  · rw [beginSession_of_active d hactive]
  by_cases hl : d.learning
  · rw [beginSession_of_learning d hactive hn hl]
    rfl
  rw [beginSession_of_joined d hactive hn hl]
  split <;> rfl

theorem counts_beginSession (hn : d.inNetwork) : d.Counts d.beginSession [] :=
  counts_of_view (edits_beginSession d) (view_beginSession d fun _ => hn)
    (view_beginSession d fun _ => hn) (flushingAll_beginSession d hn)

/-- A test on request begins a session in a network only. -/
theorem flushingAll_startTest : d.startTest.scan.flushingAll = d.scan.flushingAll := by
  let cleared := d.suspendInterrogation.clearTestResult
  have hcleared : cleared.scan.flushingAll = d.scan.flushingAll := by
    show d.suspendInterrogation.scan.flushingAll = _
    unfold suspendInterrogation
    split <;> rfl
  rw [← hcleared]
  show (if cleared.inNetwork then cleared.cancelMissing.beginSession
    else cleared.endTestMode).scan.flushingAll = _
  split
  · next hn => exact flushingAll_beginSession cleared.cancelMissing hn
  · rfl

theorem flushingAll_requestTest (delete : Bool) :
    (d.setTestMode true delete).scan.flushingAll = d.scan.flushingAll := by
  unfold setTestMode
  dsimp only
  split
  · rfl
  · exact flushingAll_startTest { d with scan := { d.scan with delete := delete } }

/-! ### Timers -/

theorem counts_fireTest (kind : TimerKind) (h : 0 < d.scan.flushingAll) :
    d.Counts (d.fireTest kind) (d.fireEnds kind) ∨
      d.Reports (d.fireTest kind) ∧ d.inNetwork = false := by
  cases kind with
  | testMissingInit =>
    let chosen : Discovery := { d with scan := { d.scan with delete := true } }
    have hchosen : d.Counts chosen [] := counts_of_platform rfl rfl
    by_cases hn : d.inNetwork
    · exact .inl (hchosen.trans (counts_beginSession chosen hn))
    by_cases hactive : d.scan.active
    · have hstay : d.fireTest .testMissingInit = chosen := beginSession_of_active chosen hactive
      rw [hstay]
      exact .inl hchosen
    · have hreports := reports_beginSession chosen hactive hn h
      exact .inr ⟨⟨h, hreports.done, hreports.told⟩, eq_false_of_ne_true hn⟩
  | testMissingUpdateMap => exact .inl (course_updateMap d).counts
  | _ => exact .inl (course_probe d).counts

end Discovery

/-! ### Moves -/

namespace Engine

variable {engine : Engine} {move : Move}

/-- Why a move ends the countdown: it ends as many sessions as are left, or one that deletes
devices, or the gateway is in no network. -/
def Reason (engine : Engine) (move : Move) : Prop :=
  engine.network.scan.flushingAll ≤ (engine.endings move).length ∨
    (∃ e ∈ engine.endings move, e.deletesAtEnd) ∨ engine.network.inNetwork = false

theorem Reason.of_counts {d d' : Discovery} {ends : List Discovery} (h : d.Counts d' ends)
    (hleft : d.scan.flushingAll = engine.network.scan.flushingAll)
    (hends : engine.endings move = ends) :
    d.Waits d' (engine.endings move).length ∨ d.Reports d' ∧ engine.Reason move := by
  unfold Reason
  rw [hends, ← hleft]
  exact h.outcome.imp_right fun ⟨hreports, hcause⟩ => ⟨hreports, hcause.imp_right .inl⟩

theorem flushingAll_request (h : move.RequestsTest) :
    (engine.move move).network.scan.flushingAll = engine.network.scan.flushingAll := by
  cases move with
  | control operation =>
    cases operation with
    | beginScan delete => exact engine.discovery.flushingAll_requestTest delete
    | _ => exact h.elim
  | wish delta =>
    rw [move_wish_of_request h]
    unfold wishTest
    split
    · rfl
    · next delete _ =>
      exact (engine.report .mode Mode.testMode.value).discovery.flushingAll_requestTest delete
  | _ => exact h.elim

/-- Nothing but the test reports that all devices are deleted. -/
theorem not_touches_deletion : ¬ engine.Touches .deletion move := by
  intro h
  cases move with
  | receive frame =>
    obtain ⟨report, -, htouched⟩ := h
    cases report with
    | sidMap => exact Subject.noConfusion htouched.1
    | sidMapUpdate map =>
      obtain ⟨id, hid, rfl, -⟩ := htouched
      exact absurd (Site.mem_meshDevices.1 hid).2 (by decide)
    | deviceTested identity => simp [TouchedBy, Subject.Spares] at htouched
    | remoteId identity => simp [TouchedBy, Subject.Spares] at htouched
    | _ => exact htouched
  | expire => exact Subject.noConfusion h.2.1
  | desire => exact Subject.noConfusion h.1
  | _ => exact h

/-- While the countdown is running, a move counts the sessions that it ends, or it reports. -/
theorem counts_move (hsingle : move.Single) (h : 0 < engine.network.scan.flushingAll) :
    engine.discovery.Waits (engine.move move).discovery (engine.endings move).length ∨
      engine.discovery.Reports (engine.move move).discovery ∧ engine.Reason move := by
  cases testMove engine hsingle with
  | aside haside hends hview =>
    have hleft : (engine.move move).network.scan.flushingAll = engine.network.scan.flushingAll :=
      congrArg Scan.flushingAll haside.scan
    rw [hends]
    exact .inl (Discovery.waits_of_eq hleft (hview .deletion not_touches_deletion))
  | request hasked hends =>
    rw [hends]
    exact .inl (Discovery.waits_of_eq (flushingAll_request hasked) (view_request hasked))
  | @report frame map hmove hframe =>
    subst hmove
    have hcounted := ((engine.counted frame).discovery.course_receiveMissing map).counts
    have hreceive : engine.move (.receive frame) = _ := receive_missingNodes engine hframe
    rw [hreceive]
    have hstart : engine.discovery.Counts (engine.counted frame).discovery [] :=
      Discovery.counts_of_platform rfl rfl
    exact Reason.of_counts (hstart.trans hcounted) rfl (endings_receive_of_missing engine hframe)
  | stop hmove hends =>
    rw [hmove]
    exact Reason.of_counts engine.discovery.course_stopTest.counts rfl hends
  | flush id hmove hends =>
    rw [hmove]
    exact Reason.of_counts (engine.discovery.course_flush id).counts rfl hends
  | flushAll hmove hends =>
    have hrefused : engine.discovery.flushAll = engine.discovery := if_pos h
    have hnone : engine.discovery.flushAllEnds = [] := if_pos h
    rw [hmove, hends, hnone]
    exact .inl (Discovery.waits_of_eq (congrArg (fun d : Discovery => d.scan.flushingAll) hrefused)
      (congrArg (fun d : Discovery => d.site.view .deletion) hrefused))
  | @fire kind d hmove hfires hends hexpire =>
    have hfound : engine.discovery.Counts d [] := by
      obtain ⟨rest, rfl⟩ := hfires.eq
      exact Discovery.counts_of_platform rfl rfl
    rw [hexpire]
    rcases d.counts_fireTest kind (hfires.scan ▸ h) with hcounts | ⟨hreports, hn⟩
    · exact Reason.of_counts (hfound.trans hcounts) rfl hends
    · obtain ⟨rest, rfl⟩ := hfires.eq
      exact .inr ⟨⟨h, hreports.done, fun value hvalue =>
        hreports.told value (hvalue.of_platform rfl)⟩, .inr (.inr hn)⟩

end Engine

end AlarmMesh.Gateway
