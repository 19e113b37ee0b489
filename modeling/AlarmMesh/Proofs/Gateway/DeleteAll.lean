import AlarmMesh.Proofs.Gateway.Countdown
import AlarmMesh.Proofs.Gateway.Lasting

/-!
# When the deletion of all devices is reported

The session that is to delete all devices does so if it comes to its own end.  But the report waits
for the countdown alone, and that counts the sessions that are given up or run out of time as well.
So two sessions that end in such a way are enough for the report, with every device still there.

* `Discovery.isOffline_beginFlushAll` — every mesh device is reported offline at first;
* `owed_moves` — what the countdown and the report are as long as sessions are left to be counted;
* `Engine.DeletesAll`, `deletesAll` — what all of this says of a reachable engine.
-/

namespace AlarmMesh.Gateway

open Radio (DeviceId)
open Shadow (Store Value)

namespace Site

variable {site : Site} {ids : List DeviceId}

/-- To report the presence of devices changes it for these devices alone. -/
theorem reported_foldl_presence (id : DeviceId) (value : Value) (h : site.Sweeps)
    (hids : ∀ id ∈ ids, site.platform.isRegistered id) :
    (ids.foldl (fun site id => site.report id .presence value) site).reported id .presence =
      if id ∈ ids then some value else site.reported id .presence := by
  induction ids generalizing site with
  | nil => simp
  | cons first ids ih =>
    obtain ⟨hfirst, hids⟩ := List.forall_mem_cons.1 hids
    have hedits : site.Edits .routine (site.report first .presence value) :=
      edits_report site (.inl rfl) value
    have hmem : first ∈ site.devices := by
      rw [h.devices_eq]
      exact Store.isRegistered_iff.1 hfirst
    have hrest := @ih (site.report first .presence value) (h.congr hedits.outages) fun id hid =>
      (hedits.store.isRegistered_eq not_false not_false).trans (hids id hid)
    rw [List.foldl_cons, hrest, reported_report_presence h hmem]
    by_cases hid : id ∈ ids
    · simp [hid]
    · simp [hid, eq_comm]

end Site

namespace Discovery

variable (d : Discovery) {id : DeviceId}

/-- The deletion of all devices begins with the report that they are offline. -/
theorem isOffline_beginFlushAll (h : d.site.Sweeps) (hid : d.site.platform.isRegistered id)
    (hmesh : id.isGateway = false) : d.beginFlushAll.site.isOffline id := by
  have hedits : d.site.Edits .routine d.cancelSession.site := edits_cancelSession d
  have hsweeps : d.cancelSession.site.Sweeps := h.congr hedits.outages
  have hmem : id ∈ d.cancelSession.site.meshDevices :=
    (hsweeps.mem_meshDevices_iff hmesh).2
      ((hedits.store.isRegistered_eq not_false not_false).trans hid)
  have hreported := Site.reported_foldl_presence id Shadow.Presence.offline.value hsweeps
    fun id hid => (hsweeps.mem_meshDevices_iff (Site.mem_meshDevices.1 hid).2).1 hid
  rw [if_pos hmem] at hreported
  exact (Site.isOffline_of_reported hreported).trans rfl

end Discovery

/-- The move asks for the removal of every device. -/
def Move.FlushesAll : Move → Prop
  | .control .flushAll => True
  | .wish delta => delta.device.isGateway ∧ delta.property = .deleteAllCommand
  | _ => False

namespace Engine

variable {engine : Engine} {move : Move} {moves : List Move} {id : DeviceId}

theorem single_of_flushesAll (h : move.FlushesAll) : move.Single := by
  cases move with
  | control operation =>
    cases operation with
    | deltas => exact h.elim
    | _ => trivial
  | fireDue => exact h.elim
  | _ => trivial

theorem move_of_flushesAll (h : move.FlushesAll) :
    engine.move move = engine.onNetwork Discovery.flushAll ∧
      engine.endings move = engine.discovery.flushAllEnds := by
  cases move with
  | control operation =>
    cases operation with
    | flushAll => exact ⟨rfl, rfl⟩
    | _ => exact h.elim
  | wish delta =>
    obtain ⟨hgateway, hproperty⟩ := h
    constructor
    · show engine.applyDelta delta = _
      unfold applyDelta applyGatewayDelta
      rw [if_pos hgateway, hproperty]
    · show engine.wishEnds delta = _
      unfold wishEnds
      rw [if_pos hgateway, hproperty]
  | _ => exact h.elim

/-! ### The countdown -/

/-- Sessions are left to be counted, and the report is owed. -/
def Owes (engine : Engine) : Prop := 0 < engine.network.scan.flushingAll

instance : DecidablePred Owes := fun engine =>
  inferInstanceAs (Decidable (0 < engine.network.scan.flushingAll))

/-- As long as the report is owed, every session that ends is counted, and nothing is reported. -/
theorem owed_moves (h : Along Owes (fun _ move => move.Single) engine moves) :
    (engine.moves moves).network.scan.flushingAll + (engine.moves moves).site.completed =
        engine.network.scan.flushingAll + engine.site.completed ∧
      (engine.moves moves).site.stored .gateway .deleteAllCommand =
        engine.site.stored .gateway .deleteAllCommand := by
  refine along_induct (I := fun e => e.network.scan.flushingAll + e.site.completed =
      engine.network.scan.flushingAll + engine.site.completed ∧
    e.site.stored .gateway .deleteAllCommand = engine.site.stored .gateway .deleteAllCommand)
    (fun e move howes hsingle howes' ⟨hcount, hstored⟩ => ?_) h ⟨rfl, rfl⟩
  -- what the countdown loses with a move is what it counts as completed
  rcases counts_move hsingle howes with hwaits | ⟨hreports, -⟩
  · have hleft : (e.move move).network.scan.flushingAll =
        e.network.scan.flushingAll - (e.endings move).length := hwaits.left
    have hcompleted := completed_move e hsingle
    have howes' : 0 < (e.move move).network.scan.flushingAll := howes'
    refine ⟨by omega, Eq.trans ?_ hstored⟩
    exact hwaits.view
  · exact absurd hreports.done (Nat.ne_of_gt howes')

/-! ### What becomes of it -/

/-- What becomes of the deletion of all devices that is asked for with the move from `engine` to
`asked`. -/
structure DeletesAll (engine asked : Engine) : Prop where
  /-- If a slot is in the current map, a session begins in its second phase, and nothing is
  reported. -/
  begun : (∃ sid, engine.network.current.contains sid) →
    asked.Updating ∧ asked.network.scan.flushingAll = 2 ∧
      asked.site.stored .gateway .deleteAllCommand = engine.site.stored .gateway .deleteAllCommand
  /-- Otherwise the devices are removed at once, and what was wished for is reported. -/
  atOnce : (∀ sid, engine.network.current.contains sid = false) →
    asked.network.scan.flushingAll = 0 ∧
    (∀ value, engine.site.Tells value →
      asked.site.stored .gateway .deleteAllCommand = some value) ∧
    (engine.site.Serves → ∀ id : DeviceId, id.isGateway = false →
      engine.site.platform.isRegistered id → ¬ asked.site.platform.isRegistered id)
  /-- Nothing is reported as long as sessions are left to be counted.  There were two, and every
  session that ends is counted, whatever led to its end. -/
  counted : ∀ moves, Along Owes (fun _ move => move.Single) asked moves →
    (asked.moves moves).network.scan.flushingAll + (asked.moves moves).site.completed =
        2 + asked.site.completed ∧
      (asked.moves moves).site.stored .gateway .deleteAllCommand =
        engine.site.stored .gateway .deleteAllCommand
  /-- With the move that ends the countdown what was wished for is reported.  There are three
  reasons: two sessions have ended, or one that deletes devices, or the gateway is in no network. -/
  reported : ∀ moves, Along Owes (fun _ move => move.Single) asked moves →
    ∀ last : Move, last.Single → ¬ ((asked.moves moves).move last).Owes →
      (∀ value, (asked.moves moves).site.Tells value →
        ((asked.moves moves).move last).site.stored .gateway .deleteAllCommand = some value) ∧
      (2 + asked.site.completed ≤ ((asked.moves moves).move last).site.completed ∨
        (∃ e ∈ (asked.moves moves).endings last, e.deletesAtEnd) ∨
        (asked.moves moves).network.inNetwork = false)
  /-- Every device is still there as long as no session has ended that deletes devices. -/
  kept : ∀ moves, Along (fun _ => True)
      (fun engine move => move.Single ∧ ∀ e ∈ engine.endings move, e.deletesAtEnd = false)
      asked moves →
    ∀ id, asked.site.platform.isRegistered id → (asked.moves moves).site.platform.isRegistered id
  /-- If the session that has begun comes to its own end, it removes every mesh device that was
  there when it was asked for and of which nothing else is heard. -/
  removed : (∃ sid, engine.network.current.contains sid) → engine.site.Serves →
    ∀ id : DeviceId, id.isGateway = false → engine.site.platform.isRegistered id →
    ∀ moves, Along (fun e => e.site.Serves) (Quiet id) asked moves →
    ∀ last : Move, last.Unasked → (asked.moves moves).endings last ≠ [] →
      ((asked.moves moves).move last).site.Serves →
        ¬ ((asked.moves moves).move last).site.platform.isRegistered id

/-! ### The beginning -/

/-- All slots of the current map are to be removed. -/
theorem meets_beginFlushAll : engine.discovery.beginFlushAll.Meets ↔
    ∃ sid, engine.network.current.contains sid := by
  have hcurrent : engine.discovery.beginFlushAll.current = engine.network.current :=
    congrArg (fun network => network.current) engine.discovery.testStep_beginFlushAll.network
  have hremoval : engine.discovery.beginFlushAll.scan.removal =
      engine.discovery.beginFlushAll.current := rfl
  unfold Discovery.Meets
  rw [hremoval, hcurrent]
  simp

/-- Nothing is reported when the running session is given up. -/
theorem stored_beginFlushAll (hnone : engine.network.scan.flushingAll = 0) :
    engine.discovery.beginFlushAll.site.stored .gateway .deleteAllCommand =
      engine.site.stored .gateway .deleteAllCommand :=
  engine.discovery.view_beginFlushAll (s := .deletion) (by simp [Subject.Spares])
    fun _ hone => by simp [discovery, hnone] at hone

theorem tells_beginFlushAll {value : Value} (h : engine.site.Tells value) :
    engine.discovery.beginFlushAll.site.Tells value :=
  h.of_edits engine.discovery.edits_beginFlushAll
    (engine.discovery.view_beginFlushAll (s := .wish) (fun _ => trivial) (by simp))

section Beginning

variable {settings : Config.Settings} (hcheck : settings.check = .ok ())
  (hr : Reachable settings engine) (hnone : engine.network.scan.flushingAll = 0)
  (hmove : move.FlushesAll)

include hr hnone hmove

theorem opens_flushAll : Enters.Opens engine move engine.discovery.beginFlushAll :=
  (Enters.flushAll (move_of_flushesAll hmove).1 hnone).opens hr.inTime

include hcheck

/-- The session that deletes all devices begins in its second phase. -/
theorem goesOn_flushAll (hsome : ∃ sid, engine.network.current.contains sid) :
    engine.discovery.beginFlushAll.GoesOn (engine.move move).discovery ∧
      (engine.move move).Updating :=
  (opens_flushAll hr hnone hmove).goesOn hcheck hr (meets_beginFlushAll.2 hsome)

theorem begun_flushAll (hsome : ∃ sid, engine.network.current.contains sid) :
    (engine.move move).Updating ∧ (engine.move move).network.scan.flushingAll = 2 ∧
      (engine.move move).site.stored .gateway .deleteAllCommand =
        engine.site.stored .gateway .deleteAllCommand := by
  obtain ⟨hgoes, hupdating⟩ := goesOn_flushAll hcheck hr hnone hmove hsome
  refine ⟨hupdating, ?_, ?_⟩
  · exact congrArg Scan.flushingAll hgoes.scan
  · rw [← stored_beginFlushAll hnone]
    unfold Site.stored
    rw [← hgoes.platform]
    rfl

/-- If no slot is in the current map, the session ends at once. -/
theorem atOnce_flushAll (hempty : ∀ sid, engine.network.current.contains sid = false) :
    (engine.move move).network.scan.flushingAll = 0 ∧
    (∀ value, engine.site.Tells value →
      (engine.move move).site.stored .gateway .deleteAllCommand = some value) ∧
    (engine.site.Serves → ∀ id : DeviceId, id.isGateway = false →
      engine.site.platform.isRegistered id →
        ¬ (engine.move move).site.platform.isRegistered id) := by
  let d := engine.discovery.beginFlushAll
  let e := d.cancelMissing.unreduced
  have hopens := opens_flushAll hr hnone hmove
  have hover : ¬ d.isOver := hopens.not_over hcheck hr
  have hsome : ¬ d.someMissing := by
    rw [Discovery.someMissing_iff, meets_beginFlushAll]
    simp [hempty]
  -- the end of the session counts for one of the two, and the other one is not waited for
  have hended : d.updateMap = e.finishSession.completeFlushAll :=
    (d.updateMap_of_none hover hopens.unsent hsome).trans (if_pos Nat.one_pos)
  have hleft : e.finishSession.scan.flushingAll = 1 := by
    rw [Discovery.finishSession_scan]
    rfl
  have hreports : e.finishSession.Reports d.updateMap :=
    hended ▸ Discovery.reports_completeFlushAll _ (by rw [hleft]; exact Nat.one_pos)
  have hends : e ∈ engine.endings move := by
    have hnext : d.updateMapEnds = [e] := d.updateMapEnds_of_none hover hopens.unsent hsome
    rw [(move_of_flushesAll hmove).2, Discovery.flushAllEnds, if_neg (by simp [discovery, hnone])]
    exact List.mem_append_right _ (by rw [hnext]; exact List.mem_singleton_self e)
  have hfound : e.site.platform = d.site.platform := Discovery.cancelMissing_platform d
  have houtages : (engine.move move).site.platform.outages = engine.site.platform.outages := by
    rw [hopens.move_eq]
    exact (engine.discovery.edits_beginFlushAll.trans
      (d.edits_updateMap (covers_sweeping _))).outages
  refine ⟨?_, fun value hvalue => ?_, fun hserves id hmesh hid => ?_⟩
  · rw [hopens.move_eq]
    exact hreports.done
  · rw [hopens.move_eq]
    refine hreports.told value ((Discovery.counts_finishSession e).tells value ?_)
    exact (tells_beginFlushAll hvalue).of_platform hfound
  · have hoffline : e.site.isOffline id = d.site.isOffline id :=
      Site.isOffline_congr (by unfold Site.reported; rw [hfound])
    exact not_isRegistered_of_ending (single_of_flushesAll hmove) (hserves.sweeps.congr houtages)
      hends rfl hmesh
      (hoffline.trans (engine.discovery.isOffline_beginFlushAll hserves.sweeps hid hmesh))

/-- The session that begins deletes devices, and the device is offline in it. -/
theorem foretold_flushAll (hsome : ∃ sid, engine.network.current.contains sid)
    (hserves : engine.site.Serves) (hmesh : id.isGateway = false)
    (hid : engine.site.platform.isRegistered id) :
    Foretold id true (engine.move move) ∧ (engine.move move).discovery.Deleting := by
  let d := engine.discovery.beginFlushAll
  obtain ⟨hgoes, hupdating⟩ := goesOn_flushAll hcheck hr hnone hmove hsome
  have hedits : engine.site.Edits .routine d.site := engine.discovery.edits_beginFlushAll
  have hoffline : (engine.move move).site.isOffline id = d.site.isOffline id :=
    Site.isOffline_congr (by unfold Site.reported; rw [← hgoes.platform]; rfl)
  refine ⟨⟨tended_moves hr.tended [move], hupdating, ?_, ?_⟩, hupdating.active, ?_⟩
  · show (engine.move move).discovery.site.platform.isRegistered id
    rw [hgoes.platform]
    exact (hedits.store.isRegistered_eq not_false not_false).trans hid
  · exact hoffline.trans (engine.discovery.isOffline_beginFlushAll hserves.sweeps hid hmesh)
  · exact congrArg Scan.delete hgoes.scan

/-- Its own end removes the device. -/
theorem removed_flushAll (hsome : ∃ sid, engine.network.current.contains sid)
    (hserves : engine.site.Serves) (hmesh : id.isGateway = false)
    (hid : engine.site.platform.isRegistered id)
    (halong : Along (fun e => e.site.Serves) (Quiet id) (engine.move move) moves) {last : Move}
    (hlast : last.Unasked) (hends : ((engine.move move).moves moves).endings last ≠ [])
    (hafter : (((engine.move move).moves moves).move last).site.Serves) :
    ¬ (((engine.move move).moves moves).move last).site.platform.isRegistered id := by
  obtain ⟨hforetold, hdeleting⟩ := foretold_flushAll hcheck hr hnone hmove hsome hserves hmesh hid
  have hstill := foretold_moves hforetold halong
  have hreachable : Reachable settings ((engine.move move).moves moves) :=
    (hr.move move).moves moves
  have hdeletes : ((engine.move move).moves moves).discovery.deletesAtEnd := by
    have hlasts := deleting_moves hdeleting
      (halong.mono (fun _ _ => trivial) fun _ _ hquiet => hquiet.unstopped)
    have htime := hreachable.inTime hlasts.active
    simp [Discovery.deletesAtEnd, hlasts.delete, htime]
  obtain ⟨e, he⟩ := List.exists_mem_of_ne_nil _ hends
  have hsame := (hstill.updating.of_mem_endings hlast he).1
  exact (hstill.removed_iff hlast hafter hmesh he (hsame.trans hdeletes)).2 rfl

end Beginning

/-- As long as no session ends that deletes devices, all of them stay. -/
theorem isRegistered_of_not_deletes (halong : Along (fun _ => True)
      (fun engine move => move.Single ∧ ∀ e ∈ engine.endings move, e.deletesAtEnd = false)
      engine moves) (h : engine.site.platform.isRegistered id) :
    (engine.moves moves).site.platform.isRegistered id := by
  refine along_induct (I := fun e => e.site.platform.isRegistered id)
    (fun e move _ ⟨hsingle, hkeeps⟩ _ hid => ?_) halong h
  by_contra hgone
  obtain ⟨d, hd, hdeletes, -⟩ := exists_ending_of_removed hsingle hid hgone
  simp [hkeeps d hd] at hdeletes

end Engine

/-- Every reachable engine deletes all devices in this way. -/
theorem deletesAll {settings : Config.Settings} (hcheck : settings.check = .ok ())
    {engine : Engine} (hr : Reachable settings engine)
    (hnone : engine.network.scan.flushingAll = 0) {move : Move} (hmove : move.FlushesAll) :
    engine.DeletesAll (engine.move move) := by
  have hstart (howes : (engine.move move).Owes) :
      (engine.move move).network.scan.flushingAll = 2 ∧
        (engine.move move).site.stored .gateway .deleteAllCommand =
          engine.site.stored .gateway .deleteAllCommand := by
    by_cases hsome : ∃ sid, engine.network.current.contains sid
    · exact (Engine.begun_flushAll hcheck hr hnone hmove hsome).2
    · have hdone := (Engine.atOnce_flushAll hcheck hr hnone hmove (by simpa using hsome)).1
      exact absurd hdone (Nat.ne_of_gt howes)
  refine
    { begun := Engine.begun_flushAll hcheck hr hnone hmove
      atOnce := Engine.atOnce_flushAll hcheck hr hnone hmove
      counted := fun moves halong => ?_
      reported := fun moves halong last hsingle hover => ?_
      kept := fun moves halong id hid => Engine.isRegistered_of_not_deletes halong hid
      removed := fun hsome hserves id hmesh hid moves halong last hlast hends hafter =>
        Engine.removed_flushAll hcheck hr hnone hmove hsome hserves hmesh hid halong hlast hends
          hafter }
  · obtain ⟨hleft, hstored⟩ := hstart halong.head
    obtain ⟨hcount, hsame⟩ := Engine.owed_moves halong
    exact ⟨hleft ▸ hcount, hsame.trans hstored⟩
  · obtain ⟨hleft, -⟩ := hstart halong.head
    obtain ⟨hcount, -⟩ := Engine.owed_moves halong
    have howes : ((engine.move move).moves moves).Owes := halong.last
    rcases Engine.counts_move hsingle howes with hwaits | ⟨hreports, hreason⟩
    · exact absurd (hwaits.still howes) hover
    · refine ⟨hreports.told, hreason.imp_left fun hlast => ?_⟩
      rw [Engine.completed_move _ hsingle]
      omega

/-- An engine of which the deletion of all devices is wished for. -/
def wishing : Engine := joined.move (.desire .gateway .deleteAllCommand (.ofNat 7))

/-- The deletion was asked for. -/
def flushing : Engine := wishing.move (.control .flushAll)

/-- The session that is to delete the devices is given up, and the next one begins. -/
def givenUp : List Move := [.control .stopScan, .advance (.ofMillis 1), .expire]

/-- The engine after the second session, in which all devices answer. -/
def answered : Engine := (flushing.moves givenUp).move (.receive emptyReport)

/-- The deletion is reported with the device at slot 6 still there. -/
theorem deletesAll_givenUp :
    (flushing.moves givenUp).site.stored .gateway .deleteAllCommand = some (.ofNat 0) ∧
    answered.site.stored .gateway .deleteAllCommand = some (.ofNat 7) ∧
    wishing.site.platform.isRegistered (.ofNat 6) ∧
    answered.site.platform.isRegistered (.ofNat 6) := by
  have hr : Reachable {} wishing := reachable_joined.move _
  have hflushes : (Move.control .flushAll).FlushesAll := trivial
  have hdeletes : wishing.DeletesAll flushing :=
    deletesAll (by decide) hr (by decide +kernel) hflushes
  have hbefore : wishing.site.stored .gateway .deleteAllCommand = some (.ofNat 0) := by
    decide +kernel
  have halong : Engine.Along Engine.Owes (fun _ move => move.Single) flushing givenUp := by
    decide +kernel
  have hover : ¬ answered.Owes := by decide +kernel
  have htells : (flushing.moves givenUp).site.Tells (.ofNat 7) := by decide +kernel
  have hstill := (hdeletes.counted givenUp halong).2.trans hbefore
  have hreported := (hdeletes.reported givenUp halong (.receive emptyReport) trivial
    hover).1 (.ofNat 7) htells
  exact ⟨hstill, hreported, by decide +kernel, by decide +kernel⟩

end AlarmMesh.Gateway
