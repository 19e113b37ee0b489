import AlarmMesh.Proofs.Gateway.Deletion
import AlarmMesh.Proofs.Gateway.Touch

/-!
# What a move is to the missing-node test

A move that deals with one thing concerns the missing-node test in one of a few ways, or not at
all: a test is asked for or stopped, devices are to be removed, a report of missing slots arrives,
or a timer of the test fires.

* `Engine.TestMove engine move`, `testMove` — these ways, and that there are no others;
* `view_move` — what a move leaves as it is;
* `Closes after ends` — once a session has deleted devices, the rest of a move is routine;
* `not_isRegistered_of_ending` — so what is deleted is gone after the move;
* `removed_iff` — the devices that a move removes.
-/

namespace AlarmMesh.Gateway

open Radio (Command DeviceId Report SidMap)
open Shadow (Mode Property Store Value)

/-- The move asks for a test. -/
def Move.RequestsTest : Move → Prop
  | .control (.beginScan _) => True
  | .wish delta => delta.device.isGateway ∧ delta.property = .testModeCommand
  | _ => False

/-- What a move is to the test. -/
inductive Engine.TestMove (engine : Engine) (move : Move) : Prop where
  /-- Nothing. -/
  | aside (h : Aside engine (engine.move move)) (hends : engine.endings move = [])
      (hview : ∀ s, ¬ engine.Touches s move → (engine.move move).site.view s = engine.site.view s)
  /-- A test is asked for. -/
  | request (h : move.RequestsTest) (hends : engine.endings move = [])
  /-- A report of missing slots arrives. -/
  | report {frame : List UInt8} {map : SidMap} (hmove : move = .receive frame)
      (hframe : Report.decode frame = .ok (.missingNodes map))
  /-- The test is stopped. -/
  | stop (h : engine.move move = engine.onNetwork fun d => d.setTestMode false false)
      (hends : engine.endings move = engine.discovery.testModeEnds false false)
  /-- A device is to be removed. -/
  | flush (id : DeviceId) (h : engine.move move = engine.onNetwork fun d => d.flush id)
      (hends : engine.endings move = engine.discovery.flushEnds id)
  /-- Every device is to be removed. -/
  | flushAll (h : engine.move move = engine.onNetwork Discovery.flushAll)
      (hends : engine.endings move = engine.discovery.flushAllEnds)
  /-- A timer of the test fires. -/
  | fire {kind : TimerKind} {d : Discovery} (hmove : move = .expire)
      (hfires : engine.Fires kind d) (hends : engine.endings move = d.fireEnds kind)
      (hexpire : engine.move move = (d.fireTest kind).among engine.incidents)

namespace Engine

variable {engine : Engine}

/-! ### Moves beside the test -/

/-- Nothing happens to the test, and every subject is as it was. -/
structure Spared (engine engine' : Engine) : Prop extends Aside engine engine' where
  view : ∀ s, engine'.site.view s = engine.site.view s

theorem Spared.trans {a b c : Engine} (h : Spared a b) (h' : Spared b c) : Spared a c :=
  ⟨h.toAside.trans h'.toAside, fun s => (h'.view s).trans (h.view s)⟩

theorem spared_of_eq {engine' : Engine} (h : engine' = engine) : Spared engine engine' :=
  h ▸ ⟨.refl _, fun _ => rfl⟩

theorem TestMove.of_spared {move : Move} (h : Spared engine (engine.move move))
    (hends : engine.endings move = []) : engine.TestMove move :=
  .aside h.toAside hends fun s _ => h.view s

theorem spared_report (engine : Engine) {property : Property} (h : property.isSubject = false)
    (id : DeviceId) (value : Value) :
    Spared engine (engine.onSite fun site => site.report id property value) :=
  ⟨aside_silent (Site.silent_report _ _ _ _) rfl rfl rfl, fun _ => Site.view_report h value⟩

theorem spared_transmit (engine : Engine) {command : Command} (hmap : mapOf? command = none)
    (hslot : slotAsked? command = none) : Spared engine (engine.transmit command) :=
  ⟨(beside_transmit engine hmap).toAside, fun _ => view_transmit engine hslot⟩

theorem spared_issueTest : Spared engine engine.issueTest where
  view _ := view_issueTest engine
  toAside := by
    unfold issueTest
    split
    · exact .refl engine
    split
    · exact (beside_transmit engine rfl).toAside
    · exact .refl engine

theorem spared_identify (id : DeviceId) : Spared engine (engine.identify id) where
  view _ := view_identify engine id
  toAside := by
    unfold identify
    split
    · exact (beside_transmit engine rfl).toAside
    · exact .refl engine

theorem spared_setLearnMode (engine : Engine) (enabled : Bool) (seconds : Nat) :
    Spared engine (engine.onNetwork fun d => d.setLearnMode enabled seconds) :=
  ⟨engine.discovery.aside_setLearnMode engine.incidents enabled seconds,
    fun _ => view_setLearnMode engine enabled seconds⟩

theorem spared_wishLearn (wish : Value) : Spared engine (engine.wishLearn wish) := by
  unfold wishLearn
  dsimp only
  split
  · exact (spared_setLearnMode engine true _).trans
      ((spared_report _ rfl .gateway wish).trans (spared_report _ rfl .gateway _))
  · exact (spared_report engine rfl .gateway wish).trans (spared_setLearnMode _ false 0)

/-! ### The ways -/

theorem testMove_receive (frame : List UInt8) : engine.TestMove (.receive frame) := by
  by_cases hmissing : ∃ map, Report.decode frame = .ok (.missingNodes map)
  · obtain ⟨map, hmap⟩ := hmissing
    exact .report rfl hmap
  · have hother (map : SidMap) : Report.decode frame ≠ .ok (.missingNodes map) :=
      fun hmap => hmissing ⟨map, hmap⟩
    exact .aside (beside_receive engine hother).toAside (endings_receive_of_other engine hother)
      fun _ h => view_receive engine h hother

/-- The timer of the test that fires is the one that is due. -/
theorem Fires.due {kind : TimerKind} {d : Discovery} (h : engine.Fires kind d) :
    engine.popDue.1 = some kind ∧ kind.place = .missing := by
  obtain ⟨hpop, hplace⟩ := h
  rw [popDue_eq engine hpop]
  exact ⟨rfl, hplace⟩

theorem testMove_expire : engine.TestMove .expire := by
  by_cases hdue : ∃ kind, engine.popDue.1 = some kind ∧ kind.place = .missing
  · obtain ⟨kind, hdue, hplace⟩ := hdue
    obtain ⟨d, hfires, hends, hexpire⟩ := expireEnds_of_due engine hdue hplace
    exact .fire rfl hfires hends hexpire
  · obtain ⟨hends, hbeside, -⟩ | ⟨kind, d, hfires, -⟩ := expireEnds_cases engine
    · exact .aside hbeside.toAside hends fun _ h =>
        view_expire engine h fun kind hkind hplace => hdue ⟨kind, hkind, hplace⟩
    · exact absurd ⟨kind, hfires.due⟩ hdue

/-- A wish for the mode stops the test that the gateway is shown in. -/
theorem testMove_wishMode {delta : Delta} (hgateway : delta.device.isGateway)
    (hproperty : delta.property = .mode) : engine.TestMove (.wish delta) := by
  have hmove : engine.move (.wish delta) = engine.wishMode delta.value := by
    show engine.applyDelta delta = _
    unfold applyDelta applyGatewayDelta
    rw [if_pos hgateway, hproperty]
  have hends : engine.endings (.wish delta) =
      if Mode.ofValue? delta.value = some .running ∧
          (engine.site.reported .gateway .mode).bind Mode.ofValue? = some .testMode then
        engine.discovery.testModeEnds false false
      else [] := by
    show engine.wishEnds delta = _
    unfold wishEnds
    rw [if_pos hgateway, hproperty]
  unfold wishMode at hmove
  by_cases hwish : Mode.ofValue? delta.value = some .running
  · rw [if_pos hwish] at hmove
    split at hmove
    · next hmode =>
      rw [if_neg (by simp [hmode])] at hends
      exact .of_spared (hmove ▸ spared_setLearnMode engine false 0) hends
    · next hmode => exact .stop hmove (hends.trans (if_pos ⟨hwish, hmode⟩))
    · next hother =>
      rw [if_neg fun hstop => hother hstop.2] at hends
      exact .of_spared (spared_of_eq hmove) hends
  · rw [if_neg hwish] at hmove
    rw [if_neg fun hstop => hwish hstop.1] at hends
    exact .of_spared (spared_of_eq hmove) hends

theorem testMove_gatewayWish {delta : Delta} (hgateway : delta.device.isGateway) :
    engine.TestMove (.wish delta) := by
  have hmove : engine.move (.wish delta) =
      engine.applyGatewayDelta delta.property delta.value := if_pos hgateway
  have hends : engine.endings (.wish delta) = engine.wishEnds delta := rfl
  unfold applyGatewayDelta at hmove
  unfold wishEnds at hends
  rw [if_pos hgateway] at hends
  cases hproperty : delta.property with
  | testModeCommand =>
    rw [hproperty] at hends
    exact .request ⟨hgateway, hproperty⟩ hends
  | mode => exact testMove_wishMode hgateway hproperty
  | deleteAllCommand =>
    rw [hproperty] at hmove hends
    exact .flushAll hmove hends
  | learnCommand =>
    rw [hproperty] at hmove hends
    exact .of_spared (hmove ▸ spared_wishLearn _) hends
  | sounderTestCommand =>
    rw [hproperty] at hmove hends
    exact .of_spared (hmove ▸ spared_issueTest.trans (spared_report _ rfl _ _)) hends
  | silenceAllCommand | locateCommand =>
    rw [hproperty] at hmove hends
    exact .of_spared
      (hmove ▸ (spared_transmit engine rfl rfl).trans (spared_report _ rfl _ _)) hends
  | _ =>
    rw [hproperty] at hmove hends
    exact .of_spared (spared_of_eq hmove) hends

theorem testMove_deviceWish {delta : Delta} (hdevice : ¬ delta.device.isGateway) :
    engine.TestMove (.wish delta) := by
  have hmove : engine.move (.wish delta) =
      engine.applyDeviceDelta delta.device delta.property delta.value := if_neg hdevice
  have hends : engine.endings (.wish delta) = engine.wishEnds delta := rfl
  unfold applyDeviceDelta at hmove
  unfold wishEnds at hends
  rw [if_neg hdevice] at hends
  cases hproperty : delta.property with
  | mute =>
    rw [hproperty] at hmove hends
    dsimp only at hmove
    split at hmove
    · exact .of_spared
        (hmove ▸ (spared_transmit engine rfl rfl).trans (spared_report _ rfl _ _)) hends
    · exact .of_spared (spared_of_eq hmove) hends
  | identifyCommand =>
    rw [hproperty] at hmove hends
    exact .of_spared (hmove ▸ (spared_identify _).trans (spared_report _ rfl _ _)) hends
  | flushCommand =>
    rw [hproperty] at hmove hends
    dsimp only at hmove hends
    split at hmove
    · next hwish => exact .flush delta.device hmove (hends.trans (if_pos hwish))
    · next hwish => exact .of_spared (spared_of_eq hmove) (hends.trans (if_neg hwish))
  | _ =>
    rw [hproperty] at hmove hends
    exact .of_spared (spared_of_eq hmove) hends

/-- Every move that deals with one thing concerns the test in one of these ways. -/
theorem testMove (engine : Engine) {move : Move} (hsingle : move.Single) :
    engine.TestMove move := by
  cases move with
  | receive frame => exact testMove_receive frame
  | control operation =>
    cases operation with
    | beginScan => exact .request trivial rfl
    | stopScan => exact .stop rfl rfl
    | issueTest => exact .of_spared spared_issueTest rfl
    | learn enabled seconds => exact .of_spared (spared_setLearnMode engine enabled seconds) rfl
    | leave => exact .of_spared (spared_of_eq rfl) rfl
    | flushAll => exact .flushAll rfl rfl
    | flush id => exact .flush id rfl rfl
    | identify id => exact .of_spared (spared_identify id) rfl
    | silenceAll | locate | sounder => exact .of_spared (spared_transmit engine rfl rfl) rfl
    | deltas => exact absurd hsingle id
  | wish delta =>
    by_cases hgateway : delta.device.isGateway
    · exact testMove_gatewayWish hgateway
    · exact testMove_deviceWish hgateway
  | expire => exact testMove_expire
  | fireDue => exact absurd hsingle id
  | desire id property value =>
    exact .aside (beside_passive engine (by trivial)).toAside rfl fun _ h =>
      Site.view_desire engine.site id property value fun hs hsame => h ⟨hs, hsame⟩
  | advance | outages | share | contend =>
    exact .aside (beside_passive engine (by trivial)).toAside rfl fun _ _ =>
      Site.view_of_store rfl (fun _ _ _ => rfl) fun _ => rfl

theorem move_wish_of_request {delta : Delta} (h : (Move.wish delta).RequestsTest) :
    engine.move (.wish delta) = engine.wishTest delta.value := by
  obtain ⟨hgateway, hproperty⟩ := h
  show engine.applyDelta delta = _
  unfold applyDelta applyGatewayDelta
  rw [if_pos hgateway, hproperty]

theorem view_request {s : Subject} {move : Move} (h : move.RequestsTest) :
    (engine.move move).site.view s = engine.site.view s := by
  cases move with
  | control operation =>
    cases operation with
    | beginScan delete => exact engine.discovery.view_requestTest delete
    | _ => exact h.elim
  | wish delta =>
    rw [move_wish_of_request h]
    exact view_wishTest engine delta.value
  | _ => exact h.elim

/-- A move leaves what it does not touch, if the test does not report it and its device is not
deleted, or if a session is in its second phase and goes on. -/
theorem view_move {s : Subject} {move : Move} (hsingle : move.Single)
    (htouches : ¬ engine.Touches s move) (h : s.Apart ∧ s.Registered (engine.move move).site ∨
      engine.Updating ∧ engine.endings move = []) :
    (engine.move move).site.view s = engine.site.view s := by
  have hactive := h.imp_right fun ⟨hu, hends⟩ => And.intro hu.active hends
  cases testMove engine hsingle with
  | aside _ _ hview => exact hview s htouches
  | request hasked _ => exact view_request hasked
  | @report frame map hmove hframe =>
    subst hmove
    have hcount : (engine.counted frame).site.view s = engine.site.view s := Site.view_count _ _
    have hreceive : engine.move (.receive frame) = _ := receive_missingNodes engine hframe
    rw [endings_receive_of_missing engine hframe, hreceive] at h
    rw [hreceive]
    refine .trans ?_ hcount
    rcases h with ⟨hs, hregistered⟩ | ⟨hu, hends⟩
    · exact (engine.counted frame).discovery.view_receiveMissing map hs hregistered
    · -- in the second phase a report ends the session or means nothing
      have hstay := (engine.counted frame).discovery.receiveMissing_of_goesOn hu.outstanding hends
      exact congrArg (fun d : Discovery => d.site.view s) hstay
  | stop hmove hends =>
    rw [hmove]
    refine engine.discovery.view_stopTest fun hs => ?_
    rcases hactive with ⟨hapart, -⟩ | ⟨hactive, hnone⟩
    · exact absurd hs hapart.ne_deletion
    · exact absurd (hends.symm.trans hnone) (testModeEnds_of_active engine hactive)
  | flush id hmove hends =>
    rw [hmove, hends] at hactive
    rw [hmove]
    exact engine.discovery.view_flush id hactive
  | flushAll hmove hends =>
    rw [hmove, hends] at hactive
    rw [hmove]
    exact engine.discovery.view_flushAll hactive
  | @fire kind d hmove hfires hends hexpire =>
    have hfound : d.site.view s = engine.site.view s := by
      obtain ⟨rest, rfl⟩ := hfires.eq
      exact Site.view_of rfl rfl
    rw [hexpire, hends] at h
    rw [hexpire]
    refine (d.view_fireTest kind (h.imp_right fun ⟨hu, hends⟩ => ?_)).trans hfound
    exact ⟨hfires.kind_eq hu.awaits, hends⟩

end Engine

/-! ### What is deleted -/

/-- Once a session has ended that deletes devices, only what is routine still happens. -/
def Closes (after : Site) (ends : List Discovery) : Prop :=
  ∀ e ∈ ends, e.deletesAtEnd → e.finishSession.site.Edits .routine after

theorem closes_of_not_deletes {after : Site} {ends : List Discovery}
    (h : ∀ e ∈ ends, e.deletesAtEnd = false) : Closes after ends := fun e he hdeletes => by
  simp [h e he] at hdeletes

theorem Closes.append_of_not_deletes {after : Site} {ends ends' : List Discovery}
    (hends : ∀ e ∈ ends, e.deletesAtEnd = false) (h : Closes after ends') :
    Closes after (ends ++ ends') := fun e he hdeletes => by
  rcases List.mem_append.1 he with he | he
  · simp [hends e he] at hdeletes
  · exact h e he hdeletes

namespace Discovery

variable (d : Discovery) {e : Discovery}

theorem closes_updateMap : Closes d.updateMap.site d.updateMapEnds := by
  intro e he hdeletes
  by_cases hover : d.isOver
  · rw [updateMapEnds_of_over d hover] at he
    obtain rfl := List.mem_singleton.1 he
    rw [updateMap_of_over d hover]
    exact .refl _ _
  by_cases hnone : d.scan.updateCount = 0 ∧ ¬ d.someMissing
  · rw [updateMapEnds_of_none d hover hnone.1 hnone.2] at he
    obtain rfl := List.mem_singleton.1 he
    rw [updateMap_of_none d hover hnone.1 hnone.2]
    split
    · exact edits_completeFlushAll _
    · exact .refl _ _
  · rw [updateMapEnds_of_goesOn d hover hnone] at he
    exact absurd he List.not_mem_nil

theorem closes_receiveMissing (map : SidMap) :
    Closes (d.receiveMissing map).site (d.reportEnds map) := by
  intro e he hdeletes
  rcases Nat.eq_zero_or_pos d.scan.outstanding with ho | ho
  · unfold reportEnds at he
    rw [if_neg (by omega)] at he
    by_cases hconfirmed : d.isConfirmedBy map
    · rw [if_pos hconfirmed] at he
      rw [receiveMissing_of_confirmed d ho hconfirmed]
      exact closes_updateMap d.confirmed e he hdeletes
    · rw [if_neg hconfirmed] at he
      exact absurd he List.not_mem_nil
  by_cases hdue : d.isOverdue
  · unfold reportEnds at he
    rw [if_pos ho, if_pos hdue] at he
    obtain rfl := List.mem_singleton.1 he
    simp [deletesAtEnd_ranOut] at hdeletes
  rw [reportEnds_of_counted d ho hdue] at he
  rw [receiveMissing_of_counted d map ho hdue]
  split
  · next hdecided =>
    rw [if_pos hdecided] at he
    exact closes_updateMap _ e he hdeletes
  · next hopen =>
    rw [if_neg hopen] at he
    simp [not_deletes_probeWhenDueEnds _ he] at hdeletes

theorem not_deletes_testModeEnds {enabled delete : Bool}
    (h : e ∈ d.testModeEnds enabled delete) : e.deletesAtEnd = false := by
  unfold testModeEnds at h
  split at h
  · exact absurd h List.not_mem_nil
  · exact not_deletes_cancelEnds _ h

theorem closes_flush (id : DeviceId) : Closes (d.flush id).site (d.flushEnds id) := by
  unfold flush flushEnds
  cases d.site.slotOf id with
  | none => exact fun e he => absurd he List.not_mem_nil
  | some sid =>
    exact .append_of_not_deletes (fun _ => not_deletes_cancelEnds d) (closes_updateMap _)

theorem closes_flushAll : Closes d.flushAll.site d.flushAllEnds := by
  unfold flushAll flushAllEnds
  split
  · exact fun e he => absurd he List.not_mem_nil
  · exact .append_of_not_deletes (fun _ => not_deletes_cancelEnds d) (closes_updateMap _)

theorem closes_fireTest (kind : TimerKind) : Closes (d.fireTest kind).site (d.fireEnds kind) := by
  cases kind with
  | testMissingInit => exact fun e he => absurd he List.not_mem_nil
  | testMissingUpdateMap => exact closes_updateMap d
  | _ => exact closes_of_not_deletes fun _ => not_deletes_probeEnds d

/-- What is offline at the end of a session that deletes devices is gone then. -/
theorem not_isRegistered_finishSession {d : Discovery} {id : DeviceId} (h : d.site.Sweeps)
    (hdeletes : d.deletesAtEnd) (hmesh : id.isGateway = false) (hoffline : d.site.isOffline id) :
    ¬ d.finishSession.site.platform.isRegistered id := by
  have houtages : d.finishSession.site.platform.outages = d.site.platform.outages :=
    (edits_finishSession d (covers_sweeping _)).outages
  intro hregistered
  have hmem : id ∈ d.finishSession.site.meshDevices :=
    ((h.congr houtages).mem_meshDevices_iff hmesh).2 hregistered
  rw [(swept_finishSession h hdeletes).meshDevices, List.mem_filter] at hmem
  simp [hoffline] at hmem

end Discovery

namespace Engine

variable {engine : Engine} {move : Move} {id : DeviceId} {e : Discovery}

/-- After the end of a session that deletes devices, the rest of a move is routine. -/
theorem closes_move (hsingle : move.Single) :
    Closes (engine.move move).site (engine.endings move) := by
  cases testMove engine hsingle with
  | aside _ hends _ | request _ hends =>
    rw [hends]
    exact fun e he => absurd he List.not_mem_nil
  | @report frame map hmove hframe =>
    subst hmove
    rw [endings_receive_of_missing engine hframe]
    show Closes (engine.receive frame).site _
    rw [receive_missingNodes engine hframe]
    exact (engine.counted frame).discovery.closes_receiveMissing map
  | stop _ hends =>
    rw [hends]
    exact closes_of_not_deletes fun _ => engine.discovery.not_deletes_testModeEnds
  | flush id hmove hends =>
    rw [hends, hmove]
    exact engine.discovery.closes_flush id
  | flushAll hmove hends =>
    rw [hends, hmove]
    exact engine.discovery.closes_flushAll
  | fire _ _ hends hexpire =>
    rw [hends, hexpire]
    exact Discovery.closes_fireTest _ _

/-- A mesh device that is offline at the end of a session that deletes devices is gone after the
move that ends it. -/
theorem not_isRegistered_of_ending (hsingle : move.Single) (h : (engine.move move).site.Sweeps)
    (he : e ∈ engine.endings move) (hdeletes : e.deletesAtEnd) (hmesh : id.isGateway = false)
    (hoffline : e.site.isOffline id) : ¬ (engine.move move).site.platform.isRegistered id := by
  have hclosed := closes_move hsingle e he hdeletes
  have hended := e.edits_finishSession (covers_sweeping _)
  have hsweeps : e.site.Sweeps := h.congr (hclosed.outages.trans hended.outages).symm
  have hgone := Discovery.not_isRegistered_finishSession hsweeps hdeletes hmesh hoffline
  intro hregistered
  exact hgone ((hclosed.store.isRegistered_eq not_false not_false).symm.trans hregistered)

/-- The devices that a move removes are those that are offline when it ends a session that deletes
devices. -/
theorem removed_iff (hsingle : move.Single) (h : (engine.move move).site.Sweeps)
    (hbefore : engine.site.platform.isRegistered id) (hmesh : id.isGateway = false) :
    ¬ (engine.move move).site.platform.isRegistered id ↔
      ∃ e ∈ engine.endings move, e.deletesAtEnd ∧ e.site.isOffline id := by
  constructor
  · intro hafter
    obtain ⟨e, he, hdeletes, -, hoffline⟩ := exists_ending_of_removed hsingle hbefore hafter
    exact ⟨e, he, hdeletes, hoffline⟩
  · rintro ⟨e, he, hdeletes, hoffline⟩
    exact not_isRegistered_of_ending hsingle h he hdeletes hmesh hoffline

end Engine

end AlarmMesh.Gateway
