import AlarmMesh.Proofs.Gateway.LateReport
import AlarmMesh.Proofs.Gateway.MoveFootprint
import AlarmMesh.Proofs.Gateway.Phases

/-!
# What is deleted, and when

A device disappears only at the end of a session that deletes devices and has not run out of time,
and only if it is reported offline there; the gateway never disappears.  A session that is given up
deletes nothing, and nothing is deleted after it until the next one begins.

But a session may also end when none is running: what is left of a session once it is over still
answers late reports, as long as its probes are outstanding.  So what happens to a device then
depends on what became of the session before.

* `Engine.Spent` — nothing is left that could delete a device;
* `deletes_of_mem_endings` — which ends of sessions delete devices;
* `spent_move` — what is spent stays so until a session begins;
* `Engine.GivesUp` — a move with which the running session is given up;
* `Engine.DeletesSafely`, `deletesSafely` — what all of this says of a reachable engine.
-/

namespace AlarmMesh.Gateway

open Radio (DeviceId Report SidMap)

namespace Discovery

variable (d : Discovery) {kind : TimerKind}

/-! ### Sessions that ran out of time -/

theorem ranOutOfTime_finishSession :
    d.finishSession.scan.ranOutOfTime = d.scan.ranOutOfTime := by
  rw [finishSession_scan]
  rfl

theorem runOut_scan : d.runOut.scan = d.ranOut.finished := by
  rw [runOut_eq, finishSession_scan]

/-- The second phase ends a session at once that ran out of time, and does not forget that. -/
theorem ranOutOfTime_updateMap (h : d.scan.ranOutOfTime) : d.updateMap.scan.ranOutOfTime := by
  rw [updateMap_of_over d (by simp [isOver, h]), ranOutOfTime_finishSession]
  exact h

theorem ranOutOfTime_probe (h : d.scan.ranOutOfTime) : d.probe.scan.ranOutOfTime := by
  by_cases hdue : d.isOverdue
  · rw [probe_of_overdue d hdue, runOut_scan]
    rfl
  rw [probe_of_due d hdue]
  split
  · exact h
  · exact h

theorem ranOutOfTime_receiveMissing (map : SidMap) (h : d.scan.ranOutOfTime) :
    (d.receiveMissing map).scan.ranOutOfTime := by
  rcases Nat.eq_zero_or_pos d.scan.outstanding with ho | ho
  · by_cases hconfirmed : d.isConfirmedBy map
    · rw [receiveMissing_of_confirmed d ho hconfirmed]
      exact ranOutOfTime_updateMap d.confirmed h
    · rw [receiveMissing_of_ignored d ho hconfirmed]
      exact h
  by_cases hdue : d.isOverdue
  · rw [receiveMissing_of_overdue d ho hdue, runOut_scan]
    rfl
  have hcounted : (d.countReport map).scan.ranOutOfTime := h
  rw [receiveMissing_of_counted d map ho hdue]
  split
  · exact ranOutOfTime_updateMap _ hcounted
  unfold probeWhenDue
  split
  · exact ranOutOfTime_probe _ hcounted
  · exact hcounted

/-! ### Reports that delete devices -/

/-- Some report of missing slots deletes what is offline: a probe is still outstanding and the
session is not overdue, or a map was sent. -/
def Deletable : Prop :=
  d.deletesAtEnd ∧ (0 < d.scan.outstanding ∧ ¬ d.isOverdue ∨ 0 < d.scan.updateCount)

variable {d} {e : Discovery} {map : SidMap}

theorem deletable_of_mem_reportEnds (h : e ∈ d.reportEnds map) (hdeletes : e.deletesAtEnd) :
    d.Deletable := by
  obtain ⟨-, hsame, ho | hn⟩ := scan_of_mem_reportEnds d h hdeletes
  · refine ⟨hsame, .inl ⟨ho, fun hdue => ?_⟩⟩
    have hend : e ∈ [d.ranOut] := by
      unfold reportEnds at h
      rwa [if_pos ho, if_pos hdue] at h
    obtain rfl := List.mem_singleton.1 hend
    simp [deletesAtEnd_ranOut] at hdeletes
  · exact ⟨hsame, .inr hn⟩

/-- The report that no slot is missing ends the session, and deletes what it deletes. -/
theorem exists_reportEnds_of_deletable (h : d.Deletable) (horderly : d.Orderly) :
    ∃ e ∈ d.reportEnds .empty, e.deletesAtEnd := by
  obtain ⟨hdeletes, hcase⟩ := h
  rcases Nat.eq_zero_or_pos d.scan.updateCount with hn | hn
  · obtain ⟨ho, hdue⟩ := hcase.resolve_right (by omega)
    let marked := (d.countReport .empty).markDevices
    have hn' : marked.scan.updateCount = 0 := hn
    have hnone : ¬ marked.someMissing := by
      rw [someMissing_iff]
      rintro ⟨sid, -, hr⟩
      have hempty : marked.scan.removal.contains sid = false := by
        simp [marked, markDevices, onSite, countReport]
      rw [hempty] at hr
      cases hr
    rw [reportEnds_of_counted d ho hdue, if_pos (isDecided_countReport_empty d)]
    by_cases hover : marked.isOver
    · exact ⟨marked.cancelMissing, by simp [updateMapEnds_of_over marked hover, marked], hdeletes⟩
    · exact ⟨marked.cancelMissing.unreduced,
        by simp [updateMapEnds_of_none marked hover hn' hnone, marked], hdeletes⟩
  · obtain ⟨ho, -⟩ := horderly hn
    have hconfirmed : d.isConfirmedBy .empty := by
      simp [isConfirmedBy, SidMap.isEmpty, SidMap.empty, hn]
    have hover : d.confirmed.isOver := by simp [isOver, mapUpdated, confirmed]
    have hends : d.reportEnds .empty = [d.confirmed.cancelMissing] := by
      unfold reportEnds
      rw [if_neg (by omega), if_pos hconfirmed, updateMapEnds_of_over _ hover]
    exact ⟨d.confirmed.cancelMissing, by simp [hends], hdeletes⟩

/-! ### Sessions that are put off -/

/-- If no session begins, the attempt waits for the next one. -/
theorem rests_of_postponed {incidents : Incidents} (ht : (d.among incidents).Tied)
    (h : ¬ d.scan.active) (hidle : ¬ d.beginSession.scan.active) :
    d.beginSession.scan.outstanding = 0 ∧ d.beginSession.scan.updateCount = 0 ∧
      d.beginSession.Awaits .testMissingInit := by
  obtain ⟨d', left, hstep, hscan, hbegin | hbegin⟩ := beginSession_cases d h
  · rw [hbegin] at hidle
    exact absurd rfl hidle
  · have hkept : d'.postpone.scan = d'.scan := rfl
    rw [hbegin, hkept, hscan]
    exact ⟨rfl, rfl, awaits_restartMissing _ rfl _ (hstep.tied _ ht)⟩

end Discovery

/-! ### What is left of a session -/

/-- The test waits for the next session, and nothing is left of the last one. -/
structure Engine.Resting (engine : Engine) : Prop where
  outstanding : engine.network.scan.outstanding = 0
  updateCount : engine.network.scan.updateCount = 0
  awaits : engine.discovery.Awaits .testMissingInit

/-- Nothing is left that could delete a device: the last session ran out of time, or the test waits
for the next one. -/
def Engine.Spent (engine : Engine) : Prop :=
  engine.network.scan.ranOutOfTime ∨ engine.Resting

namespace Engine

variable {engine : Engine} {move : Move} {frame : List UInt8} {d : Discovery}

/-- A report deletes something only if something is left of the session that it finds. -/
theorem deletes_of_mem_receive (h : d ∈ engine.endings (.receive frame))
    (hdeletes : d.deletesAtEnd) : d.scan.active = engine.network.scan.active ∧ ¬ engine.Spent := by
  by_cases hmissing : ∃ map, Report.decode frame = .ok (.missingNodes map)
  · obtain ⟨map, hmap⟩ := hmissing
    rw [endings_receive_of_missing engine hmap] at h
    obtain ⟨hactive, hsame, hleft⟩ := Discovery.scan_of_mem_reportEnds _ h hdeletes
    refine ⟨hactive, fun hspent => ?_⟩
    rcases hspent with hran | hresting
    · simp [Discovery.deletesAtEnd, counted, onSite, discovery, hran] at hsame
    · have ho : (engine.counted frame).discovery.scan.outstanding = 0 := hresting.outstanding
      have hn : (engine.counted frame).discovery.scan.updateCount = 0 := hresting.updateCount
      omega
  · rw [endings_receive_of_other engine fun map hmap => hmissing ⟨map, hmap⟩] at h
    exact absurd h List.not_mem_nil

/-- So does a timer. -/
theorem deletes_of_mem_expire (h : d ∈ engine.endings .expire) (hdeletes : d.deletesAtEnd) :
    d.scan.active = engine.network.scan.active ∧ ¬ engine.Spent := by
  obtain ⟨hnone, -⟩ | ⟨kind, found, hfires, hends, -⟩ := expireEnds_cases engine
  · have hmem : d ∈ engine.expireEnds := h
    exact absurd (hnone ▸ hmem) List.not_mem_nil
  · have hmem : d ∈ found.fireEnds kind := hends ▸ h
    obtain ⟨hactive, hsame, hkind⟩ := Discovery.scan_of_mem_fireEnds _ hmem hdeletes
    rw [hfires.scan] at hactive
    refine ⟨hactive, fun hspent => ?_⟩
    rcases hspent with hran | hresting
    · simp [Discovery.deletesAtEnd, hfires.scan, hran] at hsame
    · rw [hfires.kind_eq hresting.awaits] at hkind
      cases hkind

/-- Devices are deleted by a session that is running, or by what is left of one that is over. -/
theorem deletes_of_mem_endings (h : d ∈ engine.endings move) (hdeletes : d.deletesAtEnd) :
    d.scan.active ∨ ¬ engine.network.scan.active ∧ ¬ engine.Spent := by
  have of_same (hsame : d.scan.active = engine.network.scan.active ∧ ¬ engine.Spent) :
      d.scan.active ∨ ¬ engine.network.scan.active ∧ ¬ engine.Spent := by
    by_cases hactive : d.scan.active
    · exact .inl hactive
    · exact .inr ⟨hsame.1 ▸ hactive, hsame.2⟩
  by_cases hreceive : ∃ frame, move = .receive frame
  · obtain ⟨frame, rfl⟩ := hreceive
    exact of_same (deletes_of_mem_receive h hdeletes)
  by_cases hexpire : move = .expire
  · subst hexpire
    exact of_same (deletes_of_mem_expire h hdeletes)
  -- whatever else ends a session gives it up or removes devices
  rcases endings_of_asked engine (fun frame heq => hreceive ⟨frame, heq⟩) hexpire with
    hends | hends | hends | ⟨id, hends⟩
  · exact absurd (hends ▸ h) List.not_mem_nil
  · rw [hends] at h
    unfold Discovery.testModeEnds at h
    split at h
    · exact absurd h List.not_mem_nil
    · simp [Discovery.not_deletes_cancelEnds _ h] at hdeletes
  · exact .inl (Discovery.active_of_mem_flushAllEnds _ (hends ▸ h) hdeletes)
  · exact .inl (Discovery.active_of_mem_flushEnds _ (hends ▸ h) hdeletes)

/-! ### Until the next session -/

variable {engine' : Engine}

theorem Resting.aside (h : engine.Resting) (haside : Aside engine engine') : engine'.Resting where
  outstanding := haside.scan ▸ h.outstanding
  updateCount := haside.scan ▸ h.updateCount
  awaits := h.awaits.aside haside

theorem Spent.aside (h : engine.Spent) (haside : Aside engine engine') : engine'.Spent := by
  unfold Spent
  rw [haside.scan]
  exact h.imp id fun hresting => hresting.aside haside

/-- While the test waits for the next session, no frame concerns it. -/
theorem Resting.receive (h : engine.Resting) (frame : List UInt8) :
    Beside engine (engine.receive frame) := by
  by_cases hmissing : ∃ map, Report.decode frame = .ok (.missingNodes map)
  · obtain ⟨map, hmap⟩ := hmissing
    have hunsent : ¬ (engine.counted frame).discovery.isConfirmedBy map := by
      simp [Discovery.isConfirmedBy,
        show (engine.counted frame).discovery.scan.updateCount = 0 from h.updateCount]
    have hstay : (engine.counted frame).discovery.receiveMissing map =
        (engine.counted frame).discovery :=
      Discovery.receiveMissing_of_ignored _ h.outstanding hunsent
    rw [receive_missingNodes engine hmap]
    show Beside engine (((engine.counted frame).discovery.receiveMissing map).among _)
    rw [hstay]
    exact beside_counted engine frame
  · exact beside_receive engine fun map hmap => hmissing ⟨map, hmap⟩

/-- If the time has come and no session begins, the test waits for the next one. -/
theorem resting_of_postponed (htended : engine.Tended)
    (hfires : engine.Fires .testMissingInit d) (hidle : ¬ engine.network.scan.active)
    (hidle' : ¬ (d.fireTest .testMissingInit).scan.active) :
    ((d.fireTest .testMissingInit).among engine.incidents).Resting := by
  let chosen : Discovery := { d with scan := { d.scan with delete := true } }
  have hinactive : ¬ chosen.scan.active := by
    show ¬ d.scan.active
    rw [hfires.scan]
    exact hidle
  have htied : (chosen.among engine.incidents).Tied := hfires.tied htended.tied
  obtain ⟨ho, hn, hawaits⟩ := chosen.rests_of_postponed htied hinactive hidle'
  exact ⟨ho, hn, hawaits⟩

theorem spent_receive (h : engine.Spent) (frame : List UInt8) : (engine.receive frame).Spent := by
  rcases h with hran | hresting
  · by_cases hmissing : ∃ map, Report.decode frame = .ok (.missingNodes map)
    · obtain ⟨map, hmap⟩ := hmissing
      rw [receive_missingNodes engine hmap]
      exact .inl ((engine.counted frame).discovery.ranOutOfTime_receiveMissing map hran)
    · have hran : engine.Spent := .inl hran
      exact hran.aside (beside_receive engine fun map hmap => hmissing ⟨map, hmap⟩).toAside
  · exact .inr (hresting.aside (hresting.receive frame).toAside)

/-- A timer leaves nothing that could delete a device, unless it begins a session. -/
theorem spent_expire (htended : engine.Tended) (h : engine.Spent)
    (hidle : ¬ engine.network.scan.active) (hidle' : ¬ engine.expire.network.scan.active) :
    engine.expire.Spent := by
  obtain hbeside | ⟨kind, found, hfires, hexpire⟩ := beside_or_fires engine
  · exact h.aside hbeside.toAside
  have hran (hnot : kind ≠ .testMissingInit) : found.scan.ranOutOfTime := by
    rw [hfires.scan]
    exact h.resolve_right fun hresting => hnot (hfires.kind_eq hresting.awaits)
  rw [hexpire] at hidle' ⊢
  cases kind with
  | testMissingInit => exact .inr (resting_of_postponed htended hfires hidle hidle')
  | testMissingUpdateMap => exact .inl (found.ranOutOfTime_updateMap (hran (by simp)))
  | _ => exact .inl (found.ranOutOfTime_probe (hran (by simp)))

/-- Until a session begins, nothing is left of the last one if nothing was. -/
theorem spent_move (htended : engine.Tended) (h : engine.Spent) (hmove : move.Unasked)
    (hidle : ¬ engine.network.scan.active) (hidle' : ¬ (engine.move move).network.scan.active) :
    (engine.move move).Spent := by
  cases move with
  | receive frame => exact spent_receive h frame
  | expire => exact spent_expire htended h hidle hidle'
  | control | wish | fireDue => exact absurd hmove id
  | advance | desire | outages | share | contend =>
    exact h.aside (beside_passive engine (by trivial)).toAside

/-! ### Devices that stay -/

variable {id : DeviceId}

/-- A device that a move removes was offline at the end of a session that deletes devices. -/
theorem exists_ending_of_removed (hsingle : move.Single)
    (hbefore : engine.site.platform.isRegistered id)
    (hafter : ¬ (engine.move move).site.platform.isRegistered id) :
    ∃ d ∈ engine.endings move, d.deletesAtEnd ∧ id.isGateway = false ∧ d.site.isOffline id := by
  by_contra hnone
  have hmem := Shadow.Store.isRegistered_iff.1 hbefore
  exact hafter (Shadow.Store.isRegistered_iff.2
    ((edits_move engine hsingle).mem_of_not_removes hnone hmem))

/-- While no session runs and nothing is left of the last one, every device stays. -/
theorem isRegistered_move_of_spent (h : engine.Spent) (hmove : move.Unasked)
    (hbefore : engine.site.platform.isRegistered id) :
    (engine.move move).site.platform.isRegistered id := by
  have hsingle : move.Single := by cases move <;> trivial
  by_contra hafter
  obtain ⟨d, hd, hdeletes, -⟩ := exists_ending_of_removed hsingle hbefore hafter
  cases move with
  | receive => exact (deletes_of_mem_receive hd hdeletes).2 h
  | expire => exact (deletes_of_mem_expire hd hdeletes).2 h
  | control | wish | fireDue => exact hmove
  | _ => exact absurd hd List.not_mem_nil

/-! ### Sessions that are given up -/

/-- The running session is given up: the test is stopped, or a report that answers a probe or the
timer of the next probe comes when the session is overdue. -/
def GivesUp (engine : Engine) : Move → Prop
  | .control .stopScan => True
  | .receive frame => (∃ map, Report.decode frame = .ok (.missingNodes map)) ∧
      0 < engine.network.scan.outstanding ∧ engine.discovery.isOverdue
  | .expire => (engine.popDue.1 = some .testMissingTimeout ∨
      engine.popDue.1 = some .testMissingContinue) ∧ engine.discovery.isOverdue
  | _ => False

/-- The end of a session that is given up counts as one that ran out of time. -/
theorem exists_ranOut (hactive : engine.network.scan.active) (h : engine.GivesUp move) :
    ∃ d : Discovery, engine.endings move = [d.ranOut] ∧
      (engine.move move).network.scan = d.ranOut.finished := by
  cases move with
  | control operation =>
    cases operation with
    | stopScan =>
      let chosen : Discovery := { engine.discovery with
        scan := { engine.network.scan with delete := false } }
      have hstop : engine.discovery.setTestMode false false = chosen.runOut := by
        unfold Discovery.setTestMode
        refine (if_neg (by simp [discovery, hactive])).trans ?_
        exact Discovery.cancelSession_of_active chosen hactive
      refine ⟨chosen, ?_, ?_⟩
      · show engine.discovery.testModeEnds false false = [chosen.ranOut]
        unfold Discovery.testModeEnds
        rw [if_neg (by simp [discovery, hactive])]
        exact if_pos hactive
      · show (engine.discovery.setTestMode false false).scan = _
        rw [hstop, Discovery.runOut_scan]
    | _ => exact absurd h id
  | receive frame =>
    obtain ⟨⟨map, hmap⟩, ho, hdue⟩ := h
    let found := (engine.counted frame).discovery
    have ho' : 0 < found.scan.outstanding := ho
    have hdue' : found.isOverdue := hdue
    refine ⟨found, ?_, ?_⟩
    · rw [endings_receive_of_missing engine hmap]
      unfold Discovery.reportEnds
      rw [if_pos ho', if_pos hdue']
    · show (engine.receive frame).network.scan = _
      rw [receive_missingNodes engine hmap]
      show (found.receiveMissing map).scan = _
      rw [Discovery.receiveMissing_of_overdue found ho' hdue', Discovery.runOut_scan]
  | expire =>
    obtain ⟨hkind, hdue⟩ := h
    have of_due {kind : TimerKind} (hpop : engine.popDue.1 = some kind)
        (hplace : kind.place = .missing) (hends : ∀ d : Discovery, d.fireEnds kind = d.probeEnds)
        (hfire : ∀ d : Discovery, d.fireTest kind = d.probe) : ∃ d : Discovery,
          engine.expireEnds = [d.ranOut] ∧ engine.expire.network.scan = d.ranOut.finished := by
      obtain ⟨d, hfires, hexpire, heq⟩ := expireEnds_of_due engine hpop hplace
      have hdue' : d.isOverdue := by
        obtain ⟨rest, rfl⟩ := hfires.eq
        exact hdue
      refine ⟨d, ?_, ?_⟩
      · rw [hexpire, hends]
        exact if_pos hdue'
      · rw [heq, hfire, Discovery.probe_of_overdue d hdue']
        exact d.runOut_scan
    rcases hkind with hpop | hpop
    · exact of_due hpop rfl (fun _ => rfl) fun _ => rfl
    · exact of_due hpop rfl (fun _ => rfl) fun _ => rfl
  | _ => exact absurd h id

/-- No session is running. -/
def Idle (engine : Engine) : Prop := engine.network.scan.active = false

instance : DecidablePred Idle := fun _ => inferInstanceAs (Decidable (_ = _))

/-- Devices stay while no session runs and nothing is left of the last one. -/
theorem isRegistered_moves_of_spent (htended : engine.Tended) (h : engine.Spent)
    {moves : List Move} (halong : Along Idle (fun _ move => move.Unasked) engine moves)
    (hbefore : engine.site.platform.isRegistered id) :
    (engine.moves moves).site.platform.isRegistered id := by
  have hkept := along_induct (I := fun engine => engine.Tended ∧ engine.Spent ∧
      engine.site.platform.isRegistered id) (fun engine move _ hmove hidle' hkept => ?_) halong
    ⟨htended, h, hbefore⟩
  · exact hkept.2.2
  · obtain ⟨htended, hspent, hhere⟩ := hkept
    exact ⟨tended_moves htended [move],
      spent_move htended hspent hmove (by simp_all [Idle]) (by simp_all [Idle]),
      isRegistered_move_of_spent hspent hmove hhere⟩

/-! ### Deletion -/

/-- What can be said of the devices that disappear. -/
structure DeletesSafely (engine : Engine) : Prop where
  /-- A device disappears only at the end of a session, if it is none that is the gateway and is
  offline then.  The session deletes devices, has not run out of time, and is running, unless
  something is left of a session that is over. -/
  removed : ∀ move : Move, move.Single → ∀ id, engine.site.platform.isRegistered id →
    ¬ (engine.move move).site.platform.isRegistered id →
      ∃ d ∈ engine.endings move, (d.scan.delete ∧ d.scan.ranOutOfTime = false) ∧
        id.isGateway = false ∧ d.site.isOffline id ∧
          (d.scan.active ∨ ¬ engine.network.scan.active ∧ ¬ engine.Spent)
  /-- These ends of sessions are those that are counted. -/
  counted : ∀ move : Move, move.Single →
    (engine.move move).site.completed = engine.site.completed + (engine.endings move).length
  /-- The gateway never disappears. -/
  gateway : engine.site.platform.isRegistered .gateway → ∀ moves : List Move,
    (engine.moves moves).site.platform.isRegistered .gateway
  /-- When the running session is given up, no device disappears until the next one begins. -/
  givenUp : engine.network.scan.active → ∀ move, engine.GivesUp move → ∀ moves,
    Along Idle (fun _ move => move.Unasked) (engine.move move) moves →
      ∀ id, engine.site.platform.isRegistered id →
        ((engine.move move).moves moves).site.platform.isRegistered id
  /-- Whether a session is running or not, some report ends one that deletes devices exactly if the
  test is to delete them and a probe is outstanding in time, or a map was sent. -/
  leftOver : (∃ frame, ∃ d ∈ engine.endings (.receive frame), d.deletesAtEnd) ↔
    engine.discovery.Deletable

theorem isRegistered_gateway_moves (h : engine.site.platform.isRegistered .gateway)
    (moves : List Move) : (engine.moves moves).site.platform.isRegistered .gateway := by
  refine single_induct (P := fun engine => engine.site.platform.isRegistered .gateway)
    (fun engine move hsingle hbefore => ?_) engine moves h
  by_contra hafter
  obtain ⟨d, -, -, hmesh, -⟩ := exists_ending_of_removed hsingle hbefore hafter
  cases hmesh

/-- A move that gives the running session up removes nothing. -/
theorem isRegistered_move_of_givesUp (hactive : engine.network.scan.active)
    (h : engine.GivesUp move) (hbefore : engine.site.platform.isRegistered id) :
    (engine.move move).site.platform.isRegistered id := by
  obtain ⟨found, hends, -⟩ := exists_ranOut hactive h
  have hsingle : move.Single := by
    cases move with
    | control operation => cases operation <;> first | exact trivial | exact absurd h not_false
    | fireDue => exact absurd h not_false
    | _ => exact trivial
  by_contra hafter
  obtain ⟨d, hd, hdeletes, -⟩ := exists_ending_of_removed hsingle hbefore hafter
  obtain rfl : d = found.ranOut := by simpa [hends] using hd
  simp [Discovery.deletesAtEnd_ranOut] at hdeletes

theorem exists_deletes_iff (horderly : engine.discovery.Orderly) :
    (∃ frame, ∃ d ∈ engine.endings (.receive frame), d.deletesAtEnd) ↔
      engine.discovery.Deletable := by
  constructor
  · rintro ⟨frame, d, hd, hdeletes⟩
    by_cases hmissing : ∃ map, Report.decode frame = .ok (.missingNodes map)
    · obtain ⟨map, hmap⟩ := hmissing
      rw [endings_receive_of_missing engine hmap] at hd
      have hfound : (engine.counted frame).discovery.Deletable :=
        Discovery.deletable_of_mem_reportEnds hd hdeletes
      exact hfound
    · rw [endings_receive_of_other engine fun map hmap => hmissing ⟨map, hmap⟩] at hd
      exact absurd hd List.not_mem_nil
  · intro h
    have hcounted : (engine.counted emptyReport).discovery.Deletable := h
    have horderly' : (engine.counted emptyReport).discovery.Orderly := fun hn =>
      ⟨(horderly hn).1, (horderly hn).2.aside (beside_counted engine emptyReport).toAside⟩
    refine ⟨emptyReport, ?_⟩
    rw [endings_receive_of_missing engine decode_emptyReport]
    exact Discovery.exists_reportEnds_of_deletable hcounted horderly'

end Engine

/-- Every reachable engine deletes safely. -/
theorem deletesSafely {settings : Config.Settings} {engine : Engine}
    (h : Reachable settings engine) : engine.DeletesSafely where
  removed move hsingle id hbefore hafter := by
    obtain ⟨d, hd, hdeletes, hmesh, hoffline⟩ :=
      Engine.exists_ending_of_removed hsingle hbefore hafter
    have hflags : d.scan.delete ∧ d.scan.ranOutOfTime = false := by
      simpa [Discovery.deletesAtEnd] using hdeletes
    exact ⟨d, hd, hflags, hmesh, hoffline, Engine.deletes_of_mem_endings hd hdeletes⟩
  counted move hsingle := engine.completed_move hsingle
  gateway := Engine.isRegistered_gateway_moves
  givenUp hactive move hgives moves halong id hbefore := by
    obtain ⟨found, -, hscan⟩ := Engine.exists_ranOut hactive hgives
    have hspent : (engine.move move).Spent := .inl (by rw [hscan]; rfl)
    exact Engine.isRegistered_moves_of_spent (h.move move).tended hspent halong
      (Engine.isRegistered_move_of_givesUp hactive hgives hbefore)
  leftOver := Engine.exists_deletes_iff h.orderly

/-- The test is stopped and then its report arrives: all devices stay. -/
theorem deletesSafely_stopped :
    (joined.move (.control (.beginScan true))).network.scan.active ∧
    ∀ id, (joined.move (.control (.beginScan true))).site.platform.isRegistered id →
      (joined.moves [.control (.beginScan true), .control .stopScan,
        .receive emptyReport]).site.platform.isRegistered id := by
  have hactive : (joined.move (.control (.beginScan true))).network.scan.active := by
    decide +kernel
  exact ⟨hactive, (deletesSafely (reachable_joined.move _)).givenUp hactive (.control .stopScan)
    trivial [.receive emptyReport] (by decide +kernel)⟩

/-- A test that keeps missing devices ends with a probe outstanding.  Then the gateway leaves the
network, and a test that deletes them is asked for in vain. -/
def Engine.outOfNetwork : Engine :=
  joined.moves [.control (.beginScan false), .advance (.ofSeconds 60), .expire, .expire,
    .receive emptyReport, .receive [0xd4, 3, 1, 0, 0, 0, 0, 0, 0, 0], .control (.beginScan true)]

/-- The late report of the first test then deletes a device, though no session is running. -/
example : Engine.outOfNetwork.Idle ∧
    Engine.outOfNetwork.site.platform.isRegistered (.ofNat 5) ∧
    ¬ (Engine.outOfNetwork.receive emptyReport).site.platform.isRegistered (.ofNat 5) := by
  decide +kernel

end AlarmMesh.Gateway
