import AlarmMesh.Proofs.Gateway.Deferred

/-!
# Requests that are refused

A request for a test while one is running, and one to stop it while none is, begins and ends
nothing.  But the word that it carries on whether devices are deleted is taken down before it is
refused.  So it overrules what the running test, or the removal of a device, was asked for: the
devices that are offline in the end are removed, or stay, as the refused request says.

* `Engine.Refuses` — the requests that are refused;
* `delete_of_waits`, `delete_of_ending` — once devices are to be kept, no session deletes any;
* `Engine.Retains`, `Engine.Settles` — what the word on deletion comes to when a session ends;
* `Engine.Overrules`, `overrules` — what a refused request comes to.
-/

namespace AlarmMesh.Gateway

open Radio (DeviceId Report SidMap)

/-! ### Tests that keep missing devices -/

namespace Discovery

variable {d : Discovery}

/-- Such a test is over once its second phase would begin. -/
theorem delete_updateMap (h : d.scan.delete = false) : d.updateMap.scan.delete = false := by
  rw [updateMap_of_over d (by simp [isOver, h]), finishSession_scan]
  rfl

theorem delete_runOut : d.runOut.scan.delete = false := by
  rw [runOut_scan]
  rfl

theorem delete_probe (h : d.scan.delete = false) : d.probe.scan.delete = false := by
  by_cases hdue : d.isOverdue
  · rw [probe_of_overdue d hdue]
    exact delete_runOut
  rw [probe_of_due d hdue]
  split
  · exact h
  · exact h

theorem delete_receiveMissing (map : SidMap) (h : d.scan.delete = false) :
    (d.receiveMissing map).scan.delete = false := by
  rcases Nat.eq_zero_or_pos d.scan.outstanding with ho | ho
  · by_cases hconfirmed : d.isConfirmedBy map
    · rw [receiveMissing_of_confirmed d ho hconfirmed]
      exact delete_updateMap (d := d.confirmed) h
    · rw [receiveMissing_of_ignored d ho hconfirmed]
      exact h
  by_cases hdue : d.isOverdue
  · rw [receiveMissing_of_overdue d ho hdue]
    exact delete_runOut
  have hcounted : (d.countReport map).scan.delete = false := h
  rw [receiveMissing_of_counted d map ho hdue]
  split
  · exact delete_updateMap hcounted
  unfold probeWhenDue
  split
  · exact delete_probe hcounted
  · exact hcounted

theorem delete_fireTest {kind : TimerKind} (hkind : kind ≠ .testMissingInit)
    (h : d.scan.delete = false) : (d.fireTest kind).scan.delete = false := by
  cases kind with
  | testMissingInit => exact absurd rfl hkind
  | testMissingUpdateMap => exact delete_updateMap h
  | _ => exact delete_probe h

end Discovery

namespace Engine

variable {engine : Engine} {move : Move} {e : Discovery} {operation : Control} {delete : Bool}

/-- What deletes devices when the engine is asked for nothing is the test that it finds. -/
theorem delete_of_ending (hmove : move.Unasked) (he : e ∈ engine.endings move)
    (hdeletes : e.deletesAtEnd) : engine.network.scan.delete := by
  have of_found {d : Discovery} (hscan : d.scan = engine.network.scan) (h : d.deletesAtEnd) :
      engine.network.scan.delete := by
    simp only [Discovery.deletesAtEnd, Bool.and_eq_true, hscan] at h
    exact h.1
  cases move with
  | receive frame =>
    by_cases hmissing : ∃ map, Report.decode frame = .ok (.missingNodes map)
    · obtain ⟨map, hmap⟩ := hmissing
      rw [endings_receive_of_missing engine hmap] at he
      exact of_found rfl (Discovery.scan_of_mem_reportEnds _ he hdeletes).2.1
    · rw [endings_receive_of_other engine fun map hmap => hmissing ⟨map, hmap⟩] at he
      exact absurd he List.not_mem_nil
  | expire =>
    obtain ⟨hnone, -⟩ | ⟨kind, d, hfires, hends, -⟩ := expireEnds_cases engine
    · rw [show engine.endings .expire = [] from hnone] at he
      exact absurd he List.not_mem_nil
    · rw [show engine.endings .expire = _ from hends] at he
      exact of_found hfires.scan (Discovery.scan_of_mem_fireEnds _ he hdeletes).2.1
  | control | wish | fireDue => exact absurd hmove id
  | _ => exact absurd he List.not_mem_nil

/-- Until the next attempt begins, the devices are to be kept if they were. -/
theorem delete_of_waits (hmove : engine.Waits move) (h : engine.network.scan.delete = false) :
    (engine.move move).network.scan.delete = false := by
  have of_aside (haside : Aside engine (engine.move move)) :
      (engine.move move).network.scan.delete = false := haside.scan ▸ h
  obtain ⟨hunasked | ⟨enabled, seconds, rfl⟩, hundue⟩ := hmove
  · cases move with
    | receive frame =>
      by_cases hmissing : ∃ map, Report.decode frame = .ok (.missingNodes map)
      · obtain ⟨map, hmap⟩ := hmissing
        show (engine.receive frame).network.scan.delete = false
        rw [receive_missingNodes engine hmap]
        exact Discovery.delete_receiveMissing (d := (engine.counted frame).discovery) map h
      · exact of_aside (beside_receive engine fun map hmap => hmissing ⟨map, hmap⟩).toAside
    | expire =>
      obtain hbeside | ⟨kind, d, hfires, hexpire⟩ := beside_or_fires engine
      · exact of_aside hbeside.toAside
      · have hkind : kind ≠ .testMissingInit := fun hinit => hundue rfl (hinit ▸ hfires.due.1)
        show engine.expire.network.scan.delete = false
        rw [hexpire]
        exact Discovery.delete_fireTest hkind (hfires.scan ▸ h)
    | control | wish | fireDue => exact absurd hunasked id
    | advance | desire | outages | share | contend =>
      exact of_aside (beside_passive engine (by trivial)).toAside
  · exact of_aside (spared_setLearnMode engine enabled seconds).toAside

/-- No device disappears with such a move. -/
theorem isRegistered_of_waits (hmove : engine.Waits move) (h : engine.network.scan.delete = false)
    {id : DeviceId} (hbefore : engine.site.platform.isRegistered id) :
    (engine.move move).site.platform.isRegistered id := by
  by_contra hgone
  obtain ⟨hunasked | ⟨enabled, seconds, rfl⟩, -⟩ := hmove
  · obtain ⟨e, he, hdeletes, -⟩ :=
      exists_ending_of_removed (single_of_unasked hunasked) hbefore hgone
    exact Bool.false_ne_true (h.symm.trans (delete_of_ending hunasked he hdeletes))
  · obtain ⟨e, he, -⟩ := exists_ending_of_removed (by trivial) hbefore hgone
    exact absurd he List.not_mem_nil

/-! ### What the word comes to -/

/-- Devices are kept: until another test or a removal is asked for, or the timer of the next test
fires, every device stays, also when the session that is running ends; and while it runs, that
timer is not due. -/
structure Retains (engine : Engine) : Prop where
  stays : ∀ moves, Along (fun _ => True) Waits engine moves →
    (engine.moves moves).network.scan.delete = false ∧
      ∀ id : DeviceId, engine.site.platform.isRegistered id →
        (engine.moves moves).site.platform.isRegistered id
  undue : ∀ moves, (engine.moves moves).network.phase ≠ .idle →
    (engine.moves moves).popDue.1 ≠ some .testMissingInit

/-- While a session is running, no timer is due that begins one. -/
theorem Tended.undue (h : engine.Tended) (hrunning : engine.network.phase ≠ .idle) :
    engine.popDue.1 ≠ some .testMissingInit := by
  intro hdue
  obtain ⟨kind, hawaits, hkind⟩ := h.rests
  obtain ⟨d, hfires, -⟩ := expire_of_due engine hdue rfl
  exact hkind (active_of_phase hrunning) (hfires.kind_eq hawaits).symm

theorem retains_of_kept (ht : engine.Tended) (h : engine.network.scan.delete = false) :
    engine.Retains where
  stays moves halong := by
    refine along_induct (I := fun e => e.network.scan.delete = false ∧
      ∀ id : DeviceId, engine.site.platform.isRegistered id → e.site.platform.isRegistered id)
      (fun e move _ hmove _ ⟨hkept, hhere⟩ => ?_) halong ⟨h, fun _ hbefore => hbefore⟩
    exact ⟨delete_of_waits hmove hkept,
      fun id hbefore => isRegistered_of_waits hmove hkept (hhere id hbefore)⟩
  undue moves := (tended_moves ht moves).undue

/-- The word on deletion settles what becomes of the devices that are offline in the end. -/
structure Settles (engine : Engine) (delete : Bool) : Prop where
  removes : engine.network.phase ≠ .idle → delete → engine.Removes
  retains : delete = false → engine.Retains

theorem Tended.settles (h : engine.Tended) : engine.Settles engine.network.scan.delete where
  removes hrunning hdelete := removes_of_deleting ⟨active_of_phase hrunning, hdelete⟩
  retains := retains_of_kept h

/-! ### Refused requests -/

/-- A request for a test while one is running, or to stop it while none is, and the word that it
carries on whether devices are deleted. -/
inductive Refuses (engine : Engine) : Control → Bool → Prop where
  | again (hrunning : engine.network.phase ≠ .idle) (delete : Bool) :
    engine.Refuses (.beginScan delete) delete
  | stop (hidle : engine.network.phase = .idle) : engine.Refuses .stopScan false

/-- The engine with another word on whether devices are deleted. -/
def told (engine : Engine) (delete : Bool) : Engine :=
  { engine with network :=
    { engine.network with scan := { engine.network.scan with delete := delete } } }

@[simp]
theorem told_site : (engine.told delete).site = engine.site := rfl

/-- A refused request leaves everything as it is but the word on deletion. -/
theorem control_of_refuses (h : engine.Refuses operation delete) :
    engine.control operation = engine.told delete := by
  cases h with
  | again hrunning =>
    have hstay : engine.discovery.setTestMode true delete = (engine.told delete).discovery := by
      unfold Discovery.setTestMode
      exact if_pos (active_of_phase hrunning).symm
    exact congrArg (fun d : Discovery => d.among engine.incidents) hstay
  | stop hidle =>
    have hstay : engine.discovery.setTestMode false false = (engine.told false).discovery := by
      unfold Discovery.setTestMode
      exact if_pos (Network.phase_eq_idle.1 hidle).symm
    exact congrArg (fun d : Discovery => d.among engine.incidents) hstay

/-- What a refused request comes to. -/
structure Overrules (engine : Engine) (operation : Control) (delete : Bool) : Prop where
  /-- It is taken down whether devices are deleted, and nothing else changes. -/
  changes : engine.control operation = engine.told delete
  /-- So it changes nothing exactly if it says what was said before. -/
  unchanged_iff : engine.control operation = engine ↔ engine.network.scan.delete = delete
  /-- Without the request, what was said before settles what becomes of the devices. -/
  before : engine.Settles engine.network.scan.delete
  /-- With it, the request does. -/
  after : (engine.control operation).Settles delete

end Engine

/-- Every reachable engine is overruled in this way by the requests that it refuses. -/
theorem overrules {settings : Config.Settings} {engine : Engine} {operation : Control}
    {delete : Bool} (h : Reachable settings engine) (hrefuses : engine.Refuses operation delete) :
    engine.Overrules operation delete := by
  have hchanges := Engine.control_of_refuses hrefuses
  refine ⟨hchanges, ⟨fun hsame => ?_, fun hsame => ?_⟩, h.tended.settles, ?_⟩
  · rw [← hsame, hchanges]
    rfl
  · rw [hchanges, ← hsame]
    rfl
  · have hsettles := (h.move (.control operation)).tended.settles
    rw [show engine.move (.control operation) = engine.told delete from hchanges] at hsettles
    rw [hchanges]
    exact hsettles

/-- An engine that was asked for a test that deletes devices. -/
def testing : Engine := joined.move (.control (.beginScan true))

/-- A request for a test that keeps them is refused.  The device at slot 5, which is removed at the
end of the test, stays all the same. -/
theorem overrules_testing :
    testing.Refuses (.beginScan false) false ∧
    ¬ (testing.move (.receive emptyReport)).site.platform.isRegistered (.ofNat 5) ∧
    ((testing.control (.beginScan false)).move (.receive emptyReport)).site.platform.isRegistered
      (.ofNat 5) := by
  have hrunning : testing.network.phase ≠ .idle := by decide +kernel
  have hrefuses : testing.Refuses (.beginScan false) false := .again hrunning false
  have hreachable : Reachable {} testing := reachable_joined.move _
  have hoverrules := overrules hreachable hrefuses
  have hhere : testing.site.platform.isRegistered (.ofNat 5) := by decide +kernel
  refine ⟨hrefuses, ?_, ?_⟩
  · have hremoves := hoverrules.before.removes hrunning (by decide +kernel)
    have hserves : (testing.move (.receive emptyReport)).site.Serves := by decide +kernel
    have hends : ∃ e ∈ testing.endings (.receive emptyReport),
        e.scan.ranOutOfTime = false ∧ e.site.isOffline (.ofNat 5) := by decide +kernel
    have hremoved := hremoves.removed [] trivial (.receive emptyReport) trivial
    rw [Engine.moves_nil] at hremoved
    exact (hremoved hserves (.ofNat 5) rfl hhere).2 hends
  · have hstill : (testing.control (.beginScan false)).site.platform.isRegistered (.ofNat 5) := by
      rw [hoverrules.changes, Engine.told_site]
      exact hhere
    have hwaits : Engine.Along (fun _ => True) Engine.Waits (testing.control (.beginScan false))
        [.receive emptyReport] := ⟨trivial, ⟨.inl trivial, by simp⟩, trivial⟩
    exact ((hoverrules.after.retains rfl).stays _ hwaits).2 (.ofNat 5) hstill

end AlarmMesh.Gateway
