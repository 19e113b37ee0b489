import AlarmMesh.Proofs.Gateway.Lasting
import AlarmMesh.Proofs.Gateway.Verdict

/-!
# Tests that are put off

Who asks for a test says what becomes of the devices that are missing in the end.  If the gateway
is in learn mode or no buffer is free, the test is put off, and what was asked for is kept.  But
the timer of the next attempt is also the one of the periodic test, which deletes devices; so the
session that it begins deletes them, whatever was asked for.

* `Discovery.active_beginSession`, `delete_beginSession` — what an attempt to begin a session does;
* `deleting_expire` — a session that a timer begins deletes devices;
* `Engine.Removes`, `removes_of_deleting` — and what that comes to when it ends;
* `Engine.PutsOff`, `putsOff` — what all of this says of a reachable engine.
-/

namespace AlarmMesh.Gateway

open Radio (DeviceId)

namespace Discovery

variable (d : Discovery)

/-! ### Attempts -/

/-- A request for a test, once nothing is in the way of a session. -/
theorem startTest_eq (hn : d.inNetwork) :
    d.startTest = { d.readied with scan := d.scan }.beginSession := by
  have hnetwork : d.suspendInterrogation.clearTestResult.inNetwork = d.inNetwork := by
    unfold suspendInterrogation
    split <;> rfl
  have hready : d.suspendInterrogation.clearTestResult.cancelMissing =
      { d.readied with scan := d.scan } := by
    unfold readied suspendInterrogation
    dsimp only
    split <;> rfl
  unfold startTest
  rw [← hready]
  exact if_pos (hnetwork.trans hn)

/-- An attempt to begin a session keeps what was asked for. -/
theorem delete_beginSession (h : ¬ d.scan.active) :
    d.beginSession.scan.delete = d.scan.delete := by
  obtain ⟨d', left, -, hscan, hbegin | hbegin⟩ := beginSession_cases d h
  · rw [hbegin]
    show d'.scan.delete = d.scan.delete
    rw [hscan]
  · rw [hbegin]
    show d'.scan.delete = d.scan.delete
    rw [hscan]

/-- In a network a session begins unless the gateway is in learn mode or no buffer is free. -/
theorem active_beginSession (h : ¬ d.scan.active) (hn : d.inNetwork) :
    d.beginSession.scan.active = (!d.learning && d.site.hasBuffer) := by
  by_cases hl : d.learning
  · rw [beginSession_of_learning d h hn hl, hl]
    rfl
  · rw [beginSession_of_joined d h hn hl, eq_false_of_ne_true hl]
    cases d.site.hasBuffer
    · rfl
    · rfl

variable {d}

/-! ### Timers -/

/-- The next attempt to send the map begins no session. -/
theorem active_of_updateMap (h : d.updateMap.scan.active) : d.scan.active := by
  rcases d.ended_or_goesOn with hended | ⟨hgoes, -⟩
  · exact absurd (hended.active.symm.trans h) Bool.false_ne_true
  · rw [hgoes.scan] at h
    exact h

theorem active_of_probe (h : d.probe.scan.active) : d.scan.active := by
  by_cases hdue : d.isOverdue
  · rw [probe_of_overdue d hdue] at h
    exact absurd (d.ended_runOut.active.symm.trans h) Bool.false_ne_true
  · rw [probe_of_due d hdue] at h
    split at h
    · exact h
    · exact h

/-- Only the timer of the next test begins a session, and what it begins deletes devices. -/
theorem deleting_fireTest {kind : TimerKind} (hidle : ¬ d.scan.active)
    (h : (d.fireTest kind).scan.active) : (d.fireTest kind).Deleting := by
  cases kind with
  | testMissingInit => exact ⟨h, delete_beginSession { d with scan := _ } hidle⟩
  | testMissingUpdateMap => exact absurd (active_of_updateMap h) hidle
  | _ => exact absurd (active_of_probe h) hidle

end Discovery

namespace Engine

variable {engine : Engine} {move : Move} {moves : List Move} {id : DeviceId} {e : Discovery}

/-- A session that a timer begins deletes devices. -/
theorem deleting_expire (hidle : ¬ engine.network.scan.active)
    (h : engine.expire.network.scan.active) : engine.expire.discovery.Deleting := by
  obtain hbeside | ⟨kind, d, hfires, hexpire⟩ := beside_or_fires engine
  · rw [hbeside.scan] at h
    exact absurd h hidle
  · rw [hexpire] at h ⊢
    exact Discovery.deleting_fireTest (hfires.scan ▸ hidle) h

/-! ### Waiting -/

/-- The engine is asked for nothing but learn mode, and the timer of the next attempt does not
fire. -/
structure Waits (engine : Engine) (move : Move) : Prop where
  unasked : move.Unasked ∨ ∃ enabled seconds, move = .control (.learn enabled seconds)
  undue : move = .expire → engine.popDue.1 ≠ some .testMissingInit

/-- Until the next attempt nothing happens to a test that was put off. -/
theorem waiting_move (h : engine.Resting) (hmove : engine.Waits move) :
    (engine.move move).Resting ∧ (engine.move move).network.scan = engine.network.scan := by
  have haside : Aside engine (engine.move move) := by
    obtain ⟨hunasked | ⟨enabled, seconds, rfl⟩, hundue⟩ := hmove
    · cases move with
      | receive frame => exact (h.receive frame).toAside
      | expire =>
        obtain hbeside | ⟨kind, d, hfires, -⟩ := beside_or_fires engine
        · exact hbeside.toAside
        · obtain ⟨hdue, -⟩ := hfires.due
          rw [hfires.kind_eq h.awaits] at hdue
          exact absurd hdue (hundue rfl)
      | control | wish | fireDue => exact absurd hunasked id
      | advance | desire | outages | share | contend =>
        exact (beside_passive engine (by trivial)).toAside
    · exact (spared_setLearnMode engine enabled seconds).toAside
  exact ⟨h.aside haside, haside.scan⟩

theorem waiting_moves (h : engine.Resting) (halong : Along (fun _ => True) Waits engine moves) :
    (engine.moves moves).Resting ∧ (engine.moves moves).network.scan = engine.network.scan := by
  refine along_induct (I := fun e => e.Resting ∧ e.network.scan = engine.network.scan)
    (fun e move _ hmove _ ⟨hresting, hsame⟩ => ?_) halong ⟨h, rfl⟩
  obtain ⟨hnext, hscan⟩ := waiting_move hresting hmove
  exact ⟨hnext, hscan.trans hsame⟩

/-- The timer of the next attempt forgets what was asked for. -/
theorem delete_expire (hidle : ¬ engine.network.scan.active)
    (hdue : engine.popDue.1 = some .testMissingInit) : engine.expire.network.scan.delete := by
  obtain ⟨d, hfires, hexpire⟩ := expire_of_due engine hdue rfl
  rw [hexpire]
  exact Discovery.delete_beginSession { d with scan := _ } (hfires.scan ▸ hidle)

/-! ### The session -/

/-- A session that deletes devices in its end: it does so as long as it goes on and no test is
asked for, and when it ends the devices are removed that are offline then, if it is in time. -/
structure Removes (engine : Engine) : Prop where
  lasts : ∀ moves, Along (fun _ => True) Unstopped engine moves →
    (engine.moves moves).network.phase ≠ .idle ∧ (engine.moves moves).network.scan.delete
  ends : ∀ moves, Along (fun _ => True) Unstopped engine moves → ∀ last : Move, last.Unasked →
    ∀ e ∈ (engine.moves moves).endings last, e.scan.active ∧ e.scan.delete
  removed : ∀ moves, Along (fun _ => True) Unstopped engine moves → ∀ last : Move, last.Unasked →
    ((engine.moves moves).move last).site.Serves → ∀ id : DeviceId, id.isGateway = false →
      (engine.moves moves).site.platform.isRegistered id →
        (¬ ((engine.moves moves).move last).site.platform.isRegistered id ↔
          ∃ e ∈ (engine.moves moves).endings last,
            e.scan.ranOutOfTime = false ∧ e.site.isOffline id)

theorem removes_of_deleting (h : engine.discovery.Deleting) : engine.Removes where
  lasts moves halong := by
    have hdeleting := deleting_moves h halong
    refine ⟨fun hidle => ?_, hdeleting.delete⟩
    exact absurd ((Network.phase_eq_idle.1 hidle).symm.trans hdeleting.active) Bool.false_ne_true
  ends moves halong last hlast e he := by
    have hdeleting := deleting_of_mem_endings (deleting_moves h halong) hlast he
    exact ⟨hdeleting.active, hdeleting.delete⟩
  removed moves halong last hlast hserves id hmesh hbefore := by
    have hdeletes (e : Discovery) (he : e ∈ (engine.moves moves).endings last) :
        e.deletesAtEnd ↔ e.scan.ranOutOfTime = false := by
      have hdeleting := deleting_of_mem_endings (deleting_moves h halong) hlast he
      simp [Discovery.deletesAtEnd, hdeleting.delete]
    rw [removed_iff (single_of_unasked hlast) hserves.sweeps hbefore hmesh]
    refine exists_congr fun e => and_congr_right fun he => ?_
    rw [hdeletes e he]

/-- What becomes of a test that is asked for with the word on whether it deletes devices. -/
structure PutsOff (engine : Engine) (delete : Bool) : Prop where
  /-- It begins at once as it was asked for, if the gateway is not in learn mode and a buffer is
  free. -/
  prompt : engine.network.learning = false → engine.site.hasBuffer →
    (engine.control (.beginScan delete)).network.phase ≠ .idle ∧
      (engine.control (.beginScan delete)).network.scan.delete = delete
  /-- Otherwise it is put off.  What was asked for is kept until the timer of the next attempt
  fires, and then it is forgotten. -/
  deferred : engine.network.learning ∨ engine.site.hasBuffer = false →
    (engine.control (.beginScan delete)).Resting ∧
    ∀ moves, Along (fun _ => True) Waits (engine.control (.beginScan delete)) moves →
      ((engine.control (.beginScan delete)).moves moves).network.phase = .idle ∧
      ((engine.control (.beginScan delete)).moves moves).network.scan.delete = delete ∧
      (((engine.control (.beginScan delete)).moves moves).popDue.1 = some .testMissingInit →
        (((engine.control (.beginScan delete)).moves moves).move .expire).network.scan.delete)
  /-- So whatever session a timer begins thereafter deletes devices. -/
  begun : ∀ moves, ((engine.control (.beginScan delete)).moves moves).network.phase = .idle →
    (((engine.control (.beginScan delete)).moves moves).move .expire).network.phase ≠ .idle →
      (((engine.control (.beginScan delete)).moves moves).move .expire).Removes

end Engine

/-- Every reachable engine in a network puts tests off in this way while no session is running. -/
theorem putsOff {settings : Config.Settings} {engine : Engine} (h : Reachable settings engine)
    (hidle : engine.network.phase = .idle) (hn : engine.network.inNetwork) (delete : Bool) :
    engine.PutsOff delete := by
  let chosen : Discovery := { engine.discovery with
    scan := { engine.network.scan with delete := delete } }
  let ready : Discovery := { chosen.readied with scan := chosen.scan }
  have hinactive : engine.network.scan.active = false := Network.phase_eq_idle.1 hidle
  have hready : ¬ ready.scan.active := ne_true_of_eq_false hinactive
  have hnetwork := chosen.readied_toNetwork
  have hjoined : ready.inNetwork :=
    ((congrArg Network.inNetwork hnetwork :) : ready.inNetwork = _).trans hn
  have hlearning : ready.learning = engine.network.learning :=
    (congrArg Network.learning hnetwork :)
  have hbuffer : ready.site.hasBuffer = engine.site.hasBuffer := chosen.readied_hasBuffer
  have hasked : engine.control (.beginScan delete) = ready.beginSession.among engine.incidents := by
    have hstart : engine.discovery.setTestMode true delete = chosen.startTest := by
      unfold Discovery.setTestMode
      exact (if_neg (by simp [Engine.discovery, hinactive])).trans (if_pos rfl)
    show (engine.discovery.setTestMode true delete).among engine.incidents = _
    rw [hstart, Discovery.startTest_eq chosen hn]
  have hactive := Discovery.active_beginSession ready hready hjoined
  rw [hlearning, hbuffer] at hactive
  have hdelete : ready.beginSession.scan.delete = delete :=
    Discovery.delete_beginSession ready hready
  have htied : (ready.among engine.incidents).Tied :=
    (Discovery.testStep_scan chosen.readied chosen.scan).tied _
      (Discovery.tied_readied chosen h.tended.tied)
  refine ⟨fun hl hb => ?_, fun hwait => ?_, fun moves hrest hbegun => ?_⟩
  · rw [hasked]
    refine ⟨fun hstill => ?_, hdelete⟩
    have hstill := (Network.phase_eq_idle.1 hstill).symm.trans hactive
    simp [hl, hb] at hstill
  · have hstill : ready.beginSession.scan.active = false := by
      rw [hactive]
      rcases hwait with hl | hb
      · simp [hl]
      · simp [hb]
    obtain ⟨ho, hn, hawaits⟩ := ready.rests_of_postponed htied hready (ne_true_of_eq_false hstill)
    have hresting : (engine.control (.beginScan delete)).Resting := by
      rw [hasked]
      exact ⟨ho, hn, hawaits⟩
    have hscan : (engine.control (.beginScan delete)).network.scan = ready.beginSession.scan :=
      congrArg (fun e : Engine => e.network.scan) hasked
    refine ⟨hresting, fun moves halong => ?_⟩
    have hsame := (Engine.waiting_moves hresting halong).2.trans hscan
    have hlater :
        ((engine.control (.beginScan delete)).moves moves).network.scan.active = false := by
      rw [hsame, hstill]
    refine ⟨Network.phase_eq_idle.2 hlater, by rw [hsame, hdelete], fun hdue => ?_⟩
    exact Engine.delete_expire (ne_true_of_eq_false hlater) hdue
  · refine Engine.removes_of_deleting (Engine.deleting_expire ?_ ?_)
    · exact ne_true_of_eq_false (Network.phase_eq_idle.1 hrest)
    · by_contra hstill
      exact hbegun (Network.phase_eq_idle.2 (eq_false_of_ne_true hstill))

/-- An engine in learn mode. -/
def deferring : Engine := joined.move (.control (.learn true 0))

/-- Learn mode ends, and the next attempt is due. -/
def untilDue : List Move := [.control (.learn false 0), .advance (.ofSeconds 30)]

/-- The engine was asked for a test that keeps missing devices, and now the session begins. -/
def deferred : Engine := ((deferring.control (.beginScan false)).moves untilDue).move .expire

/-- The device at slot 5 is offline when the session ends, and removed. -/
theorem putsOff_deferring :
    ((deferring.control (.beginScan false)).moves untilDue).network.scan.delete = false ∧
    deferred.network.phase = .probing ∧ deferred.network.scan.delete ∧
    deferred.site.platform.isRegistered (.ofNat 5) ∧
    ¬ (deferred.move (.receive emptyReport)).site.platform.isRegistered (.ofNat 5) := by
  have hr : Reachable {} deferring := reachable_joined.move _
  have hputsOff := putsOff hr (by decide +kernel) (by decide +kernel) false
  have hwaits : Engine.Along (fun _ => True) Engine.Waits (deferring.control (.beginScan false))
      untilDue :=
    ⟨trivial, ⟨.inr ⟨false, 0, rfl⟩, by simp⟩, trivial, ⟨.inl trivial, by simp⟩, trivial⟩
  obtain ⟨hidle, hkept, -⟩ := (hputsOff.deferred (.inl (by decide +kernel))).2 untilDue hwaits
  have hphase : deferred.network.phase = .probing := by decide +kernel
  have hremoves : deferred.Removes := hputsOff.begun untilDue hidle (fun hstill => by
    simpa using hphase.symm.trans hstill)
  have hhere : deferred.site.platform.isRegistered (.ofNat 5) := by decide +kernel
  have hends : ∃ e ∈ deferred.endings (.receive emptyReport),
      e.scan.ranOutOfTime = false ∧ e.site.isOffline (.ofNat 5) := by decide +kernel
  have hserves : (deferred.move (.receive emptyReport)).site.Serves := by decide +kernel
  have hlasts := hremoves.lasts [] trivial
  have hremoved := hremoves.removed [] trivial (.receive emptyReport) trivial
  rw [Engine.moves_nil] at hlasts hremoved
  exact ⟨hkept, hphase, hlasts.2, hhere, (hremoved hserves (.ofNat 5) rfl hhere).2 hends⟩

end AlarmMesh.Gateway
