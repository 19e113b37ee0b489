import AlarmMesh.Proofs.Gateway.TestMove

/-!
# Until a session ends

Whether a session deletes devices is settled when it begins: as long as it goes on, only the
request for another test changes that.  And once it is in its second phase, what becomes of a
device at its end is settled too, unless a frame that is about the device tells otherwise.

* `Discovery.Deleting` — a session that deletes devices is running;
* `Engine.Unstopped`, `deleting_moves` — what leaves it so;
* `deleting_of_mem_endings` — what ends then is a session that deletes devices;
* `Engine.Foretold` — the second phase of a session, and whether a device is offline in it;
* `Engine.Quiet`, `foretold_moves` — what leaves this as it is;
* `Foretold.removed_iff` — so it tells whether the device is removed in the end.
-/

namespace AlarmMesh.Gateway

open Radio (DeviceId Report SidMap)

namespace Discovery

/-- A session is running that deletes devices at its end, unless it runs out of time. -/
structure Deleting (d : Discovery) : Prop where
  active : d.scan.active
  delete : d.scan.delete

theorem goesOn_of_ends {d : Discovery} (h : d.updateMapEnds = []) : d.GoesOn d.updateMap := by
  have hover : ¬ d.isOver := fun hover => by simp [updateMapEnds_of_over d hover] at h
  refine goesOn_updateMap hover fun hn => ?_
  by_contra hnone
  simp [updateMapEnds_of_none d hover hn hnone] at h

namespace Deleting

variable {d e : Discovery} {map : SidMap} {kind : TimerKind}

/-! ### While it goes on -/

theorem updateMap (h : d.Deleting) (hends : d.updateMapEnds = []) : d.updateMap.Deleting := by
  have hscan := (goesOn_of_ends hends).scan
  exact ⟨by rw [hscan]; exact h.active, by rw [hscan]; exact h.delete⟩

theorem probe (h : d.Deleting) (hends : d.probeEnds = []) : d.probe.Deleting := by
  have hdue : ¬ d.isOverdue := fun hdue => by simp [probeEnds, hdue] at hends
  rw [probe_of_due d hdue]
  split
  · exact ⟨h.active, h.delete⟩
  · exact ⟨h.active, h.delete⟩

theorem receiveMissing (h : d.Deleting) (hends : d.reportEnds map = []) :
    (d.receiveMissing map).Deleting := by
  rcases Nat.eq_zero_or_pos d.scan.outstanding with ho | ho
  · rw [receiveMissing_of_goesOn d ho hends]
    exact h
  have hdue : ¬ d.isOverdue := fun hdue => by simp [reportEnds, ho, hdue] at hends
  have hcounted : (d.countReport map).Deleting := ⟨h.active, h.delete⟩
  rw [reportEnds_of_counted d ho hdue] at hends
  rw [receiveMissing_of_counted d map ho hdue]
  split
  · next hdecided =>
    rw [if_pos hdecided] at hends
    have hmarked : (d.countReport map).markDevices.Deleting := ⟨h.active, h.delete⟩
    exact hmarked.updateMap hends
  · next hopen =>
    rw [if_neg hopen] at hends
    unfold probeWhenDueEnds at hends
    unfold probeWhenDue
    split
    · next hspaced =>
      rw [if_pos hspaced] at hends
      exact hcounted.probe hends
    · exact ⟨h.active, h.delete⟩

theorem fireTest (h : d.Deleting) (hends : d.fireEnds kind = []) : (d.fireTest kind).Deleting := by
  cases kind with
  | testMissingInit =>
    have hstay : d.fireTest .testMissingInit = { d with scan := { d.scan with delete := true } } :=
      beginSession_of_active { d with scan := _ } h.active
    rw [hstay]
    exact ⟨h.active, rfl⟩
  | testMissingUpdateMap => exact h.updateMap hends
  | _ => exact h.probe hends

/-- To remove a device ends the session that is running, if there is such a device. -/
theorem flush (h : d.Deleting) {id : DeviceId} (hends : d.flushEnds id = []) :
    (d.flush id).Deleting := by
  unfold flushEnds at hends
  unfold Discovery.flush
  split
  · exact h
  · next sid hsid => simp [hsid, cancelEnds, h.active] at hends

theorem flushAll (h : d.Deleting) (hends : d.flushAllEnds = []) : d.flushAll.Deleting := by
  unfold flushAllEnds at hends
  unfold Discovery.flushAll
  split
  · exact h
  · next hfirst => simp [hfirst, cancelEnds, h.active] at hends

/-! ### At its end -/

theorem of_mem_updateMapEnds (h : d.Deleting) (he : e ∈ d.updateMapEnds) : e.Deleting := by
  unfold updateMapEnds at he
  split at he
  · obtain rfl := List.mem_singleton.1 he
    exact ⟨h.active, h.delete⟩
  split at he
  · obtain rfl := List.mem_singleton.1 he
    exact ⟨h.active, h.delete⟩
  · exact absurd he List.not_mem_nil

theorem ranOut (h : d.Deleting) : d.ranOut.Deleting := ⟨h.active, h.delete⟩

theorem of_mem_probeEnds (h : d.Deleting) (he : e ∈ d.probeEnds) : e.Deleting := by
  unfold probeEnds at he
  split at he
  · obtain rfl := List.mem_singleton.1 he
    exact h.ranOut
  · exact absurd he List.not_mem_nil

theorem of_mem_reportEnds (h : d.Deleting) (he : e ∈ d.reportEnds map) : e.Deleting := by
  have hcounted : (d.countReport map).Deleting := ⟨h.active, h.delete⟩
  have hmarked : (d.countReport map).markDevices.Deleting := ⟨h.active, h.delete⟩
  have hconfirmed : d.confirmed.Deleting := ⟨h.active, h.delete⟩
  unfold reportEnds at he
  split at he
  · split at he
    · obtain rfl := List.mem_singleton.1 he
      exact h.ranOut
    split at he
    · exact hmarked.of_mem_updateMapEnds he
    unfold probeWhenDueEnds at he
    split at he
    · exact hcounted.of_mem_probeEnds he
    · exact absurd he List.not_mem_nil
  split at he
  · exact hconfirmed.of_mem_updateMapEnds he
  · exact absurd he List.not_mem_nil

theorem of_mem_fireEnds (h : d.Deleting) (he : e ∈ d.fireEnds kind) : e.Deleting := by
  unfold fireEnds at he
  split at he
  · exact absurd he List.not_mem_nil
  · exact h.of_mem_updateMapEnds he
  · exact h.of_mem_probeEnds he

end Deleting

end Discovery

/-- The end of the second phase finds the devices as they are. -/
theorem Discovery.platform_of_mem_updateMapEnds (d : Discovery) {e : Discovery}
    (h : e ∈ d.updateMapEnds) : e.site.platform = d.site.platform := by
  unfold updateMapEnds at h
  split at h
  · obtain rfl := List.mem_singleton.1 h
    exact cancelMissing_platform d
  split at h
  · obtain rfl := List.mem_singleton.1 h
    exact cancelMissing_platform d
  · exact absurd h List.not_mem_nil

namespace Engine

variable {engine : Engine} {move : Move} {moves : List Move} {id : DeviceId} {e : Discovery}

/-- A session that deletes devices does so as long as it goes on and no test is asked for. -/
theorem deleting_move (h : engine.discovery.Deleting) (hsingle : move.Single)
    (hrequest : ¬ move.RequestsTest) (hends : engine.endings move = []) :
    (engine.move move).discovery.Deleting := by
  cases testMove engine hsingle with
  | aside haside _ _ => exact ⟨haside.scan ▸ h.active, haside.scan ▸ h.delete⟩
  | request hasked _ => exact absurd hasked hrequest
  | @report frame map hmove hframe =>
    subst hmove
    rw [endings_receive_of_missing engine hframe] at hends
    have hcounted : (engine.counted frame).discovery.Deleting := ⟨h.active, h.delete⟩
    show (engine.receive frame).discovery.Deleting
    rw [receive_missingNodes engine hframe]
    exact hcounted.receiveMissing hends
  | stop _ hstop => exact absurd (hstop.symm.trans hends) (testModeEnds_of_active engine h.active)
  | flush id hmove hflush =>
    rw [hmove]
    exact h.flush (hflush.symm.trans hends)
  | flushAll hmove hflush =>
    rw [hmove]
    exact h.flushAll (hflush.symm.trans hends)
  | @fire kind d _ hfires hfire hexpire =>
    have hfound : d.Deleting := ⟨hfires.scan ▸ h.active, hfires.scan ▸ h.delete⟩
    rw [hexpire]
    exact hfound.fireTest (hfire.symm.trans hends)

/-- The session goes on, and no test is asked for. -/
structure Unstopped (engine : Engine) (move : Move) : Prop where
  single : move.Single
  unrequested : ¬ move.RequestsTest
  goesOn : engine.endings move = []

theorem deleting_moves (h : engine.discovery.Deleting)
    (halong : Along (fun _ => True) Unstopped engine moves) :
    (engine.moves moves).discovery.Deleting :=
  along_induct (I := fun e => e.discovery.Deleting)
    (fun _ _ _ hmove _ h => deleting_move h hmove.single hmove.unrequested hmove.goesOn) halong h

/-- What ends when the engine is asked for nothing is the session that is running. -/
theorem deleting_of_mem_endings (h : engine.discovery.Deleting) (hmove : move.Unasked)
    (he : e ∈ engine.endings move) : e.Deleting := by
  cases move with
  | receive frame =>
    by_cases hmissing : ∃ map, Report.decode frame = .ok (.missingNodes map)
    · obtain ⟨map, hmap⟩ := hmissing
      rw [endings_receive_of_missing engine hmap] at he
      have hcounted : (engine.counted frame).discovery.Deleting := ⟨h.active, h.delete⟩
      exact hcounted.of_mem_reportEnds he
    · rw [endings_receive_of_other engine fun map hmap => hmissing ⟨map, hmap⟩] at he
      exact absurd he List.not_mem_nil
  | expire =>
    obtain ⟨hnone, -⟩ | ⟨kind, d, hfires, hends, -⟩ := expireEnds_cases engine
    · rw [show engine.endings .expire = [] from hnone] at he
      exact absurd he List.not_mem_nil
    · rw [show engine.endings .expire = _ from hends] at he
      have hfound : d.Deleting := ⟨hfires.scan ▸ h.active, hfires.scan ▸ h.delete⟩
      exact hfound.of_mem_fireEnds he
  | control | wish | fireDue => exact absurd hmove id
  | _ => exact absurd he List.not_mem_nil

/-! ### The second phase -/

theorem updating_move (ht : engine.Tended) (hu : engine.Updating) (hsingle : move.Single)
    (hends : engine.endings move = []) : (engine.move move).Updating := by
  have hcompleted : (engine.move move).site.completed = engine.site.completed := by
    rw [completed_move engine hsingle, hends]
    rfl
  exact (updating_moves (Q := fun _ => True) (fun _ h => h) (fun _ _ h => h) ht hu trivial [move]
    hcompleted).1

/-- What ends in the second phase is the session, and it finds the devices as they are. -/
theorem Updating.of_mem_endings (hu : engine.Updating) (hmove : move.Unasked)
    (he : e ∈ engine.endings move) :
    e.deletesAtEnd = engine.discovery.deletesAtEnd ∧ e.site.platform = engine.site.platform := by
  cases move with
  | receive frame =>
    by_cases hmissing : ∃ map, Report.decode frame = .ok (.missingNodes map)
    · obtain ⟨map, hmap⟩ := hmissing
      rw [endings_receive_of_missing engine hmap] at he
      unfold Discovery.reportEnds at he
      have ho : (engine.counted frame).discovery.scan.outstanding = 0 := hu.outstanding
      rw [if_neg (by omega)] at he
      split at he
      · exact ⟨(Discovery.scan_of_mem_updateMapEnds _ he).2,
          Discovery.platform_of_mem_updateMapEnds _ he⟩
      · exact absurd he List.not_mem_nil
    · rw [endings_receive_of_other engine fun map hmap => hmissing ⟨map, hmap⟩] at he
      exact absurd he List.not_mem_nil
  | expire =>
    obtain ⟨hnone, -⟩ | ⟨kind, d, hfires, hends, -⟩ := expireEnds_cases engine
    · rw [show engine.endings .expire = [] from hnone] at he
      exact absurd he List.not_mem_nil
    · obtain rfl := hfires.kind_eq hu.awaits
      rw [show engine.endings .expire = d.updateMapEnds from hends] at he
      obtain ⟨-, hdeletes⟩ := Discovery.scan_of_mem_updateMapEnds _ he
      have hplatform := Discovery.platform_of_mem_updateMapEnds _ he
      obtain ⟨rest, rfl⟩ := hfires.eq
      exact ⟨hdeletes, hplatform⟩
  | control | wish | fireDue => exact absurd hmove id
  | _ => exact absurd he List.not_mem_nil

/-- The second phase of a session, and whether a device is offline in it. -/
structure Foretold (id : DeviceId) (offline : Bool) (engine : Engine) : Prop where
  tended : engine.Tended
  updating : engine.Updating
  registered : engine.site.platform.isRegistered id
  isOffline : engine.site.isOffline id = offline

/-- The session goes on, and no frame tells whether the device is in the network. -/
structure Quiet (id : DeviceId) (engine : Engine) (move : Move) : Prop where
  unasked : move.Unasked
  untouched : ¬ engine.Touches (.presence id) move
  goesOn : engine.endings move = []

theorem single_of_unasked (h : move.Unasked) : move.Single := by
  cases move <;> trivial

theorem Quiet.unstopped (h : Quiet id engine move) : engine.Unstopped move where
  single := single_of_unasked h.unasked
  unrequested hrequest := by
    have hunasked := h.unasked
    cases move with
    | control | wish => exact hunasked.elim
    | _ => exact hrequest.elim
  goesOn := h.goesOn

theorem isRegistered_of_goesOn (hsingle : move.Single) (hends : engine.endings move = [])
    (h : engine.site.platform.isRegistered id) :
    (engine.move move).site.platform.isRegistered id := by
  by_contra hgone
  obtain ⟨e, he, -⟩ := exists_ending_of_removed hsingle h hgone
  rw [hends] at he
  exact absurd he List.not_mem_nil

theorem foretold_move {offline : Bool} (h : Foretold id offline engine)
    (hmove : Quiet id engine move) (hserves : engine.site.Serves)
    (hserves' : (engine.move move).site.Serves) :
    Foretold id offline (engine.move move) := by
  have hsingle := single_of_unasked hmove.unasked
  have hview := view_move (s := .presence id) hsingle hmove.untouched
    (.inr ⟨h.updating, hmove.goesOn⟩)
  have hreported : (engine.move move).site.reported id .presence =
      engine.site.reported id .presence := by
    rw [hserves.sweeps.reported_presence, hserves'.sweeps.reported_presence]
    exact hview
  exact
    { tended := tended_moves h.tended [move]
      updating := updating_move h.tended h.updating hsingle hmove.goesOn
      registered := isRegistered_of_goesOn hsingle hmove.goesOn h.registered
      isOffline := (Site.isOffline_congr hreported).trans h.isOffline }

theorem foretold_moves {offline : Bool} (h : Foretold id offline engine)
    (halong : Along (fun e => e.site.Serves) (Quiet id) engine moves) :
    Foretold id offline (engine.moves moves) := by
  induction moves generalizing engine with
  | nil => exact h
  | cons move moves ih =>
    obtain ⟨hserves, hmove, hrest⟩ := halong
    exact ih (foretold_move h hmove hserves hrest.head) hrest

/-- The device is removed at the end of a session that deletes devices exactly if it is offline. -/
theorem Foretold.removed_iff {offline : Bool} (h : Foretold id offline engine)
    (hmove : move.Unasked) (hserves : (engine.move move).site.Serves)
    (hmesh : id.isGateway = false) (he : e ∈ engine.endings move) (hdeletes : e.deletesAtEnd) :
    ¬ (engine.move move).site.platform.isRegistered id ↔ offline := by
  have hsame {e : Discovery} (he : e ∈ engine.endings move) : e.site.isOffline id = offline := by
    rw [← h.isOffline]
    have hplatform := (h.updating.of_mem_endings hmove he).2
    exact Site.isOffline_congr (by unfold Site.reported; rw [hplatform])
  rw [Engine.removed_iff (single_of_unasked hmove) hserves.sweeps h.registered hmesh]
  constructor
  · rintro ⟨e', he', -, hoffline⟩
    exact hsame he' ▸ hoffline
  · exact fun hoffline => ⟨e, he, hdeletes, (hsame he).trans hoffline⟩

end Engine

end AlarmMesh.Gateway
