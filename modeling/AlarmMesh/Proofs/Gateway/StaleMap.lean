import AlarmMesh.Proofs.Gateway.Deletion

/-!
# The map that comes back

A session that removes devices sends the SID map without them, but what counts as the current map
is only what the network tells.  Until it does, every session takes the old map for the current one,
and the next test sends it: the slots that were removed are put back.

* `SidMap.Within` — every slot of a map is one of another;
* `Discovery.StaysWithin d d'` — what is sent from `d` to `d'` is within the current map;
* `staysWithin_updateMap`, … `staysWithin_turn` — every turn that tells no map stays within it;
* `Engine.EndsInTime`, `finishes_move` — a session that has sent its map ends in time;
* `resting_move` — then no map is sent until the next session begins;
* `Discovery.SentLast`, `Discovery.Reduced` — what a session keeps in place of the mask is what it
  sent last, and it leaves a slot of the current map out;
* `PutsBack`, `removed_put_back` — what is sent once such a session has ended.
-/

namespace AlarmMesh.Radio.SidMap

/-- Every slot of the map is one of another. -/
def Within (map other : SidMap) : Prop := ∀ sid, map.contains sid → other.contains sid

theorem Within.refl (map : SidMap) : map.Within map := fun _ h => h

theorem within_difference (map other : SidMap) : (map.difference other).Within map := by
  intro sid h
  rw [contains_difference, Bool.and_eq_true] at h
  exact h.1

theorem Within.intersection {map other : SidMap} (h : map.Within other) (narrower : SidMap) :
    (map.intersection narrower).Within other := by
  intro sid hsid
  rw [contains_intersection, Bool.and_eq_true] at hsid
  exact h sid hsid.1

end AlarmMesh.Radio.SidMap

namespace AlarmMesh.Gateway

open Radio (DeviceId Report SidMap)

namespace Discovery

variable {d d' d'' : Discovery}

/-- A map that was sent without missing slots names slots of the current map alone. -/
def Confined (d : Discovery) : Prop :=
  0 < d.scan.updateCount → d.scan.removal.Within d.current

/-- What is sent from one state to another is within the current map, which stays what it is. -/
structure StaysWithin (d d' : Discovery) : Prop where
  current : d'.current = d.current
  confined : d'.Confined
  maps : ∃ sent, d'.site.maps = sent ++ d.site.maps ∧ ∀ map ∈ sent, map.Within d.current

theorem StaysWithin.refl (h : d.Confined) : d.StaysWithin d := ⟨rfl, h, [], rfl, by simp⟩

theorem StaysWithin.trans (h : d.StaysWithin d') (h' : d'.StaysWithin d'') : d.StaysWithin d'' := by
  obtain ⟨sent, hsent, hwithin⟩ := h.maps
  obtain ⟨later, hlater, hwithin'⟩ := h'.maps
  refine ⟨h'.current.trans h.current, h'.confined, later ++ sent, ?_, fun map hmap => ?_⟩
  · rw [hlater, hsent, List.append_assoc]
  · rcases List.mem_append.1 hmap with hmap | hmap
    · exact h.current ▸ hwithin' map hmap
    · exact hwithin map hmap

/-- Nothing is sent. -/
theorem staysWithin_of_maps (hcurrent : d'.current = d.current) (hconfined : d'.Confined)
    (hmaps : d'.site.maps = d.site.maps) : d.StaysWithin d' :=
  ⟨hcurrent, hconfined, [], hmaps, by simp⟩

/-- One map is sent, or it could not be. -/
theorem staysWithin_of_sent {sent : Bool} {map : SidMap} (hcurrent : d'.current = d.current)
    (hconfined : d'.Confined) (hwithin : map.Within d.current)
    (hmaps : d'.site.maps = if sent then map :: d.site.maps else d.site.maps) :
    d.StaysWithin d' := by
  cases sent with
  | true => exact ⟨hcurrent, hconfined, [map], hmaps, by simpa using hwithin⟩
  | false => exact staysWithin_of_maps hcurrent hconfined hmaps

theorem confined_of_unsent (h : d.scan.updateCount = 0) : d.Confined := fun hn => by omega

/-! ### The second phase -/

theorem within_keptMap (d : Discovery) : d.keptMap.Within d.current := by
  unfold keptMap
  dsimp only
  split
  · intro sid h
    simp at h
  · exact SidMap.within_difference _ _

theorem within_nextMap (h : d.Confined) : d.nextMap.Within d.current := by
  unfold nextMap
  split
  · exact within_keptMap d
  · exact h (by omega)

theorem staysWithin_updateMap (h : d.Confined) : d.StaysWithin d.updateMap := by
  have hcurrent := (testStep_updateMap d).current
  have hended (hend : d.isOver ∨ d.scan.updateCount = 0 ∧ ¬ d.someMissing) :
      d.StaysWithin d.updateMap :=
    staysWithin_of_maps hcurrent (confined_of_unsent (updateCount_updateMap d hend))
      (ended_updateMap d hend).maps
  by_cases hover : d.isOver
  · exact hended (.inl hover)
  by_cases hmissing : d.scan.updateCount = 0 → d.someMissing
  · have hgoes := goesOn_updateMap hover hmissing
    refine staysWithin_of_sent hcurrent (fun _ => ?_) (within_nextMap h) hgoes.maps
    rw [hgoes.scan, hcurrent]
    exact within_nextMap h
  · rw [Classical.not_imp] at hmissing
    exact hended (.inr hmissing)

theorem staysWithin_runOut (d : Discovery) : d.StaysWithin d.runOut :=
  staysWithin_of_maps d.testStep_runOut.current (confined_of_unsent d.updateCount_runOut)
    d.ended_runOut.maps

theorem staysWithin_cancelSession (h : d.Confined) : d.StaysWithin d.cancelSession := by
  by_cases hactive : d.scan.active
  · rw [cancelSession_of_active d hactive]
    exact staysWithin_runOut d
  · rw [cancelSession_of_idle d hactive]
    exact .refl h

/-! ### Probes -/

theorem staysWithin_probe (h : d.Confined) : d.StaysWithin d.probe := by
  have hcurrent := (testStep_probe d).current
  by_cases hdue : d.isOverdue
  · rw [probe_of_overdue d hdue]
    exact staysWithin_runOut d
  have hmaps : d.probe.site.maps =
      if d.site.hasBuffer then d.current :: d.site.maps else d.site.maps := by
    rw [probe_of_due d hdue]
    split
    · next hbuffer => simp [probed, transmit_maps, hbuffer]
    · next hbuffer => simp [transmit_maps, hbuffer]
  have hconfined : d.probe.Confined := by
    unfold Confined
    rw [hcurrent]
    rw [probe_of_due d hdue]
    split
    · exact h
    · exact h
  exact staysWithin_of_sent hcurrent hconfined (.refl _) hmaps

/-- A session begins with the current map, if it can be sent. -/
theorem beginSession_maps (hidle : ¬ d.scan.active) (hn : d.inNetwork) (hl : ¬ d.learning) :
    d.beginSession.site.maps =
      if d.site.hasBuffer then d.current :: d.site.maps else d.site.maps := by
  have hcleared : d.cleared.site = d.site := rfl
  rw [beginSession_of_joined d hidle hn hl]
  split
  · next hbuffer => simp [sessionStarted, transmit_maps, hcleared, hbuffer]
  · next hbuffer => simp [postpone, transmit_maps, hcleared, hbuffer]

/-- In learn mode and outside of a network nothing is sent. -/
theorem beginSession_maps_of_postponed (hidle : ¬ d.scan.active)
    (h : ¬ (d.inNetwork ∧ ¬ d.learning)) : d.beginSession.site.maps = d.site.maps := by
  by_cases hn : d.inNetwork
  · have hl : d.learning := by simpa [hn] using h
    rw [beginSession_of_learning d hidle hn hl]
    simp [postpone, cleared]
  · rw [beginSession_of_apart d hidle hn]
    split
    · exact (restartMissing_maps _ _ _).trans (silent_completeFlushAll d.cleared).maps
    · simp [postpone, cleared]

/-- If no session begins, nothing is sent. -/
theorem beginSession_maps_of_idle (hidle : ¬ d.scan.active)
    (hidle' : ¬ d.beginSession.scan.active) : d.beginSession.site.maps = d.site.maps := by
  by_cases hprobes : d.inNetwork ∧ ¬ d.learning
  · obtain ⟨hn, hl⟩ := hprobes
    rw [beginSession_maps hidle hn hl]
    refine if_neg fun hbuffer => ?_
    rw [beginSession_of_joined d hidle hn hl, if_pos hbuffer] at hidle'
    exact hidle' rfl
  · exact beginSession_maps_of_postponed hidle hprobes

theorem staysWithin_beginSession (h : d.Confined) : d.StaysWithin d.beginSession := by
  have hcurrent := (testStep_beginSession d).current
  by_cases hidle : d.scan.active
  · rw [beginSession_of_active d hidle]
    exact .refl h
  have hconfined := confined_of_unsent (updateCount_beginSession d hidle)
  by_cases hprobes : d.inNetwork ∧ ¬ d.learning
  · exact staysWithin_of_sent hcurrent hconfined (.refl _)
      (beginSession_maps hidle hprobes.1 hprobes.2)
  · exact staysWithin_of_maps hcurrent hconfined (beginSession_maps_of_postponed hidle hprobes)

/-! ### The test as a whole -/

theorem staysWithin_receiveMissing (map : SidMap) (h : d.Confined) :
    d.StaysWithin (d.receiveMissing map) := by
  rcases Nat.eq_zero_or_pos d.scan.outstanding with ho | ho
  · by_cases hconfirmed : d.isConfirmedBy map
    · have hsent : 0 < d.scan.updateCount := by
        unfold isConfirmedBy at hconfirmed
        simp_all
      let confirmed : Discovery :=
        { d with scan := { d.scan with updateCount := d.settings.updateDeleteCount } }
      have hconfirm : d.StaysWithin confirmed := staysWithin_of_maps rfl (fun _ => h hsent) rfl
      rw [receiveMissing_of_confirmed d ho hconfirmed]
      exact hconfirm.trans (staysWithin_updateMap hconfirm.confined)
    · rw [receiveMissing_of_ignored d ho hconfirmed]
      exact .refl h
  by_cases hdue : d.isOverdue
  · rw [receiveMissing_of_overdue d ho hdue]
    exact staysWithin_runOut d
  have hcounted : (d.countReport map).Confined := fun hn => (h hn).intersection map
  have hcount : d.StaysWithin (d.countReport map) :=
    staysWithin_of_maps rfl hcounted (cancelMissing_maps d)
  rw [receiveMissing_of_counted d map ho hdue]
  split
  · have hmarked : (d.countReport map).StaysWithin (d.countReport map).markDevices :=
      staysWithin_of_maps rfl hcounted (silent_markDevices _).maps
    exact hcount.trans (hmarked.trans (staysWithin_updateMap hmarked.confined))
  · refine hcount.trans ?_
    unfold probeWhenDue
    split
    · exact staysWithin_probe hcounted
    · exact staysWithin_of_maps rfl hcounted (restartMissing_maps _ _ _)

theorem staysWithin_flush (id : DeviceId) (h : d.Confined) : d.StaysWithin (d.flush id) := by
  unfold flush
  split
  · exact .refl h
  · next sid _ =>
    have hbegin : d.cancelSession.StaysWithin (d.beginFlush id sid) :=
      staysWithin_of_maps rfl (confined_of_unsent rfl) (Site.silent_report _ _ _ _).maps
    exact ((staysWithin_cancelSession h).trans hbegin).trans (staysWithin_updateMap hbegin.confined)

theorem staysWithin_flushAll (h : d.Confined) : d.StaysWithin d.flushAll := by
  unfold flushAll
  split
  · exact .refl h
  · have hbegin : d.cancelSession.StaysWithin d.beginFlushAll :=
      staysWithin_of_maps rfl (confined_of_unsent rfl) (silent_offlineAll _ _).maps
    exact ((staysWithin_cancelSession h).trans hbegin).trans (staysWithin_updateMap hbegin.confined)

theorem staysWithin_fireTest (kind : TimerKind) (h : d.Confined) :
    d.StaysWithin (d.fireTest kind) := by
  unfold fireTest
  split
  · let chosen : Discovery := { d with scan := { d.scan with delete := true } }
    have hchosen : d.StaysWithin chosen := staysWithin_of_maps rfl h rfl
    exact hchosen.trans (staysWithin_beginSession hchosen.confined)
  · exact staysWithin_updateMap h
  · exact staysWithin_probe h

end Discovery

/-- A turn that tells no map sends none but those within the current one. -/
theorem staysWithin_turn {engine engine' : Engine} (hcalm : Calm engine engine')
    (h : engine.discovery.Confined) : engine.discovery.StaysWithin engine'.discovery := by
  obtain ⟨hturn, hcurrent⟩ := hcalm
  cases hturn with
  | aside haside =>
    have hscan : engine'.discovery.scan = engine.discovery.scan := haside.scan
    refine Discovery.staysWithin_of_maps hcurrent (fun hn => ?_) haside.maps
    rw [hscan] at hn ⊢
    exact hcurrent ▸ h hn
  | report map => exact Discovery.staysWithin_receiveMissing map h
  | choose => exact Discovery.staysWithin_of_maps rfl h rfl
  | begin =>
    have hcancel : engine.discovery.StaysWithin engine.discovery.cancelMissing :=
      Discovery.staysWithin_of_maps rfl h (Discovery.cancelMissing_maps _)
    exact hcancel.trans (Discovery.staysWithin_beginSession h)
  | stop => exact Discovery.staysWithin_cancelSession h
  | flush id => exact Discovery.staysWithin_flush id h
  | flushAll => exact Discovery.staysWithin_flushAll h
  | @fire kind d hfires =>
    have hfound : engine.discovery.StaysWithin d := by
      obtain ⟨rest, rfl⟩ := hfires.eq
      exact Discovery.staysWithin_of_maps rfl h rfl
    exact hfound.trans (Discovery.staysWithin_fireTest kind hfound.confined)

/-- Moves that tell no map send none but those within the current one. -/
theorem staysWithin_moves {engine : Engine} (h : engine.discovery.Confined) {moves : List Move}
    (hmoves : ∀ move ∈ moves, move.tellsMap = false) :
    engine.discovery.StaysWithin (engine.moves moves).discovery := by
  have hrun := engine.calm_moves hmoves
  generalize engine.moves moves = later at hrun
  induction hrun with
  | refl => exact .refl h
  | tail _ hcalm ih => exact ih.trans (staysWithin_turn hcalm ih.confined)

/-! ### A session that ends in time -/

/-- A session has ended without another map, and the test waits for the next one. -/
structure Engine.Finishes (engine engine' : Engine) : Prop where
  idle : engine'.Idle
  resting : engine'.Resting
  current : engine'.network.current = engine.network.current
  maps : engine'.site.maps = engine.site.maps

/-- The second phase ends a session that is over. -/
theorem finishes_updateMap {engine : Engine} {d : Discovery}
    (htied : (d.among engine.incidents).Tied) (ho : d.scan.outstanding = 0) (hover : d.isOver)
    (hcurrent : d.current = engine.network.current) (hmaps : d.site.maps = engine.site.maps) :
    engine.Finishes (d.updateMap.among engine.incidents) := by
  have hended := d.ended_updateMap (.inl hover)
  have hscan : d.updateMap.scan = d.cancelMissing.finished := by
    rw [d.updateMap_of_over hover, Discovery.finishSession_scan]
  have houtstanding : d.updateMap.scan.outstanding = 0 := by
    rw [hscan]
    exact ho
  exact
    { idle := hended.active
      resting := ⟨houtstanding, d.updateCount_updateMap (.inl hover), hended.awaits _ htied⟩
      current := d.testStep_updateMap.current.trans hcurrent
      maps := hended.maps.trans hmaps }

namespace Engine

variable {engine : Engine} {move : Move}

/-- A move ends a session that has not run out of time.  Moves that give the running session up may
end another one as well, and so it is the first end that counts. -/
def EndsInTime (engine : Engine) (move : Move) : Prop :=
  (engine.endings move).head?.any fun d => !d.scan.ranOutOfTime

instance (engine : Engine) : DecidablePred engine.EndsInTime := fun _ =>
  inferInstanceAs (Decidable (_ = _))

/-- What is asked for ends a running session as one that has run out of time. -/
theorem not_endsInTime_of_asked (hactive : engine.network.scan.active)
    (hreceive : ∀ frame, move ≠ .receive frame) (hexpire : move ≠ .expire) :
    ¬ engine.EndsInTime move := by
  have hcancel (d : Discovery) (h : d.scan.active) (ends : List Discovery) :
      ¬ (d.cancelEnds ++ ends).head?.any fun d => !d.scan.ranOutOfTime := by
    simp [Discovery.cancelEnds, h, Discovery.ranOut, Discovery.cancelMissing]
  unfold EndsInTime
  rcases endings_of_asked engine hreceive hexpire with hends | hends | hends | ⟨id, hends⟩
  · simp [hends]
  · rw [hends]
    unfold Discovery.testModeEnds
    split
    · simp
    · have hstop := hcancel { engine.discovery with
        scan := { engine.network.scan with delete := false } } hactive []
      rw [List.append_nil] at hstop
      exact hstop
  · rw [hends]
    unfold Discovery.flushAllEnds
    split
    · simp
    · exact hcancel engine.discovery hactive _
  · rw [hends]
    unfold Discovery.flushEnds
    split
    · simp
    · exact hcancel engine.discovery hactive _

theorem finishes_receive (htied : engine.Tied) (hu : engine.Updating) {frame : List UInt8}
    (h : engine.EndsInTime (.receive frame)) : engine.Finishes (engine.receive frame) := by
  by_cases hmissing : ∃ map, Report.decode frame = .ok (.missingNodes map)
  · obtain ⟨map, hframe⟩ := hmissing
    let d := (engine.counted frame).discovery
    have hcounted : Beside engine (engine.counted frame) := engine.beside_counted frame
    have ho : d.scan.outstanding = 0 := hu.outstanding
    have hconfirmed : d.isConfirmedBy map := by
      by_contra hnot
      have hends : d.reportEnds map = [] := by
        unfold Discovery.reportEnds
        rw [if_neg (by omega), if_neg hnot]
      simp [EndsInTime, endings_receive_of_missing engine hframe, hends, d] at h
    have hover : d.confirmed.isOver := by
      simp [Discovery.isOver, Discovery.mapUpdated, Discovery.confirmed]
    rw [engine.receive_missingNodes hframe]
    show engine.Finishes ((d.receiveMissing map).among engine.incidents)
    rw [d.receiveMissing_of_confirmed ho hconfirmed]
    exact finishes_updateMap (d := d.confirmed) (hcounted.tied htied) ho hover rfl hcounted.maps
  · have hends := endings_receive_of_other engine fun map hmap => hmissing ⟨map, hmap⟩
    simp [EndsInTime, hends] at h

theorem finishes_expire (htied : engine.Tied) (hu : engine.Updating)
    (hsent : 0 < engine.network.scan.updateCount) (h : engine.EndsInTime .expire) :
    engine.Finishes engine.expire := by
  have hends : engine.expireEnds.head?.any fun d => !d.scan.ranOutOfTime := h
  obtain ⟨hnone, -⟩ | ⟨kind, d, hfires, hfound, hexpire⟩ := expireEnds_cases engine
  · simp [hnone] at hends
  obtain rfl := hfires.kind_eq hu.awaits
  have hover : d.isOver := by
    by_contra hover
    have hgoes : d.updateMapEnds = [] :=
      d.updateMapEnds_of_goesOn hover fun hn => by rw [hfires.scan] at hn; omega
    rw [hfound, show d.fireEnds .testMissingUpdateMap = d.updateMapEnds from rfl, hgoes] at hends
    simp at hends
  have ho : d.scan.outstanding = 0 := hfires.scan ▸ hu.outstanding
  have hcurrent : d.current = engine.network.current := by
    obtain ⟨rest, rfl⟩ := hfires.eq
    rfl
  rw [show engine.expire = d.updateMap.among engine.incidents from hexpire]
  exact finishes_updateMap (hfires.tied htied) ho hover hcurrent hfires.maps

/-- A session that has sent its map and ends in time is confirmed by a report, or the next attempt
finds that the map was sent often enough. -/
theorem finishes_move (htied : engine.Tied) (hu : engine.Updating)
    (hsent : 0 < engine.network.scan.updateCount) (h : engine.EndsInTime move) :
    engine.Finishes (engine.move move) := by
  by_cases hreceive : ∃ frame, move = .receive frame
  · obtain ⟨frame, rfl⟩ := hreceive
    exact finishes_receive htied hu h
  by_cases hexpire : move = .expire
  · subst hexpire
    exact finishes_expire htied hu hsent h
  · have hasked : ∀ frame, move ≠ .receive frame := fun frame heq => hreceive ⟨frame, heq⟩
    exact absurd h (not_endsInTime_of_asked hu.active hasked hexpire)

/-! ### Until the next session -/

/-- Until a session begins no map is sent. -/
theorem resting_move (htended : engine.Tended) (h : engine.Resting) (hmove : move.Unasked)
    (hidle : engine.Idle) (hidle' : (engine.move move).Idle) :
    (engine.move move).Resting ∧ (engine.move move).site.maps = engine.site.maps := by
  have of_beside {engine' : Engine} (hbeside : Beside engine engine') :
      engine'.Resting ∧ engine'.site.maps = engine.site.maps :=
    ⟨h.aside hbeside.toAside, hbeside.maps⟩
  cases move with
  | receive frame => exact of_beside (h.receive frame)
  | expire =>
    show engine.expire.Resting ∧ _
    obtain hbeside | ⟨kind, d, hfires, hexpire⟩ := beside_or_fires engine
    · exact of_beside hbeside
    obtain rfl := hfires.kind_eq h.awaits
    have hactive : ¬ (d.fireTest .testMissingInit).scan.active := by
      have hnow : engine.expire.network.scan.active = false := hidle'
      rw [hexpire] at hnow
      exact ne_true_of_eq_false hnow
    have hinactive : ¬ d.scan.active := hfires.scan ▸ ne_true_of_eq_false hidle
    have hmaps : (d.fireTest .testMissingInit).site.maps = d.site.maps :=
      Discovery.beginSession_maps_of_idle (d := { d with scan := _ }) hinactive hactive
    have hresting := resting_of_postponed htended hfires (ne_true_of_eq_false hidle) hactive
    show engine.expire.Resting ∧ engine.expire.site.maps = _
    rw [hexpire]
    exact ⟨hresting, hmaps.trans hfires.maps⟩
  | control | wish | fireDue => exact absurd hmove id
  | advance | desire | outages | share | contend =>
    exact of_beside (beside_passive engine (by trivial))

theorem maps_moves_of_resting (htended : engine.Tended) (h : engine.Resting) {moves : List Move}
    (halong : Along Idle (fun _ move => move.Unasked) engine moves) :
    (engine.moves moves).site.maps = engine.site.maps := by
  have hkept := along_induct (I := fun later => later.Tended ∧ later.Resting ∧
      later.site.maps = engine.site.maps)
    (fun later move hidle hmove hidle' ⟨htended, hresting, hmaps⟩ => ?_) halong ⟨htended, h, rfl⟩
  · exact hkept.2.2
  · obtain ⟨hrests, hsame⟩ := resting_move htended hresting hmove hidle hidle'
    exact ⟨tended_moves htended [move], hrests, hsame.trans hmaps⟩

end Engine

/-! ### The map that was sent -/

namespace Discovery

variable {d d' : Discovery}

/-- The map that a session keeps in place of the mask is the one that was sent last. -/
def SentLast (d : Discovery) : Prop :=
  0 < d.scan.updateCount → d.site.maps.head? = some d.scan.removal

/-- The map that a session keeps in place of the mask leaves a slot of the current map out. -/
def Reduced (d : Discovery) : Prop :=
  0 < d.scan.updateCount → ¬ d.current.Within d.scan.removal

theorem GoesOn.sentLast (hgoes : d.GoesOn d') (h : d.SentLast) : d'.SentLast := by
  intro hn
  rw [hgoes.scan] at hn ⊢
  rw [hgoes.maps]
  change 0 < d.pushed at hn
  change _ = some d.nextMap
  split
  · rfl
  · next hbuffer =>
    -- no buffer is free for this attempt, and so an earlier one has sent the map
    have hsent : 0 < d.scan.updateCount := by simpa [pushed, hbuffer] using hn
    rw [nextMap, if_neg (by omega)]
    exact h hsent

theorem not_within_keptMap (h : d.Meets) : ¬ d.current.Within d.keptMap := by
  obtain ⟨sid, hcurrent, hremoved⟩ := h
  intro hwithin
  have hkept := hwithin sid hcurrent
  rw [contains_keptMap_of_removed hremoved] at hkept
  cases hkept

theorem GoesOn.reduced (hgoes : d.GoesOn d') (hcurrent : d'.current = d.current)
    (hmissing : d.scan.updateCount = 0 → d.someMissing) (h : d.Reduced) : d'.Reduced := by
  intro _
  rw [hgoes.scan, hcurrent]
  show ¬ d.current.Within d.nextMap
  by_cases hn : d.scan.updateCount = 0
  · rw [nextMap, if_pos hn]
    exact not_within_keptMap (d.someMissing_iff.1 (hmissing hn))
  · rw [nextMap, if_neg hn]
    exact h (Nat.pos_of_ne_zero hn)

end Discovery

section Opens

variable {settings : Config.Settings} {engine : Engine} {move : Move} {d : Discovery}

/-- Until its session ends, the second phase keeps the map that it sent last. -/
theorem Enters.Opens.sentLast (hcheck : settings.check = .ok ()) (hr : Reachable settings engine)
    (h : Enters.Opens engine move d) (hmeets : d.Meets) (moves : List Move)
    (hc : ((engine.move move).moves moves).site.completed = d.site.completed) :
    ((engine.move move).moves moves).Updating ∧
      ((engine.move move).moves moves).discovery.SentLast := by
  obtain ⟨hgoes, hupdating⟩ := h.goesOn hcheck hr hmeets
  have hunsent : d.SentLast := fun hn => absurd h.unsent (Nat.ne_of_gt hn)
  refine updating_moves (Q := fun e => e.discovery.SentLast)
    (fun {a b} hsame ha hn => ?_) (fun {a b d} hfires hd ha => ?_)
    (hr.move move).tended hupdating (hgoes.sentLast hunsent) moves (hc.trans hgoes.completed.symm)
  · show b.site.maps.head? = some b.network.scan.removal
    rw [hsame.maps, hsame.removal]
    exact ha (hsame.updateCount ▸ hn)
  · obtain ⟨rest, rfl⟩ := hfires.eq
    exact hd.sentLast ha

/-- As long as no map is told meanwhile, it leaves a slot of the current map out. -/
theorem Enters.Opens.reduced (hcheck : settings.check = .ok ()) (hr : Reachable settings engine)
    (h : Enters.Opens engine move d) (hmeets : d.Meets) {moves : List Move}
    (hmoves : ∀ move ∈ moves, move.tellsMap = false)
    (hc : ((engine.move move).moves moves).site.completed = d.site.completed) :
    ((engine.move move).moves moves).network.current = d.current ∧
      ((engine.move move).moves moves).discovery.Reduced := by
  obtain ⟨hgoes, hupdating⟩ := h.goesOn hcheck hr hmeets
  have hcurrent : (engine.move move).network.current = d.current := by
    rw [h.move_eq]
    exact d.testStep_updateMap.current
  have hunsent : d.Reduced := fun hn => absurd h.unsent (Nat.ne_of_gt hn)
  have hrun := updating_run (R := Calm)
    (Q := fun e => e.network.current = d.current ∧ e.discovery.Reduced) (fun hcalm => hcalm.1)
    (fun {a b} hcalm hsame ⟨hca, ha⟩ => ⟨hcalm.2.trans hca, fun hn => ?_⟩)
    (fun {a b d} hcalm hfires hd hmissing ⟨hca, ha⟩ => ⟨hcalm.2.trans hca, ?_⟩)
    ((engine.move move).calm_moves hmoves) (hr.move move).tended hupdating
    ⟨hcurrent, hgoes.reduced hcurrent (fun _ => d.someMissing_iff.2 hmeets) hunsent⟩
    (hc.trans hgoes.completed.symm)
  · exact hrun.2
  · show ¬ b.network.current.Within b.network.scan.removal
    rw [hcalm.2, hsame.removal]
    exact ha (hsame.updateCount ▸ hn)
  · obtain ⟨rest, rfl⟩ := hfires.eq
    exact hd.reduced hcalm.2 hmissing ha

end Opens

/-- A test that waits for its time and may probe begins with the current map. -/
theorem expire_maps_of_testInit {engine : Engine} (hdue : engine.popDue.1 = some .testMissingInit)
    (hidle : engine.network.scan.active = false) (hn : engine.network.inNetwork)
    (hl : engine.network.learning = false) (hbuffer : engine.site.hasBuffer) :
    engine.expire.site.maps = engine.network.current :: engine.site.maps := by
  obtain ⟨d, hfires, hexpire⟩ := engine.expire_of_due hdue rfl
  obtain ⟨rest, rfl⟩ := hfires.eq
  rw [hexpire]
  refine (Discovery.beginSession_maps (ne_true_of_eq_false hidle) hn
    (ne_true_of_eq_false hl)).trans ?_
  exact if_pos hbuffer

/-- What is sent once a session has sent a map without missing slots and has ended with a move. -/
structure PutsBack (pushing : Engine) (last : Move) : Prop where
  /-- What the session keeps is the map that was sent last. -/
  kept : pushing.site.maps.head? = some pushing.network.scan.removal
  /-- The session is over, and the test waits for the next one. -/
  idle : (pushing.move last).Idle
  resting : (pushing.move last).Resting
  /-- No map is sent until that begins. -/
  quiet : ∀ later, Engine.Along Engine.Idle (fun _ move => move.Unasked) (pushing.move last) later →
    ((pushing.move last).moves later).site.maps = pushing.site.maps
  /-- Every map is within the current one, until another one is told. -/
  within : ∀ later : List Move, (∀ move ∈ later, move.tellsMap = false) →
    ∃ sent, ((pushing.move last).moves later).site.maps = sent ++ pushing.site.maps ∧
      ∀ map ∈ sent, map.Within pushing.network.current
  /-- The next test, if it may probe, begins with the current map itself. -/
  back : ∀ later : List Move, (∀ move ∈ later, move.tellsMap = false) →
    ∀ next, next = (pushing.move last).moves later →
      next.popDue.1 = some .testMissingInit → next.Idle → next.network.inNetwork →
      next.network.learning = false → next.site.hasBuffer →
        next.expire.site.maps = pushing.network.current :: next.site.maps

/-- A session that has sent a map without missing slots ends in time.  If no map was told meanwhile,
that map leaves a slot of the current one out, and the next test puts it back. -/
theorem removed_put_back {settings : Config.Settings} (hcheck : settings.check = .ok ())
    {engine : Engine} (hr : Reachable settings engine) {move : Move} {d : Discovery}
    (h : Enters engine move d) (hmeets : d.Meets) {moves : List Move} {pushing : Engine}
    (hpushing : pushing = (engine.move move).moves moves)
    (hrunning : pushing.site.completed = d.site.completed)
    (hsent : 0 < pushing.network.scan.updateCount) {last : Move}
    (hlast : pushing.EndsInTime last) :
    ((∀ move ∈ moves, move.tellsMap = false) → pushing.network.current = d.current ∧
      ¬ pushing.network.current.Within pushing.network.scan.removal) ∧
    PutsBack pushing last := by
  subst hpushing
  let pushing : Engine := (engine.move move).moves moves
  have hopens := h.opens hr.inTime
  have htended : pushing.Tended := ((hr.move move).moves moves).tended
  obtain ⟨hupdating, hkept⟩ := hopens.sentLast hcheck hr hmeets moves hrunning
  have hfinishes := Engine.finishes_move htended.tied hupdating hsent hlast
  have hconfined : (pushing.move last).discovery.Confined :=
    Discovery.confined_of_unsent hfinishes.resting.updateCount
  refine ⟨fun hmoves => ?_, hkept hsent, hfinishes.idle, hfinishes.resting, fun later halong => ?_,
    fun later hlater => ?_, ?_⟩
  · obtain ⟨hsame, hreduced⟩ := hopens.reduced hcheck hr hmeets hmoves hrunning
    exact ⟨hsame, hreduced hsent⟩
  · have htended' := tended_moves htended [last]
    exact (Engine.maps_moves_of_resting htended' hfinishes.resting halong).trans hfinishes.maps
  · obtain ⟨sent, hmaps, hwithin⟩ := (staysWithin_moves hconfined hlater).maps
    refine ⟨sent, hmaps.trans (congrArg (sent ++ ·) hfinishes.maps), fun map hmap => ?_⟩
    exact hfinishes.current ▸ hwithin map hmap
  · rintro later hlater next rfl hdue hidle hn hl hbuffer
    have hcurrent := (staysWithin_moves hconfined hlater).current.trans hfinishes.current
    rw [expire_maps_of_testInit hdue hidle hn hl hbuffer]
    exact congrArg (· :: _) hcurrent

/-- The device at slot 7 is removed, and the network confirms the map of the slots 0, 5 and 6.  A
millisecond later the next test puts slot 7 back. -/
theorem removed_put_back_joined :
    ∃ pushing next : Engine,
      pushing = joined.move (.control (.flush (.ofNat 7))) ∧
      next = (pushing.move (.receive emptyReport)).move (.advance (.ofMillis 1)) ∧
      pushing.site.maps = [⟨0x61⟩] ∧ next.site.maps = [⟨0x61⟩] ∧
      next.expire.site.maps = [⟨0xe1⟩, ⟨0x61⟩] := by
  let pushing : Engine := joined.move (.control (.flush (.ofNat 7)))
  let next : Engine := (pushing.move (.receive emptyReport)).move (.advance (.ofMillis 1))
  have hsid : joined.site.slotOf (.ofNat 7) = some 7 := by decide +kernel
  have henters : Enters joined (.control (.flush (.ofNat 7))) _ := .flush rfl hsid
  have hmeets : (joined.discovery.beginFlush (.ofNat 7) 7).Meets := ⟨7, by decide +kernel⟩
  have hpushing : pushing = pushing.moves [] := rfl
  have hends : pushing.EndsInTime (.receive emptyReport) := by decide +kernel
  have hputs : PutsBack pushing (.receive emptyReport) :=
    (removed_put_back (by decide) reachable_joined henters hmeets hpushing (by decide +kernel)
      (by decide +kernel) hends).2
  have hback : next.expire.site.maps = pushing.network.current :: next.site.maps :=
    hputs.back [.advance (.ofMillis 1)] (by decide) next rfl (by decide +kernel)
      (by decide +kernel) (by decide +kernel) (by decide +kernel) (by decide +kernel)
  have hmaps : pushing.site.maps = [⟨0x61⟩] := by decide +kernel
  have hlast : next.site.maps = [⟨0x61⟩] := by decide +kernel
  have hcurrent : pushing.network.current = ⟨0xe1⟩ := by decide +kernel
  exact ⟨pushing, next, rfl, rfl, hmaps, hlast, by rw [hback, hcurrent, hlast]⟩

end AlarmMesh.Gateway
