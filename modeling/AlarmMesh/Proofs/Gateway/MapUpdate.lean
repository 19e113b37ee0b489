import AlarmMesh.Proofs.Config.Check
import AlarmMesh.Proofs.Gateway.Ownership

/-!
# The second phase of a session

Once it is known which slots are missing, a session sends the SID map without them.  One field of
the session first holds the mask of missing slots and then the map that is left, and which of the
two it is shows only in the number of maps sent.  So everything depends on the first attempt to
send the map: if no buffer is free for it, the next attempt takes the map that is left for the mask.

* `GoesOn d d'` — one attempt to send the map;
* `Engine.Updating` — the session is in its second phase, and waits for its next attempt;
* `updating_turn` — what a turn does to that, unless it ends the session;
* `Enters engine move d` — a move with which a session enters its second phase;
* `updateMap_sends` — the maps that are sent from then on.
-/

namespace AlarmMesh.Gateway

open Radio (DeviceId Report SidMap)

namespace Discovery

variable {d d' : Discovery}

/-- The mask names a slot of the current map. -/
def Meets (d : Discovery) : Prop :=
  ∃ sid, d.current.contains sid ∧ d.scan.removal.contains sid

theorem someMissing_iff (d : Discovery) : d.someMissing ↔ d.Meets := by
  unfold someMissing Meets
  rw [decide_eq_true_iff]
  constructor
  · intro hne
    by_contra hnone
    refine hne (SidMap.ext_contains fun sid => ?_)
    rw [SidMap.contains_difference]
    cases hc : d.current.contains sid with
    | false => rfl
    | true =>
      have : ¬ d.scan.removal.contains sid := fun hr => hnone ⟨sid, hc, hr⟩
      simpa using this
  · rintro ⟨sid, hc, hr⟩ heq
    have := SidMap.contains_difference d.current d.scan.removal sid
    rw [heq, hc, hr] at this
    cases this

/-- What is left of the current map has none of the missing slots. -/
theorem contains_keptMap_of_removed {sid : UInt8} (h : d.scan.removal.contains sid) :
    d.keptMap.contains sid = false := by
  unfold keptMap
  dsimp only
  split
  · exact SidMap.contains_empty sid
  · simp [h]

/-- What is left of the current map is not the mask that was taken out of it. -/
theorem keptMap_ne_removal (h : d.Meets) : d.keptMap ≠ d.scan.removal := by
  obtain ⟨sid, -, hr⟩ := h
  intro heq
  have hkept := contains_keptMap_of_removed hr
  rw [heq, hr] at hkept
  cases hkept

/-- The map that the next attempt sends. -/
def nextMap (d : Discovery) : SidMap :=
  if d.scan.updateCount = 0 then d.keptMap else d.scan.removal

/-- Probes that the second phase still waits for: none, from its first attempt on. -/
def unanswered (d : Discovery) : Nat :=
  if d.scan.updateCount = 0 then 0 else d.scan.outstanding

/-- One attempt to send the map, after which the session goes on. -/
structure GoesOn (d d' : Discovery) : Prop where
  scan : d'.scan = { d.scan with
    outstanding := d.unanswered, removal := d.nextMap, updateCount := d.pushed }
  maps : d'.site.maps = if d.site.hasBuffer then d.nextMap :: d.site.maps else d.site.maps
  completed : d'.site.completed = d.site.completed
  platform : d'.site.platform = d.site.platform
  awaits : ∀ incidents, (d.among incidents).Tied → d'.Awaits .testMissingUpdateMap

theorem goesOn_pushMap {r : Discovery} (hstep : d.TestStep r)
    (hsite : r.site = d.cancelMissing.site)
    (hscan : r.scan = { d.scan with outstanding := d.unanswered, removal := d.nextMap }) :
    d.GoesOn r.pushMap where
  scan := by
    rw [pushMap_scan, pushed, pushed, hsite, cancelMissing_hasBuffer, hscan]
  maps := by
    rw [pushMap_maps, hscan, hsite, cancelMissing_hasBuffer, cancelMissing_maps]
  completed := by rw [pushMap_completed, hsite, cancelMissing_completed]
  platform := by rw [pushMap_platform, hsite, cancelMissing_platform]
  awaits _ ht := awaits_pushMap _ (hstep.tied _ ht)

/-- The second phase goes on as long as it is not over and some slot is missing. -/
theorem goesOn_updateMap (hover : ¬ d.isOver)
    (hmissing : d.scan.updateCount = 0 → d.someMissing) : d.GoesOn d.updateMap := by
  have hcancel := d.testStep_cancelMissing
  by_cases hn : d.scan.updateCount = 0
  · rw [updateMap_of_some d hover hn (hmissing hn)]
    refine goesOn_pushMap (hcancel.trans (testStep_scan _ _)) rfl ?_
    rw [nextMap, unanswered, if_pos hn, if_pos hn]
    rfl
  · rw [updateMap_of_sent d hover hn]
    refine goesOn_pushMap hcancel rfl ?_
    rw [nextMap, unanswered, if_neg hn, if_neg hn]
    rfl

/-- The second phase ends the session, or it goes on. -/
theorem ended_or_goesOn (d : Discovery) : d.Ended d.updateMap ∨
    d.GoesOn d.updateMap ∧ ¬ d.isOver ∧ (d.scan.updateCount = 0 → d.someMissing) := by
  by_cases hover : d.isOver
  · exact .inl (ended_updateMap d (.inl hover))
  by_cases hmissing : d.scan.updateCount = 0 → d.someMissing
  · exact .inr ⟨goesOn_updateMap hover hmissing, hover, hmissing⟩
  · rw [Classical.not_imp] at hmissing
    exact .inl (ended_updateMap d (.inr hmissing))

end Discovery

/-! ### A session in its second phase -/

/-- A session is in its second phase and waits for the next attempt to send the map. -/
structure Engine.Updating (engine : Engine) : Prop where
  active : engine.network.scan.active
  outstanding : engine.network.scan.outstanding = 0
  awaits : engine.discovery.Awaits .testMissingUpdateMap

/-- Nothing was sent and nothing is missing that was there. -/
structure SameUpdate (engine engine' : Engine) : Prop where
  removal : engine'.network.scan.removal = engine.network.scan.removal
  updateCount : engine'.network.scan.updateCount = engine.network.scan.updateCount
  maps : engine'.site.maps = engine.site.maps

/-- A session that is given up has ended, whatever begins then. -/
theorem completed_flush (d : Discovery) (hactive : d.scan.active) (id : DeviceId) :
    d.flush id = d ∨ d.site.completed < (d.flush id).site.completed := by
  unfold Discovery.flush
  split
  · exact .inl rfl
  · next sid _ =>
    have hstop := (d.ended_runOut).completed
    rw [← Discovery.cancelSession_of_active d hactive] at hstop
    have hrest : d.cancelSession.TestStep (d.beginFlush id sid).updateMap :=
      (Discovery.testStep_onSite _ (Site.silent_report _ _ _ _)).trans
        ((Discovery.testStep_scan _ _).trans (Discovery.testStep_updateMap _))
    exact .inr (Nat.lt_of_lt_of_le (hstop ▸ Nat.lt_succ_self _) hrest.completed)

theorem completed_flushAll (d : Discovery) (hactive : d.scan.active) :
    d.flushAll = d ∨ d.site.completed < d.flushAll.site.completed := by
  unfold Discovery.flushAll
  split
  · exact .inl rfl
  · have hstop := (d.ended_runOut).completed
    rw [← Discovery.cancelSession_of_active d hactive] at hstop
    have hrest : d.cancelSession.TestStep d.beginFlushAll.updateMap :=
      (Discovery.testStep_onSite _ (Discovery.silent_offlineAll _ _)).trans
        ((Discovery.testStep_scan _ _).trans ((Discovery.testStep_scan _ _).trans
          (Discovery.testStep_updateMap _)))
    exact .inr (Nat.lt_of_lt_of_le (hstop ▸ Nat.lt_succ_self _) hrest.completed)

/-- As long as the session goes on, nothing happens in its second phase but attempts to send the
map. -/
theorem updating_turn {engine engine' : Engine} (h : engine.Updating) (ht : engine.Tied)
    (hturn : Turn engine engine') (hc : engine'.site.completed = engine.site.completed) :
    engine'.Updating ∧ (SameUpdate engine engine' ∨
      ∃ d, engine.Fires .testMissingUpdateMap d ∧ d.GoesOn engine'.discovery ∧
        (d.scan.updateCount = 0 → d.someMissing)) := by
  have hstay {d' : Discovery} (hd : d' = engine.discovery) :
      (d'.among engine.incidents).Updating ∧ SameUpdate engine (d'.among engine.incidents) := by
    rw [hd]
    exact ⟨h, rfl, rfl, rfl⟩
  cases hturn with
  | aside haside =>
    exact ⟨⟨haside.scan ▸ h.active, haside.scan ▸ h.outstanding, haside.handle ▸ h.awaits.isSome,
        fun timer htimer hp => h.awaits.kind_eq timer (haside.missing timer htimer hp) hp⟩,
      .inl ⟨congrArg Scan.removal haside.scan, congrArg Scan.updateCount haside.scan,
        haside.maps⟩⟩
  | report map =>
    by_cases hconfirmed : engine.discovery.isConfirmedBy map
    · have hcompleted := (engine.discovery.ended_receiveMissing_of_confirmed h.outstanding
        hconfirmed).completed
      exact absurd (hcompleted.symm.trans hc) (Nat.succ_ne_self _)
    · have hignored := engine.discovery.receiveMissing_of_ignored h.outstanding hconfirmed
      exact (hstay hignored).imp_right .inl
  | choose delete =>
    exact ⟨⟨h.active, h.outstanding, h.awaits.isSome, h.awaits.kind_eq⟩, .inl ⟨rfl, rfl, rfl⟩⟩
  | begin hidle => exact absurd (h.active.symm.trans hidle) (by simp)
  | stop =>
    have hcompleted := engine.discovery.ended_runOut.completed
    rw [← Discovery.cancelSession_of_active _ h.active] at hcompleted
    exact absurd (hcompleted.symm.trans hc) (Nat.succ_ne_self _)
  | flush id =>
    rcases completed_flush engine.discovery h.active id with hsame | hlt
    · exact (hstay hsame).imp_right .inl
    · exact absurd hc (Nat.ne_of_gt hlt)
  | flushAll =>
    rcases completed_flushAll engine.discovery h.active with hsame | hlt
    · exact (hstay hsame).imp_right .inl
    · exact absurd hc (Nat.ne_of_gt hlt)
  | @fire kind d hfires =>
    obtain rfl := hfires.kind_eq h.awaits
    rcases d.ended_or_goesOn with hended | ⟨hgoes, -, hmissing⟩
    · exact absurd ((hfires.completed ▸ hended.completed).symm.trans hc) (Nat.succ_ne_self _)
    · have hactive : d.updateMap.scan.active = true := by
        rw [hgoes.scan, hfires.scan]
        exact h.active
      have ho : d.updateMap.scan.outstanding = 0 := by
        rw [hgoes.scan, Discovery.unanswered, hfires.scan, h.outstanding]
        exact ite_self 0
      exact ⟨⟨hactive, ho, hgoes.awaits _ (hfires.tied ht)⟩, .inr ⟨d, hfires, hgoes, hmissing⟩⟩

/-! ### A session that is running has not run out of time -/

namespace Discovery

/-- A session that is running has not run out of time. -/
def InTime (d : Discovery) : Prop := d.scan.active → d.scan.ranOutOfTime = false

theorem Ended.inTime {d d' : Discovery} (h : d.Ended d') : d'.InTime := fun hactive =>
  absurd (h.active.symm.trans hactive) Bool.false_ne_true

/-- The second phase ends a session that has run out of time. -/
theorem inTime_updateMap (d : Discovery) : d.updateMap.InTime := by
  rcases d.ended_or_goesOn with hended | ⟨hgoes, hover, -⟩
  · exact hended.inTime
  · have hout : ¬ d.scan.ranOutOfTime := fun hout => hover (by simp [isOver, hout])
    intro _
    rw [hgoes.scan]
    exact eq_false_of_ne_true hout

theorem inTime_probe {d : Discovery} (h : d.InTime) : d.probe.InTime := by
  by_cases hdue : d.isOverdue
  · rw [probe_of_overdue d hdue]
    exact d.ended_runOut.inTime
  rw [probe_of_due d hdue]
  split
  · exact h
  · exact h

theorem inTime_beginSession {d : Discovery} (h : d.InTime) : d.beginSession.InTime := by
  by_cases hactive : d.scan.active
  · rw [beginSession_of_active d hactive]
    exact h
  obtain ⟨d', left, -, hscan, hbegin⟩ := beginSession_cases d hactive
  have htime : d'.scan.ranOutOfTime = false := by rw [hscan]
  rcases hbegin with hbegin | hbegin
  · rw [hbegin]
    exact fun _ => htime
  · rw [hbegin]
    exact fun _ => htime

theorem inTime_receiveMissing {d : Discovery} (map : SidMap) (h : d.InTime) :
    (d.receiveMissing map).InTime := by
  rcases Nat.eq_zero_or_pos d.scan.outstanding with ho | ho
  · by_cases hconfirmed : d.isConfirmedBy map
    · exact (d.ended_receiveMissing_of_confirmed ho hconfirmed).inTime
    · rw [receiveMissing_of_ignored d ho hconfirmed]
      exact h
  by_cases hdue : d.isOverdue
  · rw [receiveMissing_of_overdue d ho hdue]
    exact d.ended_runOut.inTime
  rw [receiveMissing_of_counted d map ho hdue]
  split
  · exact inTime_updateMap _
  · unfold probeWhenDue
    split
    · exact inTime_probe h
    · exact h

end Discovery

theorem inTime_turn {engine engine' : Engine} (h : engine.discovery.InTime)
    (hturn : Turn engine engine') : engine'.discovery.InTime := by
  cases hturn with
  | aside haside =>
    intro hactive
    rw [show engine'.discovery.scan = engine.discovery.scan from haside.scan] at hactive ⊢
    exact h hactive
  | report map => exact Discovery.inTime_receiveMissing map h
  | choose delete => exact h
  | begin hidle => exact Discovery.inTime_beginSession h
  | stop =>
    show engine.discovery.cancelSession.InTime
    by_cases hactive : engine.discovery.scan.active
    · rw [Discovery.cancelSession_of_active _ hactive]
      exact engine.discovery.ended_runOut.inTime
    · rw [Discovery.cancelSession_of_idle _ hactive]
      exact h
  | flush id =>
    show (engine.discovery.flush id).InTime
    unfold Discovery.flush
    split
    · exact h
    · exact Discovery.inTime_updateMap _
  | flushAll =>
    show engine.discovery.flushAll.InTime
    unfold Discovery.flushAll
    split
    · exact h
    · exact Discovery.inTime_updateMap _
  | @fire kind d hfires =>
    have hd : d.InTime := fun hactive => by
      rw [hfires.scan] at hactive ⊢
      exact h hactive
    show (d.fireTest kind).InTime
    unfold Discovery.fireTest
    split
    · exact Discovery.inTime_beginSession hd
    · exact Discovery.inTime_updateMap d
    · exact Discovery.inTime_probe hd

theorem Reachable.inTime {settings : Config.Settings} {engine : Engine}
    (h : Reachable settings engine) : engine.discovery.InTime := by
  induction h with
  | start platform pool clock contention =>
    unfold Engine.started
    rw [start_eq]
    exact fun hactive => absurd hactive Bool.false_ne_true
  | move move _ ih => exact Turn.induct inTime_turn (Engine.turns_move _ move) ih

theorem Reachable.settings_eq {settings : Config.Settings} {engine : Engine}
    (h : Reachable settings engine) : engine.network.settings = settings.discovery := by
  induction h with
  | start platform pool clock contention =>
    unfold Engine.started
    rw [start_eq]
    rfl
  | @move engine move _ ih =>
    exact Turn.induct (P := fun e => e.network.settings = settings.discovery)
      (fun ha ht => ht.settings_eq.trans ha) (engine.turns_move move) ih

/-! ### The maps of a session -/

/-- What every attempt to send the map preserves, and whatever leaves the second phase as it is,
holds until the session ends.  The turns may be those of a kind. -/
theorem updating_run {R : Engine → Engine → Prop} (hturn : ∀ {a b}, R a b → Turn a b)
    {Q : Engine → Prop} (hsame : ∀ {a b}, R a b → SameUpdate a b → Q a → Q b)
    (hgoes : ∀ {a b d}, R a b → a.Fires .testMissingUpdateMap d → d.GoesOn b.discovery →
      (d.scan.updateCount = 0 → d.someMissing) → Q a → Q b)
    {engine engine' : Engine} (hrun : Relation.ReflTransGen R engine engine') (ht : engine.Tended)
    (hu : engine.Updating) (hq : Q engine)
    (hc : engine'.site.completed = engine.site.completed) : engine'.Updating ∧ Q engine' := by
  have hinvariant : engine'.Tended ∧ engine.site.completed ≤ engine'.site.completed ∧
      (engine'.site.completed = engine.site.completed → engine'.Updating ∧ Q engine') := by
    clear hc
    induction hrun with
    | refl => exact ⟨ht, Nat.le_refl _, fun _ => ⟨hu, hq⟩⟩
    | @tail a b _ hab ih =>
      obtain ⟨hta, hle, hqa⟩ := ih
      have hlast := (hturn hab).completed_le
      refine ⟨tended_turn hta (hturn hab), Nat.le_trans hle hlast, fun hb => ?_⟩
      have ha : a.site.completed = engine.site.completed := by omega
      obtain ⟨hua, hqa⟩ := hqa ha
      obtain ⟨hub, hstep⟩ := updating_turn hua hta.tied (hturn hab) (hb.trans ha.symm)
      rcases hstep with hsame' | ⟨d, hfires, hd, hmissing⟩
      · exact ⟨hub, hsame hab hsame' hqa⟩
      · exact ⟨hub, hgoes hab hfires hd hmissing hqa⟩
  exact hinvariant.2.2 hc

theorem updating_moves {Q : Engine → Prop}
    (hsame : ∀ {a b}, SameUpdate a b → Q a → Q b)
    (hgoes : ∀ {a b d}, a.Fires .testMissingUpdateMap d → d.GoesOn b.discovery → Q a → Q b)
    {engine : Engine} (ht : engine.Tended) (hu : engine.Updating) (hq : Q engine)
    (moves : List Move) (hc : (engine.moves moves).site.completed = engine.site.completed) :
    (engine.moves moves).Updating ∧ Q (engine.moves moves) :=
  updating_run (R := Turn) id (fun _ => hsame) (fun _ hfires hd _ => hgoes hfires hd)
    (engine.turns_moves moves) ht hu hq hc

/-- The map that is left has taken the place of the mask, and it is all that was sent. -/
structure Engine.Sends (kept : SidMap) (before : List SidMap) (engine : Engine) : Prop where
  removal : engine.network.scan.removal = kept
  sent : 0 < engine.network.scan.updateCount
  maps : ∃ n, engine.site.maps = List.replicate (n + 1) kept ++ before

theorem Engine.Sends.attempt {kept : SidMap} {before : List SidMap} {a b : Engine} {d : Discovery}
    (hfires : a.Fires .testMissingUpdateMap d) (hgoes : d.GoesOn b.discovery)
    (h : a.Sends kept before) : b.Sends kept before := by
  have hsent : 0 < d.scan.updateCount := by rw [hfires.scan]; exact h.sent
  have hnext : d.nextMap = kept := by
    rw [Discovery.nextMap, if_neg (by omega), hfires.scan]
    exact h.removal
  have hscan : b.network.scan = _ := hgoes.scan
  have hmaps : b.site.maps = _ := hgoes.maps
  refine ⟨?_, ?_, ?_⟩
  · rw [hscan]
    exact hnext
  · rw [hscan]
    show 0 < d.pushed
    unfold Discovery.pushed
    split <;> omega
  · obtain ⟨n, hn⟩ := h.maps
    rw [hmaps, hnext, hfires.maps, hn]
    split
    · exact ⟨n + 1, rfl⟩
    · exact ⟨n, rfl⟩

/-- Nothing was sent as long as no map is counted. -/
theorem unsent_attempt {before : List SidMap} {a b : Engine} {d : Discovery}
    (hfires : a.Fires .testMissingUpdateMap d) (hgoes : d.GoesOn b.discovery)
    (h : a.network.scan.updateCount = 0 → a.site.maps = before)
    (hn : b.network.scan.updateCount = 0) : b.site.maps = before := by
  have hpushed : d.pushed = 0 := by
    rw [← hn, show b.network.scan = _ from hgoes.scan]
  have hmaps : b.site.maps = _ := hgoes.maps
  unfold Discovery.pushed at hpushed
  split at hpushed
  · simp at hpushed
  · next hbuffer =>
    rw [hmaps, if_neg hbuffer, hfires.maps]
    exact h (hfires.scan ▸ hpushed)

/-- A session enters its second phase with a move: a report decides that probing is over, or
devices are to be removed.  `d` is what the second phase begins with. -/
inductive Enters (engine : Engine) : Move → Discovery → Prop where
  | report {frame : List UInt8} {map : SidMap}
      (hframe : Report.decode frame = .ok (.missingNodes map))
      (hactive : engine.network.scan.active) (ho : 0 < engine.network.scan.outstanding)
      (hdue : ¬ engine.discovery.isOverdue)
      (hdecided : (engine.discovery.countReport map).isDecided)
      (hdelete : engine.network.scan.delete) (hn : engine.network.scan.updateCount = 0) :
      Enters engine (.receive frame) ((engine.counted frame).discovery.countReport map).markDevices
  | flush {move : Move} {id : DeviceId} {sid : UInt8}
      (hmove : engine.move move = engine.onNetwork fun d => d.flush id)
      (hsid : engine.site.slotOf id = some sid) :
      Enters engine move (engine.discovery.beginFlush id sid)
  | flushAll {move : Move} (hmove : engine.move move = engine.onNetwork Discovery.flushAll)
      (hfirst : engine.network.scan.flushingAll = 0) :
      Enters engine move engine.discovery.beginFlushAll

/-- What the second phase begins with. -/
structure Enters.Opens (engine : Engine) (move : Move) (d : Discovery) : Prop where
  move_eq : engine.move move = d.updateMap.among engine.incidents
  active : d.scan.active
  unsent : d.scan.updateCount = 0
  inTime : d.scan.ranOutOfTime = false
  delete : d.scan.delete
  settings : d.settings = engine.network.settings
  tied : engine.Tied → (d.among engine.incidents).Tied

theorem Enters.opens {engine : Engine} {move : Move} {d : Discovery} (h : Enters engine move d)
    (ht : engine.discovery.InTime) : Enters.Opens engine move d := by
  cases h with
  | @report frame map hframe hactive ho hdue hdecided hdelete hn =>
    have hcounted : Aside engine (engine.counted frame) :=
      aside_silent (Site.silent_count _ (by simp)) rfl rfl rfl
    have hstep := ((engine.counted frame).discovery.testStep_countReport map).trans
      (Discovery.testStep_markDevices _)
    refine ⟨?_, hactive, hn, ht hactive, hdelete, rfl,
      fun htied => hstep.tied _ (hcounted.tied htied)⟩
    have hcount := (engine.counted frame).discovery.receiveMissing_of_counted map ho hdue
    show engine.receive frame = _
    rw [Engine.receive_missingNodes engine hframe]
    exact congrArg (fun d => Discovery.among d engine.incidents) (hcount.trans (if_pos hdecided))
  | @flush move id sid hmove hsid =>
    have hflush : engine.discovery.flush id = (engine.discovery.beginFlush id sid).updateMap := by
      unfold Discovery.flush
      rw [show engine.discovery.site.slotOf id = some sid from hsid]
    have hstep := engine.discovery.testStep_beginFlush id sid
    exact ⟨hmove.trans (congrArg (fun d => Discovery.among d engine.incidents) hflush), rfl, rfl,
      rfl, rfl, congrArg (fun network => network.settings) hstep.network, hstep.tied _⟩
  | flushAll hmove hfirst =>
    have hflush : engine.discovery.flushAll = engine.discovery.beginFlushAll.updateMap := by
      unfold Discovery.flushAll
      exact if_neg (by simp [Engine.discovery, hfirst])
    have hstep := engine.discovery.testStep_beginFlushAll
    exact ⟨hmove.trans (congrArg (fun d => Discovery.among d engine.incidents) hflush), rfl, rfl,
      rfl, rfl, congrArg (fun network => network.settings) hstep.network, hstep.tied _⟩

theorem Enters.Opens.not_over {settings : Config.Settings} (hcheck : settings.check = .ok ())
    {engine : Engine} (hr : Reachable settings engine) {move : Move} {d : Discovery}
    (h : Enters.Opens engine move d) : ¬ d.isOver := by
  have hcount := (Config.DiscoverySettings.check_eq_ok.1
    (Config.Settings.check_eq_ok.1 hcheck).2.1).2.2.1
  have hsettings := h.settings.trans hr.settings_eq
  simp [Discovery.isOver, Discovery.mapUpdated, h.inTime, h.delete, h.unsent, hsettings]
  omega

/-- The first attempt to send the map. -/
theorem Enters.Opens.goesOn {settings : Config.Settings} (hcheck : settings.check = .ok ())
    {engine : Engine} (hr : Reachable settings engine) {move : Move} {d : Discovery}
    (h : Enters.Opens engine move d) (hmeets : d.Meets) :
    d.GoesOn (engine.move move).discovery ∧ (engine.move move).Updating := by
  have hgoes := Discovery.goesOn_updateMap (h.not_over hcheck hr)
    fun _ => (Discovery.someMissing_iff d).2 hmeets
  rw [h.move_eq]
  refine ⟨hgoes, ?_, ?_, hgoes.awaits _ (h.tied hr.tended.tied)⟩
  · show d.updateMap.scan.active = true
    rw [hgoes.scan]
    exact h.active
  · show d.updateMap.scan.outstanding = 0
    rw [hgoes.scan]
    exact if_pos h.unsent

/-- The next attempt takes the map that is left for the mask.  If nothing of it is in the current
map, the session ends, and otherwise another map is sent, or is left for the attempt after it. -/
structure Engine.Mistakes (engine : Engine) : Prop where
  ends : ¬ engine.discovery.Meets → engine.expire.site.maps = engine.site.maps ∧
    engine.expire.site.completed = engine.site.completed + 1
  differs : engine.discovery.Meets → engine.discovery.keptMap ≠ engine.network.scan.removal
  sends : engine.discovery.Meets →
    engine.expire.network.scan.removal = engine.discovery.keptMap ∧
      engine.expire.site.maps = if engine.site.hasBuffer then
        engine.discovery.keptMap :: engine.site.maps else engine.site.maps

theorem mistakes_of_unsent {settings : Config.Settings} (hcheck : settings.check = .ok ())
    {engine : Engine} (hr : Reachable settings engine) (hu : engine.Updating)
    (hn : engine.network.scan.updateCount = 0)
    (hdue : engine.popDue.1 = some .testMissingUpdateMap) (hdelete : engine.network.scan.delete) :
    engine.Mistakes := by
  obtain ⟨d, hfires, hexpire⟩ := engine.expire_of_due hdue rfl
  obtain ⟨rest, hd⟩ := hfires.eq
  have hcount := (Config.DiscoverySettings.check_eq_ok.1
    (Config.Settings.check_eq_ok.1 hcheck).2.1).2.2.1
  have hsettings : d.settings = settings.discovery := by
    rw [hd]
    exact hr.settings_eq
  have htime : engine.network.scan.ranOutOfTime = false := hr.inTime hu.active
  have hover : ¬ d.isOver := by
    simp [Discovery.isOver, Discovery.mapUpdated, hfires.scan, htime, hdelete, hn, hsettings]
    omega
  have hunsent : d.scan.updateCount = 0 := by rw [hfires.scan, hn]
  have hmeets : d.Meets ↔ engine.discovery.Meets := by rw [hd]; rfl
  have hkept : d.keptMap = engine.discovery.keptMap := by rw [hd]; rfl
  have hmaps : d.site.maps = engine.site.maps := by rw [hd]; rfl
  have hbuffer : d.site.hasBuffer = engine.site.hasBuffer := by rw [hd]; rfl
  refine ⟨fun hnone => ?_, fun hsome => Discovery.keptMap_ne_removal hsome, fun hsome => ?_⟩
  · have hended := d.ended_updateMap
      (.inr ⟨hunsent, fun hs => hnone (hmeets.1 (d.someMissing_iff.1 hs))⟩)
    rw [hexpire]
    exact ⟨hended.maps.trans hmaps, hended.completed.trans (congrArg (· + 1) hfires.completed)⟩
  · have hgoes := Discovery.goesOn_updateMap hover
      fun _ => d.someMissing_iff.2 (hmeets.2 hsome)
    have hnext : d.nextMap = engine.discovery.keptMap := (if_pos hunsent).trans hkept
    rw [hexpire]
    refine ⟨(congrArg Scan.removal hgoes.scan).trans hnext, ?_⟩
    rw [← hnext, ← hmaps, ← hbuffer]
    exact hgoes.maps

/-- If a buffer is free for the first attempt, what is sent first is the map that is left, and it
stays in place of the mask. -/
theorem Enters.Opens.sends {settings : Config.Settings} (hcheck : settings.check = .ok ())
    {engine : Engine} (hr : Reachable settings engine) {move : Move} {d : Discovery}
    (h : Enters.Opens engine move d) (hmeets : d.Meets) (hbuffer : d.site.hasBuffer)
    (moves : List Move)
    (hc : ((engine.move move).moves moves).site.completed = d.site.completed) :
    ((engine.move move).moves moves).Sends d.keptMap d.site.maps := by
  obtain ⟨hgoes, hupdating⟩ := h.goesOn hcheck hr hmeets
  have hnext : d.nextMap = d.keptMap := if_pos h.unsent
  have hmaps : (engine.move move).site.maps = _ := hgoes.maps
  have hscan : (engine.move move).network.scan = _ := hgoes.scan
  rw [if_pos hbuffer, hnext] at hmaps
  have hfirst : (engine.move move).Sends d.keptMap d.site.maps := by
    refine ⟨?_, ?_, 0, hmaps⟩
    · rw [hscan]
      exact hnext
    · rw [hscan]
      show 0 < d.pushed
      simp [Discovery.pushed, hbuffer]
  have hsends := updating_moves
    (fun hsame h => ⟨hsame.removal.trans h.removal, hsame.updateCount ▸ h.sent,
      hsame.maps ▸ h.maps⟩)
    Engine.Sends.attempt (hr.move move).tended hupdating hfirst moves
    (hc.trans hgoes.completed.symm)
  exact hsends.2

/-- If no buffer is free for the first attempt, nothing is sent until a map is counted. -/
theorem Enters.Opens.waits {settings : Config.Settings} (hcheck : settings.check = .ok ())
    {engine : Engine} (hr : Reachable settings engine) {move : Move} {d : Discovery}
    (h : Enters.Opens engine move d) (hmeets : d.Meets) (hbuffer : d.site.hasBuffer = false)
    (moves : List Move)
    (hc : ((engine.move move).moves moves).site.completed = d.site.completed) :
    ((engine.move move).moves moves).Updating ∧
      (((engine.move move).moves moves).network.scan.updateCount = 0 →
        ((engine.move move).moves moves).site.maps = d.site.maps) := by
  obtain ⟨hgoes, hupdating⟩ := h.goesOn hcheck hr hmeets
  have hmaps : (engine.move move).site.maps = _ := hgoes.maps
  rw [if_neg (ne_true_of_eq_false hbuffer)] at hmaps
  exact updating_moves
    (Q := fun e => e.network.scan.updateCount = 0 → e.site.maps = d.site.maps)
    (fun hsame h hn => hsame.maps.trans (h (hsame.updateCount ▸ hn)))
    unsent_attempt (hr.move move).tended hupdating (fun _ => hmaps) moves
    (hc.trans hgoes.completed.symm)

/-- The maps that a session sends in its second phase.  If the mask `d.scan.removal` names no slot
of the current map `d.current`, the session ends at once, with no map sent.  Otherwise it deletes
nothing yet, and everything depends on whether a buffer is free for its first attempt: if there is
one, every map sent until the session ends is the map that is left, and it was sent; if there is
none, the attempt that comes after it is mistaken about the mask. -/
theorem updateMap_sends {settings : Config.Settings} (hcheck : settings.check = .ok ())
    {engine : Engine} (hr : Reachable settings engine) {move : Move} {d : Discovery}
    (h : Enters engine move d) :
    (¬ d.Meets → (engine.move move).site.maps = d.site.maps ∧
      (engine.move move).site.completed = d.site.completed + 1) ∧
    (d.Meets → (engine.move move).site.platform = d.site.platform ∧
      (engine.move move).site.completed = d.site.completed) ∧
    (d.Meets → d.site.hasBuffer → ∀ moves,
      ((engine.move move).moves moves).site.completed = d.site.completed →
        ∃ n, ((engine.move move).moves moves).site.maps =
          List.replicate (n + 1) d.keptMap ++ d.site.maps) ∧
    (d.Meets → d.site.hasBuffer = false →
      (engine.move move).network.scan.removal = d.keptMap ∧
      (engine.move move).network.scan.updateCount = 0 ∧ ∀ moves,
        ((engine.move move).moves moves).site.completed = d.site.completed →
        ((engine.move move).moves moves).network.scan.updateCount = 0 →
          ((engine.move move).moves moves).site.maps = d.site.maps ∧
          (((engine.move move).moves moves).popDue.1 = some .testMissingUpdateMap →
            ((engine.move move).moves moves).network.scan.delete →
              ((engine.move move).moves moves).Mistakes)) := by
  have hopens := h.opens hr.inTime
  refine ⟨fun hnone => ?_, fun hmeets => ?_, fun hmeets hbuffer moves hc => ?_,
    fun hmeets hbuffer => ?_⟩
  · have hended := d.ended_updateMap
      (.inr ⟨hopens.unsent, fun hs => hnone (d.someMissing_iff.1 hs)⟩)
    rw [hopens.move_eq]
    exact ⟨hended.maps, hended.completed⟩
  · have hgoes := (hopens.goesOn hcheck hr hmeets).1
    exact ⟨hgoes.platform, hgoes.completed⟩
  · exact (hopens.sends hcheck hr hmeets hbuffer moves hc).maps
  · have hscan : (engine.move move).network.scan = _ :=
      (hopens.goesOn hcheck hr hmeets).1.scan
    refine ⟨?_, ?_, fun moves hc hunsent => ?_⟩
    · rw [hscan]
      exact if_pos hopens.unsent
    · rw [hscan]
      show d.pushed = 0
      simp [Discovery.pushed, hbuffer, hopens.unsent]
    · obtain ⟨hupdating, hmaps⟩ := hopens.waits hcheck hr hmeets hbuffer moves hc
      exact ⟨hmaps hunsent, fun hdue hdelete =>
        mistakes_of_unsent hcheck ((hr.move move).moves moves) hupdating hunsent hdue hdelete⟩

/-- The device at slot 7 is removed: every map sent names the slots 0, 5 and 6. -/
theorem updateMap_sends_joined :
    ∃ d, Enters joined (.control (.flush (.ofNat 7))) d ∧ d.Meets ∧ d.site.hasBuffer ∧
      d.keptMap = ⟨0x61⟩ ∧ ∀ moves,
        ((joined.move (.control (.flush (.ofNat 7)))).moves moves).site.completed =
          d.site.completed →
        ∃ n, ((joined.move (.control (.flush (.ofNat 7)))).moves moves).site.maps =
          List.replicate (n + 1) d.keptMap ++ d.site.maps := by
  have hsid : joined.site.slotOf (.ofNat 7) = some 7 := by decide +kernel
  have henters : Enters joined (.control (.flush (.ofNat 7))) _ := .flush rfl hsid
  have hmeets : (joined.discovery.beginFlush (.ofNat 7) 7).Meets := ⟨7, by decide +kernel⟩
  have hbuffer : (joined.discovery.beginFlush (.ofNat 7) 7).site.hasBuffer = true := by
    decide +kernel
  exact ⟨_, henters, hmeets, hbuffer, by decide +kernel,
    (updateMap_sends (by decide) reachable_joined henters).2.2.1 hmeets hbuffer⟩

end AlarmMesh.Gateway
