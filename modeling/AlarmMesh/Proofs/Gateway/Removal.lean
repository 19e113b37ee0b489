import AlarmMesh.Proofs.Gateway.DeleteAll
import AlarmMesh.Proofs.Gateway.Verdict

/-!
# Sessions that are begun to remove devices

To remove a device is to report it offline and to begin a session that has no first phase.  Its end
does not know which device it was begun for: it removes every mesh device that is reported offline,
whatever the reason, and leaves the others.

* `Discovery.Aiming`, `Discovery.Pushing` — before an attempt to send the map, and between two;
* `Discovery.Removed` — the session is over;
* `removed_moves`, `Enters.Opens.removed` — if nothing interferes, a session gets there;
* `flushAll_purges` — what becomes of the devices when all are to be removed;
* `flush_removes` — and when one is;
* `not_purged_of_outage` — no call that is made for it can be spared.
-/

namespace AlarmMesh.Gateway

open Radio (DeviceId Report SidMap)
open Shadow (Presence Property Value)

namespace Discovery

/-- A session that deletes devices is in its second phase, which sends the map `kept`.  The devices
and what they report of their presence are those of `base`, and `before` was sent until then. -/
structure Aiming (base : Site) (kept : SidMap) (before : List SidMap) (d : Discovery) : Prop where
  active : d.scan.active
  delete : d.scan.delete
  inTime : d.scan.ranOutOfTime = false
  unanswered : d.unanswered = 0
  nextMap : d.nextMap = kept
  keeps : base.Keeps [.presence] d.site
  maps : ∃ n, d.site.maps = List.replicate n kept ++ before

/-- The map was sent, and the session waits for the next attempt. -/
structure Pushing (base : Site) (kept : SidMap) (before : List SidMap) (d : Discovery) : Prop
    extends Aiming base kept before d where
  sent : 0 < d.scan.updateCount
  awaits : d.Awaits .testMissingUpdateMap

/-- The session is over.  The mesh devices that were offline are gone, and no others. -/
structure Removed (base : Site) (kept : SidMap) (before : List SidMap) (d : Discovery) : Prop where
  idle : d.scan.active = false
  outages : d.site.platform.outages = base.platform.outages
  swept : base.Swept d.site
  maps : ∃ n, d.site.maps = List.replicate n kept ++ before

variable {d : Discovery} {base : Site} {kept : SidMap} {before : List SidMap}
  {incidents : Incidents} {id other : DeviceId} {sid : UInt8}

/-! ### Attempts to send the map -/

/-- The end of the second phase. -/
theorem removed_updateMap (hdelete : d.scan.delete) (htime : d.scan.ranOutOfTime = false)
    (hkeeps : base.Keeps [.presence] d.site)
    (hmaps : ∃ n, d.site.maps = List.replicate n kept ++ before) (hsweeps : base.Sweeps)
    (hended : d.isOver ∨ d.scan.updateCount = 0 ∧ ¬ d.someMissing) :
    d.updateMap.Removed base kept before where
  idle := (d.ended_updateMap hended).active
  outages := (d.edits_updateMap (covers_sweeping _)).outages.trans hkeeps.outages
  swept := (swept_updateMap (hsweeps.congr hkeeps.outages) hdelete htime hended).of_keeps hkeeps
  maps := by
    rw [(d.ended_updateMap hended).maps]
    exact hmaps

/-- The second phase sends the map, or ends the session.  For the first attempt a buffer must be
free: later ones take the map that was sent for the one to be sent, whatever it is. -/
theorem Aiming.updateMap (h : d.Aiming base kept before)
    (hfirst : d.scan.updateCount = 0 → d.site.hasBuffer) (hsweeps : base.Sweeps)
    (ht : (d.among incidents).Tied) :
    d.updateMap.Pushing base kept before ∨ d.updateMap.Removed base kept before := by
  by_cases hended : d.isOver ∨ d.scan.updateCount = 0 ∧ ¬ d.someMissing
  · exact .inr (removed_updateMap h.delete h.inTime h.keeps h.maps hsweeps hended)
  left
  obtain ⟨hover, hsome⟩ := not_or.1 hended
  have hgoes := goesOn_updateMap hover fun hn => by simpa [hn] using hsome
  have hpushed : 0 < d.pushed := by
    unfold pushed
    split
    · exact Nat.succ_pos _
    · next hnone => exact Nat.pos_of_ne_zero fun hn => hnone (hfirst hn)
  have hsent : 0 < d.updateMap.scan.updateCount := by
    rw [hgoes.scan]
    exact hpushed
  refine
    { active := by rw [hgoes.scan]; exact h.active
      delete := by rw [hgoes.scan]; exact h.delete
      inTime := by rw [hgoes.scan]; exact h.inTime
      unanswered := (if_neg (Nat.ne_of_gt hsent)).trans (by rw [hgoes.scan]; exact h.unanswered)
      nextMap := (if_neg (Nat.ne_of_gt hsent)).trans (by rw [hgoes.scan]; exact h.nextMap)
      keeps := h.keeps.trans (Site.keeps_of_platform hgoes.platform)
      maps := ?_
      sent := hsent
      awaits := hgoes.awaits _ ht }
  obtain ⟨n, hn⟩ := h.maps
  rw [hgoes.maps, h.nextMap, hn]
  split
  · exact ⟨n + 1, rfl⟩
  · exact ⟨n, rfl⟩

/-! ### Between two attempts -/

theorem Pushing.outstanding (h : d.Pushing base kept before) : d.scan.outstanding = 0 :=
  (if_neg (Nat.ne_of_gt h.sent)).symm.trans h.unanswered

/-- Steps beside the test that keep what is reported of the devices. -/
theorem Pushing.aside {a b : Engine} (h : a.discovery.Pushing base kept before)
    (haside : Aside a b) (hkeeps : a.site.Keeps Site.watched b.site) :
    b.discovery.Pushing base kept before := by
  have hscan : b.discovery.scan = a.discovery.scan := haside.scan
  have hmaps : b.discovery.site.maps = a.discovery.site.maps := haside.maps
  have hsent : 0 < b.discovery.scan.updateCount := hscan ▸ h.sent
  have hnext : b.discovery.nextMap = b.discovery.scan.removal := if_neg (Nat.ne_of_gt hsent)
  have hnone : b.discovery.unanswered = b.discovery.scan.outstanding :=
    if_neg (Nat.ne_of_gt hsent)
  exact
    { active := hscan ▸ h.active
      delete := hscan ▸ h.delete
      inTime := hscan ▸ h.inTime
      unanswered := hnone.trans (hscan ▸ h.outstanding)
      nextMap := hnext.trans (hscan ▸ (if_neg (Nat.ne_of_gt h.sent)).symm.trans h.nextMap)
      keeps := h.keeps.trans (hkeeps.mono (by simp [Site.watched]))
      maps := hmaps ▸ h.maps
      sent := hsent
      awaits := h.awaits.aside haside }

/-- A report of missing slots confirms the map, or means nothing. -/
theorem Pushing.receiveMissing (h : d.Pushing base kept before) (hsweeps : base.Sweeps)
    (map : SidMap) : (d.receiveMissing map).Pushing base kept before ∨
      (d.receiveMissing map).Removed base kept before := by
  by_cases hconfirmed : d.isConfirmedBy map
  · rw [receiveMissing_of_confirmed d h.outstanding hconfirmed]
    exact .inr (removed_updateMap h.delete h.inTime h.keeps h.maps hsweeps
      (.inl (by simp [isOver, mapUpdated])))
  · rw [receiveMissing_of_ignored d h.outstanding hconfirmed]
    exact .inl h

/-- The timer of the test that fires makes the next attempt. -/
theorem Pushing.fireTest {engine : Engine} {kind : TimerKind}
    (h : engine.discovery.Pushing base kept before) (hsweeps : base.Sweeps) (ht : engine.Tied)
    (hfires : engine.Fires kind d) :
    (d.fireTest kind).Pushing base kept before ∨ (d.fireTest kind).Removed base kept before := by
  have htied := hfires.tied ht
  rw [hfires.kind_eq h.awaits]
  obtain ⟨rest, hd⟩ := hfires.eq
  have haiming : d.Aiming base kept before := by
    rw [hd]
    exact { h.toAiming with keeps := h.keeps.trans (Site.keeps_of_platform rfl) }
  have hsent : 0 < d.scan.updateCount := by
    rw [hfires.scan]
    exact h.sent
  exact haiming.updateMap (fun hn => absurd hn (Nat.ne_of_gt hsent)) hsweeps htied

/-! ### Afterwards -/

/-- Of the mesh devices those that were not offline are left. -/
theorem Removed.isRegistered_iff (h : d.Removed base kept before) (hsweeps : base.Sweeps)
    (hmesh : id.isGateway = false) : d.site.platform.isRegistered id ↔
      base.platform.isRegistered id ∧ base.isOffline id = false := by
  rw [← (hsweeps.congr h.outages).mem_meshDevices_iff hmesh, h.swept.meshDevices, List.mem_filter,
    hsweeps.mem_meshDevices_iff hmesh]
  simp

end Discovery

section Moves

variable {base : Site} {kept : SidMap} {before : List SidMap} {engine : Engine} {move : Move}
  {moves : List Move} {d : Discovery}

/-- A move goes on with the session, or ends it. -/
theorem removed_move (h : engine.discovery.Pushing base kept before) (hsweeps : base.Sweeps)
    (ht : engine.Tied) (hmove : move.Awaited) :
    (engine.move move).discovery.Pushing base kept before ∨
      (engine.move move).discovery.Removed base kept before := by
  cases hmove with
  | @report frame map hframe =>
    have hcounted : Aside engine (engine.counted frame) :=
      aside_silent (Site.silent_count _ (by simp)) rfl rfl rfl
    show (engine.receive frame).discovery.Pushing _ _ _ ∨
      (engine.receive frame).discovery.Removed _ _ _
    rw [Engine.receive_missingNodes engine hframe]
    exact (h.aside hcounted (Site.keeps_of_platform rfl)).receiveMissing hsweeps map
  | expire =>
    show engine.expire.discovery.Pushing _ _ _ ∨ engine.expire.discovery.Removed _ _ _
    rcases expire_cases engine with ⟨haside, hkeeps⟩ | ⟨kind, d, hfires, hexpire⟩
    · exact .inl (h.aside haside hkeeps)
    · rw [hexpire]
      exact h.fireTest hsweeps ht hfires
  | advance | share | contend =>
    exact .inl (h.aside (Engine.beside_passive engine (by trivial)).toAside
      (Site.keeps_of_platform rfl))

/-- A session that lasts for some moves is over then, with the devices removed. -/
theorem removed_moves (h : engine.discovery.Pushing base kept before ∨
      engine.discovery.Removed base kept before) (hsweeps : base.Sweeps) (ht : engine.Tended)
    (hmoves : ∀ move ∈ moves, move.Awaited) (hlasts : engine.SessionLasts moves) :
    (engine.moves moves).discovery.Removed base kept before := by
  induction moves generalizing engine with
  | nil =>
    have hidle : engine.network.scan.active = false := Network.phase_eq_idle.1 hlasts
    exact h.resolve_left fun hpushing => absurd (hidle.symm.trans hpushing.active) (by simp)
  | cons move moves ih =>
    obtain ⟨hfirst, hrest⟩ := List.forall_mem_cons.1 hmoves
    -- a session that is over does not last for another move
    have hpushing := h.resolve_right fun hover => hlasts.1 (Network.phase_eq_idle.2 hover.idle)
    exact ih (removed_move hpushing hsweeps ht.tied hfirst) (tended_moves ht [move]) hrest hlasts.2

namespace Enters.Opens

theorem aiming (h : Enters.Opens engine move d) : d.Aiming d.site d.keptMap d.site.maps where
  active := h.active
  delete := h.delete
  inTime := h.inTime
  unanswered := if_pos h.unsent
  nextMap := if_pos h.unsent
  keeps := .refl _ _
  maps := ⟨0, rfl⟩

/-- A session in its second phase removes what is offline, if only reports of missing slots arrive
and timers fire until it is over, and a buffer is free for its first attempt to send the map. -/
theorem removed {settings : Config.Settings} (h : Enters.Opens engine move d)
    (hr : Reachable settings engine) (hbuffer : d.site.hasBuffer) (hsweeps : d.site.Sweeps)
    (hmoves : ∀ move ∈ moves, move.Awaited) (hlasts : (engine.move move).SessionLasts moves) :
    ((engine.move move).moves moves).discovery.Removed d.site d.keptMap d.site.maps := by
  have hbegun := h.aiming.updateMap (fun _ => hbuffer) hsweeps (h.tied hr.tended.tied)
  refine removed_moves ?_ hsweeps (hr.move move).tended hmoves hlasts
  rw [h.move_eq]
  exact hbegun

end Enters.Opens

end Moves

/-! ### All devices -/

/-- Nothing is left of a map that all its slots are taken out of. -/
theorem Discovery.keptMap_beginFlushAll (d : Discovery) : d.beginFlushAll.keptMap = .empty := by
  have hnone : d.beginFlushAll.current.difference d.beginFlushAll.scan.removal = .empty := by
    refine SidMap.ext_contains fun sid => ?_
    have hremoval : d.beginFlushAll.scan.removal = d.beginFlushAll.current := rfl
    rw [SidMap.contains_difference, hremoval, SidMap.contains_empty, Bool.and_not_self]
  unfold keptMap
  rw [hnone]
  exact ite_self _

/-- All devices are to be removed while no such removal is under way.  A session may be running, and
is given up then; a buffer is free, and the calls by which devices are listed, marked and deleted
reach the store.  If only reports of missing slots arrive and timers fire until the session that
begins is over, no mesh device is left, the gateway is if it was there, and every map that was sent
is the empty one. -/
theorem flushAll_purges {settings : Config.Settings} {engine : Engine}
    (hr : Reachable settings engine) (hnone : engine.network.scan.flushingAll = 0)
    (hbuffer : engine.site.hasBuffer) (hsweeps : engine.site.Sweeps) {move : Move}
    (hmove : move.FlushesAll) {moves : List Move} (hmoves : ∀ move ∈ moves, move.Awaited)
    (hlasts : (engine.move move).SessionLasts moves) :
    (∀ id : DeviceId, id.isGateway = false →
      ¬ ((engine.move move).moves moves).site.platform.isRegistered id) ∧
    (engine.site.platform.isRegistered .gateway →
      ((engine.move move).moves moves).site.platform.isRegistered .gateway) ∧
    ∃ n, ((engine.move move).moves moves).site.maps =
      List.replicate n .empty ++ engine.site.maps := by
  let d := engine.discovery.beginFlushAll
  have hedits : engine.site.Edits .routine d.site := engine.discovery.edits_beginFlushAll
  have hsweeps' : d.site.Sweeps := hsweeps.congr hedits.outages
  have hremoved := (Engine.opens_flushAll hr hnone hmove).removed hr
    (engine.discovery.beginFlushAll_hasBuffer.trans hbuffer) hsweeps' hmoves hlasts
  refine ⟨fun id hmesh hid => ?_, fun hgateway => ?_, ?_⟩
  · obtain ⟨hbefore, honline⟩ := (hremoved.isRegistered_iff hsweeps' hmesh).1 hid
    have hregistered : engine.site.platform.isRegistered id :=
      (hedits.store.isRegistered_eq not_false not_false).symm.trans hbefore
    have hoffline := engine.discovery.isOffline_beginFlushAll hsweeps hregistered hmesh
    exact absurd (honline.symm.trans hoffline) Bool.false_ne_true
  · exact Engine.isRegistered_gateway_moves hgateway (move :: moves)
  · obtain ⟨n, hn⟩ := hremoved.maps
    refine ⟨n, hn.trans ?_⟩
    rw [engine.discovery.keptMap_beginFlushAll, engine.discovery.beginFlushAll_maps]
    rfl

/-- A test that is waiting for its first report. -/
def probing : Engine := joined.move (.control (.beginScan true))

theorem reachable_probing : Reachable {} probing := reachable_joined.move _

/-- A report that means nothing, another attempt to send the map, and its confirmation. -/
def twoAttempts : List Move :=
  [reportOf 0x20, .advance (.ofSeconds 30), .expire, .expire, reportOf 0]

theorem awaited_twoAttempts : ∀ move ∈ twoAttempts, move.Awaited := by
  have hreport (slots : UInt8) : (reportOf slots).Awaited := .report rfl
  simp only [twoAttempts, List.forall_mem_cons, List.not_mem_nil, false_implies, implies_true,
    and_true]
  exact ⟨hreport _, .advance _, .expire, .expire, hreport _⟩

/-- The test is given up, and with two attempts to send the empty map all three devices are
removed. -/
theorem flushAll_purges_probing :
    probing.site.meshDevices = [.ofNat 5, .ofNat 6, .ofNat 7] ∧
    (∀ id : DeviceId, id.isGateway = false →
      ¬ ((probing.move (.control .flushAll)).moves twoAttempts).site.platform.isRegistered id) ∧
    ((probing.move (.control .flushAll)).moves twoAttempts).site.platform.isRegistered .gateway ∧
    ((probing.move (.control .flushAll)).moves twoAttempts).site.maps.length =
      probing.site.maps.length + 2 := by
  have hmove : (Move.control .flushAll).FlushesAll := trivial
  have hpurges := flushAll_purges reachable_probing (by decide +kernel) (by decide +kernel)
    (by decide +kernel) hmove awaited_twoAttempts (by decide +kernel)
  exact ⟨by decide +kernel, hpurges.1, hpurges.2.1 (by decide +kernel), by decide +kernel⟩

/-- The removal of all devices that is asked for while the call fails. -/
def flushingWithout (call : Shadow.Call × Option Property) : Engine :=
  (joined.without call).move (.control .flushAll)

/-- None of the calls by which devices are listed, marked and deleted can be spared: if one of them
fails, a mesh device is left. -/
theorem not_purged_of_outage :
    (reportOf 0).Awaited ∧ joined.site.meshDevices = [.ofNat 5, .ofNat 6, .ofNat 7] ∧
    ∀ call ∈ Site.sweepCalls,
      Reachable {} (joined.without call) ∧ (joined.without call).network.scan.flushingAll = 0 ∧
      (joined.without call).site.hasBuffer ∧ (flushingWithout call).SessionLasts [reportOf 0] ∧
      ∃ id : DeviceId, id.isGateway = false ∧
        ((flushingWithout call).moves [reportOf 0]).site.platform.isRegistered id := by
  have hcalls : ∀ call ∈ Site.sweepCalls,
      (joined.without call).network.scan.flushingAll = 0 ∧
      (flushingWithout call).SessionLasts [reportOf 0] ∧
      ((flushingWithout call).moves [reportOf 0]).site.platform.isRegistered (.ofNat 6) := by
    decide +kernel
  have hbuffer : joined.site.hasBuffer = true := by decide +kernel
  refine ⟨.report rfl, by decide +kernel, fun call hcall => ?_⟩
  obtain ⟨hnone, hlasts, hleft⟩ := hcalls call hcall
  rw [without_hasBuffer]
  exact ⟨reachable_joined.move _, hnone, hbuffer, hlasts, .ofNat 6, rfl, hleft⟩

/-! ### One device -/

/-- The removal of a device begins with the report that it is offline, and tells nothing of others,
whether a session was running or not. -/
theorem Discovery.isOffline_beginFlush {d : Discovery} {id other : DeviceId} (h : d.site.Sweeps)
    (hid : d.site.platform.isRegistered id) (hother : other.isGateway = false) (sid : UInt8) :
    (d.beginFlush id sid).site.isOffline other =
      (decide (other = id) || d.site.isOffline other) := by
  have hkeeps : d.site.Keeps Site.watched d.cancelSession.site := keeps_cancelSession
  have hsweeps : d.cancelSession.site.Sweeps := h.congr hkeeps.outages
  have hmem : id ∈ d.cancelSession.site.devices := by
    rw [hkeeps.devices, h.devices_eq]
    exact Shadow.Store.isRegistered_iff.1 hid
  have hreported := Site.reported_report_presence hsweeps hmem Presence.offline.value other
  by_cases hsame : id = other
  · rw [if_pos hsame] at hreported
    rw [decide_eq_true hsame.symm, Bool.true_or]
    exact (Site.isOffline_of_reported hreported).trans rfl
  · rw [if_neg hsame] at hreported
    rw [decide_eq_false fun heq => hsame heq.symm, Bool.false_or]
    exact Site.isOffline_congr
      (hreported.trans (hkeeps.reported other hother .presence (by simp [Site.watched])))

/-- The move asks for the removal of one device. -/
def Move.Flushes (id : DeviceId) : Move → Prop
  | .control (.flush other) => other = id
  | .wish delta => delta.device = id ∧ id.isGateway = false ∧ delta.property = .flushCommand ∧
    delta.value.asBool = some true
  | _ => False

theorem Engine.move_of_flushes {engine : Engine} {move : Move} {id : DeviceId}
    (h : move.Flushes id) : engine.move move = engine.onNetwork fun d => d.flush id := by
  cases move with
  | control operation =>
    cases operation with
    | flush other =>
      obtain rfl : other = id := h
      rfl
    | _ => exact h.elim
  | wish delta =>
    obtain ⟨rfl, hmesh, hproperty, htrue⟩ := h
    show engine.applyDelta delta = _
    unfold applyDelta applyDeviceDelta
    rw [if_neg (ne_true_of_eq_false hmesh), hproperty]
    exact if_pos htrue
  | _ => exact h.elim

/-- A device that reports a slot is to be removed.  A session may be running, and is given up then;
a buffer is free, and the calls by which devices are listed, marked and deleted reach the store.  If
only reports of missing slots arrive and timers fire until the session that begins is over, the mesh
devices that are left are those that were there, but for the device itself and for every other one
that was reported offline already. -/
theorem flush_removes {settings : Config.Settings} {engine : Engine}
    (hr : Reachable settings engine) {id : DeviceId} (hslot : (engine.site.slotOf id).isSome)
    (hbuffer : engine.site.hasBuffer) (hsweeps : engine.site.Sweeps) {move : Move}
    (hmove : move.Flushes id) {moves : List Move} (hmoves : ∀ move ∈ moves, move.Awaited)
    (hlasts : (engine.move move).SessionLasts moves) :
    (∀ other : DeviceId, other.isGateway = false →
      (((engine.move move).moves moves).site.platform.isRegistered other ↔
        engine.site.platform.isRegistered other ∧ other ≠ id ∧
          engine.site.isOffline other = false)) ∧
    (engine.site.platform.isRegistered .gateway →
      ((engine.move move).moves moves).site.platform.isRegistered .gateway) := by
  obtain ⟨sid, hsid⟩ := Option.isSome_iff_exists.1 hslot
  let d := engine.discovery.beginFlush id sid
  have hopens : Enters.Opens engine move d :=
    (Enters.flush (Engine.move_of_flushes hmove) hsid).opens hr.inTime
  have hedits : engine.site.Edits .routine d.site := engine.discovery.edits_beginFlush id sid
  have hsweeps' : d.site.Sweeps := hsweeps.congr hedits.outages
  have hremoved := hopens.removed hr ((engine.discovery.beginFlush_hasBuffer id sid).trans hbuffer)
    hsweeps' hmoves hlasts
  refine ⟨fun other hother => ?_, fun hgateway =>
    Engine.isRegistered_gateway_moves hgateway (move :: moves)⟩
  have hregistered : d.site.platform.isRegistered other = engine.site.platform.isRegistered other :=
    hedits.store.isRegistered_eq not_false not_false
  have hoffline : d.site.isOffline other = (decide (other = id) || engine.site.isOffline other) :=
    engine.discovery.isOffline_beginFlush hsweeps (Site.isRegistered_of_slotOf hsid) hother sid
  refine (hremoved.isRegistered_iff hsweeps' hother).trans ?_
  rw [hregistered, hoffline]
  simp

/-- The engine after a test that deletes nothing.  It found the device at slot 5 missing. -/
def tested : Engine := joined.moves [.control (.beginScan false), reportOf 0]

theorem reachable_tested : Reachable {} tested := reachable_joined.moves _

/-- With the device at slot 7 the one at slot 5 goes, of which nobody asked for that. -/
theorem flush_removes_tested :
    tested.network.phase = .idle ∧ tested.site.platform.isRegistered (.ofNat 5) ∧
    ¬ ((tested.move (.control (.flush (.ofNat 7)))).moves
      twoAttempts).site.platform.isRegistered (.ofNat 7) ∧
    ¬ ((tested.move (.control (.flush (.ofNat 7)))).moves
      twoAttempts).site.platform.isRegistered (.ofNat 5) ∧
    ((tested.move (.control (.flush (.ofNat 7)))).moves
      twoAttempts).site.platform.isRegistered (.ofNat 6) := by
  have hmove : (Move.control (.flush (.ofNat 7))).Flushes (.ofNat 7) := rfl
  have hremoves := (flush_removes reachable_tested (by decide +kernel) (by decide +kernel)
    (by decide +kernel) hmove awaited_twoAttempts (by decide +kernel)).1
  have hoffline : tested.site.isOffline (.ofNat 5) = true := by decide +kernel
  refine ⟨by decide +kernel, by decide +kernel, fun hid => ?_, fun hid => ?_,
    (hremoves (.ofNat 6) rfl).2 (by decide +kernel)⟩
  · exact ((hremoves (.ofNat 7) rfl).1 hid).2.1 rfl
  · exact absurd (((hremoves (.ofNat 5) rfl).1 hid).2.2.symm.trans hoffline) Bool.false_ne_true

end AlarmMesh.Gateway
