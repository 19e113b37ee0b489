import AlarmMesh.Proofs.Gateway.Lasting
import AlarmMesh.Proofs.Gateway.Phases

/-!
# Devices that were left out of a map

A device that an acknowledged SID map leaves out is flagged as missing.  Nothing takes the flag
back: a device that shows itself again is written anew with all that it tells, but not with the
flag.  And a session judges by the flag as much as by what the network reports.  So a device that
was ever left out is reported offline by every session that decides something, and is removed by
the next one that deletes devices.

* `Engine.LeavesOut`, `LeftOutAlong` — a frame, or a frame of a run, leaves the device out;
* `flagged_move`, `flagged_moves` — the flag, after a move and after a run;
* `Engine.Decides` — a report of missing slots that ends probing, `isOffline_markDevices`;
* `Engine.Condemns` — what such a report means for the device;
* `Engine.Remembers`, `remembers` — what all of this says of a reachable engine.
-/

namespace AlarmMesh.Gateway

open Radio (DeviceId Report SidMap)
open Shadow (Property Store Value)

namespace Site

variable {site : Site} {map : SidMap} {id : DeviceId}

/-! ### The flag -/

theorem isFlaggedMissing_of_view {site' : Site} (h : site.Serves) (h' : site'.Serves)
    (hview : site'.view (.missing id) = site.view (.missing id)) :
    site'.isFlaggedMissing id = site.isFlaggedMissing id := by
  have hread {site : Site} (h : site.Serves) :
      site.reported id .missing = site.stored id .missing :=
    reported_eq_stored (h (.getReported, some .missing) (by simp [verdictCalls])) id
  unfold isFlaggedMissing
  rw [hread h, hread h', show site'.stored id .missing = site.stored id .missing from hview]

theorem isFlaggedMissing_of_stored (h : site.Serves)
    (hstored : site.stored id .missing = some (.bool true)) : site.isFlaggedMissing id := by
  unfold isFlaggedMissing
  rw [reported_eq_stored (h (.getReported, some .missing) (by simp [verdictCalls])), hstored]
  rfl

/-- A device that the map leaves out is marked. -/
theorem stored_markUnlessIn (h : site.Tracks id [(.setReported, .missing)])
    (hout : site.isLeftOut map id) :
    (site.markUnlessIn map id).stored id .missing = some (.bool true) := by
  unfold isLeftOut at hout
  unfold markUnlessIn
  cases hslot : site.slotOf id with
  | none => simp [hslot] at hout
  | some sid =>
    have hnot : ¬ map.contains sid := by simpa [hslot] using hout
    have hedits : site.Edits .routine (site.report id .presence Shadow.Presence.offline.value) :=
      edits_report site (.inl rfl) _
    dsimp only
    rw [if_neg hnot]
    exact stored_report (h.edits hedits not_false) _

/-- A mark stays. -/
theorem stored_markUnlessIn_again (h : site.stored id .missing = some (.bool true))
    (other : DeviceId) : (site.markUnlessIn map other).stored id .missing = some (.bool true) := by
  unfold markUnlessIn
  split
  · split
    · exact h
    · refine stored_report_again (Eq.trans ?_ h) other
      exact view_report_of_spares (s := .missing id) (by simp [Subject.Spares]) _
  · exact h

/-- The devices are gone through one by one, and those that the map leaves out are marked. -/
theorem stored_foldl_markUnlessIn {ids : List DeviceId} (hid : id ∈ ids)
    (hmesh : id.isGateway = false) (h : site.Tracks id [(.setReported, .missing)])
    (hout : site.isLeftOut map id) :
    (ids.foldl (markUnlessIn map) site).stored id .missing = some (.bool true) := by
  have hstays {ids : List DeviceId} {site : Site}
      (h : site.stored id .missing = some (.bool true)) :
      (ids.foldl (markUnlessIn map) site).stored id .missing = some (.bool true) := by
    induction ids generalizing site with
    | nil => exact h
    | cons first ids ih => exact ih (stored_markUnlessIn_again h first)
  induction ids generalizing site with
  | nil => exact absurd hid List.not_mem_nil
  | cons first ids ih =>
    by_cases hsame : id = first
    · rw [List.foldl_cons, ← hsame]
      exact hstays (stored_markUnlessIn h hout)
    · have hrest : id ∈ ids := (List.mem_cons.1 hid).resolve_left hsame
      have hedits : site.Edits .routine (site.markUnlessIn map first) :=
        edits_markUnlessIn map site first
      refine ih hrest (h.edits hedits not_false) ?_
      rw [(keeps_markUnlessIn map site first).isLeftOut_eq hmesh]
      exact hout

end Site

/-! ### Runs -/

namespace Engine

/-- The move is a frame that leaves the device out of the SID map. -/
def LeavesOut (id : DeviceId) (engine : Engine) : Move → Prop
  | .receive frame => ∃ map, engine.accepted? frame = some (.sidMapUpdate map) ∧
      engine.site.isLeftOut map id
  | _ => False

/-- Some move of a run leaves the device out. -/
def LeftOutAlong (id : DeviceId) : Engine → List Move → Prop
  | _, [] => False
  | engine, move :: moves => engine.LeavesOut id move ∨ LeftOutAlong id (engine.move move) moves

/-- The flag of the device can be written and read. -/
def Flags (id : DeviceId) (engine : Engine) : Prop :=
  engine.site.Serves ∧ engine.site.Tracks id [(.setReported, .missing)]

instance (id : DeviceId) : DecidablePred (Flags id) := fun engine =>
  inferInstanceAs
    (Decidable (engine.site.Serves ∧ engine.site.Tracks id [(.setReported, .missing)]))

variable {engine : Engine} {move : Move} {moves : List Move} {id : DeviceId}

/-- A device that a frame leaves out is flagged. -/
theorem stored_of_leavesOut (hmesh : id.isGateway = false) (h : engine.Flags id)
    (hout : engine.LeavesOut id move) :
    (engine.move move).site.stored id .missing = some (.bool true) := by
  cases move with
  | receive frame =>
    obtain ⟨map, haccepted, hleft⟩ := hout
    let noted := engine.noted frame (.sidMapUpdate map)
    have hedits : engine.site.Edits .noting noted.site := edits_noted_noting engine _ _
    have hmem : id ∈ noted.site.meshDevices :=
      ((h.1.sweeps.congr hedits.outages).mem_meshDevices_iff hmesh).2
        (h.2.edits hedits not_false).1
    show (engine.receive frame).site.stored id .missing = _
    rw [receive_of_accepted engine haccepted]
    exact Site.stored_foldl_markUnlessIn hmem hmesh
      (tracks_noted h.2 frame _) hleft
  | _ => exact hout.elim

/-- Nothing else touches the flag. -/
theorem leavesOut_of_touches (h : engine.Touches (.missing id) move) :
    engine.LeavesOut id move := by
  cases move with
  | receive frame =>
    obtain ⟨report, haccepted, htouched⟩ := h
    cases report with
    | sidMap => exact Subject.noConfusion htouched.1
    | sidMapUpdate map =>
      obtain ⟨other, -, hof, hleft⟩ := htouched
      obtain rfl : other = id := hof
      exact ⟨map, haccepted, hleft⟩
    | deviceTested identity => simp [TouchedBy, Subject.Spares] at htouched
    | remoteId identity => simp [TouchedBy, Subject.Spares] at htouched
    | _ => exact htouched.elim
  | expire => exact Subject.noConfusion h.2.1
  | desire => exact Subject.noConfusion h.1
  | _ => exact h.elim

/-- A device is flagged after a move if it was before or if the move leaves it out. -/
theorem flagged_move (hsingle : move.Single) (hmesh : id.isGateway = false)
    (h : engine.Flags id) (h' : (engine.move move).Flags id) :
    (engine.move move).site.isFlaggedMissing id ↔
      engine.site.isFlaggedMissing id ∨ engine.LeavesOut id move := by
  by_cases hout : engine.LeavesOut id move
  · have hstored := stored_of_leavesOut hmesh h hout
    simp [hout, Site.isFlaggedMissing_of_stored h'.1 hstored]
  · -- the test reads the flag and does not write it
    have hregistered : (Subject.missing id).Registered (engine.move move).site := by
      rintro other rfl -
      exact h'.2.1
    have hview := view_move (s := .missing id) hsingle
      (fun htouches => hout (leavesOut_of_touches htouches)) (.inl ⟨trivial, hregistered⟩)
    simp [hout, Site.isFlaggedMissing_of_view h.1 h'.1 hview]

/-- A device is flagged after a run if it was before or if some move leaves it out. -/
theorem flagged_moves (hmesh : id.isGateway = false)
    (halong : Along (Flags id) (fun _ move => move.Single) engine moves) :
    (engine.moves moves).site.isFlaggedMissing id ↔
      engine.site.isFlaggedMissing id ∨ LeftOutAlong id engine moves := by
  induction moves generalizing engine with
  | nil => simp [LeftOutAlong]
  | cons move moves ih =>
    obtain ⟨hflags, hsingle, hrest⟩ := halong
    rw [moves_cons, ih hrest, flagged_move hsingle hmesh hflags hrest.head, or_assoc]
    rfl

end Engine

/-! ### Reports that decide -/

/-- A device that some report does not name is offline exactly if it is flagged. -/
theorem Discovery.isOffline_markDevices {d : Discovery} {id : DeviceId} {sid : UInt8}
    (h : d.site.Sweeps) (hid : id ∈ d.site.meshDevices) (hslot : d.site.slotOf id = some sid)
    (hnamed : d.scan.removal.contains sid = false) :
    d.markDevices.site.isOffline id = d.site.isFlaggedMissing id := by
  have hjudged : d.markDevices.site.reported id .presence =
      some (d.site.judge d.scan.removal id).value := by
    refine (Site.reported_foldl_markDevice _ h (fun _ h => h) fun _ => ?_).trans (if_pos hid)
    simp [hslot]
  have hgone : d.site.isGone d.scan.removal id = d.site.isFlaggedMissing id := by
    simp [Site.isGone, hslot, hnamed]
  rw [Site.isOffline_of_reported hjudged, Site.judge, hgone]
  cases d.site.isFlaggedMissing id <;> simp

namespace Engine

variable {engine : Engine} {id : DeviceId} {frame : List UInt8} {map : SidMap} {sid : UInt8}

/-- A report of missing slots with which probing is over. -/
structure Decides (engine : Engine) (frame : List UInt8) (map : SidMap) : Prop where
  decoded : Report.decode frame = .ok (.missingNodes map)
  outstanding : 0 < engine.network.scan.outstanding
  inTime : ¬ engine.discovery.isOverdue
  decided : (engine.discovery.countReport map).isDecided

/-- The devices are judged. -/
def judged (engine : Engine) (frame : List UInt8) (map : SidMap) : Discovery :=
  ((engine.counted frame).discovery.countReport map).markDevices

theorem Decides.move_eq (h : engine.Decides frame map) :
    engine.move (.receive frame) = (engine.judged frame map).updateMap.among engine.incidents := by
  have hcount := (engine.counted frame).discovery.receiveMissing_of_counted map h.outstanding
    h.inTime
  show engine.receive frame = _
  rw [receive_missingNodes engine h.decoded]
  exact congrArg (fun d => Discovery.among d engine.incidents) (hcount.trans (if_pos h.decided))

theorem Decides.endings_eq (h : engine.Decides frame map) :
    engine.endings (.receive frame) = (engine.judged frame map).updateMapEnds := by
  rw [endings_receive_of_missing engine h.decoded]
  exact ((engine.counted frame).discovery.reportEnds_of_counted h.outstanding h.inTime).trans
    (if_pos h.decided)

/-- The device can be judged, and some report does not name its slot. -/
structure Unnamed (id : DeviceId) (map : SidMap) (engine : Engine) : Prop where
  serves : engine.site.Serves
  registered : engine.site.platform.isRegistered id
  mesh : id.isGateway = false
  slot : ∃ sid, engine.site.slotOf id = some sid ∧
    (engine.discovery.countReport map).scan.removal.contains sid = false

theorem edits_judged (engine : Engine) (frame : List UInt8) (map : SidMap) :
    engine.site.Edits .routine (engine.judged frame map).site := by
  have hcounted :
      engine.site.Edits .routine ((engine.counted frame).discovery.countReport map).site :=
    Site.edits_of_platform (Discovery.cancelMissing_platform _)
  exact hcounted.trans (Discovery.edits_markDevices _)

theorem Unnamed.serves_judged (h : Unnamed id map engine) (frame : List UInt8) :
    (engine.judged frame map).site.Serves :=
  h.serves.congr (edits_judged engine frame map).outages

/-- Such a device is judged by its flag. -/
theorem Unnamed.isOffline_judged (h : Unnamed id map engine) (frame : List UInt8) :
    (engine.judged frame map).site.isOffline id = engine.site.isFlaggedMissing id := by
  obtain ⟨sid, hslot, hnamed⟩ := h.slot
  let counted := (engine.counted frame).discovery.countReport map
  have hplatform : counted.site.platform = engine.site.platform :=
    Discovery.cancelMissing_platform _
  have hsweeps : counted.site.Sweeps :=
    h.serves.sweeps.congr (congrArg Shadow.Platform.outages hplatform)
  have hmem : id ∈ counted.site.meshDevices := by
    rw [hsweeps.mem_meshDevices_iff h.mesh, hplatform]
    exact h.registered
  have hslot' : counted.site.slotOf id = some sid := by
    rw [← hslot]
    unfold Site.slotOf
    rw [hplatform]
  have hflag : counted.site.isFlaggedMissing id = engine.site.isFlaggedMissing id := by
    unfold Site.isFlaggedMissing Site.reported
    rw [hplatform]
  exact (Discovery.isOffline_markDevices hsweeps hmem hslot' hnamed).trans hflag

namespace Decides

theorem site_eq (h : engine.Decides frame map) :
    (engine.move (.receive frame)).site = (engine.judged frame map).updateMap.site :=
  congrArg (fun e : Engine => e.site) h.move_eq

theorem serves (h : engine.Decides frame map) (hd : Unnamed id map engine) :
    (engine.move (.receive frame)).site.Serves := by
  refine (hd.serves_judged frame).congr ?_
  rw [h.site_eq]
  exact ((engine.judged frame map).edits_updateMap (covers_sweeping _)).outages

/-- What the report leaves of a device is reported offline if the device is flagged. -/
theorem isOffline (h : engine.Decides frame map) (hd : Unnamed id map engine)
    (hstays : (engine.move (.receive frame)).site.platform.isRegistered id) :
    (engine.move (.receive frame)).site.isOffline id = engine.site.isFlaggedMissing id := by
  have hview : (engine.judged frame map).updateMap.site.view (.presence id) =
      (engine.judged frame map).site.view (.presence id) := by
    refine Discovery.view_updateMap _ (by simp) fun _ other hof _ => ?_
    obtain rfl : other = id := hof
    exact h.site_eq ▸ hstays
  rw [← hd.isOffline_judged frame]
  refine Site.isOffline_congr ?_
  rw [(h.serves hd).sweeps.reported_presence, (hd.serves_judged frame).sweeps.reported_presence,
    h.site_eq]
  exact hview

/-- A session that ends with the report and deletes devices removes the device if it is flagged. -/
theorem removed_iff (h : engine.Decides frame map) (hd : Unnamed id map engine) {e : Discovery}
    (he : e ∈ engine.endings (.receive frame)) (hdeletes : e.deletesAtEnd) :
    ¬ (engine.move (.receive frame)).site.platform.isRegistered id ↔
      engine.site.isFlaggedMissing id := by
  have hsame {e : Discovery} (he : e ∈ engine.endings (.receive frame)) :
      e.site.isOffline id = engine.site.isFlaggedMissing id := by
    rw [h.endings_eq] at he
    have hplatform := (engine.judged frame map).platform_of_mem_updateMapEnds he
    rw [← hd.isOffline_judged frame]
    exact Site.isOffline_congr (by unfold Site.reported; rw [hplatform])
  have hsingle : (Move.receive frame).Single := trivial
  rw [Engine.removed_iff hsingle (h.serves hd).sweeps hd.registered hd.mesh]
  constructor
  · rintro ⟨e', he', -, hoffline⟩
    exact hsame he' ▸ hoffline
  · exact fun hoffline => ⟨e, he, hdeletes, (hsame he).trans hoffline⟩

/-- A session that goes on after the report is in its second phase. -/
theorem updating {settings : Config.Settings} (h : engine.Decides frame map)
    (hr : Reachable settings engine) (hactive : engine.network.scan.active)
    (hends : engine.endings (.receive frame) = []) :
    (engine.move (.receive frame)).Updating := by
  let judged := engine.judged frame map
  have hgoes : judged.GoesOn judged.updateMap := Discovery.goesOn_of_ends (h.endings_eq ▸ hends)
  have hunsent : judged.scan.updateCount = 0 := by
    by_contra hsent
    have hnone : engine.network.scan.outstanding = 0 :=
      (hr.orderly (Nat.pos_of_ne_zero hsent)).1
    exact absurd h.outstanding (by omega)
  have htied : (judged.among engine.incidents).Tied :=
    (((engine.counted frame).discovery.testStep_countReport map).trans
      (Discovery.testStep_markDevices _)).tied _
        ((beside_counted engine frame).toAside.tied hr.tended.tied)
  rw [h.move_eq]
  refine ⟨?_, ?_, hgoes.awaits _ htied⟩
  · show judged.updateMap.scan.active = true
    rw [hgoes.scan]
    exact hactive
  · show judged.updateMap.scan.outstanding = 0
    rw [hgoes.scan]
    exact if_pos hunsent

end Decides

/-- What a report that decides means for a device, given whether it counts as missing. -/
structure Condemns (id : DeviceId) (missing : Prop) (engine : Engine) (frame : List UInt8) :
    Prop where
  /-- If the device is still there afterwards, it is reported offline if it counts as missing. -/
  offline : (engine.move (.receive frame)).site.platform.isRegistered id →
    ((engine.move (.receive frame)).site.isOffline id ↔ missing)
  /-- If a session ends with the report that deletes devices, the device is removed if it counts as
  missing. -/
  atOnce : ∀ e ∈ engine.endings (.receive frame), e.deletesAtEnd →
    (¬ (engine.move (.receive frame)).site.platform.isRegistered id ↔ missing)
  /-- So it is if the session ends later and deletes devices then, unless a frame tells otherwise
  of the device meanwhile. -/
  later : engine.network.scan.active → engine.endings (.receive frame) = [] → ∀ moves,
    Along (fun e => e.site.Serves) (Quiet id) (engine.move (.receive frame)) moves →
    ∀ last : Move, last.Unasked →
      (((engine.move (.receive frame)).moves moves).move last).site.Serves →
      ∀ e ∈ ((engine.move (.receive frame)).moves moves).endings last, e.deletesAtEnd →
        (¬ (((engine.move (.receive frame)).moves moves).move last).site.platform.isRegistered id ↔
          missing)

theorem condemns {settings : Config.Settings} (hr : Reachable settings engine)
    (h : engine.Decides frame map) (hd : Unnamed id map engine) :
    Condemns id (engine.site.isFlaggedMissing id) engine frame where
  offline hstays := by rw [h.isOffline hd hstays]
  atOnce _ he hdeletes := h.removed_iff hd he hdeletes
  later hactive hends moves halong last hlast hserves e he hdeletes := by
    have hsingle : (Move.receive frame).Single := trivial
    have hstays := isRegistered_of_goesOn hsingle hends hd.registered
    have hforetold : Foretold id (engine.site.isFlaggedMissing id) (engine.move (.receive frame)) :=
      { tended := (hr.move _).tended
        updating := h.updating hr hactive hends
        registered := hstays
        isOffline := h.isOffline hd hstays }
    exact (foretold_moves hforetold halong).removed_iff hlast hserves hd.mesh he hdeletes

/-- What an engine makes of a device that was left out of a SID map. -/
structure Remembers (id : DeviceId) (engine : Engine) : Prop where
  /-- After a run the device is flagged as missing if it was before or if some map left it out.
  Nothing takes the flag back. -/
  flagged : ∀ moves, Along (Flags id) (fun _ move => move.Single) engine moves →
    ((engine.moves moves).site.isFlaggedMissing id ↔
      engine.site.isFlaggedMissing id ∨ LeftOutAlong id engine moves)
  /-- A session that then decides, and for which not every report names the slot of the device,
  takes it for missing just because of that. -/
  judged : ∀ moves, Along (Flags id) (fun _ move => move.Single) engine moves →
    ∀ frame map, (engine.moves moves).Decides frame map → Unnamed id map (engine.moves moves) →
      Condemns id (engine.site.isFlaggedMissing id ∨ LeftOutAlong id engine moves)
        (engine.moves moves) frame

end Engine

/-- Every reachable engine remembers the devices that were left out. -/
theorem remembers {settings : Config.Settings} {engine : Engine} (h : Reachable settings engine)
    {id : DeviceId} (hmesh : id.isGateway = false) : engine.Remembers id where
  flagged _ halong := Engine.flagged_moves hmesh halong
  judged moves halong _ _ hdecides hunnamed := by
    rw [← Engine.flagged_moves hmesh halong]
    exact Engine.condemns (h.moves moves) hdecides hunnamed

/-- A map that leaves the device at slot 6 out. -/
def mapWithout6 : List UInt8 := [0xd4, 4, 0xa1, 0, 0, 0, 0, 0, 0, 0]

/-- What this device sends when it was tested. -/
def testedAt6 : List UInt8 := [0x70, 6, 0, 0, 0x81, 0, 0x11, 3, 6, 1]

/-- The device is left out, shows itself again at its slot, and then a test is asked for. -/
def returning : List Move :=
  [.receive mapWithout6, .receive testedAt6, .control (.beginScan true)]

/-- The test finds no slot missing, and yet the device is removed. -/
theorem remembers_returning :
    joined.site.isFlaggedMissing (.ofNat 6) = false ∧
    ((joined.move (.receive mapWithout6)).accepted? testedAt6).isSome ∧
    (joined.moves returning).network.current.contains 6 ∧
    (joined.moves returning).site.platform.isRegistered (.ofNat 6) ∧
    ¬ ((joined.moves returning).move (.receive emptyReport)).site.platform.isRegistered
      (.ofNat 6) := by
  have halong : Engine.Along (Engine.Flags (.ofNat 6)) (fun _ move => move.Single) joined
      returning := by decide +kernel
  have hdecides : (joined.moves returning).Decides emptyReport .empty :=
    ⟨decode_emptyReport, by decide +kernel, by decide +kernel, by decide +kernel⟩
  have hhere : (joined.moves returning).site.platform.isRegistered (.ofNat 6) := by decide +kernel
  have hunnamed : Engine.Unnamed (.ofNat 6) .empty (joined.moves returning) :=
    ⟨by decide +kernel, hhere, rfl, 6, by decide +kernel, by decide +kernel⟩
  have hleft : Engine.LeftOutAlong (.ofNat 6) joined returning :=
    .inl ⟨⟨0xa1⟩, by decide +kernel, by decide +kernel⟩
  obtain ⟨e, he, hdeletes⟩ : ∃ e ∈ (joined.moves returning).endings (.receive emptyReport),
      e.deletesAtEnd := by decide +kernel
  have hremembers : joined.Remembers (.ofNat 6) := remembers reachable_joined rfl
  have hcondemns := hremembers.judged returning halong emptyReport .empty hdecides hunnamed
  exact ⟨by decide +kernel, by decide +kernel, by decide +kernel, hhere,
    (hcondemns.atOnce e he hdeletes).2 (.inr hleft)⟩

end AlarmMesh.Gateway
