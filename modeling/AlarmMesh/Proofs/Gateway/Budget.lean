import AlarmMesh.Proofs.Gateway.Questions
import AlarmMesh.Proofs.Radio.SlotCount

/-!
# How often a slot is asked

Every question to a slot is counted before it is sent, and no slot is asked once its count has
reached the limit.  The count is forgotten only where the interrogation comes past a slot that is
not occupied.  A slot that is in every SID map keeps its count, so it is asked no more often than
that, however often the interrogation begins, ends and begins again.

* `Interrogation.Walk`, `walk_next` — what the look for the next slot does to the counts;
* `Discovery.Budget` — the counts against the limit, and against the questions to one slot;
* `Budget.continueInterrogation`, `Budget.receiveSidMap`, … — what counts or asks keeps that;
* `Engine.budget_moves`, `questions_within_budget` — so does every move, and so every run.
-/

namespace AlarmMesh.Gateway

open Radio (Identity Report SidMap)

/-! ### The look for the next slot -/

/-- What the look for the next slot does to the counts: that of the slot that was found goes up, and
those of other occupied slots stay. -/
structure Interrogation.Walk (occupied : UInt8 → Bool) (most : Nat) (before : Interrogation)
    (found : Option UInt8) (after : Interrogation) : Prop where
  active : after.active = before.active
  size : after.attempts.length = before.attempts.length
  cursor : before.cursor.toNat < 64 → after.cursor.toNat < 64
  most : (∀ n ∈ before.attempts, n ≤ most) → ∀ n ∈ after.attempts, n ≤ most
  counts : ∀ sid, occupied sid → sid.toNat < before.attempts.length →
    after.attempts.getD sid.toNat 0 =
      before.attempts.getD sid.toNat 0 + if found = some sid then 1 else 0

namespace Interrogation

variable {occupied eligible : UInt8 → Bool} {most : Nat} {before between after : Interrogation}
  {found : Option UInt8}

theorem getD_set_ne {counts : List Nat} {sid other : UInt8} (h : sid ≠ other) (n : Nat) :
    (counts.set sid.toNat n).getD other.toNat 0 = counts.getD other.toNat 0 := by
  have hne : sid.toNat ≠ other.toNat := fun heq => h (UInt8.toNat_inj.1 heq)
  rw [List.getD_eq_getElem?_getD, List.getD_eq_getElem?_getD, List.getElem?_set_ne hne]

theorem getD_set_self {counts : List Nat} {sid : UInt8} (h : sid.toNat < counts.length) (n : Nat) :
    (counts.set sid.toNat n).getD sid.toNat 0 = n := by
  rw [List.getD_eq_getElem?_getD, List.getElem?_set_self h]
  rfl

theorem le_of_mem_set {counts : List Nat} {place n : Nat} (h : ∀ m ∈ counts, m ≤ most)
    (hn : n ≤ most) : ∀ m ∈ counts.set place n, m ≤ most := by
  intro m hm
  rcases List.mem_or_eq_of_mem_set hm with hm | rfl
  · exact h m hm
  · exact hn

/-- The cursor goes around the ring. -/
theorem lt_of_moved (sid : UInt8) : ((sid + 1) % 64).toNat < 64 := by
  rw [UInt8.toNat_mod]
  exact Nat.mod_lt _ (by decide)

/-- A slot that is not occupied loses its count. -/
theorem Walk.skip (h : between.Walk occupied most found after) {sid : UInt8}
    (hsid : occupied sid = false) (hactive : between.active = before.active)
    (hcursor : between.cursor.toNat < 64)
    (hcounts : between.attempts = before.attempts.set sid.toNat 0) :
    before.Walk occupied most found after where
  active := h.active.trans hactive
  size := by rw [h.size, hcounts, List.length_set]
  cursor _ := h.cursor hcursor
  most hle := h.most (hcounts ▸ le_of_mem_set hle (Nat.zero_le _))
  counts other hother hlt := by
    have hne : sid ≠ other := by
      rintro rfl
      rw [hsid] at hother
      cases hother
    rw [h.counts other hother (by rwa [hcounts, List.length_set]), hcounts, getD_set_ne hne]

theorem walk_next (slots : Nat) (before : Interrogation) :
    before.Walk occupied most (next eligible occupied most slots before).1
      (next eligible occupied most slots before).2 := by
  fun_induction next eligible occupied most slots before with
  | case1 before => exact ⟨rfl, rfl, id, id, by simp⟩
  | case2 slots before sid moved hfree ih =>
    exact ih.skip (by simpa using hfree) rfl (lt_of_moved _) rfl
  | case3 slots before sid asked moved hoccupied hask =>
    have hasked : asked < most := by simp_all
    refine ⟨rfl, List.length_set, fun _ => lt_of_moved sid,
      fun hle => le_of_mem_set hle hasked, ?_⟩
    intro other _ hlt
    by_cases heq : sid = other
    · subst heq
      rw [getD_set_self hlt, if_pos rfl]
    · rw [getD_set_ne heq, if_neg (by simpa using heq)]
      rfl
  | case4 slots before sid asked moved hoccupied hskip ih =>
    exact ⟨ih.active, ih.size, fun _ => ih.cursor (lt_of_moved _), ih.most, ih.counts⟩

end Interrogation

/-! ### Counts and questions -/

/-- The next slot to look at is one of the ring, no count is beyond the limit, and if the slot is
kept in every map, its count covers the questions to it. -/
structure Discovery.Budget (kept : Prop) (sid : UInt8) (d : Discovery) : Prop where
  cursor : d.interrogation.cursor.toNat < Radio.slotCount
  size : d.interrogation.attempts.length = Radio.slotCount
  most : ∀ n ∈ d.interrogation.attempts, n ≤ d.settings.maxInterrogations.toNat
  covers : kept → d.site.asked.count sid ≤ d.interrogation.attempts.getD sid.toNat 0
  /-- The slot is looked at as an occupied one. -/
  occupied : kept → d.interrogation.active → d.current.contains sid

namespace Discovery

theorem settings_receiveIdentity (d : Discovery) (identity : Identity)
    (presence : Shadow.Presence) (real : Bool) :
    (d.receiveIdentity identity presence real).settings = d.settings := by
  have hcount : d.countKnown.settings = d.settings := by
    unfold countKnown
    split <;> rfl
  unfold receiveIdentity register
  split
  · rfl
  split
  · dsimp only
    split <;> exact hcount
  split <;> rfl

/-- A test that is asked for ends the interrogation, and the counts stay. -/
theorem startTest_suspends (d : Discovery) :
    d.startTest.interrogation = { d.interrogation with active := false } ∧
      d.startTest.settings = d.settings := by
  have hsuspended : d.suspendInterrogation.clearTestResult.interrogation =
      { d.interrogation with active := false } ∧
      d.suspendInterrogation.clearTestResult.settings = d.settings := by
    unfold suspendInterrogation
    split <;> exact ⟨rfl, rfl⟩
  unfold startTest
  dsimp only
  split
  · have hstep := (testStep_cancelMissing d.suspendInterrogation.clearTestResult).trans
      (testStep_beginSession _)
    exact ⟨hstep.interrogation.trans hsuspended.1,
      (congrArg (fun network => network.settings) hstep.network).trans hsuspended.2⟩
  · exact hsuspended

end Discovery

namespace Discovery.Budget

variable {kept : Prop} {sid : UInt8} {d d' : Discovery}

/-- What neither counts nor asks. -/
theorem of_same (h : d.Budget kept sid) (hsettings : d'.settings = d.settings)
    (hcursor : d'.interrogation.cursor = d.interrogation.cursor ∨ d'.interrogation.cursor = 0)
    (hattempts : d'.interrogation.attempts = d.interrogation.attempts)
    (hoccupied : kept → d'.interrogation.active → d'.current.contains sid)
    (hasked : d'.site.asked = d.site.asked) : d'.Budget kept sid where
  cursor := by
    obtain hsame | hzero := hcursor
    · exact hsame ▸ h.cursor
    · rw [hzero]
      decide
  size := hattempts ▸ h.size
  most := by
    rw [hattempts, hsettings]
    exact h.most
  covers hkept := by
    rw [hattempts, hasked]
    exact h.covers hkept
  occupied := hoccupied

/-- The kept slot is asked no more often than its count says. -/
theorem count_le (h : d.Budget kept sid) (hkept : kept) :
    d.site.asked.count sid ≤ d.settings.maxInterrogations.toNat := by
  refine Nat.le_trans (h.covers hkept) ?_
  rw [List.getD_eq_getElem?_getD]
  cases hcount : d.interrogation.attempts[sid.toNat]? with
  | none => exact Nat.zero_le _
  | some n => exact h.most n (List.mem_of_getElem? hcount)

/-- A question is counted first. -/
theorem continueInterrogation (h : d.Budget kept sid) :
    d.continueInterrogation.Budget kept sid := by
  by_cases hactive : d.interrogation.active
  · have hwalk : d.interrogation.Walk d.current.contains d.settings.maxInterrogations.toNat
        d.nextUnknown.1 d.nextUnknown.2 := Interrogation.walk_next _ _
    have hattempts : d.continueInterrogation.interrogation.attempts =
        d.nextUnknown.2.attempts := by
      unfold Discovery.continueInterrogation
      rw [if_pos hactive]
      dsimp only
      split <;> rfl
    have hsettings : d.continueInterrogation.settings = d.settings := by
      unfold Discovery.continueInterrogation
      rw [if_pos hactive]
      dsimp only
      split <;> rfl
    have hcursor : d.continueInterrogation.interrogation.cursor = d.nextUnknown.2.cursor := by
      unfold Discovery.continueInterrogation
      rw [if_pos hactive]
      dsimp only
      split <;> rfl
    refine ⟨?_, ?_, ?_, fun hkept => ?_, fun hkept _ => ?_⟩
    · rw [hcursor]
      exact hwalk.cursor h.cursor
    · rw [hattempts, hwalk.size]
      exact h.size
    · rw [hattempts, hsettings]
      exact hwalk.most h.most
    · have hcontains := h.occupied hkept hactive
      have hquestion : d.nextQuestion.toList.count sid ≤
          if d.nextUnknown.1 = some sid then 1 else 0 := by
        unfold nextQuestion
        rw [hactive]
        cases d.site.hasBuffer with
        | false => exact Nat.zero_le _
        | true => cases d.nextUnknown.1 <;> simp [List.count_singleton]
      have hcounts := hwalk.counts sid hcontains (h.size ▸ SidMap.lt_of_contains hcontains)
      have hcovers := h.covers hkept
      rw [asked_continueInterrogation, List.count_append, hattempts, hcounts]
      omega
    · rw [current_continueInterrogation]
      exact h.occupied hkept hactive
  · rw [continueInterrogation_of_inactive d (eq_false_of_ne_true hactive)]
    exact h

/-- The interrogation begins and ends, and nothing is forgotten. -/
theorem checkInterrogation (h : d.Budget kept sid) (hcontains : kept → d.current.contains sid) :
    d.checkInterrogation.Budget kept sid := by
  unfold Discovery.checkInterrogation
  split
  · exact h
  split
  · split
    · exact h
    · refine continueInterrogation
        (h.of_same rfl (.inr rfl) rfl (fun hkept _ => hcontains hkept) ?_)
      exact view_setInterrogating (s := .questions) _ true
  split
  · refine h.of_same rfl (.inl rfl) rfl (fun hkept _ => hcontains hkept) ?_
    exact (view_setInterrogating (s := .questions) _ false).trans (view_cancelInterrogate d)
  · exact h

theorem receiveSidMap (h : d.Budget kept sid) {map : SidMap}
    (hcontains : kept → map.contains sid) : (d.receiveSidMap map).Budget kept sid := by
  let joined := { d with inNetwork := map.inNetwork }.report .inNetwork (.bool map.inNetwork)
  have hasked : (joined.requestDiagnostics.setUnknown
      ((map.difference d.site.knownSids).count - 1)).site.asked = d.site.asked :=
    (view_setUnknown (s := .questions) _ _).trans ((view_requestDiagnostics joined).trans
      (view_report { d with inNetwork := map.inNetwork } rfl _))
  have hnetwork : joined.requestDiagnostics.interrogation = d.interrogation ∧
      joined.requestDiagnostics.settings = d.settings := by
    unfold requestDiagnostics
    split
    · rw [send_eq]
      cases joined.site.hasBuffer <;> exact ⟨rfl, rfl⟩
    · exact ⟨rfl, rfl⟩
  refine checkInterrogation (h.of_same hnetwork.2
    (.inl (congrArg Interrogation.cursor hnetwork.1)) (congrArg Interrogation.attempts hnetwork.1)
    (fun hkept _ => hcontains hkept) hasked) hcontains

theorem receiveRemoteId (h : d.Budget kept sid) (identity : Identity) :
    (d.receiveRemoteId identity).Budget kept sid := by
  have hsame := d.interrogation_receiveIdentity identity .online false
  have hcurrent := d.current_receiveIdentity identity .online false
  have htold : (d.receiveIdentity identity .online false).Budget kept sid := by
    refine h.of_same ?_ (.inl (congrArg Interrogation.cursor hsame))
      (congrArg Interrogation.attempts hsame) (fun hkept hactive => ?_)
      (view_receiveIdentity (s := .questions) d identity .online false trivial)
    · exact settings_receiveIdentity d identity .online false
    · rw [hcurrent]
      rw [hsame] at hactive
      exact h.occupied hkept hactive
  unfold Discovery.receiveRemoteId
  dsimp only
  split
  · refine continueInterrogation (htold.of_same rfl (.inl rfl) rfl htold.occupied ?_)
    exact view_cancelInterrogate (s := .questions) _
  · exact htold

theorem requestTest (h : d.Budget kept sid) (delete : Bool) :
    (d.setTestMode true delete).Budget kept sid := by
  let chosen : Discovery := { d with scan := { d.scan with delete := delete } }
  have hchosen : chosen.Budget kept sid := h.of_same rfl (.inl rfl) rfl h.occupied rfl
  by_cases hactive : d.scan.active
  · rw [setTestMode_of_active d hactive delete]
    exact hchosen
  · obtain ⟨hinterrogation, hsettings⟩ := startTest_suspends chosen
    rw [setTestMode_of_waiting d (eq_false_of_ne_true hactive) delete]
    refine hchosen.of_same hsettings (.inl (by rw [hinterrogation])) (by rw [hinterrogation]) ?_
      (view_startTest (s := .questions) chosen)
    intro _ hon
    rw [hinterrogation] at hon
    cases hon

end Discovery.Budget

/-! ### Moves -/

/-- A SID map that the move tells has the slot. -/
def Move.Keeps (sid : UInt8) : Move → Prop
  | .receive frame => ∀ map, Report.decode frame = .ok (.sidMap map) → map.contains sid
  | _ => True

namespace Engine

variable {engine : Engine} {move : Move} {kept : Prop} {sid : UInt8}

theorem keeps_of_mem_singles {single : Move} (h : move.Keeps sid)
    (hmem : single ∈ engine.singles move) : single.Keeps sid := by
  have hself (hmem : single ∈ [move]) : single.Keeps sid := List.mem_singleton.1 hmem ▸ h
  cases move with
  | fireDue =>
    rw [List.eq_of_mem_replicate hmem]
    exact trivial
  | control operation =>
    cases operation with
    | deltas changes =>
      obtain ⟨delta, -, rfl⟩ := List.mem_map.1 hmem
      exact trivial
    | _ => exact hself hmem
  | _ => exact hself hmem

/-- Only a SID map changes the current one. -/
theorem current_move (h : move.tellsMap = false) :
    (engine.move move).network.current = engine.network.current := by
  have hcalm := engine.calm_move h
  generalize engine.move move = after at hcalm
  induction hcalm with
  | refl => rfl
  | tail _ hlast ih => exact hlast.2.trans ih

theorem settings_move (engine : Engine) (move : Move) :
    (engine.move move).network.settings = engine.network.settings := by
  exact Turn.induct (P := fun e => e.network.settings = engine.network.settings)
    (fun ha ht => ht.settings_eq.trans ha) (engine.turns_move move) rfl

/-- A frame that tells the SID map. -/
theorem budget_sidMap (h : engine.discovery.Budget kept sid) {frame : List UInt8} {map : SidMap}
    (hframe : Report.decode frame = .ok (.sidMap map)) (hcontains : kept → map.contains sid) :
    (engine.receive frame).discovery.Budget kept sid := by
  have hcounted : (engine.counted frame).discovery.Budget kept sid :=
    h.of_same rfl (.inl rfl) rfl h.occupied (Site.view_count (s := .questions) _ _)
  rw [receive_sidMap engine hframe]
  exact hcounted.receiveSidMap hcontains

/-- What goes on with the interrogation. -/
theorem budget_of_touches (h : engine.discovery.Budget kept sid) (hquiet : move.tellsMap = false)
    (htouches : engine.Touches .questions move) :
    (engine.move move).discovery.Budget kept sid := by
  cases move with
  | receive frame =>
    obtain ⟨report, haccepted, htouched⟩ := htouches
    have hnetwork : (engine.noted frame report).network = engine.network :=
      network_noted frame report
    have hnoted : (engine.noted frame report).discovery.Budget kept sid := by
      refine h.of_same (congrArg Network.settings hnetwork)
        (.inl (congrArg (fun network => network.interrogation.cursor) hnetwork))
        (congrArg (fun network => network.interrogation.attempts) hnetwork) ?_
        (view_noted (s := .questions) engine frame report)
      intro hkept hactive
      have hsame : (engine.noted frame report).discovery.toNetwork = engine.network := hnetwork
      rw [hsame] at hactive ⊢
      exact h.occupied hkept hactive
    show (engine.receive frame).discovery.Budget kept sid
    rw [receive_of_accepted engine haccepted]
    cases report with
    | sidMap map =>
      exact absurd (engine.decode_of_accepted haccepted)
        (Move.decode_ne_of_not_tellsMap hquiet map)
    | remoteId identity => exact hnoted.receiveRemoteId identity
    | sidMapUpdate => obtain ⟨id, -, hof, -⟩ := htouched; exact hof.elim
    | deviceTested => exact absurd trivial htouched
    | _ => exact htouched.elim
  | expire =>
    obtain ⟨hdue, -, -⟩ := htouches
    cases hpop : engine.popDue with
    | mk popped rest =>
      obtain rfl : popped = some .interrogate := by rw [← hdue, hpop]
      obtain rfl : rest = engine.popDue.2 := by rw [hpop]
      show engine.expire.discovery.Budget kept sid
      rw [expire_of_some hpop]
      have hfound : Discovery.Budget kept sid
          { engine.popDue.2.discovery with interrogateTimer := none } :=
        h.of_same rfl (.inl rfl) rfl h.occupied rfl
      exact hfound.continueInterrogation
  | desire => exact Subject.noConfusion htouches.1
  | _ => exact htouches.elim

theorem budget_request (h : engine.discovery.Budget kept sid) (hrequest : move.RequestsTest) :
    (engine.move move).discovery.Budget kept sid := by
  cases move with
  | control operation =>
    cases operation with
    | beginScan delete => exact h.requestTest delete
    | _ => exact hrequest.elim
  | wish delta =>
    rw [move_wish_of_request hrequest]
    unfold wishTest
    split
    · exact h
    · next delete _ =>
      have hreported : (engine.report .mode Shadow.Mode.testMode.value).discovery.Budget kept sid :=
        h.of_same rfl (.inl rfl) rfl h.occupied (view_report (s := .questions) engine rfl _)
      have hasked := hreported.requestTest delete
      refine hasked.of_same rfl (.inl rfl) rfl hasked.occupied ?_
      exact (view_report (s := .questions) _ rfl _).trans (view_report (s := .questions) _ rfl _)
  | _ => exact hrequest.elim

/-- A move keeps the account, if the SID map that it tells has the slot. -/
theorem budget_single (h : engine.discovery.Budget kept sid) (hsingle : move.Single)
    (hkeeps : kept → move.Keeps sid) : (engine.move move).discovery.Budget kept sid := by
  cases htells : move.tellsMap with
  | true =>
    cases move with
    | receive frame =>
      unfold Move.tellsMap at htells
      dsimp only at htells
      split at htells
      · next map hframe => exact budget_sidMap h hframe fun hkept => hkeeps hkept map hframe
      · cases htells
    | _ => cases htells
  | false =>
    by_cases htouches : engine.Touches .questions move
    · exact budget_of_touches h htells htouches
    by_cases hrequest : move.RequestsTest
    · exact budget_request h hrequest
    have hsame := interrogation_move hsingle hrequest htouches
    refine h.of_same (settings_move engine move) (.inl (congrArg Interrogation.cursor hsame))
      (congrArg Interrogation.attempts hsame) ?_
      (asked_of_not_touches hsingle htouches)
    intro hkept hactive
    have hon : (engine.move move).network.interrogation.active := hactive
    rw [hsame] at hon
    show (engine.move move).network.current.contains sid
    rw [current_move htells]
    exact h.occupied hkept hon

theorem budget_moves {moves : List Move} (h : engine.discovery.Budget kept sid)
    (hkeeps : kept → ∀ move ∈ moves, move.Keeps sid) :
    (engine.moves moves).discovery.Budget kept sid := by
  have hsingles {engine : Engine} {moves : List Move} (h : engine.discovery.Budget kept sid)
      (hmoves : ∀ move ∈ moves, move.Single ∧ (kept → move.Keeps sid)) :
      (engine.moves moves).discovery.Budget kept sid := by
    induction moves generalizing engine with
    | nil => exact h
    | cons move moves ih =>
      obtain ⟨⟨hsingle, hkeep⟩, hrest⟩ := List.forall_mem_cons.1 hmoves
      exact ih (budget_single h hsingle hkeep) hrest
  induction moves generalizing engine with
  | nil => exact h
  | cons move moves ih =>
    refine ih ?_ fun hkept other hother => hkeeps hkept other (List.mem_cons_of_mem _ hother)
    rw [← moves_singles]
    refine hsingles h fun single hmem => ⟨single_of_mem_singles engine hmem, fun hkept => ?_⟩
    exact keeps_of_mem_singles (hkeeps hkept move List.mem_cons_self) hmem

theorem view_registerGateway (site : Site) :
    (registerGateway site).view .questions = site.view .questions := by
  unfold registerGateway
  split
  · rfl
  · unfold Site.after
    split <;> rfl

/-- A report asks nobody. -/
theorem view_reported (site : Site) (id : Radio.DeviceId) (property : Shadow.Property)
    (value : Shadow.Value) :
    (site.report id property value).view .questions = site.view .questions :=
  Site.view_report_of_spares (s := .questions) trivial value

theorem view_reportInitial (site : Site) (entry : Shadow.Property × Shadow.Value) :
    (reportInitial site entry).view .questions = site.view .questions := by
  unfold reportInitial
  split
  · exact view_reported _ _ _ _
  · rfl

theorem view_greeted (site : Site) :
    (greeted site).view .questions = site.view .questions := by
  unfold greeted
  rw [Site.view_foldl fun site property _ => Site.view_subscribe site .gateway property,
    view_reported,
    Site.view_foldl fun site entry _ => view_reportInitial site entry, view_registerGateway]

end Engine

theorem Discovery.view_start (d : Discovery) :
    d.start.site.view .questions = d.site.view .questions := by
  have hinit : d.start.site.view .questions = d.waiting.site.view .questions :=
    Site.view_foldl (fun site id _ => Site.view_initDevice site id) _
  have hwaiting : d.waiting.site.view .questions = d.unstarted.site.view .questions :=
    (view_restartMissing _ _ _).trans (view_restartRefresh _ _)
  have hunstarted : d.unstarted.site.view .questions = d.site.view .questions :=
    (Engine.view_reported _ _ _ _).trans (Engine.view_reported _ _ _ _)
  rw [hinit, hwaiting, hunstarted]

namespace Engine

variable {kept : Prop} {sid : UInt8}

/-- At the start nothing is counted and nobody was asked. -/
theorem budget_start (settings : Config.DiscoverySettings) {site : Site}
    (hasked : site.view .questions = []) :
    (Discovery.start { toNetwork := { settings := settings }, site := site }).Budget kept sid := by
  have hbefore : Discovery.Budget kept sid
      { toNetwork := { settings := settings }, site := site } := by
    have hzero : (0 : UInt8).toNat < Radio.slotCount := by decide
    refine ⟨hzero, List.length_replicate, ?_, fun _ => ?_, nofun⟩
    · intro n hn
      have hzero : n ∈ List.replicate Radio.slotCount 0 := hn
      rw [List.eq_of_mem_replicate hzero]
      exact Nat.zero_le _
    · have hnobody : site.asked = [] := hasked
      rw [hnobody]
      exact Nat.zero_le _
  exact hbefore.of_same rfl (.inl rfl) rfl nofun (Discovery.view_start _)

theorem budget_started (settings : Config.Settings) (platform : Shadow.Platform)
    (pool : Link.Pool) (clock : Clock) (contention : List Bool) :
    (started settings platform pool clock contention).discovery.Budget kept sid := by
  unfold started
  rw [start_eq, discovery_among]
  exact budget_start settings.discovery (view_greeted _)

end Engine

/-- The slot that is looked at next is one of the ring. -/
theorem Reachable.cursor_lt {settings : Config.Settings} {engine : Engine}
    (h : Reachable settings engine) : engine.network.interrogation.cursor.toNat < 64 := by
  have hbudget : engine.discovery.Budget False 0 := by
    induction h with
    | start platform pool clock contention =>
      exact Engine.budget_started settings platform pool clock contention
    | @move engine move _ ih =>
      have hmoved : (engine.moves [move]).discovery.Budget False 0 := Engine.budget_moves ih nofun
      exact hmoved
  exact hbudget.cursor

/-- From the start on, no count passes the limit, and a slot that is in every SID map is asked no
more often than that. -/
theorem questions_within_budget (settings : Config.Settings) (platform : Shadow.Platform)
    (pool : Link.Pool) (clock : Clock) (contention : List Bool) (moves : List Move) :
    let engine := (Engine.started settings platform pool clock contention).moves moves
    (∀ n ∈ engine.network.interrogation.attempts,
      n ≤ settings.discovery.maxInterrogations.toNat) ∧
    ∀ sid : UInt8, (∀ move ∈ moves, move.Keeps sid) →
      engine.site.asked.count sid ≤ settings.discovery.maxInterrogations.toNat := by
  intro engine
  have hreachable : Reachable settings engine :=
    (Reachable.start platform pool clock contention).moves moves
  have hengine : engine.discovery.settings = settings.discovery := hreachable.settings_eq
  constructor
  · have hbudget : engine.discovery.Budget False 0 :=
      Engine.budget_moves (Engine.budget_started settings platform pool clock contention) nofun
    rw [← hengine]
    exact hbudget.most
  · intro sid hkeeps
    have hbudget : engine.discovery.Budget True sid :=
      Engine.budget_moves (Engine.budget_started settings platform pool clock contention)
        fun _ => hkeeps
    rw [← hengine]
    exact hbudget.count_le trivial

/-- Each slot may be asked once. -/
def askingOnce : Config.Settings := { discovery := { maxInterrogations := 1 } }

/-- The slots 0 and 4 are asked.  Each map that is told after that, and a test that is stopped at
once, find an interrogation that is over. -/
def roundsOfQuestions : List Move :=
  let map : Move := .receive [0xd4, 3, 0xf1, 0, 0, 0, 0, 0, 0, 0]
  [map, .advance (.ofSeconds 60), .fireDue, .advance (.ofSeconds 60), .fireDue, map,
    .control (.beginScan false), .control .stopScan, map]

/-- The slot 4 is unknown to the end, and was asked once. -/
theorem questions_within_budget_askingOnce :
    (∀ move ∈ roundsOfQuestions, move.Keeps 4) ∧
      ((Engine.started askingOnce threeDevices (.ofSlots 10) { unix := 0 } []).moves
        roundsOfQuestions).site.asked = [4, 0] ∧
      ((Engine.started askingOnce threeDevices (.ofSlots 10) { unix := 0 } []).moves
        roundsOfQuestions).site.asked.count 4 ≤ 1 := by
  have hkeeps : ∀ move ∈ roundsOfQuestions, move.Keeps 4 := by
    have hframe : Report.decode [0xd4, 3, 0xf1, 0, 0, 0, 0, 0, 0, 0] = .ok (.sidMap ⟨0xf1⟩) := by
      decide +kernel
    have hmap : (Move.receive [0xd4, 3, 0xf1, 0, 0, 0, 0, 0, 0, 0]).Keeps 4 := by
      intro map hdecode
      obtain rfl : (⟨0xf1⟩ : SidMap) = map := by
        rw [hframe] at hdecode
        simpa using hdecode
      decide
    simp only [roundsOfQuestions, List.forall_mem_cons]
    exact ⟨hmap, trivial, trivial, trivial, trivial, hmap, trivial, trivial, hmap, nofun⟩
  refine ⟨hkeeps, by decide +kernel, ?_⟩
  exact (questions_within_budget askingOnce threeDevices (.ofSlots 10) { unix := 0 } []
    roundsOfQuestions).2 4 hkeeps

end AlarmMesh.Gateway
