import AlarmMesh.Proofs.Gateway.Parking
import AlarmMesh.Proofs.Gateway.Ring
import AlarmMesh.Proofs.Gateway.UnknownCount

/-!
# Rounds of questions

With a SID map that leaves a slot unknown the interrogation begins, and if nobody answers, it asks
all unknown slots in ascending order, as often as it may, one slot at a time.  Then it ends.  With
each question a timer is started, and the first question after which that timer would be due when
there is no instant is the last one.

* `Discovery.Polls` — the interrogation runs, and these slots are still to be asked;
* `Discovery.Poses` — what a question leaves;
* `Polls.continueInterrogation`, `Polls.ends` — the next one is asked, or it ends;
* `Polls.giveUps` — so it goes on with each timeout;
* `receiveSidMap_of_unknown` — it begins with the first round;
* `asks_in_rounds` — what is sent until it ends.
-/

namespace AlarmMesh.Gateway

open Radio (Command SidMap)

namespace Site

/-- What a timer that is started anew leaves. -/
theorem restart_eq (site : Site) (handle : Option TimerHandle) (kind : TimerKind)
    (delay : Duration) :
    ∃ timers, (site.restart handle kind delay).2 = { site with timers := timers } := by
  cases handle <;> exact ⟨_, rfl⟩

/-- The clock shows the same, and the timers are the same. -/
structure SameTime (a b : Site) : Prop where
  clock : a.clock = b.clock
  timers : a.timers = b.timers

theorem SameTime.trans {a b c : Site} (h : a.SameTime b) (h' : b.SameTime c) : a.SameTime c :=
  ⟨h.clock.trans h'.clock, h.timers.trans h'.timers⟩

/-- A timer that is started overruns the queue if there is no instant for its deadline. -/
theorem overrun_restart (site : Site) (handle : Option TimerHandle) (kind : TimerKind)
    (delay : Duration) : (site.restart handle kind delay).2.timers.overrun =
      (site.timers.overrun || !Instant.fits site.clock.now delay) := by
  cases handle <;> rfl

theorem knownSids_congr {site site' : Site} (h : site'.platform = site.platform) :
    site'.knownSids = site.knownSids := by
  unfold knownSids meshDevices devices slotOf
  rw [h]

end Site

namespace Discovery

variable {d d' : Discovery} {unknowns rest : List UInt8} {sid : UInt8} {map : SidMap}

/-! ### One slot -/

/-- The gateway may ask who is at the slot: it is not its own, and no mesh device reports it. -/
def mayAsk (d : Discovery) (sid : UInt8) : Bool :=
  sid ≠ d.gatewaySid && !d.site.knownSids.contains sid

theorem mayAsk_iff (h : sid.toNat < Radio.slotCount) :
    d.mayAsk sid ↔ sid ≠ d.gatewaySid ∧ ∀ id ∈ d.site.meshDevices, d.site.slotOf id ≠ some sid := by
  unfold mayAsk
  rw [Bool.and_eq_true, decide_eq_true_iff, Bool.not_eq_true', ← Bool.not_eq_true,
    Site.contains_knownSids]
  refine and_congr_right' ⟨fun hnone id hid hat => hnone ⟨⟨id, hid, hat⟩, h⟩, ?_⟩
  rintro hnone ⟨⟨id, hid, hat⟩, -⟩
  exact hnone id hid hat

/-- The interrogation runs, there is a buffer for its questions, and the slots of `rest` are still
to be asked. -/
structure Polls (d : Discovery) (unknowns rest : List UInt8) : Prop where
  active : d.interrogation.active
  asks : d.interrogation.Asks d.mayAsk d.current.contains d.settings.maxInterrogations.toNat
    unknowns rest
  room : d.site.Roomy 1

theorem Polls.congr (h : d.Polls unknowns rest) (hsettings : d'.settings = d.settings)
    (hgateway : d'.gatewaySid = d.gatewaySid) (hcurrent : d'.current = d.current)
    (hinterrogation : d'.interrogation = d.interrogation)
    (hknown : d'.site.knownSids = d.site.knownSids) (hroom : d'.site.Roomy 1) :
    d'.Polls unknowns rest where
  active := hinterrogation ▸ h.active
  asks := by
    have hmay : d'.mayAsk = d.mayAsk := by
      funext sid
      unfold mayAsk
      rw [hgateway, hknown]
    rw [hmay, hcurrent, hsettings, hinterrogation]
    exact h.asks
  room := hroom

/-- A slot was asked, and the timer started that ends the wait for an answer. -/
structure Poses (d : Discovery) (sid : UInt8) (d' : Discovery) : Prop where
  settings : d'.settings = d.settings
  sent : d'.site.sent = .requestRemoteId sid :: d.site.sent
  overrun : d'.site.timers.overrun =
    (d.site.timers.overrun || !Instant.fits d.site.clock.now d.settings.interrogationPeriod)

/-- The slot that is found is asked. -/
theorem continueInterrogation_of_found (hactive : d.interrogation.active)
    (hfound : d.nextUnknown.1 = some sid) (hroom : d.site.Roomy 1) :
    ∃ handle site, d.continueInterrogation =
        { d with interrogation := d.nextUnknown.2, interrogateTimer := handle, site := site } ∧
      site.Roomy 1 ∧ site.platform = d.site.platform ∧
      d.Poses sid d.continueInterrogation := by
  obtain ⟨site, hsend, hsends, hroom⟩ := Site.send_of_roomy hroom (.requestRemoteId sid)
  have htimers : site.timers = d.site.timers := by
    have hsame := Site.send_timers d.site (.requestRemoteId sid)
    rwa [hsend] at hsame
  let started := site.restart d.interrogateTimer .interrogate d.settings.interrogationPeriod
  obtain ⟨timers, hstarted⟩ : ∃ timers, started.2 = { site with timers := timers } :=
    Site.restart_eq _ _ _ _
  have hnext : d.continueInterrogation = { d with
      interrogation := d.nextUnknown.2
      interrogateTimer := some started.1
      site := started.2 } := by
    rw [continueInterrogation_of_some hactive hfound]
    unfold transmit send
    dsimp only
    rw [hsend]
    rfl
  refine ⟨some started.1, started.2, hnext, ?_, ?_, ?_⟩
  · exact hstarted ▸ hroom.congr rfl rfl
  · rw [hstarted]
    exact hsends.platform
  · rw [hnext]
    refine ⟨rfl, ?_, ?_⟩
    · show started.2.sent = _
      rw [hstarted]
      exact hsends.sent
    · show started.2.timers.overrun = _
      rw [Site.overrun_restart, htimers, hsends.clock]

/-- The next slot is asked, and nothing else is sent. -/
theorem Polls.continueInterrogation (h : d.Polls unknowns (sid :: rest)) :
    d.continueInterrogation.Polls unknowns rest ∧ d.Poses sid d.continueInterrogation := by
  obtain ⟨hfound, hasks⟩ := h.asks.next
  have hwalk : d.interrogation.Walk d.current.contains d.settings.maxInterrogations.toNat
      d.nextUnknown.1 d.nextUnknown.2 := Interrogation.walk_next _ _
  obtain ⟨handle, site, hnext, hroom, hplatform, hposes⟩ :=
    continueInterrogation_of_found h.active hfound h.room
  have hlooked : { d with interrogation := d.nextUnknown.2 : Discovery }.Polls unknowns rest :=
    ⟨hwalk.active.trans h.active, hasks, h.room⟩
  refine ⟨?_, hposes⟩
  rw [hnext]
  exact hlooked.congr rfl rfl rfl rfl (Site.knownSids_congr hplatform) hroom

/-- When no slot is left to be asked, the interrogation ends, nothing is sent and no timer is
started. -/
theorem Polls.ends (h : d.Polls unknowns []) :
    d.continueInterrogation.interrogation.active = false ∧
      d.continueInterrogation.site.sent = d.site.sent ∧
      d.continueInterrogation.site.timers = d.site.timers := by
  rw [continueInterrogation_of_none h.active h.asks.next_none]
  exact ⟨rfl, (Site.within_report d.site _ _ _).sent, (Site.silent_report d.site _ _ _).timers⟩

/-! ### Timeouts -/

/-- The site at a later moment, whatever the clock shows and whichever timers are set then. -/
def atMoment (d : Discovery) (moment : Clock × TimerQueue) : Site :=
  { d.site with
    clock := moment.1, timers := { moment.2 with overrun := d.site.timers.overrun } }

/-- The time for an answer is up. -/
def giveUp (d : Discovery) (moment : Clock × TimerQueue) : Discovery :=
  { d with site := d.atMoment moment }.onTimer .interrogate

/-- What is left when the timer has fired. -/
def waited (d : Discovery) (moment : Clock × TimerQueue) : Discovery :=
  { d with interrogateTimer := none, site := d.atMoment moment }

theorem giveUp_eq (d : Discovery) (moment : Clock × TimerQueue) :
    d.giveUp moment = (d.waited moment).continueInterrogation := rfl

theorem Polls.waited (h : d.Polls unknowns rest) (moment : Clock × TimerQueue) :
    (d.waited moment).Polls unknowns rest :=
  h.congr rfl rfl rfl rfl rfl (h.room.congr rfl rfl)

/-- Without an interrogation nothing is asked. -/
theorem giveUps_of_inactive (h : d.interrogation.active = false)
    (moments : List (Clock × TimerQueue)) :
    (moments.foldl giveUp d).interrogation.active = false ∧
      (moments.foldl giveUp d).site.sent = d.site.sent ∧
      (moments.foldl giveUp d).site.timers.overrun = d.site.timers.overrun := by
  induction moments generalizing d with
  | nil => exact ⟨h, rfl, rfl⟩
  | cons moment moments ih =>
    have hnext : d.giveUp moment = d.waited moment := continueInterrogation_of_inactive _ h
    rw [List.foldl_cons, hnext]
    exact ih h

/-- Among the first of these instants is one after which there is none for the end of a wait. -/
def overruns (d : Discovery) (asked : Nat) (readings : List Instant) : Bool :=
  (readings.take asked).any fun now => !Instant.fits now d.settings.interrogationPeriod

/-- One slot is asked at once and one with each timeout, until none is left. -/
theorem Polls.giveUps (h : d.Polls unknowns rest) (moments : List (Clock × TimerQueue)) :
    (moments.foldl giveUp d.continueInterrogation).interrogation.active =
        decide (moments.length < rest.length) ∧
      (moments.foldl giveUp d.continueInterrogation).site.sent =
        ((rest.take (moments.length + 1)).map Command.requestRemoteId).reverse ++ d.site.sent ∧
      (moments.foldl giveUp d.continueInterrogation).site.timers.overrun =
        (d.site.timers.overrun || d.overruns rest.length
          (d.site.clock.now :: moments.map fun moment => moment.1.now)) := by
  induction moments generalizing d rest with
  | nil =>
    cases rest with
    | nil =>
      obtain ⟨hover, hsent, htimers⟩ := h.ends
      exact ⟨hover, hsent, (congrArg TimerQueue.overrun htimers).trans (by simp [overruns])⟩
    | cons sid rest =>
      obtain ⟨hpolls, hposes⟩ := h.continueInterrogation
      exact ⟨hpolls.active.trans (by simp), hposes.sent.trans (by simp),
        hposes.overrun.trans (by simp [overruns])⟩
  | cons moment moments ih =>
    cases rest with
    | nil =>
      obtain ⟨hover, hsent, htimers⟩ := h.ends
      obtain ⟨hstill, hsame, hoverrun⟩ := giveUps_of_inactive hover (moment :: moments)
      exact ⟨hstill.trans (by simp), (hsame.trans hsent).trans (by simp),
        (hoverrun.trans (congrArg TimerQueue.overrun htimers)).trans (by simp [overruns])⟩
    | cons sid rest =>
      obtain ⟨hpolls, hposes⟩ := h.continueInterrogation
      let next := d.continueInterrogation.waited moment
      obtain ⟨hactive, hall, hoverrun⟩ := ih (hpolls.waited moment)
      have hsent : next.site.sent = .requestRemoteId sid :: d.site.sent := hposes.sent
      have hreading : next.overruns rest.length
          (next.site.clock.now :: moments.map fun moment => moment.1.now) = d.overruns rest.length
            (moment.1.now :: moments.map fun moment => moment.1.now) :=
        congrArg (fun period => (List.take _ _).any fun now => !Instant.fits now period)
          (congrArg Config.DiscoverySettings.interrogationPeriod hposes.settings)
      have hasked : next.site.timers.overrun =
        (d.site.timers.overrun || !Instant.fits d.site.clock.now d.settings.interrogationPeriod) :=
        hposes.overrun
      rw [List.foldl_cons, giveUp_eq]
      refine ⟨hactive.trans (by simp), hall.trans ?_, hoverrun.trans ?_⟩
      · rw [hsent]
        simp
      · rw [hreading, hasked, Bool.or_assoc]
        rfl

/-! ### The beginning -/

/-- The commands that a SID map is answered with before any slot is asked. -/
def diagnosis (d : Discovery) (map : SidMap) : List Command :=
  if { d with inNetwork := map.inNetwork }.needsDiagnostics then [.radioDiagnosticRequest] else []

/-- The radio module is asked about itself if that is needed. -/
theorem requestDiagnostics_of_roomy (hroom : d.site.Roomy 1) :
    ∃ requested site,
      d.requestDiagnostics = { d with diagnosticsRequested := requested, site := site } ∧
      site.Roomy 1 ∧ site.platform = d.site.platform ∧
      site.sent = (if d.needsDiagnostics then [.radioDiagnosticRequest] else []) ++ d.site.sent ∧
      site.SameTime d.site := by
  obtain ⟨site, hsend, hsends, hroom'⟩ := Site.send_of_roomy hroom .radioDiagnosticRequest
  unfold requestDiagnostics
  split
  · refine ⟨true, site, ?_, hroom', hsends.platform, hsends.sent, hsends.clock, ?_⟩
    · unfold send
      rw [hsend]
    · have hsame := Site.send_timers d.site .radioDiagnosticRequest
      rwa [hsend] at hsame
  · exact ⟨d.diagnosticsRequested, d.site, rfl, hroom, rfl, rfl, rfl, rfl⟩

/-- A SID map is taken over, and the radio module asked about itself if that is needed. -/
theorem receiveSidMap_eq_checkInterrogation (map : SidMap) (hroom : d.site.Roomy 1) :
    ∃ requested site, d.receiveSidMap map = { d with
        inNetwork := map.inNetwork, diagnosticsRequested := requested, current := map,
        unknown := (d.receiveSidMap map).unknown, site := site }.checkInterrogation ∧
      site.Roomy 1 ∧ site.knownSids = d.site.knownSids ∧
      site.sent = d.diagnosis map ++ d.site.sent ∧ site.SameTime d.site := by
  let joined := { d with inNetwork := map.inNetwork }.report .inNetwork (.bool map.inNetwork)
  have hjoined : d.site.Within .gateway joined.site := Site.within_report _ _ _ _
  obtain ⟨requested, site, hrequested, hroom, hplatform, hsent, htime⟩ :=
    requestDiagnostics_of_roomy (d := joined) (hroom.congr hjoined.pool hjoined.contention)
  let counted := { joined with diagnosticsRequested := requested, site := site }.setUnknown
    ((map.difference d.site.knownSids).count - 1)
  have hcounted : site.Within .gateway counted.site :=
    (Site.within_report site _ _ _).trans ⟨.same, rfl, rfl, rfl, rfl, rfl⟩
  have hcountedTime : counted.site.SameTime site :=
    ⟨hcounted.clock, (Site.silent_report site _ _ _).timers⟩
  refine ⟨requested, counted.site, ?_, hroom.congr hcounted.pool hcounted.contention, ?_, ?_,
    hcountedTime.trans (htime.trans ⟨hjoined.clock, (Site.silent_report d.site _ _ _).timers⟩)⟩
  · rw [unknown_receiveSidMap]
    unfold receiveSidMap
    dsimp only
    rw [show _ = _ from hrequested]
    rfl
  · rw [hcounted.knownSids, Site.knownSids_congr hplatform, hjoined.knownSids]
  · rw [hcounted.sent, hsent, hjoined.sent]
    rfl

/-- With a SID map that leaves slots unknown the first round begins. -/
theorem receiveSidMap_of_unknown (hidle : d.scan.active = false)
    (hoff : d.interrogation.active = false)
    (hfresh : d.interrogation.attempts = List.replicate Radio.slotCount 0) (hroom : d.site.Roomy 1)
    (hsorted : unknowns.Pairwise (· < ·))
    (hunknowns : ∀ sid, sid ∈ unknowns ↔ map.contains sid ∧ sid ≠ d.gatewaySid ∧
      ∀ id ∈ d.site.meshDevices, d.site.slotOf id ≠ some sid)
    (hcount : 0 < (d.receiveSidMap map).unknown) :
    ∃ begun : Discovery, d.receiveSidMap map = begun.continueInterrogation ∧
      begun.Polls unknowns
        (List.replicate d.settings.maxInterrogations.toNat unknowns).flatten ∧
      begun.site.sent = d.diagnosis map ++ d.site.sent ∧ begun.settings = d.settings ∧
      begun.site.SameTime d.site := by
  obtain ⟨requested, site, hreceived, hroom, hknown, hsent, htime⟩ :=
    receiveSidMap_eq_checkInterrogation map hroom
  let told : Discovery := { d with
    inNetwork := map.inNetwork, diagnosticsRequested := requested, current := map,
    unknown := (d.receiveSidMap map).unknown, site := site,
    interrogation := { d.interrogation with cursor := 0 } }
  let begun := told.setInterrogating true
  have hbegun : site.Within .gateway begun.site := Site.within_report _ _ _ _
  have hmem : ∀ sid, sid ∈ unknowns ↔
      sid.toNat < 64 ∧ begun.current.contains sid && begun.mayAsk sid := by
    intro sid
    have hmay : begun.mayAsk sid = d.mayAsk sid := by
      unfold mayAsk
      rw [hbegun.knownSids, hknown]
      rfl
    rw [hunknowns, hmay, Bool.and_eq_true]
    refine ⟨fun h => ?_, fun h => ⟨h.2.1, (mayAsk_iff h.1).1 h.2.2⟩⟩
    have hlt := SidMap.lt_of_contains h.1
    exact ⟨hlt, h.1, (mayAsk_iff hlt).2 h.2⟩
  have hbegunTime : begun.site.SameTime site :=
    ⟨hbegun.clock, (Site.silent_report site _ _ _).timers⟩
  refine ⟨begun, ?_, ⟨rfl, ?_, hroom.congr hbegun.pool hbegun.contention⟩, hbegun.sent.trans hsent,
    rfl, hbegunTime.trans htime⟩
  · rw [hreceived]
    unfold checkInterrogation
    rw [if_neg (by simp [hidle]), if_pos hcount, if_neg (by simp [hoff])]
  · exact .of_turns (.of_fresh rfl hfresh hsorted hmem) (Nat.zero_add _)

end Discovery

/-! ### All rounds -/

/-- With a SID map that leaves slots unknown, all of these are asked in ascending order, and again
from the first, as often as a slot may be asked: the first at once, and with every timeout that
nobody answered in time the next one.  The timeout after that sends nothing and ends the
interrogation.  A look for the next slot is over when it is back where it began, which is a slot of
the ring in every run.  All this comes to pass as long as there is an instant for the end of each
wait: with the first question for which there is none the queue of timers is overrun. -/
theorem asks_in_rounds (d : Discovery) (map : SidMap) {unknowns : List UInt8}
    (hidle : d.scan.active = false) (hoff : d.interrogation.active = false)
    (hfresh : d.interrogation.attempts = List.replicate Radio.slotCount 0) (hroom : d.site.Roomy 1)
    (hsorted : unknowns.Pairwise (· < ·))
    (hunknowns : ∀ sid, sid ∈ unknowns ↔ map.contains sid ∧ sid ≠ d.gatewaySid ∧
      ∀ id ∈ d.site.meshDevices, d.site.slotOf id ≠ some sid)
    (hcount : 0 < (d.receiveSidMap map).unknown) :
    let rounds := (List.replicate d.settings.maxInterrogations.toNat unknowns).flatten
    (∀ moments : List (Clock × TimerQueue),
      let after := moments.foldl Discovery.giveUp (d.receiveSidMap map)
      after.site.sent = ((rounds.take (moments.length + 1)).map Command.requestRemoteId).reverse ++
          (d.diagnosis map ++ d.site.sent) ∧
        after.interrogation.active = decide (moments.length < rounds.length) ∧
        after.site.timers.overrun = (d.site.timers.overrun || d.overruns rounds.length
          (d.site.clock.now :: moments.map fun moment => moment.1.now))) ∧
    (∀ other : Discovery, other.interrogation.cursor.toNat < Radio.slotCount →
      ∃ seen, seen.length ≤ Radio.slotCount ∧
        Interrogation.LooksAround other.mayAsk other.current.contains
          other.settings.maxInterrogations.toNat other.interrogation.cursor other.interrogation seen
          other.nextUnknown) ∧
    ∀ settings engine, Reachable settings engine →
      engine.discovery.interrogation.cursor.toNat < Radio.slotCount := by
  intro rounds
  refine ⟨fun moments => ?_, fun other hother => ?_, fun _ _ hreachable => hreachable.cursor_lt⟩
  · obtain ⟨begun, hreceived, hpolls, hsent, hsettings, htime⟩ :=
      Discovery.receiveSidMap_of_unknown hidle hoff hfresh hroom hsorted hunknowns hcount
    obtain ⟨hactive, hall, hoverrun⟩ := hpolls.giveUps moments
    rw [hreceived]
    refine ⟨hall.trans (by rw [hsent]), hactive, hoverrun.trans ?_⟩
    unfold Discovery.overruns
    rw [htime.timers, htime.clock, hsettings]
  · obtain ⟨seen, hseen, hlooks⟩ := @Interrogation.looksAround other.mayAsk other.current.contains
      other.settings.maxInterrogations.toNat other.interrogation hother
    exact ⟨seen, hseen.length_le.trans_eq (Interrogation.length_ring _ _), hlooks⟩

/-- The gateway knows its own slot, too. -/
def located : Engine :=
  joined.move (.receive [0xd2, 30, 29, 28, 0xc0, 7, 1, 2, 3, 0, 2, 0, 0])

/-- Beside the slots of the gateway and of the three devices two more are occupied. -/
def twoMoreSlots : SidMap := .ofList [0, 4, 5, 6, 7, 63]

theorem mem_twoMoreSlots (sid : UInt8) : sid ∈ [4, 63] ↔ twoMoreSlots.contains sid ∧
    sid ≠ located.discovery.gatewaySid ∧
      ∀ id ∈ located.discovery.site.meshDevices, located.discovery.site.slotOf id ≠ some sid := by
  unfold twoMoreSlots
  rw [SidMap.contains_ofList]
  constructor
  · intro h
    simp only [List.mem_cons, List.not_mem_nil, or_false] at h
    obtain rfl | rfl := h <;> decide +kernel
  · rintro ⟨⟨h, -⟩, hgateway, hknown⟩
    simp only [List.mem_cons, List.not_mem_nil, or_false] at h
    obtain rfl | rfl | rfl | rfl | rfl | rfl := h
    · exact absurd (by decide +kernel) hgateway
    · decide
    · exact absurd (by decide +kernel) (hknown (.ofNat 5) (by decide +kernel))
    · exact absurd (by decide +kernel) (hknown (.ofNat 6) (by decide +kernel))
    · exact absurd (by decide +kernel) (hknown (.ofNat 7) (by decide +kernel))
    · decide

/-- The moment of a timeout after which nothing else is to be done. -/
def quietMoment : Clock × TimerQueue := ({ unix := 0 }, {})

/-- Settings with which a slot may take longer to answer than there are instants. -/
def waitingForEver : Config.Settings :=
  { discovery := { interrogationPeriod := .ofSeconds 18446744073709551615 } }

/-- The network of `located` with these settings. -/
def stranded : Discovery := { located.discovery with settings := waitingForEver.discovery }

/-- Each of the two slots is asked five times, in turns, and the timeout after that ends the
interrogation.  With a period that is too long, which passes the check of the settings, the first
question overruns the queue of timers. -/
theorem asks_in_rounds_located :
    let received := located.discovery.receiveSidMap twoMoreSlots
    let asked := (List.replicate 9 quietMoment).foldl Discovery.giveUp received
    let ended := (List.replicate 10 quietMoment).foldl Discovery.giveUp received
    let failed := stranded.receiveSidMap twoMoreSlots
    (asked.site.sent = (([4, 63, 4, 63, 4, 63, 4, 63, 4, 63] : List UInt8).map
        Command.requestRemoteId).reverse ++ [.radioDiagnosticRequest] ∧
      asked.interrogation.active = true ∧
      ended.site.sent = asked.site.sent ∧ ended.interrogation.active = false ∧
      ended.site.timers.overrun = false) ∧
    waitingForEver.check = .ok () ∧
      failed.site.sent = [.requestRemoteId 4, .radioDiagnosticRequest] ∧
      failed.site.timers.overrun = true := by
  have hmost : located.discovery.settings.maxInterrogations.toNat = 5 := by decide +kernel
  have hbefore : located.discovery.diagnosis twoMoreSlots ++ located.discovery.site.sent =
      [.radioDiagnosticRequest] := by decide +kernel
  have hroom : located.discovery.site.Roomy 1 :=
    ⟨⟨by decide +kernel, by decide +kernel⟩, by decide +kernel⟩
  obtain ⟨hrounds, -⟩ := asks_in_rounds located.discovery twoMoreSlots (by decide +kernel)
    (by decide +kernel) (by decide +kernel) hroom (by decide) mem_twoMoreSlots (by decide +kernel)
  rw [hmost, hbefore] at hrounds
  obtain ⟨hasked, hactive, -⟩ := hrounds (List.replicate 9 quietMoment)
  obtain ⟨hsame, hover, hintact⟩ := hrounds (List.replicate 10 quietMoment)
  exact ⟨⟨hasked, hactive, hsame.trans hasked.symm, hover, hintact.trans (by decide +kernel)⟩,
    by decide +kernel, by decide +kernel, by decide +kernel⟩

end AlarmMesh.Gateway
