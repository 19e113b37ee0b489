import AlarmMesh.Proofs.Gateway.CurrentMap
import AlarmMesh.Proofs.Gateway.Handlers
import Mathlib.Logic.Relation

/-!
# Moves as turns of the missing-node test

Seen from the missing-node test, every move of the engine is a sequence of turns: a step beside
the test, or one of the few calls that concern it.

* `Network.Regular` — the timers that run for the sake of the other parts of discovery;
* `Engine.Fires engine kind d` — a timer of the test fires, and `d` is what it finds;
* `Turn engine engine'` — the turns;
* `Beside engine engine'` — the turns that are none of the test, such as every frame but a report
  of missing slots, `beside_receive`;
* `Calm engine engine'` — the turns that leave the current SID map;
* `calm_move`, `turns_move` — every move is a sequence of turns, and of calm ones unless it tells
  a map.
-/

namespace AlarmMesh.Gateway

open Radio (DeviceId Report)
open Shadow (Property Value)
open Relation (ReflTransGen)

/-! ### The timers of the other parts of discovery -/

/-- The SID map is asked for at regular intervals, an interrogation goes on as long as it is on,
and learn mode ends only while it is on. -/
structure Network.Regular (network : Network) : Prop where
  refresh : network.refreshTimer.isSome
  interrogate : network.interrogateTimer.isSome = network.interrogation.active
  learn : network.learnTimer.isSome → network.learning

/-- Looking for a slot to ask does not end the interrogation. -/
theorem Interrogation.next_active (eligible occupied : UInt8 → Bool) (most slots : Nat)
    (interrogation : Interrogation) :
    (next eligible occupied most slots interrogation).2.active = interrogation.active := by
  induction slots generalizing interrogation with
  | zero => rfl
  | succ slots ih =>
    unfold next
    dsimp only
    split
    · exact ih _
    split
    · rfl
    · exact ih _

namespace Discovery

variable (d : Discovery)

theorem regular_refresh (hinterrogate : d.interrogateTimer.isSome = d.interrogation.active)
    (hlearn : d.learnTimer.isSome → d.learning) : d.refresh.toNetwork.Regular := by
  unfold refresh
  dsimp only
  split
  · exact ⟨rfl, hinterrogate, hlearn⟩
  · exact ⟨rfl, hinterrogate, hlearn⟩

/-- The interrogation goes on with a timer, or it ends. -/
theorem regular_continueInterrogation (hrefresh : d.refreshTimer.isSome)
    (hlearn : d.learnTimer.isSome → d.learning) (hnone : d.interrogateTimer = none) :
    d.continueInterrogation.toNetwork.Regular := by
  unfold continueInterrogation
  split
  · next hactive =>
    have hstill : d.nextUnknown.2.active = true :=
      (Interrogation.next_active _ _ _ _ d.interrogation).trans hactive
    dsimp only
    split
    · exact ⟨hrefresh, hstill.symm, hlearn⟩
    · exact ⟨hrefresh, congrArg Option.isSome hnone, hlearn⟩
  · next hactive => exact ⟨hrefresh, by simp [hnone, hactive], hlearn⟩

theorem regular_checkInterrogation (h : d.toNetwork.Regular) :
    d.checkInterrogation.toNetwork.Regular := by
  unfold checkInterrogation
  split
  · exact h
  split
  · split
    · exact h
    · next hidle =>
      have hnone : d.interrogateTimer = none := by
        have := h.interrogate
        simp_all
      exact regular_continueInterrogation _ h.refresh h.learn hnone
  split
  · exact ⟨h.refresh, rfl, h.learn⟩
  · exact h

theorem regular_suspendInterrogation (h : d.toNetwork.Regular) :
    d.suspendInterrogation.toNetwork.Regular := by
  unfold suspendInterrogation
  split
  · exact ⟨h.refresh, rfl, h.learn⟩
  · next hidle => exact ⟨h.refresh, h.interrogate.trans (eq_false_of_ne_true hidle), h.learn⟩

theorem regular_receiveSidMap (map : Radio.SidMap) (h : d.toNetwork.Regular) :
    (d.receiveSidMap map).toNetwork.Regular := by
  have hdiagnostics (d : Discovery) (h : d.toNetwork.Regular) :
      d.requestDiagnostics.toNetwork.Regular := by
    unfold requestDiagnostics
    rw [send_eq]
    split
    · cases d.site.hasBuffer
      · exact h
      · exact ⟨h.refresh, h.interrogate, h.learn⟩
    · exact h
  have hjoined := hdiagnostics
    ({ d with inNetwork := map.inNetwork }.report .inNetwork (.bool map.inNetwork))
    ⟨h.refresh, h.interrogate, h.learn⟩
  exact regular_checkInterrogation _ ⟨hjoined.refresh, hjoined.interrogate, hjoined.learn⟩

theorem regular_receiveIdentity (identity : Radio.Identity) (presence : Shadow.Presence)
    (real : Bool) (h : d.toNetwork.Regular) :
    (d.receiveIdentity identity presence real).toNetwork.Regular := by
  have hcount : d.countKnown.toNetwork.Regular := by
    unfold countKnown
    split
    · exact ⟨h.refresh, h.interrogate, h.learn⟩
    · exact h
  unfold receiveIdentity register
  split
  · exact h
  split
  · dsimp only
    split
    · exact hcount
    · exact hcount
  split
  · exact h
  · exact h

theorem regular_receiveRemoteId (identity : Radio.Identity) (h : d.toNetwork.Regular) :
    (d.receiveRemoteId identity).toNetwork.Regular := by
  have hidentity := regular_receiveIdentity d identity .online false h
  unfold receiveRemoteId
  dsimp only
  split
  · exact regular_continueInterrogation _ hidentity.refresh hidentity.learn rfl
  · exact hidentity

theorem regular_setLearnMode (enabled : Bool) (seconds : Nat) (h : d.toNetwork.Regular) :
    (d.setLearnMode enabled seconds).toNetwork.Regular := by
  unfold setLearnMode
  split
  · exact h
  split
  · unfold enterLearnMode
    dsimp only
    split
    · split
      · exact ⟨rfl, h.interrogate, fun _ => rfl⟩
      · exact ⟨rfl, h.interrogate, fun _ => rfl⟩
    · split
      · exact ⟨rfl, h.interrogate, fun _ => rfl⟩
      · exact ⟨rfl, h.interrogate, fun _ => rfl⟩
  · exact ⟨rfl, h.interrogate, fun hsome => absurd hsome Bool.false_ne_true⟩

end Discovery

/-! ### Timers that fire -/

/-- A timer of the test fires, and this is what it finds: its handle is gone. -/
inductive Engine.Fires (engine : Engine) : TimerKind → Discovery → Prop where
  | pop {timer : Timer} {rest : TimerQueue}
      (hpop : engine.site.timers.popExpired engine.site.clock.now = (some timer, rest))
      (hplace : timer.kind.place = .missing) :
      Fires engine timer.kind
        { engine.discovery with missingTimer := none, site := { engine.site with timers := rest } }

theorem Engine.Fires.tied {engine : Engine} {kind : TimerKind} {d : Discovery}
    (h : engine.Fires kind d) (ht : engine.Tied) : (d.among engine.incidents).Tied := by
  obtain ⟨hpop, hplace⟩ := h
  have hpopped := TimerQueue.Tied.pop ht hpop
  rw [hplace, ← held_missing] at hpopped
  exact hpopped

/-- What fires is of the kind that the test waits for. -/
theorem Engine.Fires.kind_eq {engine : Engine} {kind awaited : TimerKind} {d : Discovery}
    (h : engine.Fires kind d) (ha : engine.discovery.Awaits awaited) : kind = awaited := by
  obtain ⟨hpop, hplace⟩ := h
  have hlive := (TimerQueue.live_of_popExpired hpop).1
  exact ha.kind_eq _ (by simp [Engine.discovery, hlive]) hplace

/-- What a timer of the test does. -/
def Discovery.fireTest (d : Discovery) (kind : TimerKind) : Discovery :=
  match kind with
  | .testMissingInit => { d with scan := { d.scan with delete := true } }.beginSession
  | .testMissingUpdateMap => d.updateMap
  | _ => d.probe

theorem Engine.Fires.onTimer_eq {engine : Engine} {kind : TimerKind} {d : Discovery}
    (h : engine.Fires kind d) : d.onTimer kind = d.fireTest kind := by
  obtain ⟨hpop, hplace⟩ := h
  rename_i timer rest
  cases hkind : timer.kind with
  | testMissingInit | testMissingTimeout | testMissingContinue | testMissingUpdateMap => rfl
  | _ => simp [hkind, TimerKind.place] at hplace

theorem Discovery.testStep_fireTest (d : Discovery) (kind : TimerKind) :
    d.TestStep (d.fireTest kind) := by
  unfold fireTest
  split
  · exact (testStep_scan d _).trans (testStep_beginSession _)
  · exact testStep_updateMap d
  · exact testStep_probe d

/-- What fires changes nothing but the queue and the handle. -/
theorem Engine.Fires.eq {engine : Engine} {kind : TimerKind} {d : Discovery}
    (h : engine.Fires kind d) : ∃ rest, d = { engine.discovery with
      missingTimer := none, site := { engine.site with timers := rest } } := by
  cases h
  exact ⟨_, rfl⟩

theorem Engine.Fires.scan {engine : Engine} {kind : TimerKind} {d : Discovery}
    (h : engine.Fires kind d) : d.scan = engine.network.scan := by
  obtain ⟨rest, rfl⟩ := h.eq
  rfl

theorem Engine.Fires.completed {engine : Engine} {kind : TimerKind} {d : Discovery}
    (h : engine.Fires kind d) : d.site.completed = engine.site.completed := by
  obtain ⟨rest, rfl⟩ := h.eq
  rfl

theorem Engine.Fires.maps {engine : Engine} {kind : TimerKind} {d : Discovery}
    (h : engine.Fires kind d) : d.site.maps = engine.site.maps := by
  obtain ⟨rest, rfl⟩ := h.eq
  rfl

/-- The engine once a timer was taken out of its queue. -/
def Engine.popped (engine : Engine) (rest : TimerQueue) : Engine :=
  { engine with site := { engine.site with timers := rest } }

section Fire

variable {engine : Engine} {timer : Timer} {rest : TimerQueue}

/-- A timer fires that is held nowhere. -/
theorem aside_popped
    (hpop : engine.site.timers.popExpired engine.site.clock.now = (some timer, rest))
    (hplace : timer.kind.place ≠ .missing)
    (hnone : held engine.network engine.incidents timer.kind.place = none) :
    Aside engine (engine.popped rest) :=
  aside_pop hpop hplace rfl rfl rfl (Function.update_eq_self_iff.2 hnone.symm).symm

theorem aside_faultTimedOut {id : DeviceId}
    (hpop : engine.site.timers.popExpired engine.site.clock.now = (some timer, rest))
    (hkind : timer.kind = .faultTimeout id) :
    Aside engine ((engine.popped rest).onIncidents fun c => c.faultTimedOut id) := by
  let c : Correlator := { toIncidents := engine.incidents, site := (engine.popped rest).site }
  have hplace : timer.kind.place = .fault id := by rw [hkind]; rfl
  have hother : timer.kind.place ≠ .missing := by simp [hplace]
  show Aside engine ((c.faultTimedOut id).within engine.network)
  unfold Correlator.faultTimedOut
  split
  · next pending hget =>
    have hpopped : Aside engine ({ c with faults := c.faults.erase id }.within engine.network) :=
      aside_pop hpop hother rfl rfl rfl (by rw [hplace]; exact held_eraseFault _ _ _)
    exact hpopped.trans (Correlator.aside_onSite _ _ ((Site.silent_count _ (by decide)).trans
      ((Site.silent_writeFault _ _ _ _ _).trans (Site.silent_release _ _))))
  · next hget =>
    have hnone : held engine.network engine.incidents timer.kind.place = none := by
      rw [hplace]
      exact congrArg (Option.map PendingFault.timer) hget
    exact aside_popped hpop hother hnone

theorem aside_alarmTimedOut {id : DeviceId}
    (hpop : engine.site.timers.popExpired engine.site.clock.now = (some timer, rest))
    (hkind : timer.kind = .alarmTimeout id) :
    Aside engine ((engine.popped rest).onIncidents fun c => c.alarmTimedOut id) := by
  let c : Correlator := { toIncidents := engine.incidents, site := (engine.popped rest).site }
  have hplace : timer.kind.place = .alarm id := by rw [hkind]; rfl
  have hother : timer.kind.place ≠ .missing := by simp [hplace]
  show Aside engine ((c.alarmTimedOut id).within engine.network)
  unfold Correlator.alarmTimedOut
  split
  · next pending hget =>
    have hpopped : Aside engine ({ c with alarms := c.alarms.erase id }.within engine.network) :=
      aside_pop hpop hother rfl rfl rfl (by rw [hplace]; exact held_eraseAlarm _ _ _)
    have hcount : c.site.Silent (c.site.count (.pendingTimeout .alarm)) :=
      Site.silent_count _ (by decide)
    exact Correlator.aside_resolveAlarm _ _ id pending none
      (hpopped.trans (aside_silent hcount rfl rfl rfl))
  · next hget =>
    have hnone : held engine.network engine.incidents timer.kind.place = none := by
      rw [hplace]
      exact congrArg (Option.map PendingAlarm.timer) hget
    exact aside_popped hpop hother hnone

/-- A timer that is none of the test fires. -/
theorem aside_fire
    (hpop : engine.site.timers.popExpired engine.site.clock.now = (some timer, rest))
    (hplace : timer.kind.place ≠ .missing) :
    Aside engine ((engine.popped rest).fire timer.kind) ∧
      (engine.network.Regular → ((engine.popped rest).fire timer.kind).network.Regular) := by
  let site := (engine.popped rest).site
  cases hkind : timer.kind with
  | retrieveSidMap =>
    let d : Discovery := { engine.discovery with refreshTimer := none, site := site }
    have hpopped : Aside engine (d.among engine.incidents) :=
      aside_pop hpop hplace rfl rfl rfl (by rw [hkind]; exact held_refresh _ _ _)
    exact ⟨hpopped.trans (d.aside_refresh engine.incidents),
      fun h => d.regular_refresh h.interrogate h.learn⟩
  | learnModeTimeout =>
    let d : Discovery := { engine.discovery with learnTimer := none, site := site }
    have hpopped : Aside engine (d.among engine.incidents) :=
      aside_pop hpop hplace rfl rfl rfl (by rw [hkind]; exact held_learn _ _ _)
    exact ⟨hpopped.trans (d.aside_setLearnMode engine.incidents false 0), fun h =>
      d.regular_setLearnMode false 0
        ⟨h.refresh, h.interrogate, fun hsome => absurd hsome Bool.false_ne_true⟩⟩
  | interrogate =>
    let d : Discovery := { engine.discovery with interrogateTimer := none, site := site }
    have hpopped : Aside engine (d.among engine.incidents) :=
      aside_pop hpop hplace rfl rfl rfl (by rw [hkind]; exact held_interrogate _ _ _)
    exact ⟨hpopped.trans (d.aside_continueInterrogation engine.incidents),
      fun h => d.regular_continueInterrogation h.refresh h.learn rfl⟩
  | faultTimeout id => exact ⟨aside_faultTimedOut hpop hkind, fun h => h⟩
  | alarmTimeout id => exact ⟨aside_alarmTimedOut hpop hkind, fun h => h⟩
  | _ => simp [hkind, TimerKind.place] at hplace

end Fire

/-! ### Turns -/

/-- A turn of the missing-node test. -/
inductive Turn : Engine → Engine → Prop where
  /-- Something happens beside the test. -/
  | aside {engine engine' : Engine} (h : Aside engine engine')
      (hregular : engine.network.Regular → engine'.network.Regular) : Turn engine engine'
  /-- A report of missing slots arrives. -/
  | report (engine : Engine) (map : Radio.SidMap) :
      Turn engine (engine.onNetwork fun d => d.receiveMissing map)
  /-- It is chosen what becomes of missing devices. -/
  | choose (engine : Engine) (delete : Bool) :
      Turn engine (engine.onNetwork fun d => { d with scan := { d.scan with delete := delete } })
  /-- A test is asked for while none is running. -/
  | begin {engine : Engine} (h : engine.network.scan.active = false) :
      Turn engine (engine.onNetwork fun d => d.cancelMissing.beginSession)
  /-- The session is given up. -/
  | stop (engine : Engine) : Turn engine (engine.onNetwork Discovery.cancelSession)
  /-- One device is to be removed. -/
  | flush (engine : Engine) (id : DeviceId) : Turn engine (engine.onNetwork fun d => d.flush id)
  /-- Every device is to be removed. -/
  | flushAll (engine : Engine) : Turn engine (engine.onNetwork Discovery.flushAll)
  /-- A timer of the test fires. -/
  | fire {engine : Engine} {kind : TimerKind} {d : Discovery} (h : engine.Fires kind d) :
      Turn engine ((d.fireTest kind).among engine.incidents)

/-- What every turn preserves holds after any turns. -/
theorem Turn.induct {P : Engine → Prop} (step : ∀ {a b}, P a → Turn a b → P b) {a b : Engine}
    (h : ReflTransGen Turn a b) (ha : P a) : P b := by
  induction h with
  | refl => exact ha
  | tail _ hturn ih => exact step ih hturn

/-- No turn takes back that a session ended. -/
theorem Turn.completed_le {a b : Engine} (h : Turn a b) : a.site.completed ≤ b.site.completed := by
  cases h with
  | aside haside => exact Nat.le_of_eq haside.completed.symm
  | report map => exact (a.discovery.testStep_receiveMissing map).completed
  | choose => exact Nat.le_refl _
  | begin =>
    exact (a.discovery.testStep_cancelMissing.trans (Discovery.testStep_beginSession _)).completed
  | stop => exact a.discovery.testStep_cancelSession.completed
  | flush id => exact (a.discovery.testStep_flush id).completed
  | flushAll => exact a.discovery.testStep_flushAll.completed
  | @fire kind d hfires =>
    exact hfires.completed ▸ (d.testStep_fireTest kind).completed

theorem Turn.settings_eq {a b : Engine} (h : Turn a b) :
    b.network.settings = a.network.settings := by
  cases h with
  | aside haside => exact haside.settings
  | report map => exact (a.discovery.testStep_receiveMissing map).settings_eq
  | choose => rfl
  | begin =>
    have hbegun := a.discovery.testStep_cancelMissing.trans (Discovery.testStep_beginSession _)
    exact hbegun.settings_eq
  | stop => exact a.discovery.testStep_cancelSession.settings_eq
  | flush id => exact (a.discovery.testStep_flush id).settings_eq
  | flushAll => exact a.discovery.testStep_flushAll.settings_eq
  | @fire kind d hfires =>
    refine (d.testStep_fireTest kind).settings_eq.trans ?_
    obtain ⟨rest, rfl⟩ := hfires.eq
    rfl

/-- A turn that leaves the current SID map. -/
def Calm (engine engine' : Engine) : Prop :=
  Turn engine engine' ∧ engine'.network.current = engine.network.current

theorem turns_of_calm {a b : Engine} (h : ReflTransGen Calm a b) : ReflTransGen Turn a b :=
  h.lift id fun _ _ hcalm => hcalm.1

/-! ### Steps beside the test -/

/-- A step beside the test that keeps the timers of the other parts regular. -/
structure Beside (engine engine' : Engine) : Prop extends Aside engine engine' where
  regular : engine.network.Regular → engine'.network.Regular

namespace Beside

theorem refl (engine : Engine) : Beside engine engine := ⟨.refl engine, id⟩

theorem trans {a b c : Engine} (h : Beside a b) (h' : Beside b c) : Beside a c :=
  ⟨h.toAside.trans h'.toAside, fun hr => h'.regular (h.regular hr)⟩

theorem turn {engine engine' : Engine} (h : Beside engine engine') : Turn engine engine' :=
  .aside h.toAside h.regular

theorem calm {engine engine' : Engine} (h : Beside engine engine')
    (hcurrent : engine'.network.current = engine.network.current) :
    ReflTransGen Calm engine engine' := .single ⟨h.turn, hcurrent⟩

end Beside

namespace Engine

variable (engine : Engine)

/-- What is silent at the site alone. -/
theorem beside_onSite {f : Site → Site} (h : engine.site.Silent (f engine.site)) :
    Beside engine (engine.onSite f) :=
  ⟨aside_silent h rfl rfl rfl, id⟩

theorem beside_transmit {command : Radio.Command} (h : mapOf? command = none) :
    Beside engine (engine.transmit command) :=
  beside_onSite engine (Site.silent_transmit _ h)

theorem beside_onIncidents {f : Correlator → Correlator}
    (h : ∀ c network, Aside (Correlator.within c network) ((f c).within network)) :
    Beside engine (engine.onIncidents f) :=
  ⟨h ⟨engine.incidents, engine.site⟩ engine.network, id⟩

theorem beside_onNetwork {f : Discovery → Discovery}
    (h : ∀ d incidents, Aside (Discovery.among d incidents) ((f d).among incidents))
    (hregular : ∀ d : Discovery, d.toNetwork.Regular → (f d).toNetwork.Regular) :
    Beside engine (engine.onNetwork f) :=
  ⟨h engine.discovery engine.incidents, hregular engine.discovery⟩

theorem calm_onSite {f : Site → Site} (h : engine.site.Silent (f engine.site)) :
    ReflTransGen Calm engine (engine.onSite f) :=
  (beside_onSite engine h).calm rfl

theorem calm_report (property : Property) (value : Value) :
    ReflTransGen Calm engine (engine.report property value) :=
  calm_onSite engine (Site.silent_report _ _ _ _)

theorem calm_transmit {command : Radio.Command} (h : mapOf? command = none) :
    ReflTransGen Calm engine (engine.transmit command) :=
  (beside_transmit engine h).calm rfl

theorem calm_onNetwork {f : Discovery → Discovery}
    (h : ∀ d incidents, Aside (Discovery.among d incidents) ((f d).among incidents))
    (hregular : ∀ d : Discovery, d.toNetwork.Regular → (f d).toNetwork.Regular)
    (hcurrent : ∀ d : Discovery, (f d).current = d.current) :
    ReflTransGen Calm engine (engine.onNetwork f) :=
  (beside_onNetwork engine h hregular).calm (hcurrent engine.discovery)

/-- The handle of a timer of the test does not matter to it any more when it fires. -/
theorem fire_test (rest : TimerQueue) {kind : TimerKind} (h : kind.place = .missing) :
    (engine.popped rest).fire kind = ({ engine.discovery with
      missingTimer := none, site := { engine.site with timers := rest } }.onTimer kind).among
        engine.incidents := by
  cases kind with
  | testMissingInit | testMissingTimeout | testMissingContinue | testMissingUpdateMap => rfl
  | _ => simp [TimerKind.place] at h

/-- The next timer that is due, as it is found in the queue. -/
theorem popDue_eq {popped : Option Timer} {rest : TimerQueue}
    (hpop : engine.site.timers.popExpired engine.site.clock.now = (popped, rest)) :
    engine.popDue = (popped.map Timer.kind, engine.popped rest) := by
  simp [popDue, Site.popDue, Engine.popped, hpop]

theorem expire_of_due {kind : TimerKind} (hdue : engine.popDue.1 = some kind)
    (hplace : kind.place = .missing) :
    ∃ d, engine.Fires kind d ∧ engine.expire = (d.fireTest kind).among engine.incidents := by
  cases hpop : engine.site.timers.popExpired engine.site.clock.now with
  | mk popped rest =>
    rw [popDue_eq engine hpop] at hdue
    obtain ⟨timer, rfl, rfl⟩ := Option.map_eq_some_iff.1 hdue
    have hfires := Fires.pop hpop hplace
    refine ⟨_, hfires, ?_⟩
    rw [expire_of_some (popDue_eq engine hpop), fire_test engine rest hplace, hfires.onTimer_eq]

/-- The next timer that is due is one of the test, or what it does is beside the test. -/
theorem beside_or_fires : Beside engine engine.expire ∨ ∃ kind d, engine.Fires kind d ∧
    engine.expire = (d.fireTest kind).among engine.incidents := by
  cases hpop : engine.site.timers.popExpired engine.site.clock.now with
  | mk popped rest =>
    have hdue := popDue_eq engine hpop
    cases popped with
    | none =>
      rw [expire_of_none hdue]
      exact .inl (.refl engine)
    | some timer =>
      by_cases hplace : timer.kind.place = .missing
      · obtain ⟨d, hfires, hexpire⟩ := expire_of_due engine (by rw [hdue]; rfl) hplace
        exact .inr ⟨timer.kind, d, hfires, hexpire⟩
      · obtain ⟨haside, hregular⟩ := aside_fire hpop hplace
        rw [expire_of_some hdue]
        exact .inl ⟨haside, hregular⟩

theorem calm_expire : ReflTransGen Calm engine engine.expire := by
  have hcurrent := current_expire engine
  obtain hbeside | ⟨kind, d, hfires, hexpire⟩ := beside_or_fires engine
  · exact hbeside.calm hcurrent
  · rw [hexpire] at hcurrent ⊢
    exact .single ⟨.fire hfires, hcurrent⟩

/-- Every report is beside the test but one of missing slots. -/
theorem beside_dispatch {report : Report} (h : ∀ map, report ≠ .missingNodes map)
    (frame : List UInt8) : Beside engine (engine.dispatch report frame) := by
  unfold dispatch
  cases report with
  | ack | nack | remoteIdNotice => exact .refl engine
  | statusRequest => exact beside_transmit engine rfl
  | sidMap map =>
    exact beside_onNetwork engine (fun d i => d.aside_receiveSidMap i map)
      fun d => d.regular_receiveSidMap map
  | missingNodes map => exact absurd rfl (h map)
  | sidMapUpdate map =>
    exact beside_onNetwork engine (fun d i => d.aside_receiveSidMapUpdate i map) fun _ h => h
  | remoteStatus status =>
    exact beside_onIncidents engine fun c n => c.aside_receiveRemoteStatus n status
  | rumourTarget =>
    exact beside_onNetwork engine (fun d i => d.aside_receiveRumourTarget i) fun _ h => h
  | deviceTested identity =>
    exact beside_onNetwork engine (fun d i => d.aside_receiveIdentity i identity .unknown true)
      fun d => d.regular_receiveIdentity identity .unknown true
  | remoteId identity =>
    exact beside_onNetwork engine (fun d i => d.aside_receiveRemoteId i identity)
      fun d => d.regular_receiveRemoteId identity
  | fault report => exact beside_onIncidents engine fun c n => c.aside_receiveFault n report frame
  | alarm report => exact beside_onIncidents engine fun c n => c.aside_receiveAlarm n report frame
  | slotValue report =>
    exact beside_onIncidents engine fun c n => c.aside_receiveSlotValue n report.id report.value
  | faultDetails report =>
    exact beside_onIncidents engine fun c n =>
      c.aside_receiveFaultDetails n report.id report.faults
  | alarmStop report =>
    exact beside_onIncidents engine fun c n => c.aside_writeAlarm n report.id _ none
  | hush => exact beside_onIncidents engine fun c n => c.aside_receiveHush n
  | locate report =>
    exact beside_onIncidents engine fun c n => c.aside_onSite n (Site.silent_silence _ report.id)
  | radioDiagnostic status =>
    exact beside_onNetwork engine (fun d i => d.aside_receiveDiagnostic i status)
      fun _ h => ⟨h.refresh, h.interrogate, h.learn⟩
  | detectorFault report =>
    exact beside_onIncidents engine fun c n => c.aside_receiveDetectorFault n report.id

theorem beside_checkRepetition (report : Report) :
    Beside engine (engine.checkRepetition report).2 := by
  unfold checkRepetition
  split
  · unfold checkSequence
    dsimp only
    split
    · exact beside_onSite engine (Site.silent_report _ _ _ _)
    · exact .refl engine
  · exact .refl engine

theorem beside_counted (frame : List UInt8) : Beside engine (engine.counted frame) :=
  beside_onSite engine (Site.silent_count _ (by simp))

theorem beside_receive {frame : List UInt8}
    (h : ∀ map, Report.decode frame ≠ .ok (.missingNodes map)) :
    Beside engine (engine.receive frame) := by
  unfold receive
  split
  · exact beside_onSite engine (Site.silent_count _ (by simp))
  · next report hreport =>
    have hcheck := (beside_counted engine frame).trans (beside_checkRepetition _ report)
    dsimp only
    split
    · next heq =>
      rw [counted, heq] at hcheck
      exact hcheck.trans (beside_onSite _ (Site.silent_count _ (by simp)))
    · next heq =>
      rw [counted, heq] at hcheck
      exact hcheck.trans (beside_dispatch _ (fun map hmap => h map (hmap ▸ hreport)) frame)

theorem turns_receive (frame : List UInt8) : ReflTransGen Turn engine (engine.receive frame) := by
  by_cases h : ∃ map, Report.decode frame = .ok (.missingNodes map)
  · obtain ⟨map, hmap⟩ := h
    rw [receive_missingNodes engine hmap]
    exact .tail (.single (beside_counted engine frame).turn) (.report _ map)
  · exact .single (beside_receive engine fun map hmap => h ⟨map, hmap⟩).turn

/-- A frame that tells no SID map is a sequence of calm turns. -/
theorem calm_receive {frame : List UInt8} (h : (Move.receive frame).tellsMap = false) :
    ReflTransGen Calm engine (engine.receive frame) := by
  by_cases hmissing : ∃ map, Report.decode frame = .ok (.missingNodes map)
  · obtain ⟨map, hmap⟩ := hmissing
    rw [receive_missingNodes engine hmap]
    exact .tail ((beside_counted engine frame).calm rfl)
      ⟨.report _ map, (Discovery.testStep_receiveMissing _ map).current⟩
  · exact (beside_receive engine fun map hmap => hmissing ⟨map, hmap⟩).calm
      (current_receive engine (Move.decode_ne_of_not_tellsMap h))

/-! ### Operations and wishes -/

/-- Interrogation gives way to a test, and its last result is forgotten. -/
theorem calm_clearTest : ReflTransGen Calm engine
    (engine.onNetwork fun d => d.suspendInterrogation.clearTestResult) :=
  calm_onNetwork engine
    (fun d i => (d.aside_suspendInterrogation i).trans
      (Discovery.aside_onSite _ i (Site.silent_after _ _)))
    (fun d => d.regular_suspendInterrogation) fun d => d.current_suspendInterrogation

theorem suspendInterrogation_scan (d : Discovery) : d.suspendInterrogation.scan = d.scan := by
  unfold Discovery.suspendInterrogation
  split <;> rfl

theorem onNetwork_congr {f g : Discovery → Discovery} {engine engine' : Engine}
    (h : f engine.discovery = g engine'.discovery) (hi : engine.incidents = engine'.incidents) :
    engine.onNetwork f = engine'.onNetwork g := by
  show (f engine.discovery).among engine.incidents = (g engine'.discovery).among engine'.incidents
  rw [h, hi]

theorem calm_startTest (h : engine.network.scan.active = false) :
    ReflTransGen Calm engine (engine.onNetwork Discovery.startTest) := by
  let cleared := engine.onNetwork fun d => d.suspendInterrogation.clearTestResult
  have hidle : cleared.network.scan.active = false :=
    (congrArg Scan.active (suspendInterrogation_scan engine.discovery)).trans h
  refine (calm_clearTest engine).trans ?_
  by_cases hn : cleared.network.inNetwork
  · have hbegin : engine.onNetwork Discovery.startTest =
        cleared.onNetwork fun d => d.cancelMissing.beginSession :=
      onNetwork_congr (by unfold Discovery.startTest; exact if_pos hn) rfl
    have hstep := (Discovery.testStep_cancelMissing cleared.discovery).trans
      (Discovery.testStep_beginSession _)
    rw [hbegin]
    exact .single ⟨.begin hidle, hstep.current⟩
  · have hend : engine.onNetwork Discovery.startTest = cleared.onNetwork Discovery.endTestMode :=
      onNetwork_congr (by unfold Discovery.startTest; exact if_neg hn) rfl
    rw [hend]
    exact .single ⟨.aside
      (aside_silent (Discovery.silent_endTestMode cleared.discovery) rfl rfl rfl) fun h => h, rfl⟩

theorem calm_setTestMode (enabled delete : Bool) :
    ReflTransGen Calm engine (engine.onNetwork fun d => d.setTestMode enabled delete) := by
  let chosen := engine.onNetwork fun d => { d with scan := { d.scan with delete := delete } }
  refine .head ⟨.choose engine delete, rfl⟩ ?_
  by_cases hsame : enabled = chosen.network.scan.active
  · have hstay : (engine.onNetwork fun d => d.setTestMode enabled delete) =
        chosen.onNetwork id :=
      onNetwork_congr (by unfold Discovery.setTestMode; exact if_pos hsame) rfl
    rw [hstay]
    exact .refl
  · cases enabled with
    | true =>
      have hstart : (engine.onNetwork fun d => d.setTestMode true delete) =
          chosen.onNetwork Discovery.startTest :=
        onNetwork_congr (by unfold Discovery.setTestMode; exact if_neg hsame) rfl
      rw [hstart]
      exact calm_startTest chosen (eq_false_of_ne_true (Ne.symm hsame))
    | false =>
      have hstop : (engine.onNetwork fun d => d.setTestMode false delete) =
          chosen.onNetwork Discovery.cancelSession :=
        onNetwork_congr (by unfold Discovery.setTestMode; exact if_neg hsame) rfl
      rw [hstop]
      exact .single ⟨.stop chosen, chosen.discovery.testStep_cancelSession.current⟩

theorem calm_setLearnMode (enabled : Bool) (seconds : Nat) :
    ReflTransGen Calm engine (engine.onNetwork fun d => d.setLearnMode enabled seconds) :=
  calm_onNetwork engine (fun d i => d.aside_setLearnMode i enabled seconds)
    (fun d => d.regular_setLearnMode enabled seconds)
    (fun d => d.current_setLearnMode enabled seconds)

theorem calm_flush (id : DeviceId) :
    ReflTransGen Calm engine (engine.onNetwork fun d => d.flush id) :=
  .single ⟨.flush engine id, (engine.discovery.testStep_flush id).current⟩

theorem calm_flushAll : ReflTransGen Calm engine (engine.onNetwork Discovery.flushAll) :=
  .single ⟨.flushAll engine, engine.discovery.testStep_flushAll.current⟩

theorem calm_issueTest : ReflTransGen Calm engine engine.issueTest := by
  unfold issueTest
  split
  · exact .refl
  split
  · exact calm_transmit engine rfl
  · exact .refl

theorem calm_identify (id : DeviceId) : ReflTransGen Calm engine (engine.identify id) := by
  unfold identify
  split
  · exact calm_transmit engine rfl
  · exact .refl

theorem calm_wishTest (wish : Value) : ReflTransGen Calm engine (engine.wishTest wish) := by
  unfold wishTest
  split
  · exact .refl
  · exact (calm_report engine _ _).trans ((calm_setTestMode _ _ _).trans
      ((calm_report _ _ _).trans (calm_report _ _ _)))

theorem calm_wishLearn (wish : Value) : ReflTransGen Calm engine (engine.wishLearn wish) := by
  unfold wishLearn
  dsimp only
  split
  · exact (calm_setLearnMode engine _ _).trans
      ((calm_report _ _ _).trans (calm_report _ _ _))
  · exact (calm_report engine _ _).trans (calm_setLearnMode _ _ _)

theorem calm_wishMode (wish : Value) : ReflTransGen Calm engine (engine.wishMode wish) := by
  unfold wishMode
  split
  · split
    · exact calm_setLearnMode engine _ _
    · exact calm_setTestMode engine _ _
    · exact .refl
  · exact .refl

theorem calm_applyGatewayDelta (property : Property) (wish : Value) :
    ReflTransGen Calm engine (engine.applyGatewayDelta property wish) := by
  unfold applyGatewayDelta
  split
  · exact calm_wishTest engine wish
  · exact calm_wishLearn engine wish
  · exact calm_wishMode engine wish
  · exact .refl
  · exact calm_flushAll engine
  · exact (calm_issueTest engine).trans (calm_report _ _ _)
  · exact (calm_transmit engine rfl).trans (calm_report _ _ _)
  · exact (calm_transmit engine rfl).trans (calm_report _ _ _)
  · exact .refl

theorem calm_applyDeviceDelta (id : DeviceId) (property : Property) (wish : Value) :
    ReflTransGen Calm engine (engine.applyDeviceDelta id property wish) := by
  unfold applyDeviceDelta
  split
  · split
    · exact (calm_transmit engine rfl).trans (calm_onSite _ (Site.silent_report _ _ _ _))
    · exact .refl
  · exact (calm_identify engine id).trans (calm_onSite _ (Site.silent_report _ _ _ _))
  · split
    · exact calm_flush engine id
    · exact .refl
  · exact .refl

theorem calm_applyDelta (delta : Delta) :
    ReflTransGen Calm engine (engine.applyDelta delta) := by
  unfold applyDelta
  split
  · exact calm_applyGatewayDelta engine _ _
  · exact calm_applyDeviceDelta engine _ _ _

theorem calm_applyDeltas (deltas : List Delta) :
    ReflTransGen Calm engine (engine.applyDeltas deltas) := by
  obtain ⟨wishes, hwishes⟩ := applyDeltas_eq engine deltas
  rw [hwishes]
  clear hwishes
  induction wishes generalizing engine with
  | nil => exact .refl
  | cons delta wishes ih => exact (calm_applyDelta engine delta).trans (ih _)

theorem calm_control (operation : Control) :
    ReflTransGen Calm engine (engine.control operation) := by
  cases operation with
  | beginScan delete => exact calm_setTestMode engine true delete
  | stopScan => exact calm_setTestMode engine false false
  | issueTest => exact calm_issueTest engine
  | learn enabled seconds => exact calm_setLearnMode engine enabled seconds
  | leave => exact .refl
  | flushAll => exact calm_flushAll engine
  | flush id => exact calm_flush engine id
  | identify id => exact calm_identify engine id
  | silenceAll | locate | sounder => exact calm_transmit engine rfl
  | deltas changes => exact calm_applyDeltas engine changes

theorem calm_fireDue : ReflTransGen Calm engine engine.fireDue := by
  rw [fireDue_eq]
  induction engine.fireLimit generalizing engine with
  | zero => exact .refl
  | succ rounds ih => exact (calm_expire engine).trans (ih _)

/-- What happens around the engine is beside the test. -/
theorem beside_passive {move : Move} (h : move.Passive) : Beside engine (engine.move move) := by
  cases move with
  | desire id property value =>
    have hsilent : engine.site.Silent
        (engine.site.after (engine.site.platform.setDesired id property value)) :=
      Site.silent_after _ _
    exact ⟨aside_silent hsilent rfl rfl rfl, fun h => h⟩
  | advance step => exact ⟨aside_advance engine step, id⟩
  | outages | share | contend => exact ⟨aside_silent ⟨rfl, rfl, rfl, rfl⟩ rfl rfl rfl, id⟩
  | receive | control | wish | expire | fireDue => exact absurd h id

/-- Every move that tells no SID map is a sequence of calm turns. -/
theorem calm_move {move : Move} (h : move.tellsMap = false) :
    ReflTransGen Calm engine (engine.move move) := by
  cases move with
  | receive frame => exact calm_receive engine h
  | control operation => exact calm_control engine operation
  | wish delta => exact calm_applyDelta engine delta
  | expire => exact calm_expire engine
  | fireDue => exact calm_fireDue engine
  | desire | advance | outages | share | contend =>
    exact (beside_passive engine (by trivial)).calm rfl

/-- Every move is a sequence of turns. -/
theorem turns_move (move : Move) : ReflTransGen Turn engine (engine.move move) := by
  cases move with
  | receive frame => exact turns_receive engine frame
  | control | wish | expire | fireDue | desire | advance | outages | share | contend =>
    exact turns_of_calm (calm_move engine rfl)

theorem calm_moves {moves : List Move} (h : ∀ move ∈ moves, move.tellsMap = false) :
    ReflTransGen Calm engine (engine.moves moves) := by
  induction moves generalizing engine with
  | nil => exact .refl
  | cons move moves ih =>
    obtain ⟨hfirst, hrest⟩ := List.forall_mem_cons.1 h
    exact (calm_move engine hfirst).trans (ih _ hrest)

theorem turns_moves (moves : List Move) : ReflTransGen Turn engine (engine.moves moves) := by
  induction moves generalizing engine with
  | nil => exact .refl
  | cons move moves ih => exact (turns_move engine move).trans (ih _)

end Engine

end AlarmMesh.Gateway
