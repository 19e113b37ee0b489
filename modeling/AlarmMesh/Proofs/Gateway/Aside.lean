import AlarmMesh.Proofs.Gateway.Run
import AlarmMesh.Proofs.Gateway.Silent
import AlarmMesh.Proofs.Timers.Tied

/-!
# What happens beside the missing-node test

Most of what the engine does leaves the missing-node test alone.  Such a step sends no SID map,
ends no session and starts no timer of the test, and it keeps the timers tied to their places.

* `held` — the handle at each place;
* `Engine.Tied` — the live timers are those whose handles are kept;
* `Aside engine engine'` — a step beside the test;
* `aside_silent`, `aside_restartRefresh`, … — what such steps are made of.
-/

namespace AlarmMesh.Gateway

open Radio (Command DeviceId)
open Shadow (Property Table Value)

/-- The handle that is kept at a place. -/
def held (network : Network) (incidents : Incidents) : TimerPlace → Option TimerHandle
  | .refresh => network.refreshTimer
  | .missing => network.missingTimer
  | .learn => network.learnTimer
  | .interrogate => network.interrogateTimer
  | .fault id => (incidents.faults.get? id).map PendingFault.timer
  | .alarm id => (incidents.alarms.get? id).map PendingAlarm.timer

/-- The live timers are those whose handles are kept. -/
def Engine.Tied (engine : Engine) : Prop :=
  engine.site.timers.Tied (held engine.network engine.incidents)

/-- Discovery as a part of the engine. -/
def Engine.discovery (engine : Engine) : Discovery :=
  { toNetwork := engine.network, site := engine.site }

/-- The engine that discovery is a part of, beside pending records. -/
def Discovery.among (d : Discovery) (incidents : Incidents) : Engine :=
  { site := d.site, network := d.toNetwork, incidents := incidents }

theorem discovery_among (d : Discovery) (incidents : Incidents) :
    (d.among incidents).discovery = d := rfl

/-- The engine that pending records are a part of, beside discovery. -/
def Correlator.within (c : Correlator) (network : Network) : Engine :=
  { site := c.site, network := network, incidents := c.toIncidents }

/-! ### One place changes -/

section Held

variable (network : Network) (incidents : Incidents) (handle : Option TimerHandle)

theorem held_refresh : held { network with refreshTimer := handle } incidents =
    Function.update (held network incidents) .refresh handle := by
  funext place
  cases place <;> simp [held]

theorem held_missing : held { network with missingTimer := handle } incidents =
    Function.update (held network incidents) .missing handle := by
  funext place
  cases place <;> simp [held]

theorem held_learn : held { network with learnTimer := handle } incidents =
    Function.update (held network incidents) .learn handle := by
  funext place
  cases place <;> simp [held]

theorem held_interrogate : held { network with interrogateTimer := handle } incidents =
    Function.update (held network incidents) .interrogate handle := by
  funext place
  cases place <;> simp [held]

theorem held_putFault (id : DeviceId) (pending : PendingFault) :
    held network { incidents with faults := incidents.faults.put id pending } =
      Function.update (held network incidents) (.fault id) (some pending.timer) := by
  funext place
  cases place with
  | fault other =>
    rcases eq_or_ne id other with rfl | h
    · simp [held, Table.get?_put]
    · simp [held, Table.get?_put, h, h.symm]
  | _ => simp [held]

theorem held_eraseFault (id : DeviceId) :
    held network { incidents with faults := incidents.faults.erase id } =
      Function.update (held network incidents) (.fault id) none := by
  funext place
  cases place with
  | fault other =>
    rcases eq_or_ne id other with rfl | h
    · simp [held, Table.get?_erase]
    · simp [held, Table.get?_erase, h, h.symm]
  | _ => simp [held]

theorem held_putAlarm (id : DeviceId) (pending : PendingAlarm) :
    held network { incidents with alarms := incidents.alarms.put id pending } =
      Function.update (held network incidents) (.alarm id) (some pending.timer) := by
  funext place
  cases place with
  | alarm other =>
    rcases eq_or_ne id other with rfl | h
    · simp [held, Table.get?_put]
    · simp [held, Table.get?_put, h, h.symm]
  | _ => simp [held]

theorem held_eraseAlarm (id : DeviceId) :
    held network { incidents with alarms := incidents.alarms.erase id } =
      Function.update (held network incidents) (.alarm id) none := by
  funext place
  cases place with
  | alarm other =>
    rcases eq_or_ne id other with rfl | h
    · simp [held, Table.get?_erase]
    · simp [held, Table.get?_erase, h, h.symm]
  | _ => simp [held]

end Held

/-! ### The timers of a site -/

namespace Site

variable {site : Site} {held : TimerPlace → Option TimerHandle}

theorem tied_cancel (h : site.timers.Tied held) (place : TimerPlace) :
    (site.cancel (held place)).timers.Tied (Function.update held place none) := by
  cases hp : held place with
  | none =>
    rw [← hp, Function.update_eq_self]
    simpa [cancel, hp] using h
  | some handle => exact h.cancel hp

theorem tied_restart (h : site.timers.Tied held) (kind : TimerKind) (delay : Duration) :
    (site.restart (held kind.place) kind delay).2.timers.Tied
      (Function.update held kind.place (some (site.restart (held kind.place) kind delay).1)) := by
  have := (tied_cancel h kind.place).schedule (site.cancel (held kind.place)).clock.now delay
    (Function.update_self kind.place none held)
  rw [Function.update_idem] at this
  exact this

theorem mem_cancel {handle : Option TimerHandle} {timer : Timer}
    (h : timer ∈ (site.cancel handle).timers.live) : timer ∈ site.timers.live := by
  cases handle with
  | none => exact h
  | some handle => exact (TimerQueue.mem_cancel.1 h).1

theorem mem_restart {handle : Option TimerHandle} {kind : TimerKind} {delay : Duration}
    {timer : Timer} (h : timer ∈ (site.restart handle kind delay).2.timers.live) :
    timer.kind = kind ∨ timer ∈ site.timers.live := by
  rcases TimerQueue.mem_schedule.1 h with rfl | h
  · exact .inl rfl
  · exact .inr (mem_cancel h)

/-- The timer that a restart starts. -/
theorem exists_restart (site : Site) (handle : Option TimerHandle) (kind : TimerKind)
    (delay : Duration) : ∃ timer ∈ (site.restart handle kind delay).2.timers.live,
      timer.kind = kind ∧ timer.handle = (site.restart handle kind delay).1 :=
  ⟨_, TimerQueue.mem_schedule.2 (.inl rfl), rfl, rfl⟩

theorem cancel_maps (site : Site) (handle : Option TimerHandle) :
    (site.cancel handle).maps = site.maps := by
  cases handle <;> rfl

theorem cancel_platform (site : Site) (handle : Option TimerHandle) :
    (site.cancel handle).platform = site.platform := by
  cases handle <;> rfl

theorem cancel_hasBuffer (site : Site) (handle : Option TimerHandle) :
    (site.cancel handle).hasBuffer = site.hasBuffer := by
  cases handle <;> rfl

theorem cancel_clock (site : Site) (handle : Option TimerHandle) :
    (site.cancel handle).clock = site.clock := by
  cases handle <;> rfl

theorem cancel_completed (site : Site) (handle : Option TimerHandle) :
    (site.cancel handle).completed = site.completed := by
  cases handle <;> rfl

end Site

/-! ### Steps beside the test -/

/-- A step beside the missing-node test. -/
structure Aside (engine engine' : Engine) : Prop where
  /-- Time does not go back. -/
  now : engine.site.clock.now ≤ engine'.site.clock.now
  maps : engine'.site.maps = engine.site.maps
  completed : engine'.site.completed = engine.site.completed
  settings : engine'.network.settings = engine.network.settings
  scan : engine'.network.scan = engine.network.scan
  handle : engine'.network.missingTimer = engine.network.missingTimer
  missing : ∀ timer ∈ engine'.site.timers.live, timer.kind.place = .missing →
    timer ∈ engine.site.timers.live
  tied : engine.Tied → engine'.Tied

namespace Aside

theorem refl (engine : Engine) : Aside engine engine :=
  ⟨Nat.le_refl _, rfl, rfl, rfl, rfl, rfl, fun _ h _ => h, id⟩

theorem trans {a b c : Engine} (h : Aside a b) (h' : Aside b c) : Aside a c where
  now := Nat.le_trans h.now h'.now
  maps := h'.maps.trans h.maps
  completed := h'.completed.trans h.completed
  settings := h'.settings.trans h.settings
  scan := h'.scan.trans h.scan
  handle := h'.handle.trans h.handle
  missing timer ht hk := h.missing timer (h'.missing timer ht hk) hk
  tied ht := h'.tied (h.tied ht)

end Aside

/-- What is silent at the site and changes neither the test nor a handle is beside the test. -/
theorem aside_silent {engine engine' : Engine} (hsite : engine.site.Silent engine'.site)
    (hsettings : engine'.network.settings = engine.network.settings)
    (hscan : engine'.network.scan = engine.network.scan)
    (hheld : held engine'.network engine'.incidents = held engine.network engine.incidents) :
    Aside engine engine' where
  now := Nat.le_of_eq (congrArg Clock.now hsite.clock.symm)
  maps := hsite.maps
  completed := hsite.completed
  settings := hsettings
  scan := hscan
  handle := congrFun hheld .missing
  missing timer ht _ := hsite.timers ▸ ht
  tied h := by
    unfold Engine.Tied
    rw [hheld, hsite.timers]
    exact h

theorem aside_restart {engine engine' : Engine} (kind : TimerKind) {delay : Duration}
    (hplace : kind.place ≠ .missing)
    (hsite : engine'.site =
      (engine.site.restart (held engine.network engine.incidents kind.place) kind delay).2)
    (hsettings : engine'.network.settings = engine.network.settings)
    (hscan : engine'.network.scan = engine.network.scan)
    (hheld : held engine'.network engine'.incidents =
      Function.update (held engine.network engine.incidents) kind.place
        (some (engine.site.restart (held engine.network engine.incidents kind.place) kind
          delay).1)) :
    Aside engine engine' where
  now := by rw [hsite]; exact Nat.le_of_eq (congrArg Clock.now (Site.cancel_clock _ _).symm)
  maps := by rw [hsite]; exact Site.cancel_maps _ _
  completed := by rw [hsite]; exact Site.cancel_completed _ _
  settings := hsettings
  scan := hscan
  handle := (congrFun hheld .missing).trans (Function.update_of_ne hplace.symm _ _)
  missing timer ht hk := by
    rw [hsite] at ht
    rcases Site.mem_restart ht with rfl | ht
    · exact absurd hk hplace
    · exact ht
  tied h := by
    unfold Engine.Tied
    rw [hheld, hsite]
    exact Site.tied_restart h kind delay

theorem aside_schedule {engine engine' : Engine} (kind : TimerKind) (delay : Duration)
    (hplace : kind.place ≠ .missing)
    (hfree : held engine.network engine.incidents kind.place = none)
    (hsite : engine'.site = (engine.site.schedule kind delay).2)
    (hsettings : engine'.network.settings = engine.network.settings)
    (hscan : engine'.network.scan = engine.network.scan)
    (hheld : held engine'.network engine'.incidents =
      Function.update (held engine.network engine.incidents) kind.place
        (some (engine.site.schedule kind delay).1)) :
    Aside engine engine' := by
  -- an empty place has nothing to cancel
  have hrestart : engine.site.restart (held engine.network engine.incidents kind.place) kind delay =
      engine.site.schedule kind delay := by
    rw [hfree]
    rfl
  rw [← hrestart] at hsite hheld
  exact aside_restart kind hplace hsite hsettings hscan hheld

theorem aside_cancel {engine engine' : Engine} (place : TimerPlace) (hplace : place ≠ .missing)
    (hsite : engine'.site = engine.site.cancel (held engine.network engine.incidents place))
    (hsettings : engine'.network.settings = engine.network.settings)
    (hscan : engine'.network.scan = engine.network.scan)
    (hheld : held engine'.network engine'.incidents =
      Function.update (held engine.network engine.incidents) place none) :
    Aside engine engine' where
  now := by rw [hsite]; exact Nat.le_of_eq (congrArg Clock.now (Site.cancel_clock _ _).symm)
  maps := by rw [hsite]; exact Site.cancel_maps _ _
  completed := by rw [hsite]; exact Site.cancel_completed _ _
  settings := hsettings
  scan := hscan
  handle := (congrFun hheld .missing).trans (Function.update_of_ne hplace.symm _ _)
  missing timer ht _ := by
    rw [hsite] at ht
    exact Site.mem_cancel ht
  tied h := by
    unfold Engine.Tied
    rw [hheld, hsite]
    exact Site.tied_cancel h place

/-- A timer beside the test fires, and its place is cleared. -/
theorem aside_pop {engine engine' : Engine} {rest : TimerQueue} {timer : Timer}
    (hpop : engine.site.timers.popExpired engine.site.clock.now = (some timer, rest))
    (hplace : timer.kind.place ≠ .missing)
    (hsite : engine'.site = { engine.site with timers := rest })
    (hsettings : engine'.network.settings = engine.network.settings)
    (hscan : engine'.network.scan = engine.network.scan)
    (hheld : held engine'.network engine'.incidents =
      Function.update (held engine.network engine.incidents) timer.kind.place none) :
    Aside engine engine' where
  now := Nat.le_of_eq (congrArg (·.clock.now) hsite.symm)
  maps := by rw [hsite]; rfl
  completed := by rw [hsite]; rfl
  settings := hsettings
  scan := hscan
  handle := (congrFun hheld .missing).trans (Function.update_of_ne hplace.symm _ _)
  missing other ho _ := by
    rw [hsite] at ho
    simp [(TimerQueue.live_of_popExpired hpop).1, show other ∈ rest.live from ho]
  tied h := by
    unfold Engine.Tied
    rw [hheld, hsite]
    exact TimerQueue.Tied.pop h hpop

/-- Time passes. -/
theorem aside_advance (engine : Engine) (step : Duration) :
    Aside engine (engine.move (.advance step)) :=
  { Aside.refl engine with now := Nat.le_add_right _ _ }

/-! ### Discovery -/

namespace Discovery

variable (d : Discovery) (incidents : Incidents)

theorem aside_onSite {f : Site → Site} (h : d.site.Silent (f d.site)) :
    Aside (d.among incidents) ((d.onSite f).among incidents) :=
  aside_silent h rfl rfl rfl

theorem aside_transmit {command : Command} (h : mapOf? command = none) :
    Aside (d.among incidents) ((d.transmit command).among incidents) :=
  aside_silent (Site.silent_send _ h) rfl rfl rfl

theorem aside_restartRefresh (delay : Duration) :
    Aside (d.among incidents) ((d.restartRefresh delay).among incidents) :=
  aside_restart .retrieveSidMap (by simp [TimerKind.place]) rfl rfl rfl
    (held_refresh _ _ _)

theorem aside_restartLearn (delay : Duration) :
    Aside (d.among incidents) ((d.restartLearn delay).among incidents) :=
  aside_restart .learnModeTimeout (by simp [TimerKind.place]) rfl rfl rfl
    (held_learn _ _ _)

theorem aside_cancelLearn : Aside (d.among incidents) (d.cancelLearn.among incidents) :=
  aside_cancel .learn (by simp) rfl rfl rfl (held_learn _ _ _)

theorem aside_restartInterrogate (delay : Duration) :
    Aside (d.among incidents) ((d.restartInterrogate delay).among incidents) :=
  aside_restart .interrogate (by simp [TimerKind.place]) rfl rfl rfl
    (held_interrogate _ _ _)

theorem aside_cancelInterrogate :
    Aside (d.among incidents) (d.cancelInterrogate.among incidents) :=
  aside_cancel .interrogate (by simp) rfl rfl rfl (held_interrogate _ _ _)

end Discovery

end AlarmMesh.Gateway
