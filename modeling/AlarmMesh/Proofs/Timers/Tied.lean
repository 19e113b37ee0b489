import AlarmMesh.Time.TimerQueue
import Mathlib.Data.List.Nodup
import Mathlib.Logic.Function.Basic

/-!
# Timers and the places that hold their handles

Every kind of timer belongs to a place that keeps the handle of the one live timer of these kinds,
or none.

* `TimerKind.place` — the place of a kind; the four kinds of a missing-node test share one;
* `Tied queue held` — the live timers are exactly the timers held, `held` giving the handle at
  each place;
* `Tied.cancel`, `Tied.schedule`, `Tied.pop` — what the operations of a queue do to that;
* `Tied.map_handle_liveAt`, `Tied.liveAt_eq` — the live timers of a place, as a list.
-/

namespace AlarmMesh

/-- A place that keeps the handle of a timer. -/
inductive TimerPlace where
  /-- The next request for the SID map. -/
  | refresh
  /-- The next step of the missing-node test. -/
  | missing
  /-- The end of learn mode. -/
  | learn
  /-- The next question to an unknown slot. -/
  | interrogate
  /-- The pending fault of a device. -/
  | fault (id : Radio.DeviceId)
  /-- The pending alarm of a device. -/
  | alarm (id : Radio.DeviceId)
  deriving DecidableEq, Repr

/-- The place that keeps the timers of a kind. -/
def TimerKind.place : TimerKind → TimerPlace
  | retrieveSidMap => .refresh
  | testMissingInit | testMissingTimeout | testMissingContinue | testMissingUpdateMap => .missing
  | learnModeTimeout => .learn
  | interrogate => .interrogate
  | faultTimeout id => .fault id
  | alarmTimeout id => .alarm id

namespace TimerQueue

/-- The live timers of a place. -/
def liveAt (queue : TimerQueue) (place : TimerPlace) : List Timer :=
  queue.live.filter fun timer => timer.kind.place = place

/-- The live timers are the timers held, and no two of them have one handle. -/
structure Tied (queue : TimerQueue) (held : TimerPlace → Option TimerHandle) : Prop where
  /-- A handle to come is new. -/
  fresh : ∀ timer ∈ queue.live, timer.handle.number < queue.scheduled
  distinct : (queue.live.map Timer.handle).Nodup
  kept : ∀ timer ∈ queue.live, held timer.kind.place = some timer.handle
  alive : ∀ place handle, held place = some handle →
    ∃ timer ∈ queue.live, timer.handle = handle ∧ timer.kind.place = place

variable {queue rest : TimerQueue} {held : TimerPlace → Option TimerHandle}

theorem tied_empty : Tied {} fun _ => none where
  fresh := by simp
  distinct := by simp
  kept := by simp
  alive := by simp

/-! ## What is live after an operation -/

theorem mem_schedule {now : Instant} {kind : TimerKind} {delay : Duration} {timer : Timer} :
    timer ∈ (queue.schedule now kind delay).2.live ↔
      timer = ⟨now + delay.nanoseconds, ⟨queue.scheduled⟩, kind⟩ ∨ timer ∈ queue.live :=
  mem_place

theorem mem_cancel {handle : TimerHandle} {timer : Timer} :
    timer ∈ (queue.cancel handle).2.live ↔ timer ∈ queue.live ∧ timer.handle ≠ handle := by
  simp [TimerQueue.cancel, List.mem_filter]

/-- What fires is the first live timer, and the others stay. -/
theorem live_of_popExpired {now : Instant} {timer : Timer}
    (h : queue.popExpired now = (some timer, rest)) :
    queue.live = timer :: rest.live ∧ rest.scheduled = queue.scheduled := by
  unfold popExpired at h
  split at h
  · simp at h
  · split at h
    · obtain ⟨h1, h2⟩ := Prod.mk.inj h
      obtain rfl := Option.some.inj h1
      subst h2
      exact ⟨by assumption, rfl⟩
    · simp at h

/-- What fires is due. -/
theorem deadline_le_of_popExpired {now : Instant} {timer : Timer}
    (h : queue.popExpired now = (some timer, rest)) : timer.deadline ≤ now := by
  unfold popExpired at h
  split at h
  · simp at h
  · split at h
    · next hdue =>
      obtain rfl := Option.some.inj (Prod.mk.inj h).1
      exact hdue
    · simp at h

/-- Firing needs no new deadline. -/
theorem overrun_popExpired (queue : TimerQueue) (now : Instant) :
    (queue.popExpired now).2.overrun = queue.overrun := by
  unfold popExpired
  split
  · rfl
  · split <;> rfl

theorem place_perm (timer : Timer) (timers : List Timer) :
    (place timer timers).Perm (timer :: timers) := by
  induction timers with
  | nil => exact .refl _
  | cons head rest ih =>
    unfold place
    split
    · exact (ih.cons head).trans (.swap timer head rest)
    · exact .refl _

namespace Tied

/-- Live timers with one handle are one timer. -/
theorem eq_of_handle (h : Tied queue held) {a b : Timer} (ha : a ∈ queue.live)
    (hb : b ∈ queue.live) (hab : a.handle = b.handle) : a = b :=
  List.inj_on_of_nodup_map h.distinct ha hb hab

/-- A timer of a place has the handle that is held there. -/
theorem handle_eq (h : Tied queue held) {timer : Timer} (ht : timer ∈ queue.live)
    {place : TimerPlace} {handle : TimerHandle} (hp : timer.kind.place = place)
    (hh : held place = some handle) : timer.handle = handle := by
  have := h.kept timer ht
  rw [hp, hh] at this
  exact (Option.some.inj this).symm

/-- A place without a handle has no live timer. -/
theorem place_ne (h : Tied queue held) {timer : Timer} (ht : timer ∈ queue.live)
    {place : TimerPlace} (hh : held place = none) : timer.kind.place ≠ place := by
  rintro rfl
  rw [h.kept timer ht] at hh
  simp at hh

/-! ## The operations -/

theorem cancel (h : Tied queue held) {place : TimerPlace} {handle : TimerHandle}
    (hh : held place = some handle) :
    Tied (queue.cancel handle).2 (Function.update held place none) where
  fresh timer ht := h.fresh timer (mem_cancel.1 ht).1
  distinct := h.distinct.sublist (List.filter_sublist.map _)
  kept timer ht := by
    obtain ⟨ht, hne⟩ := mem_cancel.1 ht
    have hp : timer.kind.place ≠ place := fun hp => hne (h.handle_eq ht hp hh)
    rw [Function.update_of_ne hp]
    exact h.kept timer ht
  alive other handle' ho := by
    have hne : other ≠ place := by
      rintro rfl
      simp at ho
    rw [Function.update_of_ne hne] at ho
    obtain ⟨timer, ht, rfl, hp⟩ := h.alive other handle' ho
    refine ⟨timer, mem_cancel.2 ⟨ht, fun he => hne ?_⟩, rfl, hp⟩
    -- the timer cancelled would be of both places
    obtain ⟨timer', ht', he', hp'⟩ := h.alive place handle hh
    rw [← hp, ← hp', h.eq_of_handle ht ht' (he.trans he'.symm)]

theorem schedule (h : Tied queue held) (now : Instant) {kind : TimerKind} (delay : Duration)
    (hh : held kind.place = none) :
    Tied (queue.schedule now kind delay).2
      (Function.update held kind.place (some (queue.schedule now kind delay).1)) where
  fresh timer ht := by
    rcases mem_schedule.1 ht with rfl | ht
    · exact Nat.lt_succ_self _
    · exact Nat.lt_succ_of_lt (h.fresh timer ht)
  distinct := by
    refine ((place_perm _ queue.live).map Timer.handle).nodup_iff.2 ?_
    refine List.nodup_cons.2 ⟨fun hnew => ?_, h.distinct⟩
    obtain ⟨other, ho, he⟩ := List.mem_map.1 hnew
    have := h.fresh other ho
    rw [he] at this
    exact Nat.lt_irrefl _ this
  kept timer ht := by
    rcases mem_schedule.1 ht with rfl | ht
    · simp [TimerQueue.schedule]
    · rw [Function.update_of_ne (h.place_ne ht hh)]
      exact h.kept timer ht
  alive place handle hp := by
    by_cases hk : place = kind.place
    · subst hk
      rw [Function.update_self] at hp
      exact ⟨_, mem_schedule.2 (.inl rfl), Option.some.inj hp, rfl⟩
    · rw [Function.update_of_ne hk] at hp
      obtain ⟨timer, ht, he⟩ := h.alive place handle hp
      exact ⟨timer, mem_schedule.2 (.inr ht), he⟩

/-- What fires was held at its place, where nothing is live any more. -/
theorem pop (h : Tied queue held) {now : Instant} {timer : Timer}
    (hpop : queue.popExpired now = (some timer, rest)) :
    Tied rest (Function.update held timer.kind.place none) := by
  obtain ⟨hlive, hscheduled⟩ := live_of_popExpired hpop
  have hmem : ∀ other ∈ rest.live, other ∈ queue.live := fun other ho => by simp [hlive, ho]
  have htimer : timer ∈ queue.live := by simp [hlive]
  have hdistinct := h.distinct
  rw [hlive, List.map_cons, List.nodup_cons] at hdistinct
  refine ⟨fun other ho => hscheduled ▸ h.fresh other (hmem other ho), hdistinct.2,
    fun other ho => ?_, fun place handle hp => ?_⟩
  · have hne : other.kind.place ≠ timer.kind.place := fun hp =>
      hdistinct.1 (List.mem_map.2 ⟨other, ho, h.handle_eq (hmem other ho) hp (h.kept timer htimer)⟩)
    rw [Function.update_of_ne hne]
    exact h.kept other (hmem other ho)
  · have hne : place ≠ timer.kind.place := by
      rintro rfl
      simp at hp
    rw [Function.update_of_ne hne] at hp
    obtain ⟨other, ho, he, hk⟩ := h.alive place handle hp
    rw [hlive, List.mem_cons] at ho
    rcases ho with rfl | ho
    · exact absurd hk.symm hne
    · exact ⟨other, ho, he, hk⟩

/-! ## The timers of a place -/

/-- The live timers of a place are the one that is held there, if there is one. -/
theorem map_handle_liveAt (h : Tied queue held) (place : TimerPlace) :
    (queue.liveAt place).map Timer.handle = (held place).toList := by
  have hmem : ∀ timer, timer ∈ queue.liveAt place ↔
      timer ∈ queue.live ∧ timer.kind.place = place := by simp [liveAt, List.mem_filter]
  cases hp : held place with
  | none =>
    have : queue.liveAt place = [] := List.eq_nil_iff_forall_not_mem.2 fun timer ht =>
      h.place_ne ((hmem timer).1 ht).1 hp ((hmem timer).1 ht).2
    simp [this]
  | some handle =>
    obtain ⟨timer, ht, rfl, hk⟩ := h.alive place handle hp
    have hdistinct : ((queue.liveAt place).map Timer.handle).Nodup :=
      h.distinct.sublist (List.filter_sublist.map _)
    have hall : ∀ other ∈ queue.liveAt place, other.handle = timer.handle := fun other ho =>
      h.handle_eq ((hmem other).1 ho).1 ((hmem other).1 ho).2 hp
    rcases hl : queue.liveAt place with _ | ⟨a, _ | ⟨b, l⟩⟩
    · exact absurd ((hmem timer).2 ⟨ht, hk⟩) (by simp [hl])
    · simp [hall a (by simp [hl])]
    · rw [hl] at hdistinct
      have hab : a.handle = b.handle :=
        (hall a (by simp [hl])).trans (hall b (by simp [hl])).symm
      simp [hab] at hdistinct

/-- A live timer is the only one of its place. -/
theorem liveAt_eq (h : Tied queue held) {timer : Timer} (ht : timer ∈ queue.live)
    {place : TimerPlace} (hp : timer.kind.place = place) : queue.liveAt place = [timer] := by
  have hhandles := h.map_handle_liveAt place
  rw [← hp, h.kept timer ht, hp, Option.toList_some, List.map_eq_singleton_iff] at hhandles
  obtain ⟨other, hother, hhandle⟩ := hhandles
  have hlive : other ∈ queue.live := by
    have hmem : other ∈ queue.liveAt place := by rw [hother]; exact List.mem_cons_self
    exact List.mem_of_mem_filter hmem
  rw [hother, h.eq_of_handle hlive ht hhandle]

end Tied

end TimerQueue

end AlarmMesh
