import AlarmMesh.Proofs.Timers.Tied
import Mathlib.Data.List.Pairwise

/-!
# The order in which timers fire

The live timers stand in the order of their deadlines.  A timer that is started takes its place
behind those that are due no later, so it never holds up one that is due already: such a timer
fires once as many others have fired as stood before it.

* `TimerQueue.Sorted` — the order, kept by `sorted_schedule`, `sorted_cancel` and `sorted_pop`;
* `TimerQueue.Within queue timer n` — at most `n` timers fire before this one;
* `within_schedule`, `within_cancel`, `popExpired_of_within` — what the operations of a queue do to
  that;
* `TimerQueue.Follows` — what timers that are started and cancelled at one time leave of a queue.
-/

namespace AlarmMesh.TimerQueue

variable {queue rest : TimerQueue} {timer other : Timer} {n : Nat} {now : Instant}
  {kind : TimerKind} {delay : Duration}

/-! ### The order -/

/-- The live timers stand in the order of their deadlines. -/
def Sorted (queue : TimerQueue) : Prop :=
  queue.live.Pairwise fun earlier later => earlier.deadline ≤ later.deadline

theorem pairwise_place {timers : List Timer}
    (h : timers.Pairwise fun earlier later => earlier.deadline ≤ later.deadline) :
    (place timer timers).Pairwise fun earlier later => earlier.deadline ≤ later.deadline := by
  induction timers with
  | nil => exact List.pairwise_singleton _ _
  | cons head rest ih =>
    obtain ⟨hhead, hrest⟩ := List.pairwise_cons.1 h
    unfold place
    split
    · next hle =>
      refine List.pairwise_cons.2 ⟨?_, ih hrest⟩
      intro later hlater
      rcases mem_place.1 hlater with rfl | hlater
      · exact hle
      · exact hhead later hlater
    · next hlt =>
      have hbefore : timer.deadline ≤ head.deadline := Nat.le_of_lt (Nat.lt_of_not_le hlt)
      refine List.pairwise_cons.2 ⟨?_, h⟩
      intro later hlater
      rcases List.mem_cons.1 hlater with rfl | hlater
      · exact hbefore
      · exact Nat.le_trans hbefore (hhead later hlater)

theorem sorted_schedule (h : queue.Sorted) (now : Instant) (kind : TimerKind) (delay : Duration) :
    (queue.schedule now kind delay).2.Sorted :=
  pairwise_place h

theorem sorted_cancel (h : queue.Sorted) (handle : TimerHandle) :
    (queue.cancel handle).2.Sorted :=
  List.Pairwise.filter _ h

theorem sorted_pop (h : queue.Sorted) (hpop : queue.popExpired now = (some timer, rest)) :
    rest.Sorted := by
  unfold Sorted at h
  rw [(live_of_popExpired hpop).1] at h
  exact (List.pairwise_cons.1 h).2

/-! ### What fires before a timer -/

/-- The timer is live and at most `n` timers fire before it, none of which is due later. -/
def Within (queue : TimerQueue) (timer : Timer) (n : Nat) : Prop :=
  ∃ front back, queue.live = front ++ timer :: back ∧ front.length ≤ n ∧
    ∀ other ∈ front, other.deadline ≤ timer.deadline

theorem within_of_mem (h : queue.Sorted) (hmem : timer ∈ queue.live) :
    queue.Within timer queue.size := by
  obtain ⟨front, back, hlive⟩ := List.append_of_mem hmem
  unfold Sorted at h
  rw [hlive] at h
  obtain ⟨-, -, hbefore⟩ := List.pairwise_append.1 h
  refine ⟨front, back, hlive, ?_, ?_⟩
  · unfold size
    rw [hlive, List.length_append]
    omega
  · intro other hother
    exact hbefore other hother timer List.mem_cons_self

/-- A timer takes its place behind those that are due no later. -/
theorem place_append {front back : List Timer}
    (h : ∀ other ∈ front, other.deadline ≤ timer.deadline) :
    place timer (front ++ back) = front ++ place timer back := by
  induction front with
  | nil => rfl
  | cons head front ih =>
    obtain ⟨hhead, hfront⟩ := List.forall_mem_cons.1 h
    rw [List.cons_append, place, if_pos hhead, ih hfront, List.cons_append]

/-- What is started does not come before a timer that is due no later. -/
theorem within_schedule (h : queue.Within timer n)
    (hdue : timer.deadline ≤ now + delay.nanoseconds) :
    (queue.schedule now kind delay).2.Within timer n := by
  obtain ⟨front, back, hlive, hlength, hbefore⟩ := h
  let new : Timer := ⟨now + delay.nanoseconds, ⟨queue.scheduled⟩, kind⟩
  refine ⟨front, place new back, ?_, hlength, hbefore⟩
  have hfront : ∀ other ∈ front, other.deadline ≤ new.deadline := fun other hother =>
    Nat.le_trans (hbefore other hother) hdue
  have hplace : place new (timer :: back) = timer :: place new back := if_pos hdue
  show place new queue.live = _
  rw [hlive, place_append hfront, hplace]

theorem within_cancel (h : queue.Within timer n) {handle : TimerHandle}
    (hne : timer.handle ≠ handle) : (queue.cancel handle).2.Within timer n := by
  obtain ⟨front, back, hlive, hlength, hbefore⟩ := h
  refine ⟨front.filter fun other => other.handle ≠ handle,
    back.filter fun other => other.handle ≠ handle, ?_, ?_, ?_⟩
  · show List.filter _ queue.live = _
    rw [hlive, List.filter_append, List.filter_cons_of_pos (by simpa using hne)]
  · exact Nat.le_trans (List.length_filter_le _ _) hlength
  · intro other hother
    exact hbefore other (List.mem_of_mem_filter hother)

/-- A timer that is due fires, or another one that stood before it. -/
theorem popExpired_of_within (h : queue.Within timer n) (hdue : timer.deadline ≤ now) :
    ∃ first rest, queue.popExpired now = (some first, rest) ∧
      (first = timer ∨ ∃ m, n = m + 1 ∧ rest.Within timer m) := by
  obtain ⟨front, back, hlive, hlength, hbefore⟩ := h
  cases front with
  | nil =>
    refine ⟨timer, { queue with live := back }, ?_, .inl rfl⟩
    unfold popExpired
    rw [hlive]
    exact if_pos hdue
  | cons first front =>
    obtain ⟨hfirst, hrest⟩ := List.forall_mem_cons.1 hbefore
    have hpositive : n = n - 1 + 1 := by
      rw [List.length_cons] at hlength
      omega
    refine ⟨first, { queue with live := front ++ timer :: back }, ?_, .inr ⟨n - 1, hpositive, ?_⟩⟩
    · unfold popExpired
      rw [hlive]
      exact if_pos (Nat.le_trans hfirst hdue)
    · refine ⟨front, back, rfl, ?_, hrest⟩
      rw [List.length_cons] at hlength
      omega

/-! ### Several operations at one time -/

/-- What becomes of a queue when timers with a property are started and others cancelled, all at one
time. -/
structure Follows (P : Timer → Prop) (now : Instant) (queue later : TimerQueue) : Prop where
  scheduled : queue.scheduled ≤ later.scheduled
  /-- A timer that is live was live before or is new, and then it has the property. -/
  live : ∀ timer ∈ later.live,
    timer ∈ queue.live ∨ queue.scheduled ≤ timer.handle.number ∧ P timer
  sorted : queue.Sorted → later.Sorted
  /-- The queue is not overrun if there is an instant for every deadline that may be asked for. -/
  intact : (∀ timer, P timer → timer.deadline < Instant.limit) → queue.overrun = false →
    later.overrun = false
  /-- No timer that is due by then is held up. -/
  within : ∀ timer n, timer.deadline ≤ now → timer.handle.number < queue.scheduled →
    (timer ∈ queue.live → queue.Within timer n) → timer ∈ later.live → later.Within timer n

variable {P : Timer → Prop} {a b c : TimerQueue}

theorem Follows.refl (P : Timer → Prop) (now : Instant) (queue : TimerQueue) :
    Follows P now queue queue where
  scheduled := Nat.le_refl _
  live _ htimer := .inl htimer
  sorted h := h
  intact _ h := h
  within _ _ _ _ h htimer := h htimer

theorem Follows.trans (h : Follows P now a b) (h' : Follows P now b c) : Follows P now a c where
  scheduled := Nat.le_trans h.scheduled h'.scheduled
  live timer htimer := by
    rcases h'.live timer htimer with hlive | ⟨hnumber, hnew⟩
    · exact h.live timer hlive
    · exact .inr ⟨Nat.le_trans h.scheduled hnumber, hnew⟩
  sorted hsorted := h'.sorted (h.sorted hsorted)
  intact hlimit hintact := h'.intact hlimit (h.intact hlimit hintact)
  within timer n hdue hnumber hwithin :=
    h'.within timer n hdue (Nat.lt_of_lt_of_le hnumber h.scheduled)
      (h.within timer n hdue hnumber hwithin)

theorem follows_schedule (queue : TimerQueue)
    (h : P ⟨now + delay.nanoseconds, ⟨queue.scheduled⟩, kind⟩) :
    Follows P now queue (queue.schedule now kind delay).2 where
  scheduled := Nat.le_succ _
  live timer htimer := by
    rcases mem_schedule.1 htimer with rfl | hlive
    · exact .inr ⟨Nat.le_refl _, h⟩
    · exact .inl hlive
  sorted hsorted := sorted_schedule hsorted now kind delay
  intact hlimit hintact := by
    have hfits : Instant.fits now delay := Instant.fits_iff.2 (hlimit _ h)
    show (queue.overrun || !Instant.fits now delay) = false
    rw [hintact, hfits]
    rfl
  within timer n hdue hnumber hwithin htimer := by
    rcases mem_schedule.1 htimer with rfl | hlive
    · exact absurd hnumber (Nat.lt_irrefl _)
    · exact within_schedule (hwithin hlive) (Nat.le_trans hdue (Nat.le_add_right _ _))

theorem follows_cancel (P : Timer → Prop) (now : Instant) (queue : TimerQueue)
    (handle : TimerHandle) : Follows P now queue (queue.cancel handle).2 where
  scheduled := Nat.le_refl _
  live timer htimer := .inl (mem_cancel.1 htimer).1
  sorted hsorted := sorted_cancel hsorted handle
  intact _ hintact := hintact
  within timer n _ _ hwithin htimer := by
    obtain ⟨hlive, hne⟩ := mem_cancel.1 htimer
    exact within_cancel (hwithin hlive) hne

end AlarmMesh.TimerQueue
