import AlarmMesh.Proofs.Shadow.Store
import AlarmMesh.Proofs.Timers.Tied
import AlarmMesh.Time.LazyQueue

/-!
# A heap that is cleaned late answers as the list of live timers does

The heap of a `LazyQueue` still holds entries of timers that were cancelled.  Without them it is the
list of the live timers in the order in which they fire, and the table says what these timers mean.
So the two queues answer every call alike, whatever was called before, up to one that fails because
there is no instant for the deadline.

* `TimerCall`, `TimerAnswer`, `answers` — what is asked of a queue, and what it says;
* `TimerCall.fits` — there is an instant for the deadline that is asked for;
* `LazyQueue.Coupled` — the heap and the table against the live timers;
* `LazyQueue.Coupled.call` — a call leaves the queues coupled and is answered alike;
* `LazyQueue.answers_eq` — so is every list of calls.
-/

namespace AlarmMesh

/-- A call of a queue of timers. -/
inductive TimerCall where
  | schedule (now : Instant) (kind : TimerKind) (delay : Duration)
  | cancel (handle : TimerHandle)
  | isPending (handle : TimerHandle)
  | nextDeadline
  | popExpired (now : Instant)
  | size
  deriving DecidableEq, Repr

/-- What a queue of timers answers. -/
inductive TimerAnswer where
  | scheduled (handle : TimerHandle)
  | pending (is : Bool)
  | deadline (first : Option Instant)
  | fired (timer : Option (TimerHandle × TimerKind))
  | count (n : Nat)
  deriving DecidableEq, Repr

/-- If the call starts a timer, there is an instant for its deadline. -/
def TimerCall.fits : TimerCall → Bool
  | .schedule now _ delay => Instant.fits now delay
  | _ => true

/-- The answers to calls, one after the other, up to a call that fails. -/
def answers {Queue : Type} (call : Queue → TimerCall → Option (TimerAnswer × Queue))
    (queue : Queue) : List TimerCall → List TimerAnswer
  | [] => []
  | asked :: calls =>
    match call queue asked with
    | some (answer, later) => answer :: answers call later calls
    | none => []

namespace TimerQueue

/-- What is asked of the list of live timers, and what becomes of it. -/
def perform (queue : TimerQueue) : TimerCall → TimerAnswer × TimerQueue
  | .schedule now kind delay => (queue.schedule now kind delay).map .scheduled id
  | .cancel handle => (queue.cancel handle).map .pending id
  | .isPending handle => (.pending (queue.isPending handle), queue)
  | .nextDeadline => (.deadline queue.nextDeadline, queue)
  | .popExpired now =>
    (queue.popExpired now).map (fun timer => .fired (timer.map fun t => (t.handle, t.kind))) id
  | .size => (.count queue.size, queue)

/-- A call of the list of live timers.  It fails if it leaves the queue overrun. -/
def call (queue : TimerQueue) (asked : TimerCall) : Option (TimerAnswer × TimerQueue) :=
  if (queue.perform asked).2.overrun then none else some (queue.perform asked)

theorem overrun_perform (queue : TimerQueue) (asked : TimerCall) :
    (queue.perform asked).2.overrun = (queue.overrun || !asked.fits) := by
  have hkept : queue.overrun = (queue.overrun || !true) := (Bool.or_false _).symm
  cases asked with
  | schedule now kind delay => rfl
  | popExpired now => exact (overrun_popExpired queue now).trans hkept
  | _ => exact hkept

theorem call_of_fits {queue : TimerQueue} {asked : TimerCall} (h : queue.overrun = false)
    (hfits : asked.fits) : queue.call asked = some (queue.perform asked) :=
  if_neg (by rw [overrun_perform, h, hfits]; decide)

theorem call_of_not_fits (queue : TimerQueue) {asked : TimerCall} (hfits : ¬ asked.fits) :
    queue.call asked = none := by
  have hnot : asked.fits = false := eq_false_of_ne_true hfits
  exact if_pos (by rw [overrun_perform, hnot]; exact Bool.or_true _)

end TimerQueue

namespace LazyQueue

/-- A call of the heap and its table. -/
def call (queue : LazyQueue) : TimerCall → Option (TimerAnswer × LazyQueue)
  | .schedule now kind delay =>
    (queue.schedule now kind delay).map fun scheduled => scheduled.map .scheduled id
  | .cancel handle => some ((queue.cancel handle).map .pending id)
  | .isPending handle => some (.pending (queue.isPending handle), queue)
  | .nextDeadline => some (queue.nextDeadline.map .deadline id)
  | .popExpired now => some ((queue.popExpired now).map .fired id)
  | .size => some (.count queue.size, queue)

/-! ### Heaps -/

/-- What the heap keeps of a timer. -/
def dueOf (timer : Timer) : HeapEntry := ⟨timer.deadline, timer.handle.number⟩

/-- What the table keeps of a timer. -/
def meaningOf (timer : Timer) : Nat × TimerKind := (timer.handle.number, timer.kind)

theorem le_trans {a b c : HeapEntry} (hab : a.le b) (hbc : b.le c) : a.le c := by
  unfold HeapEntry.le at *
  grind

theorem le_total {a b : HeapEntry} (h : ¬ a.le b) : b.le a := by
  unfold HeapEntry.le at *
  grind

theorem mem_push {entry other : HeapEntry} {heap : List HeapEntry} :
    other ∈ push entry heap ↔ other = entry ∨ other ∈ heap := by
  induction heap with
  | nil => simp [push]
  | cons head rest ih =>
    unfold push
    split
    · simp only [List.mem_cons, ih]
      exact or_left_comm
    · simp

theorem pairwise_push {entry : HeapEntry} {heap : List HeapEntry}
    (h : heap.Pairwise HeapEntry.le) : (push entry heap).Pairwise HeapEntry.le := by
  induction heap with
  | nil => exact List.pairwise_singleton _ _
  | cons head rest ih =>
    obtain ⟨hhead, hrest⟩ := List.pairwise_cons.1 h
    unfold push
    split
    · next hle =>
      refine List.pairwise_cons.2 ⟨?_, ih hrest⟩
      intro later hlater
      rcases mem_push.1 hlater with rfl | hlater
      · exact hle
      · exact hhead later hlater
    · next hnot =>
      have hbefore := le_total hnot
      refine List.pairwise_cons.2 ⟨?_, h⟩
      intro later hlater
      rcases List.mem_cons.1 hlater with rfl | hlater
      · exact hbefore
      · exact le_trans hbefore (hhead later hlater)

/-- An entry takes the same place among those that are kept. -/
theorem filter_push {entry : HeapEntry} {heap : List HeapEntry} {keep : HeapEntry → Bool}
    (h : heap.Pairwise HeapEntry.le) (hentry : keep entry = true) :
    (push entry heap).filter keep = push entry (heap.filter keep) := by
  induction heap with
  | nil => simp [push, hentry]
  | cons head rest ih =>
    obtain ⟨hhead, hrest⟩ := List.pairwise_cons.1 h
    by_cases hle : head.le entry
    · rw [push, if_pos hle, List.filter_cons, List.filter_cons, ih hrest]
      split
      · rw [push, if_pos hle]
      · rfl
    · -- everything behind the head comes later than the entry as well
      have hfirst : ∀ kept : List HeapEntry, (∀ other ∈ kept, head.le other) →
          push entry kept = entry :: kept := by
        intro kept hkept
        cases kept with
        | nil => rfl
        | cons other kept =>
          rw [push, if_neg]
          intro hother
          exact hle (le_trans (hkept other List.mem_cons_self) hother)
      have hreflexive : head.le head := .inr ⟨rfl, Nat.le_refl _⟩
      rw [hfirst (head :: rest) (List.forall_mem_cons.2 ⟨hreflexive, hhead⟩),
        List.filter_cons_of_pos hentry, hfirst]
      intro other hother
      rcases List.mem_cons.1 (List.mem_of_mem_filter hother) with rfl | hother
      · exact hreflexive
      · exact hhead other hother

/-- A timer with the highest number takes the place of its entry. -/
theorem map_place {timer : Timer} {timers : List Timer}
    (h : ∀ other ∈ timers, other.handle.number < timer.handle.number) :
    (TimerQueue.place timer timers).map dueOf = push (dueOf timer) (timers.map dueOf) := by
  induction timers with
  | nil => rfl
  | cons head rest ih =>
    obtain ⟨hhead, hrest⟩ := List.forall_mem_cons.1 h
    have hiff : (dueOf head).le (dueOf timer) ↔ head.deadline ≤ timer.deadline := by
      constructor
      · rintro (hlt | ⟨heq, -⟩)
        · exact Nat.le_of_lt hlt
        · exact Nat.le_of_eq heq
      · intro hle
        exact (Nat.lt_or_eq_of_le hle).imp_right fun heq => ⟨heq, Nat.le_of_lt hhead⟩
    rw [List.map_cons, push, TimerQueue.place]
    by_cases hle : head.deadline ≤ timer.deadline
    · rw [if_pos hle, if_pos (hiff.2 hle), List.map_cons, ih hrest]
    · rw [if_neg hle, if_neg (mt hiff.1 hle), List.map_cons, List.map_cons]

/-- Behind what is discarded stands the first entry that is kept, and the kept ones are the same. -/
theorem filter_dropWhile (keep : HeapEntry → Bool) (heap : List HeapEntry) :
    (heap.dropWhile fun entry => !keep entry).filter keep = heap.filter keep ∧
      ∀ first rest, (heap.dropWhile fun entry => !keep entry) = first :: rest →
        keep first = true := by
  induction heap with
  | nil => simp
  | cons head rest ih =>
    cases hkeep : keep head with
    | false => simpa [hkeep] using ih
    | true =>
      refine ⟨by simp [hkeep], ?_⟩
      intro first others heq
      rw [List.dropWhile_cons_of_neg (by simp [hkeep])] at heq
      obtain ⟨rfl, -⟩ := List.cons.inj heq
      exact hkeep

/-! ### The heap and the table against the live timers -/

theorem number_inj {a b : TimerHandle} : a.number = b.number ↔ a = b := by
  cases a
  cases b
  simp

/-- Without its dead entries the heap is the list of live timers, and the table says what they
mean. -/
structure Coupled (lazy : LazyQueue) (queue : TimerQueue) : Prop where
  number : lazy.nextNumber = queue.scheduled
  sorted : lazy.heap.Pairwise HeapEntry.le
  /-- An entry to come is new. -/
  old : ∀ entry ∈ lazy.heap, entry.number < lazy.nextNumber
  due : lazy.heap.filter lazy.isLive = queue.live.map dueOf
  meaning : lazy.live.Perm (queue.live.map meaningOf)
  distinct : (queue.live.map Timer.handle).Nodup

variable {lazy : LazyQueue} {queue rest : TimerQueue} {now : Instant} {timer : Timer}

theorem coupled_empty : Coupled {} {} where
  number := rfl
  sorted := .nil
  old := by simp
  due := rfl
  meaning := .nil
  distinct := .nil

namespace Coupled

theorem keys_perm (h : lazy.Coupled queue) :
    lazy.live.keys.Perm (queue.live.map fun timer => timer.handle.number) := by
  have hkeys := h.meaning.map Prod.fst
  rw [List.map_map] at hkeys
  exact hkeys

theorem nodup_keys (h : lazy.Coupled queue) : lazy.live.keys.Nodup := by
  have hnumbers : (queue.live.map fun timer => timer.handle.number).Nodup := by
    have hmap := h.distinct.map (f := TimerHandle.number) fun _ _ => number_inj.1
    rw [List.map_map] at hmap
    exact hmap
  exact h.keys_perm.nodup_iff.2 hnumbers

/-- The table has the live timers. -/
theorem has_iff (h : lazy.Coupled queue) {number : Nat} :
    lazy.live.has number = true ↔ ∃ timer ∈ queue.live, timer.handle.number = number := by
  rw [← Shadow.Table.mem_keys, h.keys_perm.mem_iff]
  simp

theorem get?_eq (h : lazy.Coupled queue) (htimer : timer ∈ queue.live) :
    lazy.live.get? timer.handle.number = some timer.kind :=
  Shadow.Table.get?_of_mem h.nodup_keys (h.meaning.mem_iff.2 (List.mem_map_of_mem htimer))

/-- A live timer is older than the next one. -/
theorem fresh (h : lazy.Coupled queue) : ∀ timer ∈ queue.live,
    timer.handle.number < queue.scheduled := by
  intro timer htimer
  have hmem : dueOf timer ∈ lazy.heap.filter lazy.isLive := by
    rw [h.due]
    exact List.mem_map_of_mem htimer
  have hold := h.old _ (List.mem_of_mem_filter hmem)
  exact h.number ▸ hold

theorem isPending_eq (h : lazy.Coupled queue) (handle : TimerHandle) :
    lazy.isPending handle = queue.isPending handle := by
  rw [Bool.eq_iff_iff]
  unfold isPending TimerQueue.isPending
  rw [h.has_iff, List.any_eq_true]
  simp only [number_inj, decide_eq_true_eq]

/-! ### The calls -/

/-- With a deadline for which there is an instant, a timer gets the same handle. -/
theorem schedule (h : lazy.Coupled queue) (kind : TimerKind) {delay : Duration}
    (hfits : Instant.fits now delay) :
    ∃ later, lazy.schedule now kind delay = some ((queue.schedule now kind delay).1, later) ∧
      later.Coupled (queue.schedule now kind delay).2 := by
  let later : LazyQueue :=
    { heap := push ⟨now + delay.nanoseconds, lazy.nextNumber⟩ lazy.heap
      live := lazy.live.put lazy.nextNumber kind
      nextNumber := lazy.nextNumber + 1 }
  have hlater : lazy.schedule now kind delay = some ((queue.schedule now kind delay).1, later) := by
    unfold LazyQueue.schedule
    rw [Instant.after?_of_fits hfits]
    exact congrArg (fun n => some (TimerHandle.mk n, later)) h.number
  refine ⟨later, hlater, ?_⟩
  let timer : Timer := ⟨now + delay.nanoseconds, ⟨queue.scheduled⟩, kind⟩
  have hfresh : ∀ other ∈ queue.live, other.handle.number < timer.handle.number := h.fresh
  have hnew : lazy.live.get? lazy.nextNumber = none := by
    rw [Shadow.Table.get?_eq_none_iff, Shadow.Table.mem_keys, h.has_iff, h.number]
    rintro ⟨other, hother, heq⟩
    exact Nat.ne_of_lt (h.fresh other hother) heq
  have hentry : (⟨now + delay.nanoseconds, lazy.nextNumber⟩ : HeapEntry) = dueOf timer := by
    rw [h.number]
    rfl
  have hplace := TimerQueue.place_perm timer queue.live
  refine ⟨congrArg (· + 1) h.number, pairwise_push h.sorted, ?_, ?_, ?_, ?_⟩
  · intro entry hmem
    rcases mem_push.1 hmem with rfl | hmem
    · exact Nat.lt_succ_self _
    · exact Nat.lt_succ_of_lt (h.old entry hmem)
  · have hlive : ∀ other, later.isLive other =
        if lazy.nextNumber = other.number then true else lazy.isLive other := by
      intro other
      unfold isLive Shadow.Table.has
      show (Shadow.Table.get? (lazy.live.put lazy.nextNumber kind) other.number).isSome = _
      rw [Shadow.Table.get?_put]
      split <;> rfl
    have hkept : lazy.heap.filter later.isLive = lazy.heap.filter lazy.isLive := by
      apply List.filter_congr
      intro other hother
      rw [hlive, if_neg (Nat.ne_of_gt (h.old other hother))]
    show (push _ lazy.heap).filter _ = (TimerQueue.place timer queue.live).map dueOf
    rw [filter_push h.sorted, hkept, h.due, hentry, map_place hfresh]
    rw [hlive, if_pos rfl]
  · show (lazy.live.put lazy.nextNumber kind).Perm _
    rw [Shadow.Table.put_of_new hnew, h.number]
    exact (List.perm_append_singleton _ _).trans
      ((h.meaning.cons (meaningOf timer)).trans (hplace.map meaningOf).symm)
  · refine (hplace.map Timer.handle).nodup_iff.2 (List.nodup_cons.2 ⟨?_, h.distinct⟩)
    intro hmem
    obtain ⟨other, hother, heq⟩ := List.mem_map.1 hmem
    exact Nat.ne_of_lt (hfresh other hother) (congrArg TimerHandle.number heq)

/-- A timer leaves the table and the list. -/
theorem erase (h : lazy.Coupled queue) {heap : List HeapEntry} (handle : TimerHandle)
    (hsub : heap.Sublist lazy.heap)
    (hheap : (heap.filter lazy.isLive).filter (fun entry => entry.number ≠ handle.number) =
      (lazy.heap.filter lazy.isLive).filter fun entry => entry.number ≠ handle.number) :
    Coupled { lazy with heap := heap, live := lazy.live.erase handle.number }
      (queue.cancel handle).2 where
  number := h.number
  sorted := h.sorted.sublist hsub
  old entry hentry := h.old entry (hsub.subset hentry)
  due := by
    have hlive : ∀ entry, isLive { lazy with
        heap := heap, live := lazy.live.erase handle.number } entry =
        (decide (entry.number ≠ handle.number) && lazy.isLive entry) := by
      intro entry
      unfold isLive Shadow.Table.has
      rw [Shadow.Table.get?_erase]
      by_cases heq : entry.number = handle.number
      · simp [heq]
      · simp [heq, Ne.symm heq]
    have hfilter : heap.filter (isLive { lazy with
        heap := heap, live := lazy.live.erase handle.number }) =
        (heap.filter lazy.isLive).filter fun entry => entry.number ≠ handle.number := by
      rw [List.filter_filter]
      exact List.filter_congr fun entry _ => hlive entry
    rw [hfilter, hheap, h.due, List.filter_map]
    congr 1
    apply List.filter_congr
    intro timer _
    exact decide_eq_decide.2 (not_congr number_inj)
  meaning := by
    have hfilter := h.meaning.filter fun entry => decide (entry.1 ≠ handle.number)
    rw [List.filter_map] at hfilter
    refine hfilter.trans ?_
    have hsame : queue.live.filter ((fun entry => decide (entry.1 ≠ handle.number)) ∘ meaningOf) =
        queue.live.filter fun timer => timer.handle ≠ handle := by
      apply List.filter_congr
      intro timer _
      exact decide_eq_decide.2 (not_congr number_inj)
    rw [hsame]
    rfl
  distinct := h.distinct.sublist (List.filter_sublist.map _)

theorem cancel (h : lazy.Coupled queue) (handle : TimerHandle) :
    (lazy.cancel handle).1 = (queue.cancel handle).1 ∧
      (lazy.cancel handle).2.Coupled (queue.cancel handle).2 :=
  ⟨h.isPending_eq handle, h.erase handle (.refl _) rfl⟩

/-- Discarding changes nothing that is live. -/
theorem discardDead (h : lazy.Coupled queue) : lazy.discardDead.Coupled queue where
  number := h.number
  sorted := h.sorted.sublist (List.dropWhile_sublist _)
  old entry hentry := h.old entry ((List.dropWhile_sublist _).subset hentry)
  due := (filter_dropWhile lazy.isLive lazy.heap).1.trans h.due
  meaning := h.meaning
  distinct := h.distinct

/-- The heap without what was discarded has the first live timer on top. -/
theorem heap_discardDead (h : lazy.Coupled queue) :
    lazy.discardDead.heap = [] ∧ queue.live = [] ∨
      ∃ timer live heap, queue.live = timer :: live ∧
        lazy.discardDead.heap = dueOf timer :: heap := by
  obtain ⟨-, hfirst⟩ := filter_dropWhile lazy.isLive lazy.heap
  have hdue := h.discardDead.due
  cases hheap : lazy.discardDead.heap with
  | nil =>
    rw [hheap] at hdue
    exact .inl ⟨rfl, List.map_eq_nil_iff.1 hdue.symm⟩
  | cons first rest =>
    have hlive : lazy.discardDead.isLive first = true := hfirst first rest hheap
    rw [hheap, List.filter_cons_of_pos hlive] at hdue
    obtain ⟨timer, live, hqueue, rfl, -⟩ := List.map_eq_cons_iff.1 hdue.symm
    exact .inr ⟨timer, live, rest, hqueue, rfl⟩

theorem nextDeadline (h : lazy.Coupled queue) :
    lazy.nextDeadline.1 = queue.nextDeadline := by
  unfold LazyQueue.nextDeadline TimerQueue.nextDeadline
  rcases h.heap_discardDead with ⟨hheap, hlive⟩ | ⟨timer, live, heap, hlive, hheap⟩ <;>
    rw [hheap, hlive] <;> rfl

/-- Cancelling the first timer takes it from the front of the list. -/
theorem cancel_first (h : lazy.Coupled queue) {live : List Timer}
    (hlive : queue.live = timer :: live) :
    (queue.cancel timer.handle).2 = { queue with live := live } := by
  have hdistinct := h.distinct
  rw [hlive, List.map_cons, List.nodup_cons] at hdistinct
  have hothers : (live.filter fun other => other.handle ≠ timer.handle) = live := by
    apply List.filter_eq_self.2
    intro other hother
    have hne : other.handle ≠ timer.handle := fun heq =>
      hdistinct.1 (heq ▸ List.mem_map_of_mem hother)
    simpa using hne
  unfold TimerQueue.cancel
  rw [hlive, List.filter_cons_of_neg (by simp), hothers]

/-- What is due fires, with its meaning. -/
theorem popExpired (h : lazy.Coupled queue) (now : Instant) :
    (lazy.popExpired now).1 =
        (queue.popExpired now).1.map (fun timer => (timer.handle, timer.kind)) ∧
      (lazy.popExpired now).2.Coupled (queue.popExpired now).2 := by
  unfold LazyQueue.popExpired TimerQueue.popExpired
  rcases h.heap_discardDead with ⟨hheap, hlive⟩ | ⟨timer, live, heap, hlive, hheap⟩
  · rw [hheap, hlive]
    exact ⟨rfl, h.discardDead⟩
  · have hfirst : timer ∈ queue.live := by simp [hlive]
    rw [hheap, hlive]
    dsimp only
    by_cases hdue : timer.deadline ≤ now
    · have hnot : ¬ now < (dueOf timer).deadline := Nat.not_lt_of_le hdue
      rw [if_pos hdue, if_neg hnot]
      refine ⟨?_, ?_⟩
      · show Option.map _ (lazy.live.get? timer.handle.number) = _
        rw [h.get?_eq hfirst]
        rfl
      · have hsub : heap.Sublist lazy.discardDead.heap := by
          rw [hheap]
          exact List.sublist_cons_self _ _
        have hrest := h.discardDead.erase timer.handle hsub (by
          rw [hheap, List.filter_cons]
          split <;> simp [dueOf])
        rw [h.cancel_first hlive] at hrest
        exact hrest
    · have hlater : now < (dueOf timer).deadline := Nat.lt_of_not_le hdue
      rw [if_neg hdue, if_pos hlater]
      exact ⟨rfl, h.discardDead⟩

theorem size (h : lazy.Coupled queue) : lazy.size = queue.size := by
  have hlength := h.meaning.length_eq
  rw [List.length_map] at hlength
  exact hlength

/-- A call that does not fail is answered alike, and leaves the queues coupled. -/
theorem call (h : lazy.Coupled queue) {asked : TimerCall} (hfits : asked.fits) :
    ∃ later, lazy.call asked = some ((queue.perform asked).1, later) ∧
      later.Coupled (queue.perform asked).2 := by
  cases asked with
  | schedule now kind delay =>
    obtain ⟨later, hlater, hcoupled⟩ := h.schedule kind hfits
    refine ⟨later, ?_, hcoupled⟩
    show (lazy.schedule now kind delay).map _ = _
    rw [hlater]
    rfl
  | cancel handle =>
    obtain ⟨hanswer, hcoupled⟩ := h.cancel handle
    exact ⟨_, congrArg (fun is => some (TimerAnswer.pending is, _)) hanswer, hcoupled⟩
  | isPending handle =>
    exact ⟨_, congrArg (fun is => some (TimerAnswer.pending is, lazy)) (h.isPending_eq handle), h⟩
  | nextDeadline =>
    exact ⟨_, congrArg (fun first => some (TimerAnswer.deadline first, _)) h.nextDeadline,
      h.discardDead⟩
  | popExpired now =>
    obtain ⟨hanswer, hcoupled⟩ := h.popExpired now
    exact ⟨_, congrArg (fun timer => some (TimerAnswer.fired timer, _)) hanswer, hcoupled⟩
  | size => exact ⟨_, congrArg (fun n => some (TimerAnswer.count n, lazy)) h.size, h⟩

end Coupled

/-- A call fails if there is no instant for the deadline. -/
theorem call_of_not_fits (lazy : LazyQueue) {asked : TimerCall} (hfits : ¬ asked.fits) :
    lazy.call asked = none := by
  cases asked with
  | schedule now kind delay =>
    show ((Instant.after? now delay).map _).map _ = _
    rw [Instant.after?_of_not_fits hfits]
    rfl
  | _ => exact absurd rfl hfits

/-- Coupled queues answer alike from then on. -/
theorem Coupled.answers_eq (h : lazy.Coupled queue) (hintact : queue.overrun = false)
    (calls : List TimerCall) :
    answers LazyQueue.call lazy calls = answers TimerQueue.call queue calls := by
  induction calls generalizing lazy queue with
  | nil => rfl
  | cons asked calls ih =>
    unfold answers
    by_cases hfits : asked.fits
    · obtain ⟨later, hlater, hcoupled⟩ := h.call hfits
      have hstill : (queue.perform asked).2.overrun = false := by
        rw [TimerQueue.overrun_perform, hintact, hfits]
        rfl
      rw [hlater, TimerQueue.call_of_fits hintact hfits]
      exact congrArg _ (ih hcoupled hstill)
    · rw [lazy.call_of_not_fits hfits, queue.call_of_not_fits hfits]

/-- The heap and its table answer as the list of live timers does, whatever is asked. -/
theorem answers_eq : answers call {} = answers TimerQueue.call {} :=
  funext (coupled_empty.answers_eq rfl)

end LazyQueue

end AlarmMesh
