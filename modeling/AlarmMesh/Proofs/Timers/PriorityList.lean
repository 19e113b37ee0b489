import AlarmMesh.Proofs.Timers.Lazy
import Mathlib.Data.Finset.Card

/-!
# Queues of timers as sets of live timers

What a queue answers depends on the set of its live timers only.  The least of them, by deadline and
then by the order of scheduling, is the one that fires, once it is due.  A timer that fired or was
cancelled has left the set for good, since no handle is given out twice.  So it goes on until a
timer is asked for that would be due when there is no instant any more.

* `LiveTimers`, `LiveTimers.Step`, `LiveTimers.Run` — the set, and which answers it allows;
* `Run.fired_nodup`, `Run.not_fired` — what that says of the handles that fire;
* `TimerQueue.Ordered`, `TimerQueue.step` — the list of live timers takes these steps;
* `PriorityList`, `priorityList_lazyQueue` — what holds of the answers of both queues;
* `not_run_beyond` — that a timer beyond every instant is not answered at all.
-/

namespace AlarmMesh

/-! ### The set of live timers -/

/-- The first of two timers to fire: the one with the earlier deadline, or the older one. -/
def Timer.Before (a b : Timer) : Prop :=
  a.deadline < b.deadline ∨ a.deadline = b.deadline ∧ a.handle.number < b.handle.number

/-- The set of live timers, and how many were ever scheduled. -/
structure LiveTimers where
  live : Finset Timer := ∅
  scheduled : Nat := 0

namespace LiveTimers

/-- What a call does to the live timers, and what is answered. -/
inductive Step : LiveTimers → TimerCall → TimerAnswer → LiveTimers → Prop
  | schedule {timers : LiveTimers} {now : Instant} {kind : TimerKind} {delay : Duration} :
      Step timers (.schedule now kind delay) (.scheduled ⟨timers.scheduled⟩)
        ⟨insert ⟨now + delay.nanoseconds, ⟨timers.scheduled⟩, kind⟩ timers.live,
          timers.scheduled + 1⟩
  | cancel {timers : LiveTimers} {handle : TimerHandle} {pending : Bool}
      (hpending : pending = true ↔ ∃ timer ∈ timers.live, timer.handle = handle) :
      Step timers (.cancel handle) (.pending pending)
        ⟨timers.live.filter fun timer => timer.handle ≠ handle, timers.scheduled⟩
  | isPending {timers : LiveTimers} {handle : TimerHandle} {pending : Bool}
      (hpending : pending = true ↔ ∃ timer ∈ timers.live, timer.handle = handle) :
      Step timers (.isPending handle) (.pending pending) timers
  | noDeadline {timers : LiveTimers} (hnone : timers.live = ∅) :
      Step timers .nextDeadline (.deadline none) timers
  | nextDeadline {timers : LiveTimers} {first : Timer} (hfirst : first ∈ timers.live)
      (hleast : ∀ other ∈ timers.live, first.deadline ≤ other.deadline) :
      Step timers .nextDeadline (.deadline (some first.deadline)) timers
  | fire {timers : LiveTimers} {now : Instant} {first : Timer} (hfirst : first ∈ timers.live)
      (hleast : ∀ other ∈ timers.live, other ≠ first → first.Before other)
      (hdue : first.deadline ≤ now) :
      Step timers (.popExpired now) (.fired (some (first.handle, first.kind)))
        ⟨timers.live.erase first, timers.scheduled⟩
  | wait {timers : LiveTimers} {now : Instant}
      (hlater : ∀ timer ∈ timers.live, now < timer.deadline) :
      Step timers (.popExpired now) (.fired none) timers
  | size {timers : LiveTimers} : Step timers .size (.count timers.live.card) timers

/-- One call after the other. -/
inductive Run : LiveTimers → List TimerCall → List TimerAnswer → LiveTimers → Prop
  | nil {timers : LiveTimers} : Run timers [] [] timers
  | cons {timers between timers' : LiveTimers} {asked : TimerCall} {answer : TimerAnswer}
      {calls : List TimerCall} {answers : List TimerAnswer}
      (hstep : Step timers asked answer between) (hrun : Run between calls answers timers') :
      Run timers (asked :: calls) (answer :: answers) timers'

end LiveTimers

/-- The handle of the timer that fired, if this is what was answered. -/
def TimerAnswer.fired? : TimerAnswer → Option TimerHandle
  | .fired timer => timer.map Prod.fst
  | _ => none

/-- The handles of the timers that fired. -/
def firedIn (answers : List TimerAnswer) : List TimerHandle := answers.filterMap TimerAnswer.fired?

namespace LiveTimers

variable {timers timers' : LiveTimers} {asked : TimerCall} {answer : TimerAnswer}
  {calls : List TimerCall} {answers : List TimerAnswer} {handle : TimerHandle}

/-- A handle that may still fire: its timer is live, or it is yet to be scheduled. -/
def MayFire (timers : LiveTimers) (handle : TimerHandle) : Prop :=
  (∃ timer ∈ timers.live, timer.handle = handle) ∨ timers.scheduled ≤ handle.number

/-- The live timers were scheduled, each under its own handle. -/
structure Distinct (timers : LiveTimers) : Prop where
  old : ∀ timer ∈ timers.live, timer.handle.number < timers.scheduled
  distinct : ∀ a ∈ timers.live, ∀ b ∈ timers.live, a.handle = b.handle → a = b

theorem distinct_empty : Distinct {} where
  old := by simp
  distinct := by simp

theorem Step.distinct (hstep : Step timers asked answer timers') (h : timers.Distinct) :
    timers'.Distinct := by
  cases hstep with
  | schedule =>
    have hnew : ∀ timer ∈ timers.live, timer.handle ≠ ⟨timers.scheduled⟩ := by
      intro timer htimer heq
      exact Nat.ne_of_lt (h.old timer htimer) (congrArg TimerHandle.number heq)
    refine ⟨?_, ?_⟩
    · intro timer htimer
      rcases Finset.mem_insert.1 htimer with rfl | htimer
      · exact Nat.lt_succ_self _
      · exact Nat.lt_succ_of_lt (h.old timer htimer)
    · intro a ha b hb hab
      rcases Finset.mem_insert.1 ha with rfl | ha <;> rcases Finset.mem_insert.1 hb with rfl | hb
      · rfl
      · exact absurd hab.symm (hnew b hb)
      · exact absurd hab (hnew a ha)
      · exact h.distinct a ha b hb hab
  | cancel =>
    refine ⟨fun timer htimer => h.old timer (Finset.mem_filter.1 htimer).1, ?_⟩
    intro a ha b hb
    exact h.distinct a (Finset.mem_filter.1 ha).1 b (Finset.mem_filter.1 hb).1
  | fire =>
    refine ⟨fun timer htimer => h.old timer (Finset.mem_of_mem_erase htimer), ?_⟩
    intro a ha b hb
    exact h.distinct a (Finset.mem_of_mem_erase ha) b (Finset.mem_of_mem_erase hb)
  | _ => exact h

/-- A handle that may fire after a call could do so before. -/
theorem Step.mayFire (hstep : Step timers asked answer timers') (h : timers'.MayFire handle) :
    timers.MayFire handle := by
  cases hstep with
  | schedule =>
    rcases h with ⟨timer, htimer, rfl⟩ | hlater
    · rcases Finset.mem_insert.1 htimer with rfl | htimer
      · exact .inr (Nat.le_refl _)
      · exact .inl ⟨timer, htimer, rfl⟩
    · exact .inr (Nat.le_of_succ_le hlater)
  | cancel =>
    refine h.imp_left ?_
    rintro ⟨timer, htimer, heq⟩
    exact ⟨timer, (Finset.mem_filter.1 htimer).1, heq⟩
  | fire =>
    refine h.imp_left ?_
    rintro ⟨timer, htimer, heq⟩
    exact ⟨timer, Finset.mem_of_mem_erase htimer, heq⟩
  | _ => exact h

/-- What fires might have fired, and will not again. -/
theorem Step.fired (hstep : Step timers asked answer timers') (h : timers.Distinct)
    (hfired : answer.fired? = some handle) :
    timers.MayFire handle ∧ ¬ timers'.MayFire handle := by
  cases hstep with
  | @fire _ first hfirst =>
    obtain rfl : first.handle = handle := by simpa [TimerAnswer.fired?] using hfired
    refine ⟨.inl ⟨first, hfirst, rfl⟩, ?_⟩
    rintro (⟨timer, htimer, heq⟩ | hlater)
    · obtain ⟨hne, htimer⟩ := Finset.mem_erase.1 htimer
      exact hne (h.distinct timer htimer first hfirst heq)
    · exact Nat.not_le_of_lt (h.old first hfirst) hlater
  | _ => simp [TimerAnswer.fired?] at hfired

/-- A timer that was scheduled and is cancelled will not fire. -/
theorem Step.cancelled (hstep : Step timers (.cancel handle) answer timers')
    (hold : handle.number < timers.scheduled) : ¬ timers'.MayFire handle := by
  cases hstep with
  | cancel =>
    rintro (⟨timer, htimer, heq⟩ | hlater)
    · exact (Finset.mem_filter.1 htimer).2 heq
    · exact Nat.not_le_of_lt hold hlater

theorem Step.scheduled_le (hstep : Step timers asked answer timers') :
    timers.scheduled ≤ timers'.scheduled := by
  cases hstep with
  | schedule => exact Nat.le_succ _
  | _ => exact Nat.le_refl _

/-! ### Runs -/

theorem Run.distinct (hrun : Run timers calls answers timers') (h : timers.Distinct) :
    timers'.Distinct := by
  induction hrun with
  | nil => exact h
  | cons hstep _ ih => exact ih (hstep.distinct h)

theorem firedIn_cons (answer : TimerAnswer) (answers : List TimerAnswer) :
    firedIn (answer :: answers) = answer.fired?.toList ++ firedIn answers := by
  unfold firedIn
  rw [List.filterMap_cons]
  cases answer.fired? <;> rfl

/-- What may not fire does not. -/
theorem Run.mayFire (hrun : Run timers calls answers timers') (h : timers.Distinct)
    (hfired : handle ∈ firedIn answers) : timers.MayFire handle := by
  induction hrun with
  | nil => simp [firedIn] at hfired
  | cons hstep _ ih =>
    rw [firedIn_cons, List.mem_append, Option.mem_toList] at hfired
    rcases hfired with hnow | hlater
    · exact (hstep.fired h hnow).1
    · exact hstep.mayFire (ih (hstep.distinct h) hlater)

/-- No timer fires twice. -/
theorem Run.fired_nodup (hrun : Run timers calls answers timers') (h : timers.Distinct) :
    (firedIn answers).Nodup := by
  induction hrun with
  | nil => exact .nil
  | @cons _ _ _ _ answer _ answers hstep hrest ih =>
    rw [firedIn_cons]
    have hnodup := ih (hstep.distinct h)
    cases hfired : answer.fired? with
    | none => exact hnodup
    | some handle =>
      refine List.nodup_cons.2 ⟨fun hagain => ?_, hnodup⟩
      exact (hstep.fired h hfired).2 (hrest.mayFire (hstep.distinct h) hagain)

/-- A handle that was given out is one of a timer that was scheduled. -/
theorem Run.old (hrun : Run timers calls answers timers') :
    timers.scheduled ≤ timers'.scheduled ∧
      (.scheduled handle ∈ answers → handle.number < timers'.scheduled) := by
  induction hrun with
  | nil => exact ⟨Nat.le_refl _, by simp⟩
  | cons hstep _ ih =>
    refine ⟨Nat.le_trans hstep.scheduled_le ih.1, ?_⟩
    intro hmem
    rcases List.mem_cons.1 hmem with heq | hmem
    · subst heq
      cases hstep with
      | schedule => exact ih.1
    · exact ih.2 hmem

/-- A run of calls in two parts. -/
theorem Run.append_inv {before after : List TimerCall}
    (hrun : Run timers (before ++ after) answers timers') :
    ∃ between, Run timers before (answers.take before.length) between ∧
      Run between after (answers.drop before.length) timers' := by
  induction before generalizing timers answers with
  | nil => exact ⟨timers, .nil, hrun⟩
  | cons asked before ih =>
    cases hrun with
    | cons hstep hrest =>
      obtain ⟨between, hfirst, hsecond⟩ := ih hrest
      exact ⟨between, .cons hstep hfirst, hsecond⟩

/-- A timer that was scheduled and then cancelled does not fire any more. -/
theorem Run.not_fired {before after : List TimerCall} (h : timers.Distinct)
    (hrun : Run timers (before ++ .cancel handle :: after) answers timers')
    (hscheduled : .scheduled handle ∈ answers.take before.length) :
    handle ∉ firedIn (answers.drop before.length) := by
  obtain ⟨between, hfirst, hsecond⟩ := hrun.append_inv
  have hold := hfirst.old.2 hscheduled
  have hdistinct := hfirst.distinct h
  generalize answers.drop before.length = later at hsecond
  cases hsecond with
  | cons hstep hrest =>
    intro hfired
    rw [firedIn_cons, List.mem_append, Option.mem_toList] at hfired
    rcases hfired with hnow | hlater
    · cases hstep
      simp [TimerAnswer.fired?] at hnow
    · exact hstep.cancelled hold (hrest.mayFire (hstep.distinct hdistinct) hlater)

end LiveTimers

/-! ### The list of live timers -/

namespace TimerQueue

open LiveTimers (Step Run)

variable {queue : TimerQueue}

/-- The live timers of a queue. -/
def timers (queue : TimerQueue) : LiveTimers := ⟨queue.live.toFinset, queue.scheduled⟩

/-- The live timers stand in the order in which they fire, and each was scheduled. -/
structure Ordered (queue : TimerQueue) : Prop where
  order : queue.live.Pairwise Timer.Before
  old : ∀ timer ∈ queue.live, timer.handle.number < queue.scheduled

theorem ordered_empty : Ordered {} where
  order := .nil
  old := by simp

theorem before_trans {a b c : Timer} (hab : a.Before b) (hbc : b.Before c) : a.Before c := by
  unfold Timer.Before at *
  grind

theorem before_irrefl (a : Timer) : ¬ a.Before a := by
  unfold Timer.Before
  grind

namespace Ordered

theorem nodup (h : queue.Ordered) : queue.live.Nodup :=
  h.order.imp fun hbefore => by
    rintro rfl
    exact before_irrefl _ hbefore

/-- A timer that is scheduled last takes its place among the live ones. -/
theorem pairwise_place {timer : Timer} {timers : List Timer} (h : timers.Pairwise Timer.Before)
    (hold : ∀ other ∈ timers, other.handle.number < timer.handle.number) :
    (place timer timers).Pairwise Timer.Before := by
  induction timers with
  | nil => exact List.pairwise_singleton _ _
  | cons head rest ih =>
    obtain ⟨hhead, hrest⟩ := List.pairwise_cons.1 h
    obtain ⟨holder, hothers⟩ := List.forall_mem_cons.1 hold
    unfold place
    split
    · next hle =>
      refine List.pairwise_cons.2 ⟨?_, ih hrest hothers⟩
      intro later hlater
      rcases mem_place.1 hlater with rfl | hlater
      · exact (Nat.lt_or_eq_of_le hle).imp_right fun heq => ⟨heq, holder⟩
      · exact hhead later hlater
    · next hnot =>
      have hbefore : timer.Before head := .inl (Nat.lt_of_not_le hnot)
      refine List.pairwise_cons.2 ⟨?_, h⟩
      intro later hlater
      rcases List.mem_cons.1 hlater with rfl | hlater
      · exact hbefore
      · exact before_trans hbefore (hhead later hlater)

theorem schedule (h : queue.Ordered) (now : Instant) (kind : TimerKind) (delay : Duration) :
    (queue.schedule now kind delay).2.Ordered where
  order := pairwise_place h.order h.old
  old timer htimer := by
    rcases mem_schedule.1 htimer with rfl | htimer
    · exact Nat.lt_succ_self _
    · exact Nat.lt_succ_of_lt (h.old timer htimer)

theorem cancel (h : queue.Ordered) (handle : TimerHandle) : (queue.cancel handle).2.Ordered where
  order := h.order.filter _
  old timer htimer := h.old timer (mem_cancel.1 htimer).1

/-- The first of the list is the least of the live timers. -/
theorem first (h : queue.Ordered) {first : Timer} {live : List Timer}
    (hlive : queue.live = first :: live) :
    first ∈ queue.timers.live ∧
      ∀ other ∈ queue.timers.live, other ≠ first → first.Before other := by
  unfold timers
  have horder := h.order
  rw [hlive] at horder ⊢
  refine ⟨by simp, ?_⟩
  intro other hother hne
  rcases List.mem_cons.1 (List.mem_toFinset.1 hother) with rfl | hother
  · exact absurd rfl hne
  · exact (List.pairwise_cons.1 horder).1 other hother

end Ordered

theorem isPending_iff (handle : TimerHandle) :
    queue.isPending handle = true ↔ ∃ timer ∈ queue.timers.live, timer.handle = handle := by
  unfold isPending timers
  rw [List.any_eq_true]
  simp

/-- The list of live timers answers a call as the set of them does, and stays in order. -/
theorem step (h : queue.Ordered) (asked : TimerCall) :
    Step queue.timers asked (queue.perform asked).1 (queue.perform asked).2.timers ∧
      (queue.perform asked).2.Ordered := by
  cases asked with
  | schedule now kind delay =>
    refine ⟨?_, h.schedule now kind delay⟩
    have hlive : (queue.perform (.schedule now kind delay)).2.timers =
        ⟨insert ⟨now + delay.nanoseconds, ⟨queue.scheduled⟩, kind⟩ queue.timers.live,
          queue.timers.scheduled + 1⟩ := by
      unfold timers
      rw [← List.toFinset_cons, ← List.toFinset_eq_of_perm _ _ (place_perm _ queue.live)]
      rfl
    rw [hlive]
    exact .schedule
  | cancel handle =>
    refine ⟨?_, h.cancel handle⟩
    have hlive : (queue.perform (.cancel handle)).2.timers =
        ⟨queue.timers.live.filter fun timer => timer.handle ≠ handle, queue.timers.scheduled⟩ := by
      show (⟨(queue.live.filter _).toFinset, queue.scheduled⟩ : LiveTimers) = _
      congr 1
      ext timer
      simp [timers]
    rw [hlive]
    exact .cancel (isPending_iff handle)
  | isPending handle => exact ⟨.isPending (isPending_iff handle), h⟩
  | nextDeadline =>
    refine ⟨?_, h⟩
    unfold perform nextDeadline
    cases hlive : queue.live with
    | nil => exact .noDeadline (by simp [timers, hlive])
    | cons first live =>
      obtain ⟨hfirst, hleast⟩ := h.first hlive
      refine .nextDeadline hfirst fun other hother => ?_
      by_cases heq : other = first
      · rw [heq]
      · rcases hleast other hother heq with hlt | ⟨hsame, -⟩
        · exact Nat.le_of_lt hlt
        · exact Nat.le_of_eq hsame
  | popExpired now =>
    unfold perform popExpired
    cases hlive : queue.live with
    | nil => exact ⟨.wait (by simp [timers, hlive]), h⟩
    | cons first live =>
      obtain ⟨hfirst, hleast⟩ := h.first hlive
      by_cases hdue : first.deadline ≤ now
      · simp only [if_pos hdue]
        have horder := h.order
        have hnodup := h.nodup
        rw [hlive] at horder hnodup
        have herase : live.toFinset = queue.timers.live.erase first := by
          unfold timers
          rw [hlive, List.toFinset_cons, Finset.erase_insert]
          simpa using (List.nodup_cons.1 hnodup).1
        refine ⟨?_, (List.pairwise_cons.1 horder).2, fun timer htimer => h.old timer ?_⟩
        · have hrest : timers { queue with live := live } =
              ⟨queue.timers.live.erase first, queue.timers.scheduled⟩ := by
            rw [← herase]
            rfl
          show Step queue.timers _ _ (timers { queue with live := live })
          rw [hrest]
          exact .fire hfirst hleast hdue
        · rw [hlive]
          exact List.mem_cons_of_mem _ htimer
      · simp only [if_neg hdue]
        refine ⟨.wait fun timer htimer => ?_, h⟩
        have hlater : now < first.deadline := Nat.lt_of_not_le hdue
        by_cases heq : timer = first
        · rwa [heq]
        · rcases hleast timer htimer heq with hlt | ⟨hsame, -⟩
          · exact Nat.lt_trans hlater hlt
          · rwa [← hsame]
  | size =>
    refine ⟨?_, h⟩
    have hcard : queue.size = queue.timers.live.card :=
      (List.toFinset_card_of_nodup h.nodup).symm
    show Step queue.timers .size (.count queue.size) queue.timers
    rw [hcard]
    exact .size

/-- So do calls one after the other, up to one that fails. -/
theorem run (h : queue.Ordered) (hintact : queue.overrun = false) (calls : List TimerCall) :
    ∃ timers', Run queue.timers (calls.takeWhile TimerCall.fits) (answers call queue calls)
      timers' := by
  induction calls generalizing queue with
  | nil => exact ⟨_, .nil⟩
  | cons asked calls ih =>
    unfold answers
    by_cases hfits : asked.fits
    · obtain ⟨hstep, hordered⟩ := step h asked
      have hstill : (queue.perform asked).2.overrun = false := by
        rw [overrun_perform, hintact, hfits]
        rfl
      obtain ⟨timers', hrun⟩ := ih hordered hstill
      rw [List.takeWhile_cons_of_pos hfits, call_of_fits hintact hfits]
      exact ⟨timers', .cons hstep hrun⟩
    · rw [List.takeWhile_cons_of_neg hfits, call_of_not_fits queue hfits]
      exact ⟨_, .nil⟩

end TimerQueue

/-! ### What holds of the answers -/

/-- The queue after calls, if none of them failed. -/
def after {Queue : Type} (call : Queue → TimerCall → Option (TimerAnswer × Queue))
    (queue : Queue) : List TimerCall → Option Queue
  | [] => some queue
  | asked :: calls => (call queue asked).bind fun answered => after call answered.2 calls

section Answers

variable {Queue : Type} (call : Queue → TimerCall → Option (TimerAnswer × Queue)) (queue : Queue)

/-- Later calls are answered if none of the earlier ones failed. -/
theorem answers_append (before later : List TimerCall) :
    answers call queue (before ++ later) = answers call queue before ++
      (after call queue before).elim [] fun queue => answers call queue later := by
  induction before generalizing queue with
  | nil => rfl
  | cons asked before ih =>
    rw [List.cons_append, answers, answers, after]
    cases call queue asked with
    | none => rfl
    | some answered => exact congrArg _ (ih answered.2)

/-- Each call is answered unless one fails. -/
theorem length_answers (calls : List TimerCall) :
    (answers call queue calls).length ≤ calls.length ∧
      (after call queue calls ≠ none → (answers call queue calls).length = calls.length) := by
  induction calls generalizing queue with
  | nil => exact ⟨Nat.le_refl _, fun _ => rfl⟩
  | cons asked calls ih =>
    unfold answers after
    cases call queue asked with
    | none => exact ⟨Nat.zero_le _, fun hnone => absurd rfl hnone⟩
    | some answered =>
      obtain ⟨hle, heq⟩ := ih answered.2
      exact ⟨Nat.succ_le_succ hle, fun hsome => congrArg Nat.succ (heq hsome)⟩

/-- What is answered to later calls. -/
theorem drop_answers (before later : List TimerCall) :
    (answers call queue (before ++ later)).drop before.length =
      (after call queue before).elim [] fun queue => answers call queue later := by
  obtain ⟨hle, heq⟩ := length_answers call queue before
  rw [answers_append]
  cases hafter : after call queue before with
  | none => exact List.drop_eq_nil_of_le ((congrArg List.length (List.append_nil _)).trans_le hle)
  | some rest => exact List.drop_left' (heq (by rw [hafter]; exact Option.some_ne_none rest))

end Answers

/-- What is asked of live timers, from none on, is answered as the least-first list of them does. -/
structure PriorityList (answers : List TimerCall → List TimerAnswer) : Prop where
  /-- Each answer is the one that the live timers allow.  There is none any more from the first
  timer on that is to be due when there is no instant. -/
  runs : ∀ calls, ∃ timers,
    LiveTimers.Run {} (calls.takeWhile TimerCall.fits) (answers calls) timers
  /-- No handle fires twice. -/
  once : ∀ calls, (firedIn (answers calls)).Nodup
  /-- A handle that was given out and is cancelled does not fire any more. -/
  cancelled : ∀ before handle later, .scheduled handle ∈ answers before →
    handle ∉ firedIn ((answers (before ++ .cancel handle :: later)).drop before.length)
  /-- Where nothing fires, later answers are as if it had not been tried. -/
  quiet : ∀ before now later,
    (answers (before ++ [.popExpired now]))[before.length]? = some (.fired none) →
      answers (before ++ .popExpired now :: later) =
        answers before ++ .fired none :: (answers (before ++ later)).drop before.length

namespace TimerQueue

/-- Where nothing fires, nothing changes. -/
theorem popExpired_of_none {queue : TimerQueue} {now : Instant}
    (h : (queue.perform (.popExpired now)).1 = .fired none) :
    (queue.perform (.popExpired now)).2 = queue := by
  have hnone : (queue.popExpired now).1 = none := by simpa [perform] using h
  show (queue.popExpired now).2 = queue
  unfold popExpired at hnone ⊢
  split
  · rfl
  · next hlive =>
    rw [hlive] at hnone
    split
    · next hdue => simp [hdue] at hnone
    · rfl

theorem call_popExpired_of_none {queue : TimerQueue} {now : Instant}
    (h : (answers call queue [.popExpired now]).head? = some (.fired none)) :
    queue.call (.popExpired now) = some (.fired none, queue) := by
  unfold answers at h
  cases hcall : queue.call (.popExpired now) with
  | none =>
    rw [hcall] at h
    cases h
  | some answered =>
    rw [hcall] at h
    have hfired : answered.1 = .fired none := Option.some.inj h
    -- a call that does not fail gives what was performed
    have hperformed : queue.perform (.popExpired now) = answered := by
      unfold call at hcall
      split at hcall
      · cases hcall
      · exact Option.some.inj hcall
    have hsame : answered.2 = queue :=
      hperformed ▸ popExpired_of_none (hperformed.symm ▸ hfired)
    exact congrArg some (Prod.ext hfired hsame)

/-- After calls none of which failed, there was an instant for each deadline. -/
theorem fits_of_after {queue rest : TimerQueue} {calls : List TimerCall}
    (h : after call queue calls = some rest) : ∀ asked ∈ calls, asked.fits := by
  induction calls generalizing queue with
  | nil => exact fun _ hnone => absurd hnone List.not_mem_nil
  | cons asked calls ih =>
    have hfits : asked.fits := by
      by_contra hnot
      rw [after, call_of_not_fits queue hnot] at h
      cases h
    obtain ⟨answered, -, hrest⟩ := Option.bind_eq_some_iff.1 h
    exact List.forall_mem_cons.2 ⟨hfits, ih hrest⟩

theorem priorityList : PriorityList (answers call {}) where
  runs calls := run ordered_empty rfl calls
  once calls := by
    obtain ⟨timers', hrun⟩ := run ordered_empty rfl calls
    exact hrun.fired_nodup LiveTimers.distinct_empty
  cancelled before handle later hscheduled := by
    cases hafter : after call {} before with
    | none =>
      rw [drop_answers, hafter]
      exact List.not_mem_nil
    | some rest =>
      have hlength := (length_answers call {} before).2 (hafter ▸ Option.some_ne_none rest)
      obtain ⟨timers', hrun⟩ := run ordered_empty rfl (before ++ .cancel handle :: later)
      rw [List.takeWhile_append_of_pos (fits_of_after hafter),
        List.takeWhile_cons_of_pos rfl] at hrun
      refine hrun.not_fired LiveTimers.distinct_empty ?_
      rw [answers_append, List.take_left' hlength]
      exact hscheduled
  quiet before now later hnone := by
    rw [← List.head?_drop, drop_answers] at hnone
    rw [answers_append, drop_answers]
    cases hafter : after call {} before with
    | none =>
      rw [hafter] at hnone
      cases hnone
    | some rest =>
      rw [hafter] at hnone
      have hnothing : rest.call (.popExpired now) = some (.fired none, rest) :=
        call_popExpired_of_none hnone
      show answers call {} before ++ answers call rest (.popExpired now :: later) = _
      rw [answers, hnothing]
      rfl

end TimerQueue

/-- A heap that is cleaned late answers as the list of live timers does: each answer is the one that
the set of live timers allows, no handle fires twice or after it was cancelled, and to find nothing
due changes no later answer.  From the first timer on that is to be due when there is no instant,
nothing is answered. -/
theorem priorityList_lazyQueue :
    PriorityList (answers LazyQueue.call {}) ∧
      answers LazyQueue.call {} = answers TimerQueue.call {} :=
  ⟨LazyQueue.answers_eq ▸ TimerQueue.priorityList, LazyQueue.answers_eq⟩

/-- A set of live timers takes a timer that is due after more than five hundred billion years, and
the queue does not. -/
theorem not_run_beyond : ¬ ∀ calls, ∃ timers,
    LiveTimers.Run {} calls (answers LazyQueue.call {} calls) timers := by
  intro h
  obtain ⟨timers, hrun⟩ := h [.schedule 0 .interrogate (.ofSeconds 18446744073709551615)]
  have hnone : answers LazyQueue.call {}
      [.schedule 0 .interrogate (.ofSeconds 18446744073709551615)] = [] := by decide
  rw [hnone] at hrun
  cases hrun

/-- The entry of a cancelled timer is on top of the heap, and what fires is the other one. -/
example :
    answers LazyQueue.call {}
        [.schedule 0 .testMissingTimeout ⟨1⟩, .schedule 0 .learnModeTimeout ⟨2⟩, .cancel ⟨0⟩,
          .cancel ⟨0⟩, .nextDeadline, .popExpired 5, .nextDeadline] =
      [.scheduled ⟨0⟩, .scheduled ⟨1⟩, .pending true, .pending false, .deadline (some 2),
        .fired (some (⟨1⟩, .learnModeTimeout)), .deadline none] := by
  decide

end AlarmMesh
