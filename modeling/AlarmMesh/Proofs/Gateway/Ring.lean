import AlarmMesh.Proofs.Gateway.Budget

/-!
# Around the ring of slots

The look for the next slot goes around the ring once, from the cursor on, and ends early at the
first slot that is worth asking.  The next look goes on behind that slot.  So the slots that are
asked take turns: seen from the cursor, those that were not asked in this round come first, in
ascending order, and behind them those that were.

* `Interrogation.ring` — slots in a row, `ring_of_cut` for the ring behind one of its slots;
* `next_eq_find?` — the slot that is found;
* `LooksAround`, `looksAround` — the look ends after a ring, where it began;
* `Turns` — where a round is, `Turns.next` for one slot and `Turns.turn` for the next round;
* `Asks` — the slots that are still to be asked, `Asks.next` and `Asks.next_nil`.
-/

namespace AlarmMesh.Gateway.Interrogation

open Radio (SidMap)

variable {eligible occupied : UInt8 → Bool} {most : Nat}

/-! ### The ring -/

/-- The slot behind a slot. -/
def succ (sid : UInt8) : UInt8 := (sid + 1) % 64

/-- So many slots in a row, from a slot on. -/
def ring : Nat → UInt8 → List UInt8
  | 0, _ => []
  | slots + 1, sid => sid :: ring slots (succ sid)

theorem toNat_succ (sid : UInt8) : (succ sid).toNat = (sid.toNat + 1) % 64 := by
  unfold succ
  rw [UInt8.toNat_mod, UInt8.toNat_add]
  show (sid.toNat + 1) % 256 % 64 = (sid.toNat + 1) % 64
  omega

theorem toNat_iterate_succ {sid : UInt8} (h : sid.toNat < 64) (slots : Nat) :
    (succ^[slots] sid).toNat = (sid.toNat + slots) % 64 := by
  induction slots with
  | zero => simp [Nat.mod_eq_of_lt h]
  | succ slots ih =>
    rw [Function.iterate_succ_apply', toNat_succ, ih]
    omega

/-- After 64 slots one is where one began, and not before. -/
theorem iterate_succ_eq_self_iff {sid : UInt8} (h : sid.toNat < 64) (slots : Nat) :
    succ^[slots] sid = sid ↔ slots % 64 = 0 := by
  rw [← UInt8.toNat_inj, toNat_iterate_succ h]
  omega

theorem length_ring (slots : Nat) (sid : UInt8) : (ring slots sid).length = slots := by
  induction slots generalizing sid with
  | zero => rfl
  | succ slots ih => rw [ring, List.length_cons, ih]

theorem ring_add (m n : Nat) (sid : UInt8) :
    ring (m + n) sid = ring m sid ++ ring n (succ^[m] sid) := by
  induction m generalizing sid with
  | zero => simp [ring]
  | succ m ih => rw [Nat.succ_add, ring, ih, ring, Function.iterate_succ_apply, List.cons_append]

theorem lt_of_mem_ring {slots : Nat} {start sid : UInt8} (h : start.toNat < 64)
    (hsid : sid ∈ ring slots start) : sid.toNat < 64 := by
  induction slots generalizing start with
  | zero => cases hsid
  | succ slots ih =>
    obtain rfl | hsid := List.mem_cons.1 hsid
    · exact h
    · exact ih (lt_of_moved start) hsid

/-- From the first slot on, the ring is all slots in ascending order. -/
theorem ring_zero : ring 64 0 = (List.range Radio.slotCount).map UInt8.ofNat := by decide

theorem mem_ring_zero {sid : UInt8} : sid ∈ ring 64 0 ↔ sid.toNat < 64 := by
  refine ⟨lt_of_mem_ring (by decide), fun h => ?_⟩
  rw [ring_zero, List.mem_map]
  exact ⟨sid.toNat, List.mem_range.2 h, UInt8.ofNat_toNat⟩

theorem nodup_of_ascending {sids : List UInt8} (h : sids.Pairwise (· < ·)) : sids.Nodup :=
  h.imp UInt8.ne_of_lt

/-- Slots in ascending order come in the order of the ring. -/
theorem filter_ring_zero {p : UInt8 → Bool} {sids : List UInt8} (hsorted : sids.Pairwise (· < ·))
    (hmem : ∀ sid, sid ∈ sids ↔ sid.toNat < 64 ∧ p sid) : (ring 64 0).filter p = sids := by
  have hring : ((ring 64 0).filter p).Pairwise (· < ·) :=
    List.Pairwise.filter p (by decide +kernel)
  refine List.Perm.eq_of_pairwise (fun _ _ _ _ h h' => absurd h' (UInt8.lt_asymm h)) hring hsorted
    ((List.perm_ext_iff_of_nodup (nodup_of_ascending hring) (nodup_of_ascending hsorted)).2
      fun sid => ?_)
  rw [List.mem_filter, mem_ring_zero, hmem]

/-- Behind a slot, the ring has what followed it, what came before it, and it again. -/
theorem ring_of_cut {start sid : UInt8} {pre post : List UInt8} (h : start.toNat < 64)
    (hring : ring 64 start = pre ++ sid :: post) :
    ring 64 (succ sid) = post ++ pre ++ [sid] := by
  have hlength : pre.length + 1 + post.length = 64 := by
    have := congrArg List.length hring
    rw [length_ring, List.length_append, List.length_cons] at this
    omega
  have hcut : ring (pre.length + 1) start ++ ring post.length (succ^[pre.length + 1] start) =
      (pre ++ [sid]) ++ post := by
    rw [← ring_add, hlength, hring]
    simp
  obtain ⟨hpre, hpost⟩ := List.append_inj hcut (by simp [length_ring])
  have hsid : succ^[pre.length] start = sid := by
    rw [ring_add] at hpre
    exact List.head_eq_of_cons_eq (List.append_inj_right hpre (length_ring _ _))
  have hbehind : succ^[pre.length + 1] start = succ sid := by
    rw [Function.iterate_succ_apply', hsid]
  have hback : succ^[post.length] (succ sid) = start := by
    rw [← hbehind, ← Function.iterate_add_apply, iterate_succ_eq_self_iff h]
    omega
  rw [show 64 = post.length + (pre.length + 1) by omega, ring_add, hback, hpre, ← hbehind, hpost,
    List.append_assoc]

/-! ### The slot that is found -/

/-- The slot is occupied and may be asked, and has not been asked often enough. -/
def worth (eligible occupied : UInt8 → Bool) (most : Nat) (interrogation : Interrogation)
    (sid : UInt8) : Bool :=
  occupied sid && (eligible sid && interrogation.attempts.getD sid.toNat 0 < most)

/-- The first slot of the ring is found that is worth it.  A count that is lost on the way is that
of a slot that is not. -/
theorem next_eq_find? (slots : Nat) (before : Interrogation) :
    (next eligible occupied most slots before).1 =
      (ring slots before.cursor).find? (worth eligible occupied most before) := by
  fun_induction next eligible occupied most slots before with
  | case1 before => rfl
  | case2 slots before sid moved hfree ih =>
    have hfree : occupied sid = false := by simpa using hfree
    have hworth : worth eligible occupied most before sid = false := by
      unfold worth
      rw [hfree, Bool.false_and]
    have hsame : worth eligible occupied most
        { moved with attempts := moved.attempts.set sid.toNat 0 } =
          worth eligible occupied most before := by
      funext other
      by_cases hother : sid = other
      · subst hother
        rw [hworth]
        unfold worth
        rw [hfree, Bool.false_and]
      · unfold worth
        rw [getD_set_ne hother]
    rw [ih, hsame, ring, List.find?_cons_of_neg (Bool.eq_false_iff.1 hworth)]
    rfl
  | case3 slots before sid asked moved hoccupied hask =>
    have hworth : worth eligible occupied most before sid = true :=
      Bool.and_eq_true_iff.2 ⟨by simpa using hoccupied, hask⟩
    rw [ring, List.find?_cons_of_pos hworth]
  | case4 slots before sid asked moved hoccupied hskip ih =>
    have hworth : worth eligible occupied most before sid = false :=
      Bool.and_eq_false_iff.2 (.inr (eq_false_of_ne_true hskip))
    rw [ih, ring, List.find?_cons_of_neg (Bool.eq_false_iff.1 hworth)]
    rfl

/-- The cursor is behind the slot that was found. -/
theorem cursor_next {slots : Nat} {before : Interrogation} {sid : UInt8}
    (h : (next eligible occupied most slots before).1 = some sid) :
    (next eligible occupied most slots before).2.cursor = succ sid := by
  fun_induction next eligible occupied most slots before with
  | case1 before => cases h
  | case2 slots before sid' moved hfree ih => exact ih h
  | case3 slots before sid' asked moved hoccupied hask => exact congrArg succ (Option.some.inj h)
  | case4 slots before sid' asked moved hoccupied hskip ih => exact ih h

/-! ### Where the look ends -/

/-- The look goes on slot by slot until one is found, or until it is back at the start.  The list is
that of the slots that were looked at. -/
inductive LooksAround (eligible occupied : UInt8 → Bool) (most : Nat) (start : UInt8) :
    Interrogation → List UInt8 → Option UInt8 × Interrogation → Prop
  | found {before after : Interrogation} {sid : UInt8}
      (h : next eligible occupied most 1 before = (some sid, after)) :
      LooksAround eligible occupied most start before [before.cursor] (some sid, after)
  | back {before after : Interrogation} (h : next eligible occupied most 1 before = (none, after))
      (hstart : after.cursor = start) :
      LooksAround eligible occupied most start before [before.cursor] (none, after)
  | on {before between : Interrogation} {seen : List UInt8} {result : Option UInt8 × Interrogation}
      (h : next eligible occupied most 1 before = (none, between))
      (hstart : between.cursor ≠ start)
      (hrest : LooksAround eligible occupied most start between seen result) :
      LooksAround eligible occupied most start before (before.cursor :: seen) result

/-- One slot is looked at, and then the others. -/
theorem next_succ (slots : Nat) (before : Interrogation) :
    next eligible occupied most (slots + 1) before =
      match next eligible occupied most 1 before with
      | (some sid, after) => (some sid, after)
      | (none, between) => next eligible occupied most slots between := by
  by_cases hfree : !occupied before.cursor
  · simp only [next, if_pos hfree]
  by_cases hask : eligible before.cursor && before.attempts.getD before.cursor.toNat 0 < most
  · simp only [next, if_neg hfree, if_pos hask]
  · simp only [next, if_neg hfree, if_neg hask]

theorem cursor_next_one (before : Interrogation) :
    (next eligible occupied most 1 before).2.cursor = succ before.cursor := by
  unfold next next
  dsimp only
  split
  · rfl
  split <;> rfl

theorem looksAround_of_ring {start : UInt8} (slots : Nat) {before : Interrogation}
    (hend : succ^[slots + 1] before.cursor = start)
    (hon : ∀ n < slots, succ^[n + 1] before.cursor ≠ start) :
    ∃ seen, seen <+: ring (slots + 1) before.cursor ∧
      LooksAround eligible occupied most start before seen
        (next eligible occupied most (slots + 1) before) := by
  induction slots generalizing before with
  | zero =>
    refine ⟨[before.cursor], List.prefix_rfl, ?_⟩
    cases hone : next eligible occupied most 1 before with
    | mk found after =>
      cases found with
      | some sid => exact .found hone
      | none =>
        have hcursor : after.cursor = succ before.cursor := by rw [← cursor_next_one before, hone]
        exact .back hone (hcursor.trans hend)
  | succ slots ih =>
    cases hone : next eligible occupied most 1 before with
    | mk found after =>
      rw [next_succ, hone]
      cases found with
      | some sid =>
        exact ⟨[before.cursor], by simp [ring], .found hone⟩
      | none =>
        have hcursor : after.cursor = succ before.cursor := by rw [← cursor_next_one before, hone]
        have hback : succ^[slots + 1] after.cursor = start := by
          rw [hcursor]
          exact hend
        obtain ⟨seen, hseen, hlooks⟩ := ih hback fun n hn => by
          rw [hcursor]
          exact hon (n + 1) (by omega)
        refine ⟨before.cursor :: seen, ?_, .on hone ?_ hlooks⟩
        · rw [hcursor] at hseen
          exact List.cons_prefix_cons.2 ⟨rfl, hseen⟩
        · rw [hcursor]
          exact hon 0 (by omega)

/-- The look ends where it began at the latest, and has come past no slot twice. -/
theorem looksAround {before : Interrogation} (h : before.cursor.toNat < 64) :
    ∃ seen, seen <+: ring 64 before.cursor ∧
      LooksAround eligible occupied most before.cursor before seen
        (next eligible occupied most 64 before) := by
  refine looksAround_of_ring 63 ((iterate_succ_eq_self_iff h 64).2 rfl) fun n hn heq => ?_
  have hround := (iterate_succ_eq_self_iff h (n + 1)).1 heq
  omega

/-! ### Taking turns -/

/-- In a round the slots of `done` were asked, and those of `todo` are asked next, in this order. -/
structure Turns (eligible occupied : UInt8 → Bool) (round : Nat) (done todo : List UInt8)
    (interrogation : Interrogation) : Prop where
  cursor : interrogation.cursor.toNat < 64
  size : interrogation.attempts.length = Radio.slotCount
  order : (ring 64 interrogation.cursor).filter (fun sid => occupied sid && eligible sid) =
    todo ++ done
  nodup : (todo ++ done).Nodup
  counts_done : ∀ sid ∈ done, interrogation.attempts.getD sid.toNat 0 = round + 1
  counts_todo : ∀ sid ∈ todo, interrogation.attempts.getD sid.toNat 0 = round

namespace Turns

variable {round : Nat} {done todo unknowns : List UInt8} {sid : UInt8}
  {interrogation : Interrogation}

/-- The first round begins. -/
theorem of_fresh (hcursor : interrogation.cursor = 0)
    (hattempts : interrogation.attempts = List.replicate Radio.slotCount 0)
    (hsorted : unknowns.Pairwise (· < ·))
    (hmem : ∀ sid, sid ∈ unknowns ↔ sid.toNat < 64 ∧ occupied sid && eligible sid) :
    Turns eligible occupied 0 [] unknowns interrogation where
  cursor := by
    rw [hcursor]
    decide
  size := by rw [hattempts, List.length_replicate]
  order := by rw [hcursor, filter_ring_zero hsorted hmem, List.append_nil]
  nodup := by
    rw [List.append_nil]
    exact nodup_of_ascending hsorted
  counts_done := nofun
  counts_todo sid hsid := by
    have hlt : sid.toNat < Radio.slotCount := ((hmem sid).1 hsid).1
    rw [hattempts, List.getD_eq_getElem?_getD, List.getElem?_replicate_of_lt hlt]
    rfl

/-- A slot that takes turns is one of the ring and looked at as such. -/
theorem mem (h : Turns eligible occupied round done todo interrogation)
    (hsid : sid ∈ todo ++ done) :
    occupied sid ∧ eligible sid ∧ sid.toNat < interrogation.attempts.length := by
  rw [← h.order, List.mem_filter, Bool.and_eq_true] at hsid
  exact ⟨hsid.2.1, hsid.2.2, h.size ▸ lt_of_mem_ring h.cursor hsid.1⟩

/-- The slot whose turn it is is found. -/
theorem found (h : Turns eligible occupied round done (sid :: todo) interrogation)
    (hround : round < most) :
    (interrogation.next eligible occupied most Radio.slotCount).1 = some sid := by
  obtain ⟨pre, post, hring, hpre, hsid, -⟩ := List.filter_eq_cons_iff.1 h.order
  obtain ⟨hoccupied, heligible⟩ := Bool.and_eq_true_iff.1 hsid
  rw [next_eq_find?]
  refine List.find?_eq_some_iff_append.2 ⟨?_, pre, post, hring, fun other hother => ?_⟩
  · unfold worth
    rw [hoccupied, heligible, h.counts_todo sid List.mem_cons_self, decide_eq_true hround]
    rfl
  · unfold worth
    rw [← Bool.and_assoc, eq_false_of_ne_true (hpre other hother)]
    rfl

theorem walk (h : Turns eligible occupied round done (sid :: todo) interrogation)
    (hround : round < most) :
    interrogation.Walk occupied most (some sid)
      (interrogation.next eligible occupied most Radio.slotCount).2 := by
  rw [← h.found hround]
  exact walk_next Radio.slotCount interrogation

/-- Its count goes up, and those of the others stay. -/
theorem counts_next (h : Turns eligible occupied round done (sid :: todo) interrogation)
    (hround : round < most) {other : UInt8} (hother : other ∈ sid :: todo ++ done) :
    (interrogation.next eligible occupied most Radio.slotCount).2.attempts.getD other.toNat 0 =
      interrogation.attempts.getD other.toNat 0 + if sid = other then 1 else 0 := by
  obtain ⟨hoccupied, -, hlt⟩ := h.mem hother
  rw [(h.walk hround).counts other hoccupied hlt]
  simp only [Option.some.injEq]

/-- The slot is done, and the round goes on behind it. -/
theorem next (h : Turns eligible occupied round done (sid :: todo) interrogation)
    (hround : round < most) :
    Turns eligible occupied round (done ++ [sid]) todo
      (interrogation.next eligible occupied most Radio.slotCount).2 := by
  have hwalk := h.walk hround
  obtain ⟨pre, post, hring, hpre, hsid, hpost⟩ := List.filter_eq_cons_iff.1 h.order
  have hnodup : (todo ++ done).Nodup ∧ sid ∉ todo ++ done :=
    (List.nodup_cons.1 h.nodup).symm
  have hne : ∀ other ∈ todo ++ done, sid ≠ other := fun _ hother heq => hnodup.2 (heq ▸ hother)
  refine ⟨hwalk.cursor h.cursor, hwalk.size.trans h.size, ?_, ?_, ?_, ?_⟩
  · rw [cursor_next (h.found hround), ring_of_cut h.cursor hring, List.filter_append,
      List.filter_append, hpost, List.filter_eq_nil_iff.2 hpre]
    simp [hsid]
  · rw [← List.append_assoc]
    exact (List.perm_append_singleton sid (todo ++ done)).symm.nodup h.nodup
  · intro other hother
    obtain hother | hother := List.mem_append.1 hother
    · rw [h.counts_next hround (List.mem_append_right _ hother), h.counts_done other hother,
        if_neg (hne other (List.mem_append_right _ hother))]
    · obtain rfl := List.mem_singleton.1 hother
      rw [h.counts_next hround (List.mem_append_left _ List.mem_cons_self),
        h.counts_todo other List.mem_cons_self, if_pos rfl]
  · intro other hother
    have htodo : other ∈ sid :: todo := List.mem_cons_of_mem _ hother
    rw [h.counts_next hround (List.mem_append_left _ htodo), h.counts_todo other htodo,
      if_neg (hne other (List.mem_append_left _ hother)), Nat.add_zero]

/-- After the last round none is found. -/
theorem next_none (h : Turns eligible occupied most [] todo interrogation) :
    (interrogation.next eligible occupied most Radio.slotCount).1 = none := by
  rw [next_eq_find?]
  refine List.find?_eq_none.2 fun sid hsid hworth => ?_
  obtain ⟨hoccupied, hask⟩ := Bool.and_eq_true_iff.1 hworth
  obtain ⟨heligible, hlt⟩ := Bool.and_eq_true_iff.1 hask
  have htodo : sid ∈ todo := by
    rw [← List.append_nil todo, ← h.order, List.mem_filter]
    exact ⟨hsid, Bool.and_eq_true_iff.2 ⟨hoccupied, heligible⟩⟩
  have hlt := of_decide_eq_true hlt
  rw [h.counts_todo sid htodo] at hlt
  exact Nat.lt_irrefl most hlt

/-- When all were asked, the next round begins. -/
theorem turn (h : Turns eligible occupied round unknowns [] interrogation) :
    Turns eligible occupied (round + 1) [] unknowns interrogation where
  cursor := h.cursor
  size := h.size
  order := by rw [h.order, List.nil_append, List.append_nil]
  nodup := by simpa using h.nodup
  counts_done := nofun
  counts_todo := h.counts_done

end Turns

/-- The slots that are still to be asked, in their order, when each of `unknowns` is asked `most`
times. -/
inductive Asks (eligible occupied : UInt8 → Bool) (most : Nat) (unknowns : List UInt8) :
    List UInt8 → Interrogation → Prop
  | asks {round left : Nat} {done todo : List UInt8} {sid : UInt8} {interrogation : Interrogation}
      (hrounds : round + left + 1 = most) (hall : done ++ sid :: todo = unknowns)
      (h : Turns eligible occupied round done (sid :: todo) interrogation) :
      Asks eligible occupied most unknowns
        (sid :: todo ++ (List.replicate left unknowns).flatten) interrogation
  | through {interrogation : Interrogation}
      (h : Turns eligible occupied most [] unknowns interrogation) :
      Asks eligible occupied most unknowns [] interrogation

namespace Asks

variable {round left : Nat} {unknowns rest : List UInt8} {sid : UInt8}
  {interrogation : Interrogation}

/-- So many rounds are still to come. -/
theorem of_turns (h : Turns eligible occupied round [] unknowns interrogation)
    (hrounds : round + left = most) :
    Asks eligible occupied most unknowns (List.replicate left unknowns).flatten interrogation := by
  cases unknowns with
  | nil =>
    rw [List.flatten_replicate_nil]
    exact .through ⟨h.cursor, h.size, h.order, h.nodup, nofun, nofun⟩
  | cons sid todo =>
    cases left with
    | zero =>
      obtain rfl : round = most := hrounds
      exact .through h
    | succ left => exact .asks hrounds rfl h

/-- The next slot is found. -/
theorem next (h : Asks eligible occupied most unknowns (sid :: rest) interrogation) :
    (interrogation.next eligible occupied most Radio.slotCount).1 = some sid ∧
      Asks eligible occupied most unknowns rest
        (interrogation.next eligible occupied most Radio.slotCount).2 := by
  cases h with
  | @asks round left done todo _ _ hrounds hall h =>
    have hround : round < most := by omega
    have hturns := h.next hround
    refine ⟨h.found hround, ?_⟩
    cases todo with
    | nil =>
      rw [hall] at hturns
      exact of_turns hturns.turn (by omega)
    | cons other todo => exact .asks hrounds (by simpa using hall) hturns

/-- When none is to be asked any more, none is found. -/
theorem next_none (h : Asks eligible occupied most unknowns [] interrogation) :
    (interrogation.next eligible occupied most Radio.slotCount).1 = none := by
  cases h with
  | through h => exact h.next_none

end Asks

end AlarmMesh.Gateway.Interrogation
