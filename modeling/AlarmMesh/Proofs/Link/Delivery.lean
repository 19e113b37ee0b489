import AlarmMesh.Proofs.Link.Traffic
import Mathlib.Data.List.Infix

/-!
# Every frame over a link is accounted for

A link between a peer that queues wire frames and a consumer that releases its buffers in the end.
At any time the frames that the consumer was given are those that the wire frames read so far carry,
in their order, and the counters tell them from the wire frames that were too long.  No slot is lost
on the way: when no round finds a buffer, all of them are out, so one comes back.  So every wire
frame is read in the end, and every frame it carries is taken.

* `Accounts`, `exists_accounts` — what a link has accounted for, at any time;
* `Fair`, `Fair.of_rounds` — that rounds go on and buffers are released;
* `Fair.room_again` — there is a buffer for a round again and again;
* `Fair.reads`, `Fair.takes` — what was queued is read, what was read is taken;
* `KeepsAccounts`, `Fair.keepsAccounts` — the whole account.
-/

namespace AlarmMesh.Link.Traffic

variable {slots : Nat} {schedule : Nat → Event} {traffic traffic' : Traffic}

/-! ### At any time -/

/-- What a link has accounted for when it has read the wire frames `read`. -/
structure Accounts (traffic : Traffic) (slots : Nat) (read : List (List UInt8)) : Prop where
  /-- They are the first of those that the peer queued. -/
  wires : traffic.wires = read ++ traffic.driver.channel.inbound
  /-- The consumer was given the frames that they carry, without escapes and in their order. -/
  frames : traffic.taken ++ traffic.driver.queue.map Buffer.content = contents read
  received : traffic.driver.tally.value .frameReceived = (contents read).length
  failed : traffic.driver.tally.value (.ioError .receive) = overlong read
  sizes : traffic.driver.sizes = (contents read).map List.length
  /-- Every buffer that was passed on was counted once. -/
  sent : counted traffic.driver.tally = traffic.passed
  /-- No slot is lost or held twice. -/
  kept : traffic.holding.Kept slots

theorem exists_accounts (slots : Nat) (schedule : Nat → Event) (n : Nat) :
    ∃ read, (after slots schedule n).Accounts slots read := by
  obtain ⟨queued, read, hmoved⟩ := moves_after slots schedule (Nat.zero_le n)
  have hkept := (Sound.after slots schedule n).holding.kept
  have hwires : (after slots schedule n).wires = queued := hmoved.wires
  have hinbound : queued = read ++ (after slots schedule n).driver.channel.inbound := hmoved.inbound
  obtain ⟨taken, added, hqueue, htaken, hadded⟩ := hmoved.queue
  have hframes : added = taken ++ (after slots schedule n).driver.queue := hqueue
  have htaken : (after slots schedule n).taken = taken.map Buffer.content := htaken
  refine ⟨read, hwires.trans hinbound, ?_, ?_, ?_, hmoved.sizes, ?_, hkept⟩
  · rw [htaken, ← List.map_append, ← hframes, hadded]
  · exact hmoved.received.trans (Nat.zero_add _)
  · exact hmoved.failed.trans (Nat.zero_add _)
  · exact hmoved.sent.trans (Nat.zero_add _)

/-! ### Again and again -/

/-- There is a buffer for the next round. -/
def Room (traffic : Traffic) : Prop :=
  traffic.driver.spare ≠ none ∨ traffic.driver.pool.free ≠ []

/-- Rounds go on, and whoever holds a buffer releases it in the end. -/
structure Fair (slots : Nat) (schedule : Nat → Event) : Prop where
  /-- If again and again there is a buffer for a round, then again and again there is a round with a
  buffer. -/
  served : (∀ n, ∃ m, n ≤ m ∧ (after slots schedule m).Room) →
    ∀ n, ∃ m, n ≤ m ∧ schedule m = .round ∧ (after slots schedule m).Room
  released : ∀ n, ∀ buffer ∈ (after slots schedule n).out,
    ∃ m, n ≤ m ∧ ∀ other ∈ (after slots schedule m).out, other.slot ≠ buffer.slot

/-- Without a buffer for a round, every slot is out. -/
theorem Sound.out_of_not_room (h : traffic.Sound slots) (hroom : ¬ traffic.Room) {slot : Nat}
    (hslot : slot < slots) : ∃ buffer ∈ traffic.out, buffer.slot = slot := by
  unfold Room at hroom
  push Not at hroom
  obtain ⟨hspare, hfree⟩ := hroom
  have howned := h.holding.ledger.free_eq_nil_iff.1 hfree slot hslot
  simpa [Traffic.holding, Holding.owned, hspare] using howned

/-- Again and again there is a buffer for a round. -/
theorem Fair.room_again (h : Fair slots schedule) (hslots : 0 < slots) (n : Nat) :
    ∃ m, n ≤ m ∧ (after slots schedule m).Room := by
  by_cases hroom : (after slots schedule n).Room
  · exact ⟨n, Nat.le_refl n, hroom⟩
  · obtain ⟨buffer, hbuffer, hslot⟩ :=
      (Sound.after slots schedule n).out_of_not_room hroom hslots
    obtain ⟨m, hnm, hother⟩ := h.released n buffer hbuffer
    refine ⟨m, hnm, ?_⟩
    -- the slot that came back is free, or left to the next round
    by_contra hnone
    obtain ⟨other, hout, hsame⟩ := (Sound.after slots schedule m).out_of_not_room hnone hslots
    exact hother other hout (hsame.trans hslot.symm)

/-! ### When nobody else takes slots -/

/-- Somebody outside the link takes a slot. -/
def Event.takesSlot : Event → Bool
  | .deed .acquire | .deed (.acquireWith _) | .deed (.acquireFor _) => true
  | _ => false

/-- A pool with a free slot still has one when one is given back. -/
theorem free_release_ne_nil {pool : Pool} (h : pool.free ≠ []) (buffer : Buffer) :
    (pool.release buffer).free ≠ [] := by
  unfold Pool.release
  split
  · exact List.cons_ne_nil _ _
  · exact h

theorem free_atPlace_ne_nil {holding : Holding} (h : holding.pool.free ≠ []) (place : Nat)
    {act : Buffer → Option Buffer × Pool}
    (hact : ∀ buffer, Holding.Handles holding.pool buffer (act buffer)) :
    (holding.atPlace place act).pool.free ≠ [] := by
  unfold Holding.atPlace
  rcases holding.held[place]? with _ | buffer
  · exact h
  · have hbuffer := hact buffer
    dsimp only
    generalize act buffer = acted at hbuffer ⊢
    cases hbuffer with
    | change => exact h
    | retag use => exact h
    | letGo => exact free_release_ne_nil h buffer

/-- A buffer for the next round is there until that round, unless somebody else takes it. -/
theorem Room.step (h : traffic.Room) {event : Event} (hround : event ≠ .round)
    (htakes : event.takesSlot = false) : (traffic.step event).Room := by
  cases event with
  | arrive wire => exact h
  | leave => exact h
  | round => exact absurd rfl hround
  | take =>
    rcases hqueue : traffic.driver.queue with _ | ⟨buffer, rest⟩
    · rw [step_take_nil hqueue]
      exact h
    · rw [step_take_cons hqueue]
      exact h
  | deed deed =>
    refine h.imp id ?_
    intro hfree
    have hheld : (⟨traffic.driver.pool, traffic.held⟩ : Holding).pool.free ≠ [] := hfree
    cases deed with
    | acquire => cases htakes
    | acquireWith bytes => cases htakes
    | acquireFor command => cases htakes
    | retag place use => exact free_atPlace_ne_nil hheld place fun _ => .retag use
    | write place writing =>
      exact free_atPlace_ne_nil hheld place fun buffer => Holding.handles_written buffer writing
    | escape place =>
      exact free_atPlace_ne_nil hheld place fun buffer => Holding.handles_escape buffer
    | release place => exact free_atPlace_ne_nil hheld place fun _ => .letGo
  | transmit place =>
    rcases hplace : traffic.held[place]? with _ | buffer
    · rw [step_transmit_none hplace]
      exact h
    · rw [step_transmit_some hplace]
      have hsends := traffic.driver.sends_transmit buffer
      rcases h with hspare | hfree
      · exact .inl (hsends.spare ▸ hspare)
      · exact .inr (hsends.pool ▸ free_release_ne_nil hfree buffer)

/-- Where only rounds take slots, it is enough that there are rounds again and again. -/
theorem Fair.of_rounds (hrounds : ∀ n, ∃ m, n ≤ m ∧ schedule m = .round)
    (htakes : ∀ n, (schedule n).takesSlot = false)
    (hreleased : ∀ n, ∀ buffer ∈ (after slots schedule n).out,
      ∃ m, n ≤ m ∧ ∀ other ∈ (after slots schedule m).out, other.slot ≠ buffer.slot) :
    Fair slots schedule where
  released := hreleased
  served := by
    -- the buffer is there until the first round that comes
    have hfirst : ∀ wait n, (after slots schedule n).Room → schedule (n + wait) = .round →
        ∃ m, n ≤ m ∧ schedule m = .round ∧ (after slots schedule m).Room := by
      intro wait
      induction wait with
      | zero => exact fun n hroom hround => ⟨n, Nat.le_refl n, hround, hroom⟩
      | succ wait ih =>
        intro n hroom hround
        by_cases hnow : schedule n = .round
        · exact ⟨n, Nat.le_refl n, hnow, hroom⟩
        · have hnext : (after slots schedule (n + 1)).Room := hroom.step hnow (htakes n)
          obtain ⟨m, hm, hfound⟩ := ih (n + 1) hnext (by rw [← hround]; congr 1; omega)
          exact ⟨m, Nat.le_of_succ_le hm, hfound⟩
    intro hagain n
    obtain ⟨m, hnm, hroom⟩ := hagain n
    obtain ⟨later, hlater, hround⟩ := hrounds m
    obtain ⟨found, hfound, hmet⟩ := hfirst (later - m) m hroom (by
      rw [Nat.add_sub_cancel' hlater, hround])
    exact ⟨found, Nat.le_trans hnm hfound, hmet⟩

/-! ### What was queued is read -/

/-- What advances by one as long as it is below a bound reaches the bound. -/
theorem exists_reached {P : Nat → Nat → Prop} {n bound : Nat} (hstart : P n 0)
    (hnext : ∀ m number, n ≤ m → number < bound → P m number →
      ∃ m', m ≤ m' ∧ P m' (number + 1)) : ∃ m, n ≤ m ∧ P m bound := by
  have hreached : ∀ number, number ≤ bound → ∃ m, n ≤ m ∧ P m number := by
    intro number hnumber
    induction number with
    | zero => exact ⟨n, Nat.le_refl n, hstart⟩
    | succ number ih =>
      obtain ⟨m, hnm, hbefore⟩ := ih (Nat.le_of_succ_le hnumber)
      obtain ⟨m', hmm, hafter⟩ := hnext m number hnm hnumber hbefore
      exact ⟨m', Nat.le_trans hnm hmm, hafter⟩
  exact hreached bound (Nat.le_refl bound)

/-- A round with a buffer reads the next wire frame. -/
theorem Sound.inbound_round (h : traffic.Sound slots) (hroom : traffic.Room) {wire : List UInt8}
    {rest : List (List UInt8)} (hinbound : traffic.driver.channel.inbound = wire :: rest) :
    (traffic.step .round).driver.channel.inbound = rest := by
  have hround := h.round
  show traffic.driver.receiveRound.channel.inbound = rest
  have hsame : ∀ {other : List UInt8} {others : List (List UInt8)},
      traffic.driver.channel.inbound = other :: others → others = rest := by
    intro other others hothers
    exact (List.cons.inj (hothers.symm.trans hinbound)).2
  generalize traffic.driver.receiveRound = driver at hround ⊢
  cases hround with
  | starved hspare hfree => exact absurd hroom (by simp [Room, hspare, hfree])
  | idle _ hnothing =>
    rw [hnothing] at hinbound
    cases hinbound
  | skipped _ hnext => exact hsame hnext
  | delivered _ hnext => exact hsame hnext
  | failed _ hnext => exact hsame hnext

/-- At least `number` wire frames have been read. -/
def HasRead (traffic : Traffic) (number : Nat) : Prop :=
  number + traffic.driver.channel.inbound.length ≤ traffic.wires.length

theorem Moves.hasRead (h : traffic.Moves traffic') {number : Nat} (hread : traffic.HasRead number) :
    traffic'.HasRead number := by
  obtain ⟨queued, read, hmoved⟩ := h
  have hwires := congrArg List.length hmoved.wires
  have hinbound := congrArg List.length hmoved.inbound
  simp only [List.length_append] at hwires hinbound
  unfold HasRead at hread ⊢
  omega

theorem wires_length_le (slots : Nat) (schedule : Nat → Event) {n m : Nat} (h : n ≤ m) :
    (after slots schedule n).wires.length ≤ (after slots schedule m).wires.length := by
  obtain ⟨queued, read, hmoved⟩ := moves_after slots schedule h
  rw [hmoved.wires, List.length_append]
  omega

/-- As long as there is a wire frame to be read, one is read in the end. -/
theorem Fair.reads_next (h : Fair slots schedule) (hslots : 0 < slots) {n number : Nat}
    (hread : (after slots schedule n).HasRead number)
    (hmore : number < (after slots schedule n).wires.length) :
    ∃ m, n ≤ m ∧ (after slots schedule m).HasRead (number + 1) := by
  obtain ⟨m, hnm, hround, hroom⟩ := h.served (h.room_again hslots) n
  have hbefore := (moves_after slots schedule hnm).hasRead hread
  have hlater := wires_length_le slots schedule hnm
  by_cases hdone : (after slots schedule m).HasRead (number + 1)
  · exact ⟨m, hnm, hdone⟩
  · -- the next one is still there, and this round reads it
    have hnext : (after slots schedule (m + 1)) = (after slots schedule m).step .round := by
      rw [after, hround]
    unfold HasRead at hbefore hdone
    rcases hinbound : (after slots schedule m).driver.channel.inbound with _ | ⟨wire, rest⟩
    · rw [hinbound, List.length_nil] at hdone
      omega
    · have hrest := (Sound.after slots schedule m).inbound_round hroom hinbound
      rw [hinbound, List.length_cons] at hbefore
      refine ⟨m + 1, Nat.le_succ_of_le hnm, ?_⟩
      rw [hnext]
      unfold HasRead
      rw [hrest]
      show number + 1 + rest.length ≤ (after slots schedule m).wires.length
      omega

/-- What was queued is read in the end. -/
theorem Fair.reads (h : Fair slots schedule) (hslots : 0 < slots) (n : Nat) :
    ∃ m, n ≤ m ∧ (after slots schedule m).HasRead (after slots schedule n).wires.length := by
  have hstart : (after slots schedule n).HasRead 0 := by
    obtain ⟨read, haccounts⟩ := exists_accounts slots schedule n
    unfold HasRead
    rw [haccounts.wires, List.length_append]
    omega
  apply exists_reached hstart
  intro m number hnm hnumber hread
  exact h.reads_next hslots hread (Nat.lt_of_lt_of_le hnumber (wires_length_le slots schedule hnm))

/-! ### What was read is taken -/

/-- How many frames the consumer was given. -/
def given (traffic : Traffic) : Nat := traffic.taken.length + traffic.driver.queue.length

theorem Moves.given_le (h : traffic.Moves traffic') : traffic.given ≤ traffic'.given := by
  obtain ⟨_, _, hmoved⟩ := h
  obtain ⟨taken, added, hqueue, htaken, -⟩ := hmoved.queue
  have hlengths := congrArg List.length hqueue
  have hnumbers := congrArg List.length htaken
  simp only [List.length_append, List.length_map] at hlengths hnumbers
  unfold given
  omega

/-- As long as there is a frame to be taken, one is taken in the end. -/
theorem Fair.takes_next (h : Fair slots schedule) {n : Nat}
    (hmore : (after slots schedule n).taken.length < (after slots schedule n).given) :
    ∃ m, n ≤ m ∧
      (after slots schedule n).taken.length < (after slots schedule m).taken.length := by
  rcases hqueue : (after slots schedule n).driver.queue with _ | ⟨buffer, rest⟩
  · unfold given at hmore
    rw [hqueue, List.length_nil] at hmore
    omega
  · -- the frame at the front is released, so it was taken before
    have hout : buffer ∈ (after slots schedule n).out := by simp [out, hqueue]
    obtain ⟨m, hnm, hother⟩ := h.released n buffer hout
    refine ⟨m, hnm, ?_⟩
    obtain ⟨_, _, hmoved⟩ := moves_after slots schedule hnm
    obtain ⟨taken, added, hleft, htaken, -⟩ := hmoved.queue
    rcases taken with _ | ⟨first, more⟩
    · have hstill : buffer ∈ (after slots schedule m).out := by
        rw [hqueue, List.nil_append] at hleft
        simp [out, ← hleft]
      exact absurd rfl (hother buffer hstill)
    · rw [htaken, List.length_append, List.length_map, List.length_cons]
      omega

/-- What the consumer was given is taken in the end. -/
theorem Fair.takes (h : Fair slots schedule) (n : Nat) :
    ∃ m, n ≤ m ∧ (after slots schedule n).given ≤ (after slots schedule m).taken.length := by
  apply exists_reached (P := fun m number => number ≤ (after slots schedule m).taken.length)
    (Nat.zero_le _)
  intro m number hnm hnumber htaken
  have hgiven := (moves_after slots schedule hnm).given_le
  by_cases hdone : number + 1 ≤ (after slots schedule m).taken.length
  · exact ⟨m, Nat.le_refl m, hdone⟩
  · obtain ⟨m', hmm, hafter⟩ := h.takes_next (n := m) (by omega)
    exact ⟨m', hmm, by omega⟩

/-! ### The whole account -/

theorem Moves.taken_grows (h : traffic.Moves traffic') : traffic.taken <+: traffic'.taken := by
  obtain ⟨_, _, hmoved⟩ := h
  obtain ⟨taken, -, -, htaken, -⟩ := hmoved.queue
  rw [htaken]
  exact List.prefix_append _ _

/-- What the first wire frames carry was given to the consumer once they were read. -/
theorem Accounts.contents_given {read wires : List (List UInt8)}
    (h : traffic.Accounts slots read) (hread : traffic.HasRead wires.length)
    (hwires : wires <+: traffic.wires) :
    contents wires <+: traffic.taken ++ traffic.driver.queue.map Buffer.content := by
  have hlength := congrArg List.length h.wires
  rw [List.length_append] at hlength
  unfold HasRead at hread
  have hfirst : wires <+: read := by
    rw [h.wires] at hwires
    exact List.prefix_of_prefix_length_le hwires (List.prefix_append _ _) (by omega)
  obtain ⟨more, rfl⟩ := hfirst
  rw [h.frames, contents_append]
  exact List.prefix_append _ _

/-- What a link does with every wire frame of its peer and every buffer that is passed to it. -/
structure KeepsAccounts (slots : Nat) (schedule : Nat → Event) : Prop where
  always : ∀ n, ∃ read, (after slots schedule n).Accounts slots read
  /-- What the wire frames carry is taken in the end, in their order. -/
  arrives : ∀ n, ∃ m, n ≤ m ∧
    contents (after slots schedule n).wires <+: (after slots schedule m).taken
  /-- When the peer queues no more wire frames, from some time on the consumer has taken exactly
  what they carry, and the counters tell these frames and the ones that were too long. -/
  settles : ∀ n, (∀ m, n ≤ m → (after slots schedule m).wires = (after slots schedule n).wires) →
    ∃ m, n ≤ m ∧ ∀ later, m ≤ later →
      (after slots schedule later).taken = contents (after slots schedule n).wires ∧
      (after slots schedule later).driver.tally.value .frameReceived =
        (contents (after slots schedule n).wires).length ∧
      (after slots schedule later).driver.tally.value (.ioError .receive) =
        overlong (after slots schedule n).wires
  /-- Every buffer that is passed on is counted once, and its slot is free. -/
  sends : ∀ (driver : Driver) (buffer : Buffer), driver.Sends buffer (driver.transmit buffer)

/-- From some time on, what was queued is read and what it carries is taken. -/
theorem Fair.arrives (h : Fair slots schedule) (hslots : 0 < slots) (n : Nat) :
    ∃ m, n ≤ m ∧ (after slots schedule m).HasRead (after slots schedule n).wires.length ∧
      contents (after slots schedule n).wires <+: (after slots schedule m).taken := by
  obtain ⟨m, hnm, hread⟩ := h.reads hslots n
  obtain ⟨m', hmm, htaken⟩ := h.takes m
  have hmoves := moves_after slots schedule hmm
  refine ⟨m', Nat.le_trans hnm hmm, hmoves.hasRead hread, ?_⟩
  -- all that was given at the earlier time is taken at the later one
  obtain ⟨read, haccounts⟩ := exists_accounts slots schedule m
  have hgiven : (after slots schedule m).taken ++
      (after slots schedule m).driver.queue.map Buffer.content <+:
        (after slots schedule m').taken := by
    obtain ⟨_, _, hmoved⟩ := hmoves
    obtain ⟨taken, added, hqueue, hnow, -⟩ := hmoved.queue
    have hlengths := congrArg List.length hnow
    rw [List.length_append, List.length_map] at hlengths
    unfold given at htaken
    have hall : (after slots schedule m).driver.queue <+: taken :=
      List.prefix_of_prefix_length_le (List.prefix_append _ added)
        (hqueue ▸ List.prefix_append _ _) (by omega)
    rw [hnow]
    exact (List.prefix_append_right_inj _).2 (hall.map _)
  have hwires : (after slots schedule n).wires <+: (after slots schedule m).wires := by
    obtain ⟨_, _, hmoved⟩ := moves_after slots schedule hnm
    rw [hmoved.wires]
    exact List.prefix_append _ _
  exact (haccounts.contents_given hread hwires).trans hgiven

/-- A link whose rounds go on and whose buffers are released accounts for everything. -/
theorem Fair.keepsAccounts (h : Fair slots schedule) (hslots : 0 < slots) :
    KeepsAccounts slots schedule where
  always := exists_accounts slots schedule
  arrives n := by
    obtain ⟨m, hnm, -, htaken⟩ := h.arrives hslots n
    exact ⟨m, hnm, htaken⟩
  settles n hlast := by
    obtain ⟨m, hnm, hread, htaken⟩ := h.arrives hslots n
    refine ⟨m, hnm, ?_⟩
    intro later hlater
    have hmoves := moves_after slots schedule hlater
    obtain ⟨read, haccounts⟩ := exists_accounts slots schedule later
    have hwires := hlast later (Nat.le_trans hnm hlater)
    -- nothing is left to be read
    have hall : read = (after slots schedule n).wires := by
      have hrest := hmoves.hasRead hread
      unfold HasRead at hrest
      rw [hwires] at hrest
      have hnothing : (after slots schedule later).driver.channel.inbound = [] :=
        List.eq_nil_of_length_eq_zero (by omega)
      rw [← hwires, haccounts.wires, hnothing, List.append_nil]
    subst hall
    refine ⟨?_, haccounts.received, haccounts.failed⟩
    have hfirst := htaken.trans hmoves.taken_grows
    have hframes := haccounts.frames
    refine (hfirst.eq_of_length_le ?_).symm
    rw [← hframes, List.length_append]
    omega
  sends := Driver.sends_transmit

/-- The peer queues a frame with an escape, an empty one and one that is too long; then rounds take
turns with a consumer that releases what it takes. -/
def exchange : Nat → Event
  | 0 => .arrive [0xd4, 0x7d, 0x01, 0x7e]
  | 1 => .arrive [0x7e]
  | 2 => .arrive (List.replicate 33 0)
  | n + 3 => if n % 3 = 0 then .round else if n % 3 = 1 then .take else .deed (.release 0)

/-- After the third round the slot stays with the rounds, which find nothing more to read. -/
theorem after_exchange (n : Nat) : after 1 exchange (n + 12) = after 1 exchange 12 := by
  induction n with
  | zero => rfl
  | succ n ih =>
    have hstep : after 1 exchange (n + 1 + 12) =
        (after 1 exchange 12).step (exchange (n + 12)) := by
      rw [← ih]
      rfl
    have hturn : exchange (n + 12) = if (n + 9) % 3 = 0 then .round
        else if (n + 9) % 3 = 1 then .take else .deed (.release 0) := rfl
    rw [hstep, hturn]
    split_ifs
    · rfl
    · rfl
    · rfl

theorem fair_exchange : Fair 1 exchange := by
  refine Fair.of_rounds ?_ ?_ ?_
  · intro n
    refine ⟨3 * n + 3, by omega, ?_⟩
    exact if_pos (Nat.mul_mod_right 3 n)
  · intro n
    unfold exchange
    split
    · rfl
    · rfl
    · rfl
    · split_ifs <;> rfl
  · intro n buffer _
    refine ⟨n + 12, Nat.le_add_right n 12, ?_⟩
    rw [after_exchange]
    exact fun other hother => absurd hother List.not_mem_nil

/-- In the end one frame was taken, without its escape; one was empty and one was too long. -/
theorem keepsAccounts_exchange :
    Fair 1 exchange ∧ 0 < 1 ∧ ∃ m, ∀ later, m ≤ later →
      (after 1 exchange later).taken = [[0xd4, 0x7e]] ∧
      (after 1 exchange later).driver.tally.value .frameReceived = 1 ∧
      (after 1 exchange later).driver.tally.value (.ioError .receive) = 1 := by
  refine ⟨fair_exchange, Nat.one_pos, ?_⟩
  have hlast : ∀ m, 12 ≤ m → (after 1 exchange m).wires = (after 1 exchange 12).wires := by
    intro m hm
    obtain ⟨n, rfl⟩ := Nat.exists_eq_add_of_le' hm
    rw [after_exchange]
  obtain ⟨m, -, hsettled⟩ := (fair_exchange.keepsAccounts Nat.one_pos).settles 12 hlast
  exact ⟨m, hsettled⟩

end AlarmMesh.Link.Traffic
