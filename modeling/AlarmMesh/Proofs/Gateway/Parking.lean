import AlarmMesh.Proofs.Gateway.Pending
import AlarmMesh.Proofs.Link.Slots

/-!
# Buffers when there is room

A command needs a free buffer for the moment, and a report that waits needs one for itself beside
that.  As long as there are two of them, and the other users of the pool leave them alone, a
question is always sent and its report always waits.

* `Pool.Roomy pool n`, `Site.Roomy site n` — at least `n` buffers are free to be taken;
* `Pool.Roomy.acquire`, `release`, `release_owned` — what the operations of a pool leave of them;
* `send_of_roomy`, `park_of_roomy` — a command is sent and a report parked.
-/

namespace AlarmMesh

namespace Link.Pool

variable {pool pool' : Pool} {buffer : Buffer} {n m : Nat}

/-- At least `n` slots are free, and what is free is a slot of the pool. -/
structure Roomy (pool : Pool) (n : Nat) : Prop where
  room : n ≤ pool.available
  known : ∀ slot ∈ pool.free, slot < pool.tags.length

theorem Ledger.roomy {slots : Nat} {owned : List (Nat × SlotUse)} (h : pool.Ledger slots owned) :
    pool.Roomy pool.available :=
  ⟨Nat.le_refl _, fun _ hslot => h.lt_length (List.mem_append_left _ hslot)⟩

namespace Roomy

theorem mono (h : pool.Roomy n) (hle : m ≤ n) : pool.Roomy m :=
  ⟨Nat.le_trans hle h.room, h.known⟩

/-- The next free slot is taken, and its tag tells so. -/
theorem acquire (h : pool.Roomy (n + 1)) : ∃ buffer pool', pool.acquire = (some buffer, pool') ∧
    pool'.Roomy n ∧ pool'.tags.getD buffer.slot none = some .frame := by
  obtain ⟨hroom, hknown⟩ := h
  unfold available at hroom
  unfold Pool.acquire
  cases hfree : pool.free with
  | nil => simp [hfree] at hroom
  | cons slot free =>
    rw [hfree, List.length_cons] at hroom
    rw [hfree, List.forall_mem_cons] at hknown
    refine ⟨_, _, rfl, ⟨Nat.le_of_succ_le_succ hroom, ?_⟩, ?_⟩
    · intro other hother
      show other < (pool.tags.set slot (some .frame)).length
      rw [List.length_set]
      exact hknown.2 other hother
    · show (pool.tags.set slot (some .frame)).getD slot none = some .frame
      rw [List.getD_eq_getElem?_getD, List.getElem?_set_self hknown.1]
      rfl

theorem retag (h : pool.Roomy n) (buffer : Buffer) (use : SlotUse) :
    (pool.retag buffer use).2.Roomy n where
  room := h.room
  known slot hslot := by
    show slot < (pool.tags.set buffer.slot (some use)).length
    rw [List.length_set]
    exact h.known slot hslot

/-- A slot that is owned is free again. -/
theorem release_owned (h : pool.Roomy n) (use : SlotUse)
    (htag : pool.tags.getD buffer.slot none = some use) : (pool.release buffer).Roomy (n + 1) := by
  have hlt : buffer.slot < pool.tags.length := by
    by_contra hge
    simp [List.getD_eq_getElem?_getD, List.getElem?_eq_none (Nat.le_of_not_lt hge)] at htag
  unfold Pool.release
  rw [htag]
  refine ⟨Nat.succ_le_succ h.room, ?_⟩
  intro slot hslot
  show slot < (pool.tags.set buffer.slot none).length
  rw [List.length_set]
  rcases List.mem_cons.1 hslot with rfl | hslot
  · exact hlt
  · exact h.known slot hslot

theorem release (h : pool.Roomy n) (buffer : Buffer) : (pool.release buffer).Roomy n := by
  cases htag : pool.tags.getD buffer.slot none with
  | some use => exact (h.release_owned use htag).mono (Nat.le_succ n)
  | none =>
    unfold Pool.release
    rw [htag]
    exact ⟨h.room, h.known⟩

end Roomy

end Link.Pool

namespace Gateway

open Radio (Command)

namespace Site

variable {site site' : Site} {n m : Nat}

/-- At least `n` buffers are free, and the other users of the pool leave them alone. -/
structure Roomy (site : Site) (n : Nat) : Prop where
  pool : site.pool.Roomy n
  calm : ∀ busy ∈ site.contention, busy = false

/-- These commands were sent, latest first, and beside that only buffers, timers and counts may
differ. -/
structure Sends (sent : List Command) (site site' : Site) : Prop where
  platform : site'.platform = site.platform
  clock : site'.clock = site.clock
  sent : site'.sent = sent ++ site.sent

theorem Roomy.mono (h : site.Roomy n) (hle : m ≤ n) : site.Roomy m := ⟨h.pool.mono hle, h.calm⟩

theorem Roomy.congr (h : site.Roomy n) (hpool : site'.pool = site.pool)
    (hcontention : site'.contention = site.contention) : site'.Roomy n :=
  ⟨hpool ▸ h.pool, hcontention ▸ h.calm⟩

theorem Roomy.release (h : site.Roomy n) (buffer : Link.Buffer) : (site.release buffer).Roomy n :=
  ⟨h.pool.release buffer, h.calm⟩

/-- A buffer is taken from the pool if nobody gets in the way. -/
theorem takeBuffer_of_calm (h : ∀ busy ∈ site.contention, busy = false)
    (take : Link.Pool → Option Link.Buffer × Link.Pool) :
    site.takeBuffer take = ((take site.pool).1,
      { site with pool := (take site.pool).2, contention := site.contention.tail }) := by
  have hnext : site.contention.headD false = false := by
    cases hcontention : site.contention with
    | nil => rfl
    | cons busy rest => exact h busy (by simp [hcontention])
  unfold takeBuffer
  rw [hnext]
  rfl

theorem calm_tail (h : ∀ busy ∈ site.contention, busy = false) :
    ∀ busy ∈ site.contention.tail, busy = false :=
  fun busy hbusy => h busy (List.mem_of_mem_tail hbusy)

/-- With a free buffer a command is sent, and the buffer is free again. -/
theorem send_of_roomy (h : site.Roomy (n + 1)) (command : Command) :
    ∃ site', site.send command = (true, site') ∧ site.Sends [command] site' ∧
      site'.Roomy (n + 1) := by
  obtain ⟨buffer, pool, hacquire, hpool, htag⟩ := h.pool.acquire
  obtain ⟨write, hslot, htake⟩ := site.pool.acquireFor_eq command
  rw [hacquire] at htake
  unfold send
  rw [takeBuffer_of_calm h.calm, htake]
  refine ⟨_, rfl, ⟨rfl, rfl, rfl⟩, ⟨hpool.release_owned .frame ?_, calm_tail h.calm⟩⟩
  rw [hslot]
  exact htag

/-- With two free buffers a report that fits one is parked and its question sent. -/
theorem park_of_roomy (h : site.Roomy (n + 2)) {report : List UInt8}
    (hfit : report.length ≤ Link.bufferCapacity) (use : Link.SlotUse) (question : Command) :
    ∃ buffer site', site.park report use question = (some buffer, site') ∧
      buffer.content = report ∧ site.Sends [question] site' ∧ site'.Roomy (n + 1) := by
  obtain ⟨buffer, pool, hacquire, hpool, -⟩ := h.pool.acquire
  have htake : site.pool.acquireWith report = (some (buffer.filled report), pool) := by
    unfold Link.Pool.acquireWith
    rw [if_neg (Nat.not_lt_of_le hfit), hacquire]
  let asking : Site := { site with
    pool := (pool.retag (buffer.filled report) use).2, contention := site.contention.tail }
  have hasking : asking.Roomy (n + 1) := ⟨hpool.retag _ use, calm_tail h.calm⟩
  obtain ⟨site', hsend, hsends, hroomy⟩ := send_of_roomy hasking question
  have hpark : site.park report use question =
      (some (pool.retag (buffer.filled report) use).1, site') := by
    unfold park
    rw [takeBuffer_of_calm h.calm, htake]
    dsimp only
    rw [hsend]
  exact ⟨_, site', hpark, park_content hpark, ⟨hsends.platform, hsends.clock, hsends.sent⟩, hroomy⟩

theorem roomy_of_park (h : site.Roomy (n + 2)) {report : List UInt8}
    (hfit : report.length ≤ Link.bufferCapacity) {use : Link.SlotUse} {question : Command}
    {parked : Option Link.Buffer} (hpark : site.park report use question = (parked, site')) :
    site'.Roomy (n + 1) := by
  obtain ⟨buffer, after, heq, -, -, hroomy⟩ := park_of_roomy h hfit use question
  rw [hpark] at heq
  exact (Prod.mk.inj heq).2 ▸ hroomy

end Site

end Gateway

end AlarmMesh
