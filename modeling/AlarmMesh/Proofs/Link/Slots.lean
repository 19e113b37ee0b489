import AlarmMesh.Link.Pool
import Mathlib.Data.List.Perm.Basic
import Mathlib.Data.List.Nodup
import Mathlib.Data.List.Range

/-!
# Who owns the slots of a pool

Every slot of a pool is free or owned, and never both.  A *ledger* of the pool lists the owned
slots, each with what it is used for.  Taking a slot adds an entry, giving it back removes one, and
a slot that is used for something else changes its entry; nothing else that a pool does touches the
ledger.

* `Pool.Ledger pool slots owned` — `owned` is a ledger of a pool of `slots` slots;
* `Ledger.take`, `Ledger.retag`, `Ledger.release` — the three changes;
* `Takes` — the ways to take a slot, `takes_acquire`, `takes_acquireWith`, `takes_acquireFor`;
* `Ledger.available_add`, `Ledger.usedFor_eq`, `Ledger.tagged_iff`, `Ledger.free_eq_nil_iff` — what
  the pool tells of itself, read off its ledger;
* `Lending` — what the users of a pool do with the slots that they took.
-/

namespace AlarmMesh.Link.Pool

/-- The slots of the pool are the free ones and the owned ones, and what is owned is tagged with its
use. -/
structure Ledger (pool : Pool) (slots : Nat) (owned : List (Nat × SlotUse)) : Prop where
  capacity : pool.capacity = slots
  every : (pool.free ++ owned.map Prod.fst).Perm (List.range slots)
  tagged : ∀ entry ∈ owned, pool.tags[entry.1]? = some (some entry.2)
  untagged : ∀ slot ∈ pool.free, pool.tags[slot]? = some none

variable {pool pool' : Pool} {slots : Nat} {owned owned' : List (Nat × SlotUse)}
  {buffer buffer' : Buffer} {use use' : SlotUse}

theorem ledger_ofSlots (slots : Nat) : (ofSlots slots).Ledger slots [] where
  capacity := by simp [ofSlots, capacity]
  every := by simp [ofSlots]
  tagged := by simp
  untagged := by
    intro slot hslot
    have hlt : slot < slots := by simpa [ofSlots] using hslot
    simp [ofSlots, hlt]

/-- To count in a list is to count its places. -/
theorem count_eq_countP_range {α : Type} [DecidableEq α] [BEq α] [LawfulBEq α] (as : List α)
    (a : α) :
    as.count a = (List.range as.length).countP fun place => as[place]? = some a := by
  induction as with
  | nil => rfl
  | cons other as ih =>
    have hrest : (fun place => decide ((other :: as)[place]? = some a)) ∘ Nat.succ =
        fun place => decide (as[place]? = some a) := by
      funext place
      simp
    rw [List.length_cons, List.range_succ_eq_map, List.countP_cons, List.countP_map, hrest, ← ih,
      List.count_cons]
    simp

namespace Ledger

theorem perm (h : pool.Ledger slots owned) (hperm : owned.Perm owned') :
    pool.Ledger slots owned' where
  capacity := h.capacity
  every := ((hperm.map Prod.fst).append_left pool.free).symm.trans h.every
  tagged entry hentry := h.tagged entry (hperm.mem_iff.2 hentry)
  untagged := h.untagged

/-- The ledger is one of the free slots and of the tags. -/
theorem congr (h : pool.Ledger slots owned) (hfree : pool'.free = pool.free)
    (htags : pool'.tags = pool.tags) : pool'.Ledger slots owned where
  capacity := (congrArg List.length htags).trans h.capacity
  every := hfree ▸ h.every
  tagged := htags ▸ h.tagged
  untagged := hfree ▸ htags ▸ h.untagged

/-- No slot is free twice, owned twice, or both. -/
theorem nodup (h : pool.Ledger slots owned) : (pool.free ++ owned.map Prod.fst).Nodup :=
  h.every.nodup_iff.2 List.nodup_range

theorem lt_length (h : pool.Ledger slots owned) {slot : Nat}
    (hslot : slot ∈ pool.free ++ owned.map Prod.fst) : slot < pool.tags.length := by
  have hcapacity : pool.tags.length = slots := h.capacity
  have hrange := h.every.mem_iff.1 hslot
  rw [hcapacity]
  exact List.mem_range.1 hrange

/-! ### Changes -/

/-- A free slot is taken. -/
theorem take (h : pool.Ledger slots owned) {slot : Nat} (hfree : pool.free = slot :: pool'.free)
    (htags : pool'.tags = pool.tags.set slot (some use)) :
    pool'.Ledger slots ((slot, use) :: owned) := by
  have hnodup := h.nodup
  have hlt : slot < pool.tags.length := h.lt_length (by simp [hfree])
  rw [hfree, List.cons_append, List.nodup_cons] at hnodup
  have hother : ∀ other, other ∈ pool'.free ++ owned.map Prod.fst →
      pool'.tags[other]? = pool.tags[other]? := by
    intro other hmem
    have hne : slot ≠ other := by
      rintro rfl
      exact hnodup.1 hmem
    rw [htags, List.getElem?_set_ne hne]
  refine ⟨?_, ?_, ?_, ?_⟩
  · rw [← h.capacity]
    simp [Pool.capacity, htags]
  · have hevery := h.every
    rw [hfree, List.cons_append] at hevery
    exact List.perm_middle.trans hevery
  · intro entry hentry
    rcases List.mem_cons.1 hentry with rfl | hentry
    · rw [htags]
      exact List.getElem?_set_self hlt
    · rw [hother _ (List.mem_append_right _ (List.mem_map_of_mem hentry))]
      exact h.tagged entry hentry
  · intro other hmem
    rw [hother other (List.mem_append_left _ hmem)]
    exact h.untagged other (by simp [hfree, hmem])

/-- An owned slot is given back. -/
theorem giveBack {slot : Nat} (h : pool.Ledger slots ((slot, use) :: owned))
    (hfree : pool'.free = slot :: pool.free) (htags : pool'.tags = pool.tags.set slot none) :
    pool'.Ledger slots owned := by
  have hnodup := List.perm_middle.nodup_iff.1 h.nodup
  have hlt : slot < pool.tags.length := h.lt_length (by simp)
  rw [List.nodup_cons] at hnodup
  have hother : ∀ other, other ∈ pool.free ++ owned.map Prod.fst →
      pool'.tags[other]? = pool.tags[other]? := by
    intro other hmem
    have hne : slot ≠ other := by
      rintro rfl
      exact hnodup.1 hmem
    rw [htags, List.getElem?_set_ne hne]
  refine ⟨?_, ?_, ?_, ?_⟩
  · rw [← h.capacity]
    simp [Pool.capacity, htags]
  · rw [hfree, List.cons_append]
    exact List.perm_middle.symm.trans h.every
  · intro entry hentry
    rw [hother _ (List.mem_append_right _ (List.mem_map_of_mem hentry))]
    exact h.tagged entry (List.mem_cons_of_mem _ hentry)
  · intro other hmem
    rw [hfree] at hmem
    rcases List.mem_cons.1 hmem with rfl | hmem
    · rw [htags]
      exact List.getElem?_set_self hlt
    · rw [hother other (List.mem_append_left _ hmem)]
      exact h.untagged other hmem

/-- A buffer that is owned is released. -/
theorem release (h : pool.Ledger slots ((buffer.slot, use) :: owned)) :
    (pool.release buffer).Ledger slots owned := by
  have htag : pool.tags.getD buffer.slot none = some use := by
    rw [List.getD_eq_getElem?_getD, h.tagged _ List.mem_cons_self]
    rfl
  have hrelease : pool.release buffer =
      { pool with
        free := buffer.slot :: pool.free, tags := pool.tags.set buffer.slot none }.measured := by
    unfold Pool.release
    rw [htag]
  rw [hrelease]
  exact h.giveBack rfl rfl

/-- An owned slot is used for something else. -/
theorem retag (h : pool.Ledger slots ((buffer.slot, use) :: owned)) (use' : SlotUse) :
    (pool.retag buffer use').2.Ledger slots ((buffer.slot, use') :: owned) := by
  have hnodup := List.perm_middle.nodup_iff.1 h.nodup
  have hlt : buffer.slot < pool.tags.length := h.lt_length (by simp)
  rw [List.nodup_cons] at hnodup
  have hother : ∀ other, other ∈ pool.free ++ owned.map Prod.fst →
      (pool.retag buffer use').2.tags[other]? = pool.tags[other]? := by
    intro other hmem
    have hne : buffer.slot ≠ other := by
      rintro rfl
      exact hnodup.1 hmem
    exact List.getElem?_set_ne hne
  refine ⟨?_, h.every, ?_, ?_⟩
  · rw [← h.capacity]
    exact List.length_set
  · intro entry hentry
    rcases List.mem_cons.1 hentry with rfl | hentry
    · exact List.getElem?_set_self hlt
    · rw [hother _ (List.mem_append_right _ (List.mem_map_of_mem hentry))]
      exact h.tagged entry (List.mem_cons_of_mem _ hentry)
  · intro other hmem
    rw [hother other (List.mem_append_left _ hmem)]
    exact h.untagged other hmem

/-! ### What the pool tells -/

theorem available_add (h : pool.Ledger slots owned) : pool.available + owned.length = slots := by
  have hlength := h.every.length_eq
  rw [List.length_append, List.length_map, List.length_range] at hlength
  exact hlength

/-- The slots that are tagged with a use are those that the ledger lists with it. -/
theorem usedFor_eq (h : pool.Ledger slots owned) (use : SlotUse) :
    pool.usedFor use = owned.countP fun entry => entry.2 = use := by
  have hcapacity : pool.tags.length = slots := h.capacity
  have hcount : pool.usedFor use =
      (List.range slots).countP fun slot => pool.tags[slot]? = some (some use) := by
    rw [← hcapacity]
    exact count_eq_countP_range pool.tags (some use)
  have hfree : pool.free.countP (fun slot => pool.tags[slot]? = some (some use)) = 0 := by
    rw [List.countP_eq_zero]
    intro slot hslot
    simp [h.untagged slot hslot]
  rw [hcount, ← h.every.countP_eq, List.countP_append, hfree, Nat.zero_add, List.countP_map]
  apply List.countP_congr
  intro entry hentry
  simp [h.tagged entry hentry]

/-- The slots that are tagged are the owned ones. -/
theorem tagged_iff (h : pool.Ledger slots owned) {slot : Nat} {use : SlotUse} :
    pool.tags[slot]? = some (some use) ↔ (slot, use) ∈ owned := by
  refine ⟨?_, h.tagged _⟩
  intro htag
  have hcapacity : pool.tags.length = slots := h.capacity
  obtain ⟨hlt, -⟩ := List.getElem?_eq_some_iff.1 htag
  have hslot : slot ∈ pool.free ++ owned.map Prod.fst :=
    h.every.mem_iff.2 (List.mem_range.2 (hcapacity ▸ hlt))
  rcases List.mem_append.1 hslot with hfree | howned
  · have huntagged := h.untagged slot hfree
    rw [htag] at huntagged
    simp at huntagged
  · obtain ⟨⟨_, use'⟩, hentry, rfl⟩ := List.mem_map.1 howned
    have htagged := h.tagged _ hentry
    rw [htag] at htagged
    obtain rfl : use = use' := by simpa using htagged
    exact hentry

/-- No slot can be taken exactly when every slot is owned. -/
theorem free_eq_nil_iff (h : pool.Ledger slots owned) :
    pool.free = [] ↔ ∀ slot < slots, slot ∈ owned.map Prod.fst := by
  constructor
  · intro hfree slot hslot
    have hmem := h.every.mem_iff.2 (List.mem_range.2 hslot)
    rw [hfree] at hmem
    exact hmem
  · intro hall
    rw [List.eq_nil_iff_forall_not_mem]
    intro slot hfree
    have hslot := List.mem_range.1 (h.every.mem_iff.1 (List.mem_append_left _ hfree))
    exact List.disjoint_of_nodup_append h.nodup hfree (hall slot hslot)

end Ledger

/-! ### Taking a slot -/

/-- A way to take a slot: the next free one is taken, or nothing but a measure changes. -/
structure Takes (take : Pool → Option Buffer × Pool) : Prop where
  fails : ∀ pool, (take pool).1 = none →
    (take pool).2.free = pool.free ∧ (take pool).2.tags = pool.tags
  succeeds : ∀ pool buffer, (take pool).1 = some buffer →
    pool.free = buffer.slot :: (take pool).2.free ∧
      (take pool).2.tags = pool.tags.set buffer.slot (some .frame)

theorem takes_acquire : Takes acquire where
  fails pool h := by
    unfold acquire at h ⊢
    split
    · exact ⟨rfl, rfl⟩
    · simp_all
  succeeds pool buffer h := by
    unfold acquire at h ⊢
    split
    · simp_all
    · next slot free hfree =>
      rw [hfree] at h
      obtain rfl := Option.some.inj h
      exact ⟨hfree, rfl⟩

theorem takes_acquireWith (bytes : List UInt8) : Takes fun pool => pool.acquireWith bytes where
  fails pool h := by
    have hfails := takes_acquire.fails pool
    unfold acquireWith at h ⊢
    split
    · exact ⟨rfl, rfl⟩
    · next hfit =>
      rw [if_neg hfit] at h
      generalize pool.acquire = taken at hfails h ⊢
      obtain ⟨_ | _, after⟩ := taken
      · exact hfails rfl
      · simp at h
  succeeds pool buffer h := by
    have hsucceeds := takes_acquire.succeeds pool
    unfold acquireWith at h ⊢
    split
    · next hfit => simp [hfit] at h
    · next hfit =>
      rw [if_neg hfit] at h
      generalize pool.acquire = taken at hsucceeds h ⊢
      obtain ⟨_ | found, after⟩ := taken
      · simp at h
      · obtain rfl := Option.some.inj h
        exact hsucceeds found rfl

/-- A command fits a buffer. -/
theorem writeInto_fresh (command : Radio.Command) (slot : Nat) :
    ∃ storage, command.writeInto (Buffer.fresh slot).storage = .ok storage := by
  have hroom : ¬ bufferCapacity < command.encodedLength := by
    cases command <;> simp [Radio.Command.encodedLength, bufferCapacity]
  exact ⟨_, if_neg (by simpa [Buffer.fresh] using hroom)⟩

/-- To take a slot for a command is to take one and write into it. -/
theorem acquireFor_eq (pool : Pool) (command : Radio.Command) :
    ∃ write : Buffer → Buffer, (∀ buffer, (write buffer).slot = buffer.slot) ∧
      pool.acquireFor command = (pool.acquire.1.map write, pool.acquire.2) := by
  unfold acquireFor acquire
  cases pool.free with
  | nil => exact ⟨id, fun _ => rfl, rfl⟩
  | cons slot free =>
    obtain ⟨storage, hstorage⟩ := writeInto_fresh command slot
    refine ⟨fun buffer => { buffer with storage := storage }.setLength command.encodedLength,
      fun _ => rfl, ?_⟩
    dsimp only
    rw [hstorage]
    rfl

theorem takes_acquireFor (command : Radio.Command) : Takes fun pool => pool.acquireFor command where
  fails pool h := by
    obtain ⟨write, -, heq⟩ := pool.acquireFor_eq command
    rw [heq] at h ⊢
    exact takes_acquire.fails pool (Option.map_eq_none_iff.1 h)
  succeeds pool buffer h := by
    obtain ⟨write, hslot, heq⟩ := pool.acquireFor_eq command
    rw [heq] at h ⊢
    obtain ⟨found, hfound, rfl⟩ := Option.map_eq_some_iff.1 h
    rw [hslot]
    exact takes_acquire.succeeds pool found hfound

/-! ### Users of a pool -/

/-- What the users of a pool do with the buffers that they hold: they take one if they get it, write
into it, and give it back, each in any order. -/
inductive Lending : Pool × List Buffer → Pool × List Buffer → Prop
  | take {pool pool' : Pool} {buffer : Buffer} {held : List Buffer}
      (h : pool.acquire = (some buffer, pool')) : Lending (pool, held) (pool', buffer :: held)
  | refused {pool pool' : Pool} {held : List Buffer} (h : pool.acquire = (none, pool')) :
      Lending (pool, held) (pool', held)
  | write {pool : Pool} {buffer buffer' : Buffer} {held : List Buffer}
      (hslot : buffer'.slot = buffer.slot) (htag : buffer'.tag = buffer.tag) :
      Lending (pool, buffer :: held) (pool, buffer' :: held)
  | giveBack {pool : Pool} {buffer : Buffer} {held : List Buffer} :
      Lending (pool, buffer :: held) (pool.release buffer, held)
  | order {pool : Pool} {held held' : List Buffer} (h : held.Perm held') :
      Lending (pool, held) (pool, held')

/-- The slots of buffers that are held. -/
def lent (held : List Buffer) : List (Nat × SlotUse) :=
  held.map fun buffer => (buffer.slot, .frame)

/-- What users hold is what they own. -/
theorem Ledger.lending {held held' : List Buffer} (h : pool.Ledger slots (lent held ++ owned))
    (hlending : Lending (pool, held) (pool', held')) :
    pool'.Ledger slots (lent held' ++ owned) := by
  cases hlending with
  | take hacquire =>
    have htakes := takes_acquire.succeeds pool
    rw [hacquire] at htakes
    obtain ⟨hfree, htags⟩ := htakes _ rfl
    exact h.take hfree htags
  | refused hacquire =>
    have hfails := takes_acquire.fails pool
    rw [hacquire] at hfails
    obtain ⟨hfree, htags⟩ := hfails rfl
    exact h.congr hfree htags
  | write hslot =>
    unfold lent at h ⊢
    rw [List.map_cons, hslot]
    exact h
  | giveBack => exact h.release
  | order hperm => exact h.perm ((hperm.map _).append_right owned)

end AlarmMesh.Link.Pool
