import AlarmMesh.Proofs.Link.Slots

/-!
# Buffers in the hands of their holders

Whoever took a buffer from a pool writes into it, tags it, stuffs it or lets it go, at any time and
in any order with the others.  Stuffing that fails lets the buffer go as well.  Throughout, the
buffers that are held are a ledger of the pool, and none of them is filled beyond its slot.

* `Buffer.Fits`, `Buffer.Fits.written` — a buffer is a slot, filled at most to its end;
* `Buffer.checkedEscape`, `Buffer.checkedEscape_eq` — stuffing in place stays within the slot;
* `Holding`, `Holding.Deed`, `Holding.deeds` — a pool, the buffers that are held, and what is done;
* `Holding.Sound`, `Holding.Sound.deed` — the ledger of what is held, and what a deed does to it;
* `Holding.Kept`, `Holding.keeps_pool` — what this says of the pool and the buffers after any deeds.
-/

namespace AlarmMesh.Link

/-! ### Writing into a buffer -/

/-- What a holder does to the bytes of a buffer. -/
inductive Writing where
  /-- Replace the content. -/
  | fill (bytes : List UInt8)
  /-- Append bytes. -/
  | extend (bytes : List UInt8)
  /-- Append one byte. -/
  | push (b : UInt8)
  | clear
  | setLength (length : Nat)
  /-- Write into the slot beside the content. -/
  | store (offset : Nat) (bytes : List UInt8)
  /-- Undo escapes. -/
  | unescape
  deriving DecidableEq, Repr

theorem length_overwrite (storage : List UInt8) (offset : Nat) (bytes : List UInt8) :
    (overwrite storage offset bytes).length = storage.length := by
  unfold overwrite
  simp only [List.length_take, List.length_append, List.length_drop]
  omega

namespace Buffer

variable {buffer buffer' : Buffer}

/-- The buffer after that; what does not fit is not written. -/
def written (buffer : Buffer) : Writing → Buffer
  | .fill bytes => (buffer.fill? bytes).getD buffer
  | .extend bytes => (buffer.extend? bytes).getD buffer
  | .push b => (buffer.push? b).getD buffer
  | .clear => buffer.clear
  | .setLength length => buffer.setLength length
  | .store offset bytes => buffer.store offset bytes
  | .unescape => buffer.unescape

/-- The buffer has the bytes of one slot, and is filled at most to its end. -/
structure Fits (buffer : Buffer) : Prop where
  storage : buffer.storage.length = bufferCapacity
  length : buffer.length ≤ bufferCapacity

theorem fits_fresh (slot : Nat) : (fresh slot).Fits where
  storage := List.length_replicate
  length := Nat.zero_le _

/-- The content is as long as the buffer says. -/
theorem Fits.length_content (h : buffer.Fits) : buffer.content.length = buffer.length := by
  unfold content
  rw [List.length_take, h.storage]
  exact Nat.min_eq_left h.length

theorem Fits.setLength (h : buffer.Fits) (length : Nat) : (buffer.setLength length).Fits where
  storage := h.storage
  length := Nat.min_le_right _ _

theorem Fits.appended (h : buffer.Fits) {bytes : List UInt8}
    (hroom : buffer.length + bytes.length ≤ bufferCapacity) : (buffer.appended bytes).Fits where
  storage := (length_overwrite _ _ _).trans h.storage
  length := hroom

/-- Bytes that are appended are all written. -/
theorem Fits.content_appended (h : buffer.Fits) {bytes : List UInt8}
    (hroom : buffer.length + bytes.length ≤ bufferCapacity) :
    (buffer.appended bytes).content = buffer.content ++ bytes := by
  have hstorage := h.storage
  show (overwrite buffer.storage buffer.length bytes).take (buffer.length + bytes.length) = _
  unfold content overwrite
  rw [List.take_take, List.take_append_of_le_length, List.take_of_length_le]
  · simp only [List.length_append, List.length_take]
    omega
  · simp only [List.length_append, List.length_take]
    omega

theorem Fits.content_extend (h : buffer.Fits) {bytes : List UInt8}
    (hextend : buffer.extend? bytes = some buffer') :
    buffer'.content = buffer.content ++ bytes := by
  unfold extend? at hextend
  split at hextend
  · simp at hextend
  · next hroom =>
    obtain rfl := Option.some.inj hextend
    have hlength := h.length
    unfold space at hroom
    exact h.content_appended (by omega)

theorem Fits.filled (h : buffer.Fits) {bytes : List UInt8}
    (hroom : bytes.length ≤ bufferCapacity) : (buffer.filled bytes).Fits := by
  have hclear : buffer.clear.Fits := ⟨h.storage, Nat.zero_le _⟩
  refine hclear.appended ?_
  rw [show buffer.clear.length = 0 from rfl, Nat.zero_add]
  exact hroom

theorem Fits.extend (h : buffer.Fits) (bytes : List UInt8) :
    ((buffer.extend? bytes).getD buffer).Fits := by
  unfold extend?
  split
  · exact h
  · next hroom =>
    have hlength := h.length
    unfold space at hroom
    exact h.appended (by omega)

/-! ### Undoing escapes -/

/-- Undoing escapes shortens what is undone, and keeps the other bytes of the slot. -/
theorem length_unescapeFront (left source target : Nat) (bytes : List UInt8) :
    (unescapeFront left source target bytes).1.length = bytes.length ∧
      (unescapeFront left source target bytes).2 ≤ target + left := by
  fun_induction unescapeFront left source target bytes with
  | case1 => exact ⟨rfl, Nat.le_refl _⟩
  | case2 => exact ⟨List.length_set, Nat.le_refl _⟩
  | case3 source target bytes left b hescape ih =>
    obtain ⟨hlength, hplace⟩ := ih
    rw [List.length_set] at hlength
    exact ⟨hlength, by omega⟩
  | case4 source target bytes left b hplain ih =>
    obtain ⟨hlength, hplace⟩ := ih
    rw [List.length_set] at hlength
    exact ⟨hlength, by omega⟩

theorem Fits.unescape (h : buffer.Fits) : buffer.unescape.Fits := by
  obtain ⟨hlength, hplace⟩ := length_unescapeFront buffer.length 0 0 buffer.storage
  rw [Nat.zero_add] at hplace
  exact ⟨hlength.trans h.storage, Nat.le_trans hplace h.length⟩

/-- Nothing that is written makes a buffer longer than its slot. -/
theorem Fits.written (h : buffer.Fits) (writing : Writing) : (buffer.written writing).Fits := by
  cases writing with
  | fill bytes =>
    unfold Buffer.written fill?
    dsimp only
    split
    · exact h
    · next hroom => exact h.filled (Nat.le_of_not_lt hroom)
  | extend bytes => exact h.extend bytes
  | push b => exact h.extend [b]
  | clear => exact ⟨h.storage, Nat.zero_le _⟩
  | setLength length => exact h.setLength length
  | store offset bytes => exact ⟨(length_overwrite _ _ _).trans h.storage, h.length⟩
  | unescape => exact h.unescape

/-- Writing changes neither the slot nor its tag. -/
theorem slot_written (buffer : Buffer) (writing : Writing) :
    (buffer.written writing).slot = buffer.slot ∧ (buffer.written writing).tag = buffer.tag := by
  cases writing with
  | fill | extend | push =>
    simp only [written, fill?, extend?, push?]
    split <;> exact ⟨rfl, rfl⟩
  | _ => exact ⟨rfl, rfl⟩

/-! ### Stuffing -/

theorem length_escapeBack (source target : Nat) (bytes : List UInt8) :
    (escapeBack source target bytes).length = bytes.length := by
  fun_induction escapeBack source target bytes <;> simp_all

theorem Fits.escape (h : buffer.Fits) (hescape : buffer.escape? = some buffer') :
    buffer'.Fits := by
  unfold escape? at hescape
  split at hescape
  · simp at hescape
  · next hroom =>
    obtain rfl := Option.some.inj hescape
    exact ⟨(length_escapeBack _ _ _).trans h.storage, Nat.le_of_not_lt hroom⟩

/-- Stuffing changes neither the slot nor its tag. -/
theorem slot_escape (h : buffer.escape? = some buffer') :
    buffer'.slot = buffer.slot ∧ buffer'.tag = buffer.tag := by
  unfold escape? at h
  split at h
  · simp at h
  · obtain rfl := Option.some.inj h
    exact ⟨rfl, rfl⟩

/-- Stuff the bytes before `source` as `escapeBack` does, but give up where a byte that is read or
written is none of `bytes`. -/
def checkedEscape : (source target : Nat) → List UInt8 → Option (List UInt8)
  | 0, _, bytes => some bytes
  | source + 1, target, bytes => do
    let b ← bytes[source]?
    let stuffed := stuffByte b
    if stuffed.length ≤ target ∧ target ≤ bytes.length then
      checkedEscape source (target - stuffed.length)
        (overwrite bytes (target - stuffed.length) stuffed)
    else none

/-- The places behind `source` may be written over: those before it stay. -/
theorem take_overwrite {bytes : List UInt8} {source offset : Nat} (h : source ≤ offset)
    (hoffset : offset ≤ bytes.length) (stuffed : List UInt8) :
    (overwrite bytes offset stuffed).take source = bytes.take source := by
  unfold overwrite
  rw [List.take_take, List.append_assoc, List.take_append_of_le_length, List.take_take]
  · congr 1
    omega
  · rw [List.length_take]
    omega

theorem overwrite_singleton {bytes : List UInt8} {offset : Nat} (h : offset < bytes.length)
    (b : UInt8) : overwrite bytes offset [b] = bytes.set offset b := by
  rw [List.set_eq_take_append_cons_drop, if_pos h]
  unfold overwrite
  rw [List.append_assoc]
  apply List.take_of_length_le
  simp only [List.length_append, List.length_take, List.length_cons, List.length_drop,
    List.length_nil]
  omega

theorem overwrite_pair {bytes : List UInt8} {offset : Nat} (h : offset + 1 < bytes.length)
    (b b' : UInt8) :
    overwrite bytes offset [b, b'] = (bytes.set offset b).set (offset + 1) b' := by
  apply List.ext_getElem?
  intro place
  unfold overwrite
  simp only [List.getElem?_take, List.getElem?_append, List.getElem?_set, List.length_take,
    List.getElem?_drop, List.length_append, List.length_cons, List.length_nil, List.length_set]
  grind

/-- One step of stuffing in place: the last byte is written, stuffed, before `target`. -/
theorem escapeBack_succ {source target : Nat} {bytes : List UInt8} {b : UInt8}
    (hb : bytes[source]? = some b) (hroom : (stuffByte b).length ≤ target)
    (htarget : target ≤ bytes.length) :
    escapeBack (source + 1) target bytes =
      escapeBack source (target - (stuffByte b).length)
        (overwrite bytes (target - (stuffByte b).length) (stuffByte b)) := by
  have hread : bytes.getD source 0 = b := by rw [List.getD_eq_getElem?_getD, hb]; rfl
  unfold stuffByte at hroom ⊢
  rw [escapeBack, hread]
  split_ifs at hroom ⊢ <;> simp only [List.length_cons, List.length_nil, Nat.zero_add] at hroom ⊢
  · rw [overwrite_pair (by omega), show target - (1 + 1) + 1 = target - 1 by omega]
  · rw [overwrite_pair (by omega), show target - (1 + 1) + 1 = target - 1 by omega]
  · rw [overwrite_singleton (by omega)]

theorem length_stuffByte (b : UInt8) :
    (stuffByte b).length = 1 + if isSpecial b then 1 else 0 := by
  unfold stuffByte isSpecial
  split_ifs <;> simp_all

/-- The room that stuffing leaves is enough at every byte: what is still to be stuffed ends before
`target`. -/
theorem checkedEscape_eq {source target : Nat} {bytes : List UInt8}
    (hsource : source ≤ bytes.length) (htarget : target ≤ bytes.length)
    (hroom : target = source + (bytes.take source).countP isSpecial) :
    checkedEscape source target bytes = some (escapeBack source target bytes) := by
  induction source generalizing target bytes with
  | zero => rfl
  | succ source ih =>
    obtain ⟨b, hb⟩ : ∃ b, bytes[source]? = some b := ⟨_, List.getElem?_eq_getElem hsource⟩
    have hcount : (bytes.take (source + 1)).countP isSpecial =
        (bytes.take source).countP isSpecial + if isSpecial b then 1 else 0 := by
      rw [List.take_add_one, hb, List.countP_append]
      simp [List.countP_cons]
    have hlength := length_stuffByte b
    have hstuffed : (stuffByte b).length ≤ target := by omega
    rw [escapeBack_succ hb hstuffed htarget, checkedEscape, hb]
    simp only [Option.bind_eq_bind, Option.bind_some, if_pos (And.intro hstuffed htarget)]
    have hrest : target - (stuffByte b).length =
        source + (bytes.take source).countP isSpecial := by omega
    apply ih
    · rw [length_overwrite]
      omega
    · rw [length_overwrite]
      omega
    · rw [take_overwrite (by omega) (by omega)]
      exact hrest

/-- Stuffing that fits reads and writes no byte behind the slot. -/
theorem Fits.checkedEscape_eq (h : buffer.Fits) (hroom : buffer.escapedLength ≤ bufferCapacity) :
    checkedEscape buffer.length buffer.escapedLength buffer.storage =
      some (escapeBack buffer.length buffer.escapedLength buffer.storage) := by
  have hstorage := h.storage
  have hlength := h.length
  exact Buffer.checkedEscape_eq (by omega) (by omega) rfl

end Buffer

/-! ### A pool and its buffers -/

/-- A pool, and the buffers of it that are held. -/
structure Holding where
  pool : Pool
  held : List Buffer

/-- A way to take a slot: one that is handed out holds a frame and is shown by the gauge, and when
none is handed out the gauge stays. -/
structure Pool.Hands (take : Pool → Option Buffer × Pool) : Prop extends Pool.Takes take where
  stays : ∀ pool, (take pool).1 = none → (take pool).2.gauge = pool.gauge
  shown : ∀ pool buffer, (take pool).1 = some buffer →
    (take pool).2.gauge = some (take pool).2.inUse
  handed : ∀ pool buffer, (take pool).1 = some buffer → buffer.Fits ∧ buffer.tag = .frame

namespace Pool

theorem hands_acquire : Hands acquire where
  toTakes := takes_acquire
  stays pool h := by
    unfold acquire at h ⊢
    split
    · rfl
    · simp_all
  shown pool buffer h := by
    unfold acquire at h ⊢
    split
    · simp_all
    · rfl
  handed pool buffer h := by
    unfold acquire at h
    split at h
    · simp at h
    · obtain rfl := Option.some.inj h
      exact ⟨Buffer.fits_fresh _, rfl⟩

theorem hands_acquireWith (bytes : List UInt8) : Hands fun pool => pool.acquireWith bytes := by
  by_cases hfit : bufferCapacity < bytes.length
  · have hrefused : ∀ pool : Pool, pool.acquireWith bytes = (none, pool) := fun _ => if_pos hfit
    refine ⟨takes_acquireWith bytes, ?_, ?_, ?_⟩ <;> simp [hrefused]
  · have hfilled : ∀ pool : Pool, pool.acquireWith bytes =
        (pool.acquire.1.map (·.filled bytes), pool.acquire.2) := by
      intro pool
      unfold acquireWith
      rw [if_neg hfit]
      rcases pool.acquire with ⟨_ | buffer, after⟩ <;> rfl
    refine ⟨takes_acquireWith bytes, ?_, ?_, ?_⟩ <;> intro pool
    · simp only [hfilled, Option.map_eq_none_iff]
      exact hands_acquire.stays pool
    · simp only [hfilled, Option.map_eq_some_iff]
      rintro buffer ⟨taken, htaken, -⟩
      exact hands_acquire.shown pool taken htaken
    · simp only [hfilled, Option.map_eq_some_iff]
      rintro buffer ⟨taken, htaken, rfl⟩
      obtain ⟨hfits, htag⟩ := hands_acquire.handed pool taken htaken
      exact ⟨hfits.filled (Nat.le_of_not_lt hfit), htag⟩

/-- A command that is written into a slot leaves it a slot. -/
theorem length_writeInto {command : Radio.Command} {space storage : List UInt8}
    (h : command.writeInto space = .ok storage) : storage.length = space.length := by
  unfold Radio.Command.writeInto at h
  split at h
  · simp at h
  · obtain rfl := Except.ok.inj h
    rw [List.length_append, List.length_drop, command.length_bytes]
    omega

theorem hands_acquireFor (command : Radio.Command) : Hands fun pool => pool.acquireFor command where
  toTakes := takes_acquireFor command
  stays pool h := by
    obtain ⟨write, -, heq⟩ := pool.acquireFor_eq command
    rw [heq] at h ⊢
    exact hands_acquire.stays pool (Option.map_eq_none_iff.1 h)
  shown pool buffer h := by
    obtain ⟨write, -, heq⟩ := pool.acquireFor_eq command
    rw [heq] at h ⊢
    obtain ⟨taken, htaken, -⟩ := Option.map_eq_some_iff.1 h
    exact hands_acquire.shown pool taken htaken
  handed pool buffer h := by
    have hhanded := hands_acquire.handed pool
    unfold acquireFor at h
    split at h
    · simp at h
    · next taken after hacquire =>
      rw [hacquire] at hhanded
      obtain ⟨hfits, htag⟩ := hhanded taken rfl
      split at h
      · next storage hstorage =>
        obtain rfl := Option.some.inj h
        have hwritten : { taken with storage := storage }.Fits :=
          ⟨(length_writeInto hstorage).trans hfits.storage, hfits.length⟩
        exact ⟨hwritten.setLength _, htag⟩
      · simp at h

end Pool

namespace Holding

/-- What is done with a pool, or with the buffer at a place among those that are held. -/
inductive Deed where
  | acquire
  | acquireWith (bytes : List UInt8)
  | acquireFor (command : Radio.Command)
  | retag (place : Nat) (use : SlotUse)
  | write (place : Nat) (writing : Writing)
  /-- Stuff the content; a buffer that would overflow is let go. -/
  | escape (place : Nat)
  | release (place : Nat)

/-- What was taken is held. -/
def took (holding : Holding) (taken : Option Buffer × Pool) : Holding :=
  ⟨taken.2, taken.1.toList ++ holding.held⟩

/-- Something is done with the buffer at a place: it changes, or it is held no more.  Where no
buffer is, nothing is done. -/
def atPlace (holding : Holding) (place : Nat) (act : Buffer → Option Buffer × Pool) : Holding :=
  match holding.held[place]? with
  | none => holding
  | some buffer =>
    match act buffer with
    | (some buffer, pool) => ⟨pool, holding.held.set place buffer⟩
    | (none, pool) => ⟨pool, holding.held.eraseIdx place⟩

/-- The pool and the buffers afterwards. -/
def deed (holding : Holding) : Deed → Holding
  | .acquire => holding.took holding.pool.acquire
  | .acquireWith bytes => holding.took (holding.pool.acquireWith bytes)
  | .acquireFor command => holding.took (holding.pool.acquireFor command)
  | .retag place use =>
    holding.atPlace place fun buffer => (holding.pool.retag buffer use).map some id
  | .write place writing =>
    holding.atPlace place fun buffer => (some (buffer.written writing), holding.pool)
  | .escape place => holding.atPlace place holding.pool.escape
  | .release place => holding.atPlace place fun buffer => (none, holding.pool.release buffer)

/-- One deed after the other. -/
def deeds (holding : Holding) (deeds : List Deed) : Holding := deeds.foldl deed holding

/-- The start: every slot is free. -/
def ofSlots (slots : Nat) : Holding := ⟨.ofSlots slots, []⟩

variable {holding holding' : Holding} {slots : Nat}

/-- What is held, slot by slot, with its tag. -/
def owned (holding : Holding) : List (Nat × SlotUse) :=
  holding.held.map fun buffer => (buffer.slot, buffer.tag)

/-- What can become of a buffer that is held: its bytes change, its tag changes, or it is let go. -/
inductive Handles (pool : Pool) (buffer : Buffer) : Option Buffer × Pool → Prop
  | change {buffer' : Buffer} (hfits : buffer.Fits → buffer'.Fits)
      (hslot : buffer'.slot = buffer.slot) (htag : buffer'.tag = buffer.tag) :
      Handles pool buffer (some buffer', pool)
  | retag (use : SlotUse) : Handles pool buffer ((pool.retag buffer use).map some id)
  | letGo : Handles pool buffer (none, pool.release buffer)

theorem handles_written {pool : Pool} (buffer : Buffer) (writing : Writing) :
    Handles pool buffer (some (buffer.written writing), pool) :=
  have hsame := buffer.slot_written writing
  .change (fun hfits => hfits.written writing) hsame.1 hsame.2

/-- A buffer that is stuffed keeps its slot, or is let go where the result would not fit. -/
theorem handles_escape {pool : Pool} (buffer : Buffer) :
    Handles pool buffer (pool.escape buffer) := by
  unfold Pool.escape
  split
  · next buffer' hescape =>
    obtain ⟨hslot, htag⟩ := Buffer.slot_escape hescape
    exact .change (fun hfits => hfits.escape hescape) hslot htag
  · exact .letGo

/-- The buffers that are held are a ledger of the pool, each is a slot with its bytes, and the gauge
counts them once it was set. -/
structure Sound (holding : Holding) (slots : Nat) : Prop where
  ledger : holding.pool.Ledger slots holding.owned
  fits : ∀ buffer ∈ holding.held, buffer.Fits
  gauge : holding.pool.gauge = some holding.held.length ∨
    holding.pool.gauge = none ∧ holding.held = []

/-- The holding afterwards is sound, and its gauge was set if the number of buffers that are held
is another. -/
structure Follows (holding : Holding) (slots : Nat) (holding' : Holding) : Prop where
  sound : holding'.Sound slots
  gauge : holding'.held.length ≠ holding.held.length →
    holding'.pool.gauge = some holding'.held.length

namespace Sound

theorem ofSlots (slots : Nat) : (ofSlots slots).Sound slots where
  ledger := Pool.ledger_ofSlots slots
  fits := by simp [Holding.ofSlots]
  gauge := .inr ⟨rfl, rfl⟩

/-- What is in use is what is owned. -/
theorem inUse_eq {pool : Pool} {owned : List (Nat × SlotUse)} (h : pool.Ledger slots owned) :
    pool.inUse = owned.length := by
  have hcapacity : pool.tags.length = slots := h.capacity
  have havailable : pool.free.length + owned.length = slots := h.available_add
  unfold Pool.inUse
  omega

/-- The ledger, told from one of the buffers that are held. -/
theorem ledger_at (h : holding.Sound slots) {place : Nat} {buffer : Buffer}
    (hplace : holding.held[place]? = some buffer) :
    holding.pool.Ledger slots ((buffer.slot, buffer.tag) ::
      (holding.held.eraseIdx place).map fun buffer => (buffer.slot, buffer.tag)) := by
  obtain ⟨hlt, rfl⟩ := List.getElem?_eq_some_iff.1 hplace
  exact h.ledger.perm ((List.getElem_cons_eraseIdx_perm hlt).symm.map _)

/-- Nothing happened. -/
theorem stays (h : holding.Sound slots) : holding.Follows slots holding where
  sound := h
  gauge hnumber := absurd rfl hnumber

theorem took {take : Pool → Option Buffer × Pool} (h : holding.Sound slots)
    (htake : Pool.Hands take) : holding.Follows slots (holding.took (take holding.pool)) := by
  unfold Holding.took
  rcases htaken : (take holding.pool).1 with _ | buffer
  · obtain ⟨hfree, htags⟩ := htake.fails _ htaken
    have hgauge := h.gauge
    rw [← htake.stays _ htaken] at hgauge
    exact ⟨⟨h.ledger.congr hfree htags, h.fits, hgauge⟩, fun hnumber => absurd rfl hnumber⟩
  · obtain ⟨hfree, htags⟩ := htake.succeeds _ _ htaken
    obtain ⟨hfits, htag⟩ := htake.handed _ _ htaken
    have hledger := h.ledger.take hfree htags
    have hgauge : (take holding.pool).2.gauge = some (buffer :: holding.held).length := by
      rw [htake.shown _ _ htaken, inUse_eq hledger]
      simp [owned]
    refine ⟨⟨by simpa [owned, htag] using hledger, ?_, .inl hgauge⟩, fun _ => hgauge⟩
    intro other hother
    rcases List.mem_cons.1 hother with rfl | hother
    · exact hfits
    · exact h.fits other hother

/-- A buffer that is held is changed, and keeps its slot. -/
theorem changed (h : holding.Sound slots) {place : Nat} {buffer buffer' : Buffer} {pool : Pool}
    (hplace : holding.held[place]? = some buffer) (hfits : buffer'.Fits)
    (hledger : pool.Ledger slots ((buffer'.slot, buffer'.tag) ::
      (holding.held.eraseIdx place).map fun buffer => (buffer.slot, buffer.tag)))
    (hgauge : pool.gauge = holding.pool.gauge) :
    holding.Follows slots ⟨pool, holding.held.set place buffer'⟩ := by
  obtain ⟨hlt, -⟩ := List.getElem?_eq_some_iff.1 hplace
  have hperm := (List.set_perm_cons_eraseIdx hlt buffer').symm
  have hnumber : (holding.held.set place buffer').length = holding.held.length := List.length_set
  refine ⟨⟨hledger.perm (hperm.map fun buffer : Buffer => (buffer.slot, buffer.tag)), ?_, ?_⟩,
    fun hother => absurd hnumber hother⟩
  · intro other hother
    rcases List.mem_or_eq_of_mem_set hother with hother | rfl
    · exact h.fits other hother
    · exact hfits
  · dsimp only
    rw [hgauge, hnumber]
    rcases h.gauge with hshown | ⟨-, hheld⟩
    · exact .inl hshown
    · rw [hheld] at hlt
      exact absurd hlt (Nat.not_lt_zero _)

/-- A buffer that is held is let go. -/
theorem released (h : holding.Sound slots) {place : Nat} {buffer : Buffer}
    (hplace : holding.held[place]? = some buffer) :
    holding.Follows slots ⟨holding.pool.release buffer, holding.held.eraseIdx place⟩ := by
  have hledger := (h.ledger_at hplace).release
  have hshown : (holding.pool.release buffer).gauge =
      some (holding.pool.release buffer).inUse := by
    unfold Pool.release
    split <;> rfl
  have hgauge : (holding.pool.release buffer).gauge =
      some (holding.held.eraseIdx place).length := by
    rw [hshown, inUse_eq hledger, List.length_map]
  refine ⟨⟨hledger, ?_, .inl hgauge⟩, fun _ => hgauge⟩
  intro other hother
  exact h.fits other (List.mem_of_mem_eraseIdx hother)

theorem atPlace (h : holding.Sound slots) (place : Nat)
    {act : Buffer → Option Buffer × Pool}
    (hact : ∀ buffer, Handles holding.pool buffer (act buffer)) :
    holding.Follows slots (holding.atPlace place act) := by
  unfold Holding.atPlace
  rcases hplace : holding.held[place]? with _ | buffer
  · exact h.stays
  · have hfits := h.fits buffer (List.mem_of_getElem? hplace)
    have hbuffer := hact buffer
    dsimp only
    generalize act buffer = acted at hbuffer ⊢
    rcases hbuffer with ⟨hkeeps, hslot, htag⟩ | use | _
    · refine h.changed hplace (hkeeps hfits) ?_ rfl
      rw [hslot, htag]
      exact h.ledger_at hplace
    · obtain ⟨hstorage, hlength⟩ := hfits
      exact h.changed hplace ⟨hstorage, hlength⟩ ((h.ledger_at hplace).retag use) rfl
    · exact h.released hplace

/-- Each deed leaves the ledger one of what is held. -/
theorem deed (h : holding.Sound slots) (deed : Deed) :
    holding.Follows slots (holding.deed deed) := by
  cases deed with
  | acquire => exact h.took Pool.hands_acquire
  | acquireWith bytes => exact h.took (Pool.hands_acquireWith bytes)
  | acquireFor command => exact h.took (Pool.hands_acquireFor command)
  | retag place use => exact h.atPlace place fun _ => .retag use
  | write place writing => exact h.atPlace place fun buffer => handles_written buffer writing
  | escape place => exact h.atPlace place fun buffer => handles_escape buffer
  | release place => exact h.atPlace place fun _ => .letGo

theorem deeds (h : holding.Sound slots) (deeds : List Deed) :
    (holding.deeds deeds).Sound slots := by
  induction deeds generalizing holding with
  | nil => exact h
  | cons deed deeds ih => exact ih (h.deed deed).sound

end Sound

/-! ### What this says of the pool -/

/-- What holds of a pool of `slots` slots and of the buffers of it that are held. -/
structure Kept (holding : Holding) (slots : Nat) : Prop where
  capacity : holding.pool.capacity = slots
  /-- No slot is free twice. -/
  free : holding.pool.free.Nodup
  /-- No two buffers have the same slot, and each has one of the pool. -/
  distinct : (holding.held.map (·.slot)).Nodup
  inside : ∀ buffer ∈ holding.held, buffer.slot < slots
  /-- A slot is tagged exactly when a buffer owns it, and with the tag of that buffer. -/
  tagged : ∀ slot use, holding.pool.tags[slot]? = some (some use) ↔
    ∃ buffer ∈ holding.held, buffer.slot = slot ∧ buffer.tag = use
  counts : holding.pool.available + (holding.pool.usedFor .frame +
    holding.pool.usedFor .pendingFault + holding.pool.usedFor .pendingAlarm) =
      holding.pool.capacity
  /-- None can be taken exactly when every slot is held. -/
  exhausted : holding.pool.acquire.1 = none ↔
    ∀ slot < slots, ∃ buffer ∈ holding.held, buffer.slot = slot
  /-- The gauge, unset before the first change, shows how many buffers are held, and a deed that
  changes their number sets it. -/
  gauge : holding.pool.gauge.getD 0 = holding.held.length
  gaugeSet : ∀ deed, (holding.deed deed).held.length ≠ holding.held.length →
    (holding.deed deed).pool.gauge = some (holding.deed deed).held.length
  /-- What is released is in use. -/
  inUse : ∀ buffer ∈ holding.held, holding.pool.tags.getD buffer.slot none = some buffer.tag
  /-- No buffer is filled beyond its slot, what is appended is written in full, and stuffing in
  place stays within the slot. -/
  length : ∀ buffer ∈ holding.held, buffer.length ≤ bufferCapacity ∧
    buffer.content.length = buffer.length
  appends : ∀ buffer ∈ holding.held, ∀ bytes buffer', buffer.extend? bytes = some buffer' →
    buffer'.content = buffer.content ++ bytes
  stuffs : ∀ buffer ∈ holding.held, buffer.escapedLength ≤ bufferCapacity →
    Buffer.checkedEscape buffer.length buffer.escapedLength buffer.storage =
      some (Buffer.escapeBack buffer.length buffer.escapedLength buffer.storage)

theorem mem_owned {slot : Nat} {use : SlotUse} :
    (slot, use) ∈ holding.owned ↔
      ∃ buffer ∈ holding.held, buffer.slot = slot ∧ buffer.tag = use := by
  simp [owned]

theorem mem_slots {slot : Nat} :
    slot ∈ holding.owned.map Prod.fst ↔ ∃ buffer ∈ holding.held, buffer.slot = slot := by
  simp [owned]

/-- A buffer is tagged with one of the three uses. -/
theorem countP_owned (owned : List (Nat × SlotUse)) :
    (owned.countP fun entry => entry.2 = .frame) +
      (owned.countP fun entry => entry.2 = .pendingFault) +
        (owned.countP fun entry => entry.2 = .pendingAlarm) = owned.length := by
  induction owned with
  | nil => rfl
  | cons entry owned ih =>
    obtain ⟨slot, use⟩ := entry
    cases use <;> simp <;> omega

theorem Sound.kept (h : holding.Sound slots) : holding.Kept slots where
  capacity := h.ledger.capacity
  free := h.ledger.nodup.of_append_left
  distinct := by
    have hnodup := h.ledger.nodup.of_append_right
    rwa [owned, List.map_map] at hnodup
  inside buffer hbuffer := by
    have hlt := h.ledger.lt_length
      (List.mem_append_right _ (mem_slots.2 ⟨buffer, hbuffer, rfl⟩))
    exact h.ledger.capacity ▸ hlt
  tagged slot use := h.ledger.tagged_iff.trans mem_owned
  counts := by
    rw [h.ledger.usedFor_eq, h.ledger.usedFor_eq, h.ledger.usedFor_eq, countP_owned,
      h.ledger.available_add]
    exact h.ledger.capacity.symm
  exhausted := by
    simp only [← mem_slots]
    rw [← h.ledger.free_eq_nil_iff]
    unfold Pool.acquire
    split <;> simp_all
  gauge := by
    rcases h.gauge with hgauge | ⟨hgauge, hheld⟩
    · rw [hgauge]
      rfl
    · rw [hgauge, hheld]
      rfl
  gaugeSet deed := (h.deed deed).gauge
  inUse buffer hbuffer := by
    rw [List.getD_eq_getElem?_getD, h.ledger.tagged_iff.2 (mem_owned.2 ⟨buffer, hbuffer, rfl, rfl⟩)]
    rfl
  length buffer hbuffer := ⟨(h.fits buffer hbuffer).length, (h.fits buffer hbuffer).length_content⟩
  appends buffer hbuffer _ _ hextend := (h.fits buffer hbuffer).content_extend hextend
  stuffs buffer hbuffer hroom := (h.fits buffer hbuffer).checkedEscape_eq hroom

/-- From a pool whose slots are all free, whatever is done with it and with the buffers that it
handed out leaves every slot free or held by one buffer, as the pool tells. -/
theorem keeps_pool (slots : Nat) (deeds : List Deed) : ((ofSlots slots).deeds deeds).Kept slots :=
  ((Sound.ofSlots slots).deeds deeds).kept

end Holding

end AlarmMesh.Link
