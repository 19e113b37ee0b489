import AlarmMesh.Proofs.Link.Holding

/-!
# Stuffing in place

A buffer is stuffed and unstuffed within its own slot.  Stuffing goes from the back: what is still
to be stuffed stands before the places that are written.  Unstuffing goes from the front: it writes
no further than it has read.  So each of them sees the bytes as they were, and gives what `stuff`
and `unstuff` give of the content.

* `length_stuff` — a special byte takes one byte more;
* `escapeBack_eq`, `Buffer.Fits.escape_eq` — stuffing from the back;
* `take_unescapeFront`, `Buffer.Fits.content_unescape` — unstuffing from the front;
* `Pool.Stuffs`, `Buffer.Fits.stuffsInPlace` — what becomes of a buffer that is stuffed, and of its
  slot.
-/

namespace AlarmMesh.Link

theorem stuff_append (frame more : List UInt8) :
    stuff (frame ++ more) = stuff frame ++ stuff more :=
  List.flatMap_append

theorem stuff_singleton (b : UInt8) : stuff [b] = stuffByte b := List.flatMap_singleton ..

/-- A special byte takes one byte more. -/
theorem length_stuff (frame : List UInt8) :
    (stuff frame).length = frame.length + frame.countP isSpecial := by
  induction frame with
  | nil => rfl
  | cons b frame ih =>
    rw [← List.singleton_append, stuff_append, stuff_singleton, List.length_append, ih,
      Buffer.length_stuffByte, List.length_append, List.countP_append, List.countP_singleton,
      List.length_singleton]
    omega

theorem countP_isSpecial (frame : List UInt8) :
    frame.countP isSpecial = frame.count flag + frame.count escapeByte := by
  induction frame with
  | nil => rfl
  | cons b frame ih =>
    rw [List.countP_cons, List.count_cons, List.count_cons, ih]
    by_cases hflag : b = flag
    · subst hflag
      simp [isSpecial, flag, escapeByte]
      omega
    · by_cases hescape : b = escapeByte
      · subst hescape
        simp [isSpecial, flag, escapeByte]
        omega
      · simp [isSpecial, hflag, hescape]

theorem length_stuff_le (frame : List UInt8) : (stuff frame).length ≤ 2 * frame.length := by
  have hcount := List.countP_le_length (p := isSpecial) (l := frame)
  rw [length_stuff]
  omega

namespace Buffer

variable {buffer buffer' : Buffer}

/-! ### From the back -/

theorem drop_overwrite {bytes more : List UInt8} {offset : Nat}
    (h : offset + more.length ≤ bytes.length) :
    (overwrite bytes offset more).drop offset = more ++ bytes.drop (offset + more.length) := by
  have hall : (bytes.take offset ++ more ++ bytes.drop (offset + more.length)).length ≤
      bytes.length := by
    simp only [List.length_append, List.length_take, List.length_drop]
    omega
  rw [overwrite, List.take_of_length_le hall, List.append_assoc]
  exact List.drop_left' (by rw [List.length_take]; omega)

/-- The bytes before `source` stand, stuffed, before `target`, and those behind it stay. -/
theorem escapeBack_eq {source target : Nat} {bytes : List UInt8} (hsource : source ≤ bytes.length)
    (htarget : target ≤ bytes.length)
    (hroom : target = source + (bytes.take source).countP isSpecial) :
    escapeBack source target bytes = stuff (bytes.take source) ++ bytes.drop target := by
  induction source generalizing target bytes with
  | zero =>
    obtain rfl : target = 0 := hroom
    rfl
  | succ source ih =>
    obtain ⟨b, hb⟩ : ∃ b, bytes[source]? = some b := ⟨_, List.getElem?_eq_getElem hsource⟩
    have htake : bytes.take (source + 1) = bytes.take source ++ [b] := by
      rw [List.take_add_one, hb]
      rfl
    have hlength := length_stuffByte b
    have hcount : (bytes.take (source + 1)).countP isSpecial =
        (bytes.take source).countP isSpecial + if isSpecial b then 1 else 0 := by
      rw [htake, List.countP_append, List.countP_singleton]
    -- what is written starts where what is left to be stuffed will end
    let offset := target - (stuffByte b).length
    have hoffset : offset = source + (bytes.take source).countP isSpecial := by omega
    have hbefore : (overwrite bytes offset (stuffByte b)).take source = bytes.take source :=
      take_overwrite (by omega) (by omega) (stuffByte b)
    have hrest : escapeBack source offset (overwrite bytes offset (stuffByte b)) =
        stuff ((overwrite bytes offset (stuffByte b)).take source) ++
          (overwrite bytes offset (stuffByte b)).drop offset :=
      ih (by rw [length_overwrite]; omega) (by rw [length_overwrite]; omega)
        (by rw [hbefore, hoffset])
    have hwritten : (overwrite bytes offset (stuffByte b)).drop offset =
        stuffByte b ++ bytes.drop (offset + (stuffByte b).length) :=
      drop_overwrite (by omega)
    rw [show offset + (stuffByte b).length = target by omega] at hwritten
    rw [escapeBack_succ hb (by omega) htarget, hrest, hbefore, hwritten, htake, stuff_append,
      stuff_singleton, List.append_assoc]

/-- The length of the content once stuffed. -/
theorem Fits.escapedLength_eq (h : buffer.Fits) :
    buffer.escapedLength = (stuff buffer.content).length := by
  rw [length_stuff, h.length_content]
  rfl

/-- Stuffing in place fails exactly when the stuffed content is too long. -/
theorem escape?_eq_none_iff :
    buffer.escape? = none ↔ bufferCapacity < buffer.escapedLength := by
  unfold escape?
  split
  · next hlong => exact ⟨fun _ => hlong, fun _ => rfl⟩
  · next hroom => exact ⟨fun h => (by cases h), fun hlong => absurd hlong hroom⟩

/-- Stuffing in place succeeds if there is room, and then it stuffs the content. -/
theorem Fits.escape_eq (h : buffer.Fits) (hroom : (stuff buffer.content).length ≤ bufferCapacity) :
    ∃ buffer', buffer.escape? = some buffer' ∧ buffer'.content = stuff buffer.content := by
  rw [← h.escapedLength_eq] at hroom
  refine ⟨_, if_neg (Nat.not_lt.2 hroom), ?_⟩
  have hstorage := h.storage
  have hlength := h.length
  show (escapeBack buffer.length buffer.escapedLength buffer.storage).take buffer.escapedLength = _
  have hstuffed : escapeBack buffer.length buffer.escapedLength buffer.storage =
      stuff buffer.content ++ buffer.storage.drop buffer.escapedLength :=
    escapeBack_eq (by omega) (by omega) rfl
  rw [hstuffed]
  exact List.take_left' h.escapedLength_eq.symm

theorem Fits.content_escape (h : buffer.Fits) (hescape : buffer.escape? = some buffer') :
    buffer'.content = stuff buffer.content := by
  have hroom : (stuff buffer.content).length ≤ bufferCapacity := by
    rw [← h.escapedLength_eq]
    by_contra hlong
    have hnone := escape?_eq_none_iff.2 (Nat.lt_of_not_le hlong)
    rw [hescape] at hnone
    cases hnone
  obtain ⟨found, hfound, hcontent⟩ := h.escape_eq hroom
  obtain rfl : buffer' = found := Option.some.inj (hescape.symm.trans hfound)
  exact hcontent

/-! ### From the front -/

theorem take_set_succ {bytes : List UInt8} {place : Nat} (h : place < bytes.length) (b : UInt8) :
    (bytes.set place b).take (place + 1) = bytes.take place ++ [b] := by
  rw [List.take_add_one, List.getElem?_set_self h, List.take_set_of_le (Nat.le_refl place)]
  rfl

theorem drop_eq_getD_cons {bytes : List UInt8} {place : Nat} (h : place < bytes.length) :
    bytes.drop place = bytes.getD place 0 :: bytes.drop (place + 1) := by
  rw [List.drop_eq_getElem_cons h, List.getD_eq_getElem?_getD, List.getElem?_eq_getElem h]
  rfl

/-- The `left` bytes from `source` on are written, without escapes, from `target` on. -/
theorem take_unescapeFront {left source target : Nat} {bytes : List UInt8}
    (htarget : target ≤ source) (hsource : source + left ≤ bytes.length) :
    (unescapeFront left source target bytes).1.take (unescapeFront left source target bytes).2 =
      bytes.take target ++ unstuff ((bytes.drop source).take left) := by
  fun_induction unescapeFront left source target bytes with
  | case1 => simp [unstuff]
  | case2 source target bytes =>
    rw [take_set_succ (by omega), drop_eq_getD_cons (by omega)]
    rfl
  | case3 left source target bytes b hescape ih =>
    have hrest := ih (by omega) (by rw [List.length_set]; omega)
    rw [take_set_succ (by omega), List.drop_set_of_lt (by omega)] at hrest
    rw [hrest, drop_eq_getD_cons (by omega : source < bytes.length),
      drop_eq_getD_cons (by omega : source + 1 < bytes.length)]
    rw [List.take_succ_cons, List.take_succ_cons, unstuff, if_pos hescape, List.append_assoc,
      List.singleton_append]
  | case4 left source target bytes b hplain ih =>
    have hrest := ih (by omega) (by rw [List.length_set]; omega)
    rw [take_set_succ (by omega), List.drop_set_of_lt (by omega)] at hrest
    rw [hrest, drop_eq_getD_cons (by omega : source < bytes.length), List.take_succ_cons,
      unstuff_cons_of_ne hplain, List.append_assoc, List.singleton_append]

theorem Fits.content_unescape (h : buffer.Fits) :
    buffer.unescape.content = unstuff buffer.content := by
  have hstorage := h.storage
  have hlength := h.length
  exact take_unescapeFront (Nat.le_refl 0)
    (show 0 + buffer.length ≤ buffer.storage.length by omega)

/-- What was stuffed in place is unstuffed in place to what it was. -/
theorem Fits.unescape_escape (h : buffer.Fits) (hescape : buffer.escape? = some buffer') :
    buffer'.unescape.content = buffer.content := by
  rw [(h.escape hescape).content_unescape, h.content_escape hescape, unstuff_stuff]

end Buffer

/-! ### A buffer of a pool -/

/-- What becomes of a buffer that is stuffed in place, and of its slot. -/
structure Pool.Stuffs (pool : Pool) (buffer : Buffer) : Prop where
  /-- It is not stuffed exactly when its bytes, the special ones counted twice, do not fit. -/
  fails : (pool.escape buffer).1 = none ↔ bufferCapacity <
    buffer.content.length + (buffer.content.count flag + buffer.content.count escapeByte)
  /-- Then its slot is free again. -/
  released : (pool.escape buffer).1 = none → ∀ slots owned use,
    pool.Ledger slots ((buffer.slot, use) :: owned) →
      (pool.escape buffer).2.Ledger slots owned ∧ buffer.slot ∈ (pool.escape buffer).2.free
  /-- Otherwise it keeps its slot and its tag, and holds its content as it is sent, but for the
  terminator.  Unstuffing it gives the content back. -/
  stuffed : ∀ stuffed, (pool.escape buffer).1 = some stuffed → (pool.escape buffer).2 = pool ∧
    stuffed.slot = buffer.slot ∧ stuffed.tag = buffer.tag ∧
      toWire buffer.content = stuffed.content ++ [flag] ∧ flag ∉ stuffed.content ∧
        stuffed.unescape.content = buffer.content

variable {pool : Pool} {buffer : Buffer}

theorem Pool.escape_of_none (h : buffer.escape? = none) :
    pool.escape buffer = (none, pool.release buffer) := by
  unfold Pool.escape
  rw [h]

theorem Pool.escape_of_some {stuffed : Buffer} (h : buffer.escape? = some stuffed) :
    pool.escape buffer = (some stuffed, pool) := by
  unfold Pool.escape
  rw [h]

theorem Pool.fst_escape (pool : Pool) (buffer : Buffer) :
    (pool.escape buffer).1 = buffer.escape? := by
  unfold Pool.escape
  split
  · next hescape => exact hescape.symm
  · next hescape => exact hescape.symm

/-- A slot that is given back is the next to be taken. -/
theorem Pool.Ledger.free_release {slots : Nat} {use : SlotUse} {owned : List (Nat × SlotUse)}
    (h : pool.Ledger slots ((buffer.slot, use) :: owned)) :
    (pool.release buffer).free = buffer.slot :: pool.free := by
  have htag : pool.tags.getD buffer.slot none = some use := by
    rw [List.getD_eq_getElem?_getD, h.tagged _ List.mem_cons_self]
    rfl
  unfold Pool.release
  rw [htag]
  rfl

/-- Stuffing in place gives what is sent for the content, or gives the slot back. -/
theorem Buffer.Fits.stuffsInPlace (h : buffer.Fits) (pool : Pool) : pool.Stuffs buffer where
  fails := by
    rw [Pool.fst_escape, Buffer.escape?_eq_none_iff, h.escapedLength_eq, length_stuff,
      countP_isSpecial]
  released hnone slots owned use hledger := by
    rw [Pool.fst_escape] at hnone
    rw [Pool.escape_of_none hnone]
    refine ⟨hledger.release, ?_⟩
    rw [hledger.free_release]
    exact List.mem_cons_self
  stuffed stuffed hstuffed := by
    have hescape : buffer.escape? = some stuffed :=
      (Pool.fst_escape pool buffer).symm.trans hstuffed
    have hcontent := h.content_escape hescape
    obtain ⟨hslot, htag⟩ := Buffer.slot_escape hescape
    refine ⟨congrArg Prod.snd (Pool.escape_of_some hescape), hslot, htag, ?_, ?_,
      h.unescape_escape hescape⟩
    · rw [hcontent]
      rfl
    · rw [hcontent]
      exact flag_not_mem_stuff _

/-- Sixteen escape bytes fill a buffer to its last byte, and one flag more is too much for it: the
only slot of the pool is free again. -/
theorem stuffsInPlace_full :
    ((Buffer.fresh 0).filled (List.replicate 16 escapeByte)).Fits ∧
      (∃ stuffed, ((Pool.ofSlots 1).escape
          ((Buffer.fresh 0).filled (List.replicate 16 escapeByte))).1 = some stuffed ∧
        stuffed.content.length = bufferCapacity ∧
          stuffed.unescape.content = List.replicate 16 escapeByte) ∧
      0 ∈ ((Pool.ofSlots 1).acquire.2.escape
        ((Buffer.fresh 0).filled (flag :: List.replicate 16 escapeByte))).2.free := by
  have hfull : ((Buffer.fresh 0).filled (List.replicate 16 escapeByte)).Fits :=
    (Buffer.fits_fresh 0).filled (by decide)
  have hover : ((Buffer.fresh 0).filled (flag :: List.replicate 16 escapeByte)).Fits :=
    (Buffer.fits_fresh 0).filled (by decide)
  have hledger : (Pool.ofSlots 1).acquire.2.Ledger 1 [(0, .frame)] :=
    (Pool.ledger_ofSlots 1).take rfl rfl
  refine ⟨hfull, ?_, ?_⟩
  · rcases hescape : ((Pool.ofSlots 1).escape
      ((Buffer.fresh 0).filled (List.replicate 16 escapeByte))).1 with _ | stuffed
    · exact absurd ((hfull.stuffsInPlace (Pool.ofSlots 1)).fails.1 hescape) (by decide)
    · obtain ⟨-, -, -, hwire, -, hback⟩ := (hfull.stuffsInPlace (Pool.ofSlots 1)).stuffed _ hescape
      refine ⟨stuffed, rfl, ?_, ?_⟩
      · have hlength := congrArg List.length hwire
        rw [List.length_append] at hlength
        exact Nat.add_right_cancel (hlength.symm.trans (by decide))
      · rw [hback]
        decide
  · have hstuffs := hover.stuffsInPlace (Pool.ofSlots 1).acquire.2
    exact (hstuffs.released (hstuffs.fails.2 (by decide)) 1 [] .frame hledger).2

end AlarmMesh.Link
