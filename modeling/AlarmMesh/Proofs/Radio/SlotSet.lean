import AlarmMesh.Proofs.Radio.Fields
import AlarmMesh.Proofs.Radio.SlotCount
import Mathlib.Data.Finset.Sort

/-!
# Maps as sets of numbers

A map is a word of 64 bits, and its operations are made of shifts, masks and a count of bits.  What
they are meant to work on is a finite set of numbers below 64.  A number is in the set of a map if
its bit is set, and each operation is what its name says of that set, also for numbers that no slot
has.

* `SidMap.numbers` — the set of a map; `SidMap.numbers_changed` is what one change does to it;
* `SidMap.testBit_littleEndian` — the bits of a number in its bytes;
* `SidMap.StandsFor` — what all readings of a map say of a set, and `standsFor_numbers`;
* `SidMap.FaithfulSet`, `SidMap.faithfulSet` — maps after any changes against sets after the same.
-/

namespace AlarmMesh.Radio.SidMap

variable {map other : SidMap} {n : Nat}

/-- The numbers of the occupied slots. -/
def numbers (map : SidMap) : Finset Nat :=
  (Finset.range slotCount).filter fun n => map.bits.getLsbD n

@[simp]
theorem mem_numbers : n ∈ map.numbers ↔ map.bits.getLsbD n = true := by
  unfold numbers
  rw [Finset.mem_filter, Finset.mem_range]
  exact ⟨And.right, fun h => ⟨BitVec.lt_of_getLsbD h, h⟩⟩

/-- The number of a slot fits a byte. -/
theorem toNat_ofNat_of_lt (hn : n < slotCount) : (UInt8.ofNat n).toNat = n := by
  have hlt : n < 64 := hn
  rw [UInt8.toNat_ofNat']
  omega

theorem contains_iff (map : SidMap) (sid : UInt8) :
    map.contains sid = true ↔ sid.toNat ∈ map.numbers :=
  mem_numbers.symm

theorem numbers_inj : map.numbers = other.numbers ↔ map = other := by
  constructor
  · intro h
    refine ext_contains fun sid => ?_
    rw [Bool.eq_iff_iff, contains_iff, contains_iff, h]
  · rintro rfl
    rfl

/-! ### Changes -/

/-- What can be done to a map. -/
inductive SlotChange where
  | insert (sid : UInt8)
  | remove (sid : UInt8)
  /-- Keep what another map has as well. -/
  | intersect (other : SidMap)
  /-- Keep what another map does not have. -/
  | subtract (other : SidMap)
  deriving DecidableEq, Repr

/-- The map afterwards. -/
def changed (map : SidMap) : SlotChange → SidMap
  | .insert sid => map.insert sid
  | .remove sid => map.remove sid
  | .intersect other => map.intersection other
  | .subtract other => map.difference other

/-- The same done to a set of numbers; a number that no slot has is not put into it. -/
def SlotChange.onSet (set : Finset Nat) : SlotChange → Finset Nat
  | .insert sid => if sid.toNat < slotCount then Insert.insert sid.toNat set else set
  | .remove sid => set.erase sid.toNat
  | .intersect other => set ∩ other.numbers
  | .subtract other => set \ other.numbers

theorem numbers_changed (map : SidMap) (change : SlotChange) :
    (map.changed change).numbers = change.onSet map.numbers := by
  ext n
  rw [mem_numbers]
  cases change with
  | insert sid =>
    have hbit : (map.bits ||| BitVec.twoPow 64 sid.toNat).getLsbD n = true ↔
        map.bits.getLsbD n = true ∨ sid.toNat < 64 ∧ sid.toNat = n := by
      simp
    rw [SlotChange.onSet, changed, SidMap.insert, hbit]
    split
    · next hsid =>
      have hlt : sid.toNat < 64 := hsid
      rw [Finset.mem_insert, mem_numbers]
      simp only [hlt, true_and, eq_comm, or_comm]
    · next hsid =>
      have hge : ¬ sid.toNat < 64 := hsid
      rw [mem_numbers]
      simp only [hge, false_and, or_false]
  | remove sid =>
    have hbit : (map.bits &&& ~~~ BitVec.twoPow 64 sid.toNat).getLsbD n = true ↔
        n ≠ sid.toNat ∧ map.bits.getLsbD n = true := by
      by_cases hn : n < 64
      · simp [hn, and_comm]
      · simp [BitVec.getLsbD_of_ge _ n (Nat.le_of_not_lt hn)]
    rw [SlotChange.onSet, changed, SidMap.remove, hbit, Finset.mem_erase, mem_numbers]
  | intersect other =>
    rw [SlotChange.onSet, changed, intersection, Finset.mem_inter, mem_numbers, mem_numbers,
      BitVec.getLsbD_and, Bool.and_eq_true]
  | subtract other =>
    have hbit : (map.bits &&& ~~~ other.bits).getLsbD n = true ↔
        map.bits.getLsbD n = true ∧ ¬ other.bits.getLsbD n = true := by
      by_cases hn : n < 64
      · simp [hn]
      · simp [BitVec.getLsbD_of_ge _ n (Nat.le_of_not_lt hn)]
    rw [SlotChange.onSet, changed, difference, hbit, Finset.mem_sdiff, mem_numbers, mem_numbers]

/-- So it is after any number of changes. -/
theorem numbers_foldl_changed (map : SidMap) (changes : List SlotChange) :
    (changes.foldl changed map).numbers = changes.foldl SlotChange.onSet map.numbers := by
  induction changes generalizing map with
  | nil => rfl
  | cons change changes ih => rw [List.foldl_cons, List.foldl_cons, ih, numbers_changed]

/-! ### Counting bits -/

/-- The bits that are set among the lowest `width`. -/
theorem cpopNatRec_eq_card (bits : BitVec 64) (width : Nat) :
    bits.cpopNatRec width 0 = ((Finset.range width).filter fun n => bits.getLsbD n).card := by
  induction width with
  | zero => rfl
  | succ width ih =>
    have hcount : bits.cpopNatRec (width + 1) 0 =
        bits.cpopNatRec width 0 + (bits.getLsbD width).toNat := by
      rw [BitVec.cpopNatRec_succ, BitVec.cpopNatRec_add]
    rw [hcount, ih, Finset.range_add_one, Finset.filter_insert]
    split
    · next hset => simp [hset]
    · next hclear => simp [hclear]

/-! ### Listing the slots -/

theorem map_toNat_toList (map : SidMap) :
    map.toList.map UInt8.toNat = (List.range slotCount).filter fun n => map.bits.getLsbD n := by
  have hvalue : ∀ n ∈ List.range slotCount, (UInt8.ofNat n).toNat = n :=
    fun n hn => toNat_ofNat_of_lt (List.mem_range.1 hn)
  have hbits : ∀ n ∈ List.range slotCount,
      (map.contains ∘ UInt8.ofNat) n = map.bits.getLsbD n := by
    intro n hn
    rw [Function.comp_apply, contains, hvalue n hn]
  unfold toList
  rw [List.filter_map, List.map_map, List.filter_congr hbits]
  have hsame : ∀ n ∈ (List.range slotCount).filter fun n => map.bits.getLsbD n,
      (UInt8.toNat ∘ UInt8.ofNat) n = n := fun n hn => hvalue n (List.mem_of_mem_filter hn)
  rw [List.map_congr_left hsame, List.map_id']

theorem pairwise_map_toNat_toList (map : SidMap) :
    (map.toList.map UInt8.toNat).Pairwise (· < ·) := by
  rw [map_toNat_toList]
  exact List.pairwise_lt_range.filter _

theorem map_toNat_toList_eq_sort (map : SidMap) :
    map.toList.map UInt8.toNat = map.numbers.sort (· ≤ ·) := by
  have hset : (map.toList.map UInt8.toNat).toFinset = map.numbers := by
    ext n
    rw [map_toNat_toList]
    simp only [List.mem_toFinset, List.mem_filter, List.mem_range, numbers, Finset.mem_filter,
      Finset.mem_range]
  have hascending := map.pairwise_map_toNat_toList
  rw [← hset]
  refine ((List.toFinset_sort (· ≤ ·) ?_).2 ?_).symm
  · exact hascending.imp Nat.ne_of_lt
  · exact hascending.imp Nat.le_of_lt

theorem ofList_toList (map : SidMap) : ofList map.toList = map := by
  refine ext_contains fun sid => ?_
  rw [Bool.eq_iff_iff, contains_ofList, mem_toList]
  exact ⟨And.left, fun h => ⟨h, lt_of_contains h⟩⟩

/-! ### Bytes -/

/-- Bit `n` of a number is bit `n % 8` of its byte `n / 8`. -/
theorem testBit_littleEndian {width v n : Nat} (hn : n < 8 * width) :
    ((littleEndian width v).getD (n / 8) 0).toNat.testBit (n % 8) = v.testBit n := by
  induction width generalizing v n with
  | zero => exact absurd hn (Nat.not_lt_zero _)
  | succ width ih =>
    by_cases hfirst : n < 8
    · have hbyte : (UInt8.ofNat (v % 256)).toNat = v % 2 ^ 8 := by simp
      rw [Nat.div_eq_of_lt hfirst, Nat.mod_eq_of_lt hfirst, littleEndian, List.getD_cons_zero,
        hbyte, Nat.testBit_mod_two_pow]
      simp [hfirst]
    · obtain ⟨m, rfl⟩ := Nat.exists_eq_add_of_le' (Nat.le_of_not_lt hfirst)
      have hrest := ih (v := v / 256) (n := m) (by omega)
      have hplace : (m + 8) / 8 = m / 8 + 1 := by omega
      rw [hplace, Nat.add_mod_right, littleEndian, List.getD_cons_succ, hrest]
      exact Nat.testBit_div_two_pow (n := 8) v m

theorem isSome_ofBytes?_iff (bytes : List UInt8) :
    (ofBytes? bytes).isSome = true ↔ bytes.length = 8 := by
  unfold ofBytes?
  split <;> simp_all

/-! ### Shifts and masks -/

/-- A shifted one finds a bit of the word. -/
theorem and_shift_ne_zero_iff (bits : BitVec 64) {n : Nat} (hn : n < 64) :
    bits &&& 1#64 <<< n ≠ 0#64 ↔ bits.getLsbD n = true := by
  have hmask : bits &&& 1#64 <<< n = if bits.getLsbD n then BitVec.twoPow 64 n else 0#64 :=
    BitVec.and_twoPow bits n
  have hone : (BitVec.twoPow 64 n).getLsbD n = true := by simp [hn]
  rw [hmask]
  constructor
  · intro hne
    by_contra hclear
    exact hne (if_neg hclear)
  · intro hset hzero
    rw [if_pos hset] at hzero
    rw [hzero] at hone
    simp at hone

theorem contains_iff_word (map : SidMap) (sid : UInt8) : map.contains sid = true ↔
    sid.toNat < slotCount ∧ map.bits &&& 1#64 <<< sid.toNat ≠ 0#64 := by
  constructor
  · intro h
    have hsid := lt_of_contains h
    exact ⟨hsid, (and_shift_ne_zero_iff map.bits hsid).2 h⟩
  · rintro ⟨hsid, hne⟩
    exact (and_shift_ne_zero_iff map.bits hsid).1 hne

/-- Shifted past its end a one leaves nothing. -/
theorem twoPow_of_not_lt {n : Nat} (hn : ¬ n < slotCount) : BitVec.twoPow 64 n = 0#64 :=
  BitVec.shiftLeft_eq_zero (Nat.le_of_not_lt hn)

theorem bits_insert (map : SidMap) (sid : UInt8) : (map.insert sid).bits =
    if sid.toNat < slotCount then map.bits ||| 1#64 <<< sid.toNat else map.bits := by
  split
  · rfl
  · next hsid => rw [SidMap.insert, twoPow_of_not_lt hsid, BitVec.or_zero]

theorem bits_remove (map : SidMap) (sid : UInt8) : (map.remove sid).bits =
    if sid.toNat < slotCount then map.bits &&& ~~~(1#64 <<< sid.toNat) else map.bits := by
  split
  · rfl
  · next hsid => rw [SidMap.remove, twoPow_of_not_lt hsid, BitVec.not_zero, BitVec.and_allOnes]

/-! ### All readings of a map -/

/-- Whatever is read off the map is true of the set of numbers. -/
structure StandsFor (map : SidMap) (set : Finset Nat) : Prop where
  inside : ∀ n ∈ set, n < slotCount
  contains : ∀ sid, map.contains sid = true ↔ sid.toNat ∈ set
  isEmpty : map.isEmpty = true ↔ set = ∅
  count : map.count = set.card
  /-- The count is the number of bits that are set in the word. -/
  population : map.bits.cpop.toNat = set.card
  /-- The slots are listed in ascending order, and these are all the numbers. -/
  ascending : map.toList.Pairwise (· < ·)
  listed : map.toList.map UInt8.toNat = set.sort (· ≤ ·)
  /-- The map of the slots that are listed is the map. -/
  collected : ofList map.toList = map
  /-- A number is in the set if its bit is set in the bytes. -/
  laidOut : ∀ n < slotCount,
    (map.bytes.getD (n / 8) 0).toNat.testBit (n % 8) = true ↔ n ∈ set
  /-- No other bytes are read as the map. -/
  readBack : ∀ bytes, ofBytes? bytes = some map ↔ bytes = map.bytes

theorem standsFor_numbers (map : SidMap) : map.StandsFor map.numbers where
  inside _ hn := BitVec.lt_of_getLsbD (mem_numbers.1 hn)
  contains := map.contains_iff
  isEmpty := by
    have hempty : empty.numbers = ∅ := by decide
    rw [← hempty, numbers_inj, isEmpty, decide_eq_true_iff]
    exact ⟨fun hbits => congrArg SidMap.mk hbits, congrArg SidMap.bits⟩
  count := by
    rw [count, ← List.length_map UInt8.toNat, map_toNat_toList_eq_sort, Finset.length_sort]
  population := (BitVec.toNat_cpop map.bits).trans (cpopNatRec_eq_card map.bits 64)
  ascending := by
    have hascending := List.pairwise_map.1 map.pairwise_map_toNat_toList
    exact hascending.imp UInt8.lt_iff_toNat_lt.2
  listed := map.map_toNat_toList_eq_sort
  collected := map.ofList_toList
  laidOut n hn := by
    have hbit : map.bits.toNat.testBit n = map.bits.getLsbD n := rfl
    rw [bytes, testBit_littleEndian hn, hbit, mem_numbers]
  readBack _ := ofBytes?_eq_some_iff

/-- Every set of numbers below 64 is that of a map. -/
theorem exists_numbers_eq {set : Finset Nat} (h : set ⊆ Finset.range slotCount) :
    ∃ map : SidMap, map.numbers = set := by
  refine ⟨ofList ((set.sort (· ≤ ·)).map UInt8.ofNat), ?_⟩
  have hvalue : ∀ n ∈ Finset.range slotCount, (UInt8.ofNat n).toNat = n :=
    fun n hn => toNat_ofNat_of_lt (Finset.mem_range.1 hn)
  have hlisted : ∀ sid, (ofList ((set.sort (· ≤ ·)).map UInt8.ofNat)).contains sid = true ↔
      sid.toNat ∈ set := by
    intro sid
    rw [contains_ofList, List.mem_map]
    constructor
    · rintro ⟨⟨n, hn, rfl⟩, -⟩
      have hset := (Finset.mem_sort (· ≤ ·)).1 hn
      rwa [hvalue n (h hset)]
    · intro hset
      exact ⟨⟨sid.toNat, (Finset.mem_sort (· ≤ ·)).2 hset, UInt8.ofNat_toNat⟩,
        Finset.mem_range.1 (h hset)⟩
  ext n
  by_cases hn : n ∈ Finset.range slotCount
  · rw [← hvalue n hn, ← contains_iff, hlisted]
  · refine iff_of_false (fun hbit => hn ?_) fun hset => hn (h hset)
    exact (Finset.mem_filter.1 hbit).1

/-- Maps are the sets of numbers below 64. -/
structure FaithfulSet : Prop where
  /-- After any changes a map stands for the set after the same changes. -/
  follows : ∀ (map : SidMap) (changes : List SlotChange),
    (changes.foldl changed map).StandsFor (changes.foldl SlotChange.onSet map.numbers)
  /-- Each set of such numbers is that of one map. -/
  one : ∀ set ⊆ Finset.range slotCount, ∃! map : SidMap, map.numbers = set
  /-- Eight bytes are read, and no other number of them. -/
  reads : ∀ bytes, (ofBytes? bytes).isSome = true ↔ bytes.length = 8
  /-- In the word a slot is a shifted one, looked for, set and cleared only below 64. -/
  containsWord : ∀ (map : SidMap) (sid : UInt8), map.contains sid = true ↔
    sid.toNat < slotCount ∧ map.bits &&& 1#64 <<< sid.toNat ≠ 0#64
  insertWord : ∀ (map : SidMap) (sid : UInt8), (map.insert sid).bits =
    if sid.toNat < slotCount then map.bits ||| 1#64 <<< sid.toNat else map.bits
  removeWord : ∀ (map : SidMap) (sid : UInt8), (map.remove sid).bits =
    if sid.toNat < slotCount then map.bits &&& ~~~(1#64 <<< sid.toNat) else map.bits

theorem faithfulSet : FaithfulSet where
  follows map changes := by
    rw [← numbers_foldl_changed]
    exact standsFor_numbers _
  one set hset := by
    obtain ⟨map, rfl⟩ := exists_numbers_eq hset
    exact ⟨map, rfl, fun other hother => numbers_inj.1 hother⟩
  reads := isSome_ofBytes?_iff
  containsWord := contains_iff_word
  insertWord := bits_insert
  removeWord := bits_remove

/-- The last slot is 63. -/
example : ((empty.insert 63).insert 64).numbers = {63} := by decide

end AlarmMesh.Radio.SidMap
