import AlarmMesh.Radio.Word
import AlarmMesh.Text.Number

/-!
# Occupancy of the network slots

A network has 64 slots, numbered by SID.  A `SidMap` says which are occupied: bit `n` of its
64-bit word is slot `n`, so on the air slot `n` is bit `n % 8` of byte `n / 8`.

Membership is the one view of a map: `contains_insert`, `contains_remove`,
`contains_intersection` and `contains_difference` say what each operation does to it, and
`ext_contains` that it decides equality.
-/

namespace AlarmMesh.Radio

/-- Slots in a network. -/
def slotCount : Nat := 64

/-- Which of the 64 slots are occupied. -/
structure SidMap where
  /-- Bit `n` is set when slot `n` is occupied. -/
  bits : BitVec 64
  deriving DecidableEq, Repr

namespace SidMap

/-- No slot is occupied. -/
def empty : SidMap := ⟨0⟩

/-- Every slot is occupied. -/
def full : SidMap := ⟨BitVec.allOnes 64⟩

instance : Inhabited SidMap := ⟨empty⟩

/-- Slot `sid` is occupied; numbers past the map never are. -/
def contains (map : SidMap) (sid : UInt8) : Bool := map.bits.getLsbD sid.toNat

/-- Occupy slot `sid`; a number past the map changes nothing. -/
def insert (map : SidMap) (sid : UInt8) : SidMap := ⟨map.bits ||| BitVec.twoPow 64 sid.toNat⟩

/-- Free slot `sid`; a number past the map changes nothing. -/
def remove (map : SidMap) (sid : UInt8) : SidMap :=
  ⟨map.bits &&& ~~~ BitVec.twoPow 64 sid.toNat⟩

/-- The slots occupied in both maps. -/
def intersection (map other : SidMap) : SidMap := ⟨map.bits &&& other.bits⟩

/-- The slots occupied here and not in `other`. -/
def difference (map other : SidMap) : SidMap := ⟨map.bits &&& ~~~ other.bits⟩

/-- The occupied slots, in ascending order. -/
def toList (map : SidMap) : List UInt8 :=
  ((List.range slotCount).map UInt8.ofNat).filter map.contains

/-- The map of the given slots. -/
def ofList (sids : List UInt8) : SidMap := sids.foldl insert empty

/-- The number of occupied slots. -/
def count (map : SidMap) : Nat := map.toList.length

/-- No slot is occupied. -/
def isEmpty (map : SidMap) : Bool := map.bits = 0

/-- The radio module itself and at least one other slot are occupied. -/
def inNetwork (map : SidMap) : Bool := map.count > 1

/-- The eight bytes on the air. -/
def bytes (map : SidMap) : List UInt8 := littleEndian 8 map.bits.toNat

/-- The map that eight bytes write; none for any other number of bytes. -/
def ofBytes? (bytes : List UInt8) : Option SidMap :=
  if bytes.length = 8 then some ⟨BitVec.ofNat 64 (ofLittleEndian bytes)⟩ else none

/-- Sixteen lower-case hexadecimal digits, slot 63 first. -/
def text (map : SidMap) : String := Text.hexFixed 16 map.bits.toNat

@[simp]
theorem contains_empty (sid : UInt8) : empty.contains sid = false := by simp [contains, empty]

theorem contains_of_le (map : SidMap) {sid : UInt8} (h : 64 ≤ sid.toNat) :
    map.contains sid = false := BitVec.getLsbD_of_ge map.bits sid.toNat h

@[simp]
theorem contains_insert (map : SidMap) (sid other : UInt8) :
    (map.insert sid).contains other =
      (map.contains other || (decide (other = sid) && decide (sid.toNat < 64))) := by
  simp only [contains, insert, BitVec.getLsbD_or, BitVec.getLsbD_twoPow]
  by_cases h : other = sid
  · subst h; simp
  · have hn : ¬ sid.toNat = other.toNat := fun e => h (UInt8.toNat_inj.1 e.symm)
    simp [h, hn]

@[simp]
theorem contains_remove (map : SidMap) (sid other : UInt8) :
    (map.remove sid).contains other = (map.contains other && !decide (other = sid)) := by
  simp only [contains, remove, BitVec.getLsbD_and, BitVec.getLsbD_not, BitVec.getLsbD_twoPow]
  by_cases h : other = sid
  · subst h
    by_cases hl : other.toNat < 64
    · simp [hl]
    · simp [BitVec.getLsbD_of_ge map.bits other.toNat (by omega)]
  · have hn : ¬ sid.toNat = other.toNat := fun e => h (UInt8.toNat_inj.1 e.symm)
    by_cases hl : other.toNat < 64
    · simp [h, hn, hl]
    · simp [BitVec.getLsbD_of_ge map.bits other.toNat (by omega)]

@[simp]
theorem contains_intersection (map other : SidMap) (sid : UInt8) :
    (map.intersection other).contains sid = (map.contains sid && other.contains sid) := by
  simp [contains, intersection]

@[simp]
theorem contains_difference (map other : SidMap) (sid : UInt8) :
    (map.difference other).contains sid = (map.contains sid && !other.contains sid) := by
  by_cases h : sid.toNat < 64
  · simp [contains, difference, h]
  · simp [contains_of_le _ (show 64 ≤ sid.toNat by omega)]

theorem mem_toList {map : SidMap} {sid : UInt8} :
    sid ∈ map.toList ↔ map.contains sid = true := by
  simp only [toList, List.mem_filter, List.mem_map, List.mem_range, slotCount,
    and_iff_right_iff_imp]
  intro h
  refine ⟨sid.toNat, ?_, UInt8.ofNat_toNat⟩
  by_cases hl : sid.toNat < 64
  · exact hl
  · rw [contains_of_le _ (show 64 ≤ sid.toNat by omega)] at h
    cases h

theorem ext_contains {map other : SidMap} (h : ∀ sid, map.contains sid = other.contains sid) :
    map = other := by
  cases map with
  | mk a =>
    cases other with
    | mk b =>
      congr 1
      apply BitVec.eq_of_getLsbD_eq
      intro i hi
      have hs := h (UInt8.ofNat i)
      have hn : (UInt8.ofNat i).toNat = i := by simp; omega
      simpa [contains, hn] using hs

end SidMap

end AlarmMesh.Radio
