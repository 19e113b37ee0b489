import AlarmMesh.Radio.SidMap
import Mathlib.Data.Finset.Card

/-!
# Counting slots

* `SidMap.contains_ofList` — the slots of a list;
* `SidMap.count_insert`, `SidMap.count_remove` — what one slot more or less does to the number.
-/

namespace AlarmMesh.Radio.SidMap

variable {map : SidMap} {sid : UInt8}

theorem lt_of_contains (h : map.contains sid) : sid.toNat < slotCount := by
  by_contra hnot
  rw [map.contains_of_le (Nat.le_of_not_lt hnot)] at h
  cases h

/-! ### Lists of slots -/

theorem contains_foldl_insert (sids : List UInt8) (map : SidMap) (sid : UInt8) :
    (sids.foldl insert map).contains sid = true ↔
      map.contains sid ∨ sid ∈ sids ∧ sid.toNat < 64 := by
  induction sids generalizing map with
  | nil => simp
  | cons first sids ih =>
    rw [List.foldl_cons, ih]
    by_cases heq : sid = first
    · subst heq
      simp
      tauto
    · simp [heq]

/-- A slot is in the map of a list if it is in the list and in a network at all. -/
theorem contains_ofList (sids : List UInt8) (sid : UInt8) :
    (ofList sids).contains sid = true ↔ sid ∈ sids ∧ sid.toNat < 64 := by
  unfold ofList
  rw [contains_foldl_insert]
  simp

/-! ### The number of slots -/

theorem nodup_toList (map : SidMap) : map.toList.Nodup := by
  refine List.Nodup.filter _ (List.Nodup.map_on ?_ List.nodup_range)
  intro a ha b hb heq
  have ha' : a < 64 := List.mem_range.1 ha
  have hb' : b < 64 := List.mem_range.1 hb
  have hvalue := congrArg UInt8.toNat heq
  simp only [UInt8.toNat_ofNat'] at hvalue
  omega

/-- The occupied slots as a set. -/
def slots (map : SidMap) : Finset UInt8 := ⟨map.toList, map.nodup_toList⟩

@[simp]
theorem mem_slots : sid ∈ map.slots ↔ map.contains sid := mem_toList

theorem card_slots (map : SidMap) : map.slots.card = map.count := rfl

theorem count_remove (h : map.contains sid) : (map.remove sid).count + 1 = map.count := by
  have hslots : (map.remove sid).slots = map.slots.erase sid := by
    ext other
    simp
    tauto
  rw [← card_slots, ← card_slots, hslots]
  exact Finset.card_erase_add_one (mem_slots.2 h)

theorem count_insert (h : map.contains sid = false) (hsid : sid.toNat < 64) :
    (map.insert sid).count = map.count + 1 := by
  have hslots : (map.insert sid).slots = Insert.insert sid map.slots := by
    ext other
    simp [hsid]
    tauto
  rw [← card_slots, ← card_slots, hslots]
  exact Finset.card_insert_of_notMem (by simp [h])

theorem remove_of_not_contains (h : map.contains sid = false) : map.remove sid = map := by
  refine ext_contains fun other => ?_
  by_cases heq : other = sid
  · simp [heq, h]
  · simp [heq]

end AlarmMesh.Radio.SidMap
