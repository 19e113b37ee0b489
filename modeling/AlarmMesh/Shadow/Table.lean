/-!
# Tables

A finite table as a list of entries, one for each key.

* `put` — replaces the entry of a key where it stands, or adds one at the end;
* `erase` — removes it;
* `get?_put`, `get?_erase` — what the two do to a look-up.
-/

namespace AlarmMesh.Shadow

/-- Entries by key. -/
abbrev Table (κ ν : Type) := List (κ × ν)

namespace Table

variable {κ ν : Type} [DecidableEq κ]

/-- The value of a key. -/
def get? (table : Table κ ν) (key : κ) : Option ν :=
  match table with
  | [] => none
  | (other, value) :: rest => if other = key then some value else get? rest key

/-- Set the value of a key. -/
def put (table : Table κ ν) (key : κ) (value : ν) : Table κ ν :=
  match table with
  | [] => [(key, value)]
  | (other, old) :: rest =>
    if other = key then (key, value) :: rest else (other, old) :: put rest key value

/-- Remove a key. -/
def erase (table : Table κ ν) (key : κ) : Table κ ν :=
  List.filter (fun entry => entry.1 ≠ key) table

/-- The key has a value. -/
def has (table : Table κ ν) (key : κ) : Bool := (table.get? key).isSome

/-- The keys, in the order of the entries. -/
def keys (table : Table κ ν) : List κ := List.map Prod.fst table

@[simp]
theorem get?_nil (key : κ) : get? ([] : Table κ ν) key = none := rfl

theorem get?_put (table : Table κ ν) (key other : κ) (value : ν) :
    (table.put key value).get? other = if key = other then some value else table.get? other := by
  induction table with
  | nil => rfl
  | cons entry rest ih =>
    obtain ⟨k, v⟩ := entry
    unfold put
    by_cases h : k = key
    · subst h
      by_cases ho : k = other <;> simp [get?, ho]
    · by_cases ho : k = other
      · subst ho
        simp [get?, h, Ne.symm h]
      · simp [get?, h, ho, ih]

theorem get?_erase (table : Table κ ν) (key other : κ) :
    (table.erase key).get? other = if key = other then none else table.get? other := by
  induction table with
  | nil => simp [erase]
  | cons entry rest ih =>
    obtain ⟨k, v⟩ := entry
    unfold erase at ih ⊢
    by_cases h : k = key
    · subst h
      rw [List.filter_cons_of_neg (by simp), ih]
      by_cases ho : k = other <;> simp [get?, ho]
    · rw [List.filter_cons_of_pos (by simpa using h)]
      by_cases ho : k = other
      · subst ho
        simp [get?, Ne.symm h]
      · rw [get?, if_neg ho, get?, if_neg ho]
        exact ih

end Table

end AlarmMesh.Shadow
