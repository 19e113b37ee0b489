import AlarmMesh.Radio.DeviceId
import AlarmMesh.Radio.SidMap
import Mathlib.Data.List.Forall2

/-!
# Fields of a frame

Behind its first bytes a frame is a sequence of fields, one after the other.  A field is some bytes
wide; it carries a value, or it is a gap that carries none.  Laying values out gives the byte of
each place, and none for the places of a gap.  Reading goes the other way: a cursor takes each field
from the front of the bytes, and fails when they are fewer than the field is wide.

The two belong together: the cursor finds a value where a front of the bytes is what the value lays
out, and stops behind that front.

* `Field`, `Field.Value`, `Values` — fields, what they carry, and what a sequence of them carries;
* `Matches places bytes` — the bytes at the places that are laid out;
* `Field.read_eq_some_iff`, `readAll_eq_some_iff` — the cursor and the layout;
* `Matches.length_eq`, `matches_fill` — as many bytes as places, and any bytes in the gaps.
-/

namespace AlarmMesh.Radio

/-! ### Words, addresses and maps as bytes -/

theorem littleEndian_word16 (low high : UInt8) :
    littleEndian 2 (word16 low high).toNat = [low, high] := by
  have hlow := low.toNat_lt
  have hhigh := high.toNat_lt
  have hvalue : (word16 low high).toNat = ofLittleEndian [low, high] := by
    simp only [word16, ofLittleEndian, UInt16.toNat_ofNat']
    omega
  rw [hvalue]
  exact littleEndian_ofLittleEndian [low, high]

theorem word16_eq_iff {low high : UInt8} {word : UInt16} :
    word16 low high = word ↔ [low, high] = littleEndian 2 word.toNat := by
  constructor
  · rintro rfl
    exact (littleEndian_word16 low high).symm
  · intro hbytes
    have hword := word.toNat_lt
    have hvalue := congrArg ofLittleEndian ((littleEndian_word16 low high).trans hbytes)
    rw [ofLittleEndian_littleEndian, ofLittleEndian_littleEndian] at hvalue
    have hlow := (word16 low high).toNat_lt
    apply UInt16.toNat_inj.1
    simp only [byteRange] at hvalue
    omega

theorem DeviceId.ofBytes_eq_iff {low middle high : UInt8} {id : DeviceId} :
    ofBytes low middle high = id ↔ [low, middle, high] = id.bytes := by
  constructor
  · rintro rfl
    exact (bytes_ofBytes low middle high).symm
  · intro hbytes
    rw [ofBytes, hbytes, ofNat_ofLittleEndian_bytes]

theorem SidMap.ofBytes?_eq_some_iff {bytes : List UInt8} {map : SidMap} :
    ofBytes? bytes = some map ↔ bytes = map.bytes := by
  constructor
  · intro hmap
    unfold ofBytes? at hmap
    split at hmap
    · next hlength =>
      have hlt := ofLittleEndian_lt bytes
      rw [hlength] at hlt
      obtain rfl := Option.some.inj hmap
      have hvalue : (BitVec.ofNat 64 (ofLittleEndian bytes)).toNat = ofLittleEndian bytes :=
        Nat.mod_eq_of_lt hlt
      rw [SidMap.bytes, hvalue, ← hlength]
      exact (littleEndian_ofLittleEndian bytes).symm
    · cases hmap
  · rintro rfl
    have hvalue : ofLittleEndian map.bytes = map.bits.toNat :=
      (ofLittleEndian_littleEndian 8 _).trans (Nat.mod_eq_of_lt map.bits.isLt)
    have hlength : map.bytes.length = 8 := length_littleEndian 8 _
    rw [ofBytes?, if_pos hlength, hvalue, BitVec.ofNat_toNat, BitVec.setWidth_eq]

/-! ### Bytes at their places -/

/-- The bytes are those of the places, where a place has one. -/
def Matches : List (Option UInt8) → List UInt8 → Prop :=
  List.Forall₂ fun place b => ∀ known ∈ place, known = b

section Matches

variable {places more : List (Option UInt8)} {bytes : List UInt8}

theorem Matches.length_eq (h : Matches places bytes) : places.length = bytes.length :=
  List.Forall₂.length_eq h

theorem matches_nil : Matches [] bytes ↔ bytes = [] := List.forall₂_nil_left_iff

theorem matches_singleton_none : Matches [none] bytes ↔ ∃ b, bytes = [b] := by
  simp [Matches, List.forall₂_cons_left_iff]

theorem matches_map_some {known : List UInt8} : Matches (known.map some) bytes ↔ bytes = known := by
  rw [Matches, List.forall₂_map_left_iff]
  simp [List.forall₂_eq_eq_eq, eq_comm]

theorem matches_append : Matches (places ++ more) bytes ↔
    ∃ front rest, bytes = front ++ rest ∧ Matches places front ∧ Matches more rest := by
  constructor
  · intro h
    have hflip := h.flip
    refine ⟨bytes.take places.length, bytes.drop places.length, ?_, ?_, ?_⟩
    · exact (List.take_append_drop _ _).symm
    · exact (List.forall₂_take_append bytes places more hflip).flip
    · exact (List.forall₂_drop_append bytes places more hflip).flip
  · rintro ⟨front, rest, rfl, hfront, hrest⟩
    exact List.rel_append hfront hrest

/-- A gap matches whatever it is filled with. -/
theorem matches_fill (places : List (Option UInt8)) (filler : UInt8) :
    Matches places (places.map fun place => place.getD filler) := by
  rw [Matches, List.forall₂_map_right_iff, List.forall₂_same]
  rintro place - known hknown
  rw [Option.mem_def.1 hknown]
  rfl

end Matches

/-! ### One field -/

/-- What the next bytes of a frame are. -/
inductive Field where
  /-- One byte. -/
  | byte
  /-- The address of a device, least significant byte first. -/
  | id
  /-- A word of two bytes, least significant first. -/
  | word
  /-- A word of two bytes, most significant first. -/
  | bigWord
  /-- A map of the slots. -/
  | map
  /-- A byte that carries nothing. -/
  | gap
  deriving DecidableEq, Repr

namespace Field

/-- What a field carries. -/
@[reducible]
def Value : Field → Type
  | byte => UInt8
  | id => DeviceId
  | word => UInt16
  | bigWord => UInt16
  | map => SidMap
  | gap => Unit

/-- How many bytes wide a field is. -/
def width : Field → Nat
  | byte => 1
  | id => 3
  | word => 2
  | bigWord => 2
  | map => 8
  | gap => 1

/-- A value at the places of its field. -/
def places : (field : Field) → field.Value → List (Option UInt8)
  | byte, b => [some b]
  | id, device => device.bytes.map some
  | word, number => (littleEndian 2 number.toNat).map some
  | bigWord, number => (littleEndian 2 number.toNat).reverse.map some
  | map, slots => slots.bytes.map some
  | gap, () => [none]

/-- The value that the bytes of a field write, if they are as many as the field is wide. -/
def parse : (field : Field) → List UInt8 → Option field.Value
  | byte, [b] => some b
  | id, [low, middle, high] => some (.ofBytes low middle high)
  | word, [low, high] => some (word16 low high)
  | bigWord, [high, low] => some (word16 low high)
  | map, bytes => SidMap.ofBytes? bytes
  | gap, [_] => some ()
  | _, _ => none

/-- Take a field from the front of the bytes.  Gives also the bytes behind it. -/
def read (field : Field) (bytes : List UInt8) : Option (field.Value × List UInt8) :=
  (field.parse (bytes.take field.width)).map fun value => (value, bytes.drop field.width)

theorem length_places (field : Field) (value : field.Value) :
    (field.places value).length = field.width := by
  cases field <;> simp [places, width, SidMap.bytes]

variable {field : Field} {value : field.Value} {bytes rest : List UInt8}

theorem length_of_parse (h : field.parse bytes = some value) : bytes.length = field.width := by
  unfold parse at h
  split at h
  · rfl
  · rfl
  · rfl
  · rfl
  · rw [SidMap.ofBytes?_eq_some_iff.1 h]
    exact length_littleEndian 8 _
  · rfl
  · cases h

/-- A field's bytes write the value that is laid out as these bytes. -/
theorem parse_eq_some_iff :
    field.parse bytes = some value ↔ Matches (field.places value) bytes := by
  by_cases hlength : bytes.length = field.width
  · cases field with
    | byte =>
      obtain ⟨b, rfl⟩ := List.length_eq_one_iff.1 hlength
      show some b = some value ↔ Matches ([value].map some) [b]
      rw [matches_map_some, Option.some_inj, List.singleton_inj]
    | id =>
      obtain ⟨low, middle, high, rfl⟩ := List.length_eq_three.1 hlength
      rw [places, matches_map_some, ← DeviceId.ofBytes_eq_iff]
      exact Option.some_inj
    | word =>
      obtain ⟨low, high, rfl⟩ := List.length_eq_two.1 hlength
      rw [places, matches_map_some, ← word16_eq_iff]
      exact Option.some_inj
    | bigWord =>
      obtain ⟨high, low, rfl⟩ := List.length_eq_two.1 hlength
      rw [places, matches_map_some, ← List.reverse_eq_iff,
        show [high, low].reverse = [low, high] from rfl, ← word16_eq_iff]
      exact Option.some_inj
    | map =>
      rw [places, matches_map_some]
      exact SidMap.ofBytes?_eq_some_iff
    | gap =>
      obtain ⟨b, rfl⟩ := List.length_eq_one_iff.1 hlength
      exact iff_of_true rfl (matches_singleton_none.2 ⟨b, rfl⟩)
  · refine iff_of_false (fun h => hlength (length_of_parse h)) fun h => hlength ?_
    rw [← h.length_eq, length_places]

/-- The cursor finds a value where it is laid out, and stops behind it. -/
theorem read_eq_some_iff :
    field.read bytes = some (value, rest) ↔
      ∃ front, bytes = front ++ rest ∧ Matches (field.places value) front := by
  simp only [← parse_eq_some_iff]
  constructor
  · intro h
    obtain ⟨found, hparse, hfound⟩ := Option.map_eq_some_iff.1 h
    obtain ⟨rfl, rfl⟩ := Prod.mk.inj hfound
    exact ⟨_, (List.take_append_drop _ _).symm, hparse⟩
  · rintro ⟨front, rfl, hparse⟩
    have hlength := length_of_parse hparse
    rw [read, List.take_left' hlength, List.drop_left' hlength, hparse]
    rfl

end Field

/-! ### A sequence of fields -/

/-- What a sequence of fields carries. -/
@[reducible]
def Values : List Field → Type
  | [] => Unit
  | field :: fields => field.Value × Values fields

/-- How many bytes wide a sequence of fields is. -/
def widthOf : List Field → Nat
  | [] => 0
  | field :: fields => field.width + widthOf fields

/-- Values at the places of their fields. -/
def placesOf : (fields : List Field) → Values fields → List (Option UInt8)
  | [], () => []
  | field :: fields, (value, values) => field.places value ++ placesOf fields values

/-- Take fields from the front of the bytes, one after the other.  Gives also the bytes behind
them. -/
def readAll : (fields : List Field) → List UInt8 → Option (Values fields × List UInt8)
  | [], bytes => some ((), bytes)
  | field :: fields, bytes => do
    let (value, bytes) ← field.read bytes
    let (values, bytes) ← readAll fields bytes
    return ((value, values), bytes)

theorem length_placesOf (fields : List Field) (values : Values fields) :
    (placesOf fields values).length = widthOf fields := by
  induction fields with
  | nil => rfl
  | cons field fields ih =>
    rw [placesOf, List.length_append, field.length_places, ih]
    rfl

/-- The cursor finds the values that are laid out one after the other, and stops behind them. -/
theorem readAll_eq_some_iff {fields : List Field} {values : Values fields}
    {bytes rest : List UInt8} :
    readAll fields bytes = some (values, rest) ↔
      ∃ front, bytes = front ++ rest ∧ Matches (placesOf fields values) front := by
  induction fields generalizing bytes with
  | nil => simp [readAll, placesOf, matches_nil]
  | cons field fields ih =>
    obtain ⟨value, values⟩ := values
    have hstep : readAll (field :: fields) bytes = some ((value, values), rest) ↔
        ∃ middle, field.read bytes = some (value, middle) ∧
          readAll fields middle = some (values, rest) := by
      simp [readAll, Option.bind_eq_some_iff]
    rw [hstep, placesOf]
    simp only [Field.read_eq_some_iff, ih, matches_append]
    constructor
    · rintro ⟨middle, ⟨first, rfl, hfirst⟩, second, rfl, hsecond⟩
      exact ⟨first ++ second, by rw [List.append_assoc], first, second, rfl, hfirst, hsecond⟩
    · rintro ⟨front, rfl, first, second, rfl, hfirst, hsecond⟩
      exact ⟨second ++ rest, ⟨first, by rw [List.append_assoc], hfirst⟩, second, rfl, hsecond⟩

end AlarmMesh.Radio
