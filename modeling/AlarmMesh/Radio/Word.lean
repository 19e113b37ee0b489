/-!
# Little-endian words

Device ids, models and SID maps travel least significant byte first.

* `littleEndian w v` — the `w` low bytes of `v`;
* `ofLittleEndian bytes` — the number that the bytes write;
* `byteRange w` — how many numbers `w` bytes can write;
* reading and writing undo each other: `ofLittleEndian_littleEndian`, `littleEndian_ofLittleEndian`.
-/

namespace AlarmMesh.Radio

/-- The `width` low bytes of `v`, least significant first. -/
def littleEndian : (width v : Nat) → List UInt8
  | 0, _ => []
  | width + 1, v => UInt8.ofNat (v % 256) :: littleEndian width (v / 256)

/-- The number written by `bytes`, least significant first. -/
def ofLittleEndian : List UInt8 → Nat
  | [] => 0
  | b :: bytes => b.toNat + 256 * ofLittleEndian bytes

/-- How many numbers `width` bytes can write. -/
def byteRange : (width : Nat) → Nat
  | 0 => 1
  | width + 1 => 256 * byteRange width

@[simp]
theorem length_littleEndian (width v : Nat) : (littleEndian width v).length = width := by
  induction width generalizing v with
  | zero => rfl
  | succ width ih => simp [littleEndian, ih]

theorem ofLittleEndian_lt (bytes : List UInt8) :
    ofLittleEndian bytes < byteRange bytes.length := by
  induction bytes with
  | nil => decide
  | cons b bytes ih =>
    have hb := b.toNat_lt
    simp only [ofLittleEndian, List.length_cons, byteRange]
    omega

theorem ofLittleEndian_littleEndian (width v : Nat) :
    ofLittleEndian (littleEndian width v) = v % byteRange width := by
  induction width generalizing v with
  | zero => exact (Nat.mod_one v).symm
  | succ width ih =>
    have hb : (UInt8.ofNat (v % 256)).toNat = v % 256 := by simp
    rw [littleEndian, ofLittleEndian, ih, hb, byteRange, Nat.mod_mul]

theorem littleEndian_ofLittleEndian (bytes : List UInt8) :
    littleEndian bytes.length (ofLittleEndian bytes) = bytes := by
  induction bytes with
  | nil => rfl
  | cons b bytes ih =>
    have hb := b.toNat_lt
    have hd : (b.toNat + 256 * ofLittleEndian bytes) / 256 = ofLittleEndian bytes := by omega
    have hm : (b.toNat + 256 * ofLittleEndian bytes) % 256 = b.toNat := by omega
    simp only [List.length_cons, littleEndian, ofLittleEndian, hd, hm, ih, List.cons.injEq,
      and_true]
    exact UInt8.ofNat_toNat

/-- The 16-bit word of a low and a high byte. -/
def word16 (low high : UInt8) : UInt16 := UInt16.ofNat (low.toNat + 256 * high.toNat)

end AlarmMesh.Radio
