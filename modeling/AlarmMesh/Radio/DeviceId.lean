import AlarmMesh.Radio.Word
import AlarmMesh.Text.Number

/-!
# Device addresses

A mesh device has a 24-bit address, three little-endian bytes on the air and six hexadecimal
digits in text.  `DeviceId.gateway` is the gateway's own address.
-/

namespace AlarmMesh.Radio

/-- A 24-bit mesh device address. -/
structure DeviceId where
  /-- The address as a number. -/
  value : Nat
  /-- Addresses have 24 bits. -/
  value_lt : value < 0x1000000
  deriving DecidableEq, Repr

namespace DeviceId

/-- The address in the low 24 bits of `n`. -/
def ofNat (n : Nat) : DeviceId := ⟨n % 0x1000000, Nat.mod_lt _ (by decide)⟩

instance : Inhabited DeviceId := ⟨ofNat 0⟩

/-- The gateway's own address. -/
def gateway : DeviceId := ofNat 0xffffff

/-- The gateway has the highest address. -/
def isGateway (id : DeviceId) : Bool := id = gateway

/-- The address written by three bytes, least significant first. -/
def ofBytes (low middle high : UInt8) : DeviceId := ofNat (ofLittleEndian [low, middle, high])

/-- The three bytes of an address, least significant first. -/
def bytes (id : DeviceId) : List UInt8 := littleEndian 3 id.value

/-- Six lower-case hexadecimal digits. -/
def text (id : DeviceId) : String := Text.hexFixed 6 id.value

@[simp]
theorem ofNat_value (id : DeviceId) : ofNat id.value = id := by
  cases id with
  | mk value value_lt =>
    rw [ofNat, mk.injEq]
    exact Nat.mod_eq_of_lt value_lt

@[simp]
theorem length_bytes (id : DeviceId) : id.bytes.length = 3 := length_littleEndian 3 id.value

theorem bytes_ofBytes (low middle high : UInt8) :
    (ofBytes low middle high).bytes = [low, middle, high] := by
  have hv : (ofBytes low middle high).value = ofLittleEndian [low, middle, high] :=
    Nat.mod_eq_of_lt (ofLittleEndian_lt [low, middle, high])
  rw [bytes, hv]
  exact littleEndian_ofLittleEndian [low, middle, high]

theorem ofNat_ofLittleEndian_bytes (id : DeviceId) : ofNat (ofLittleEndian id.bytes) = id := by
  have hv : id.value % byteRange 3 = id.value := Nat.mod_eq_of_lt id.value_lt
  rw [bytes, ofLittleEndian_littleEndian, hv, ofNat_value]

end DeviceId

end AlarmMesh.Radio
