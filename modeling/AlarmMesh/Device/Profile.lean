import AlarmMesh.Radio.Word

/-!
# Device types

A device has a type of eight bits, which its model decides; the type decides which questions the
gateway asks when the device reports a fault or an alarm.

* `Device.typeFor` — the type of a model, as the platform knows it;
* `Device.Profile.find?` — what a device of a type can do;
* `Device.faultCode` — the fault code of one bit of a detailed fault word.
-/

namespace AlarmMesh.Device

/-- The bit that marks the mesh device types among the types of the platform. -/
def typeFlag : Nat := 0x10000

/-- The type of a mesh device as the platform knows it. -/
def flagged (deviceType : UInt8) : Nat := deviceType.toNat + typeFlag

/-- A type without the mark of mesh devices. -/
def bare (deviceType : Nat) : Nat :=
  if deviceType.testBit 16 then deviceType - typeFlag else deviceType

/-- The type of a model that is known. -/
def typeOfModel? (model : UInt16) : Option UInt8 :=
  match model.toNat with
  | 743 => some 134
  | 785 => some 129
  | 888 => some 65
  | 907 => some 255
  | 930 => some 250
  | 1022 => some 199
  | 1052 => some 200
  | 1041 => some 130
  | 1044 => some 135
  | 1093 => some 196
  | 1148 => some 129
  | 1157 => some 1
  | 1219 => some 250
  | _ => none

/-- The type of a device, as the platform knows it.  A model that is not known has its priority
byte as type. -/
def typeFor (model : UInt16) (priority : UInt8) : Nat :=
  flagged ((typeOfModel? model).getD priority)

/-- What a device can do. -/
structure Profile where
  deviceType : UInt8
  /-- The type in words. -/
  name : String
  /-- The battery voltage is read when the battery is reported low. -/
  readsVolts : Bool
  /-- The table of fault codes; 0 if there are no detailed faults. -/
  faultTable : UInt8
  /-- The temperature is read when an alarm is reported. -/
  readsTemperature : Bool
  deriving DecidableEq, Repr

namespace Profile

/-- The device types that are known. -/
def all : List Profile :=
  [⟨1, "ColdAlarm", false, 4, true⟩,
    ⟨65, "COAlarm", false, 3, false⟩,
    ⟨129, "SmokeAlarm", true, 1, false⟩,
    ⟨130, "HeatAlarm", false, 2, false⟩,
    ⟨134, "ACSmokeAlarm", false, 5, false⟩,
    ⟨135, "ACHeatAlarm", false, 6, true⟩,
    ⟨196, "ACU", false, 0, false⟩,
    ⟨199, "interfacegateway", false, 0, false⟩,
    ⟨200, "interfacegateway", false, 0, false⟩,
    ⟨250, "LowFreqSounder", false, 8, false⟩,
    ⟨255, "PadStrobe", false, 7, false⟩]

/-- The profile of a device type, with or without the mark of mesh devices. -/
def find? (deviceType : Nat) : Option Profile :=
  all.find? fun profile => profile.deviceType.toNat = bare deviceType

end Profile

/-! ## Detailed faults -/

/-- The fault codes of the bits of a detailed fault word, by table; 0 for a bit without a code. -/
def faultTables : List (List UInt8) :=
  [[0, 0, 0, 0, 0, 0, 0, 0, 0, 0, 0, 0, 0, 0, 0, 0],
    [2, 4, 6, 8, 10, 14, 16, 18, 0, 19, 22, 25, 30, 0, 0, 0],
    [2, 4, 6, 8, 10, 14, 16, 18, 0, 19, 22, 25, 30, 0, 0, 0],
    [2, 4, 6, 8, 12, 14, 16, 18, 19, 22, 25, 28, 31, 33, 34, 36],
    [2, 4, 6, 8, 12, 14, 16, 18, 19, 22, 25, 28, 31, 33, 34, 36],
    [2, 4, 6, 8, 10, 14, 16, 18, 0, 19, 22, 25, 30, 32, 35, 37],
    [2, 4, 6, 8, 10, 14, 16, 18, 0, 19, 22, 25, 30, 32, 35, 37],
    [1, 3, 5, 7, 9, 13, 15, 17, 19, 23, 50, 29, 0, 0, 0, 38],
    [1, 3, 5, 7, 9, 13, 15, 17, 19, 23, 50, 29, 0, 0, 0, 38]]

/-- The bits of a detailed fault word. -/
def faultBits : Nat := 16

/-- The fault code of a bit; 0 if it has none. -/
def faultCode (table : UInt8) (bit : Nat) : UInt8 := (faultTables.getD table.toNat []).getD bit 0

theorem length_faultRow (table : Nat) : (faultTables.getD table []).length ≤ faultBits := by
  rw [List.getD_eq_getElem?_getD]
  cases h : faultTables[table]? with
  | none => simp
  | some row =>
    have hrows : ∀ row ∈ faultTables, row.length ≤ faultBits := by decide
    exact hrows row (List.mem_of_getElem? h)

theorem faultCode_eq_zero {table : UInt8} {bit : Nat} (h : faultBits ≤ bit) :
    faultCode table bit = 0 := by
  have hrow := length_faultRow table.toNat
  rw [faultCode, List.getD_eq_getElem?_getD, List.getElem?_eq_none (by omega)]
  rfl

end AlarmMesh.Device
