/-!
# Fault flags

A fault report carries one byte of flags.  Most bits mean a fault when set; the two that
confirm health mean one when clear.
-/

namespace AlarmMesh.Radio

/-- The flag bits of a fault report, from bit 0 to bit 7. -/
inductive FaultFlag where
  /-- The device is calibrated: a fault when clear. -/
  | calibrated
  /-- The device reports a general fault. -/
  | faulty
  /-- The device sits on its base: a fault when clear. -/
  | onBase
  /-- The detector battery is low. -/
  | detectorBattery
  /-- Mains power failed. -/
  | mainsFailed
  /-- The radio module battery is low. -/
  | radioBattery
  /-- Not assigned. -/
  | unassigned6
  /-- Not assigned. -/
  | unassigned7
  deriving DecidableEq, Repr

namespace FaultFlag

/-- Every flag, in the order of the bits. -/
def all : List FaultFlag :=
  [calibrated, faulty, onBase, detectorBattery, mainsFailed, radioBattery, unassigned6, unassigned7]

/-- The position of the flag in the byte. -/
def bit : FaultFlag → Nat
  | calibrated => 0
  | faulty => 1
  | onBase => 2
  | detectorBattery => 3
  | mainsFailed => 4
  | radioBattery => 5
  | unassigned6 => 6
  | unassigned7 => 7

/-- The flag's bit is set in `flags`. -/
def isSet (flag : FaultFlag) (flags : UInt8) : Bool := flags.toNat.testBit flag.bit

/-- The byte `flags` tells of a fault through this flag. -/
def isFault (flag : FaultFlag) (flags : UInt8) : Bool :=
  match flag with
  | calibrated | onBase => !flag.isSet flags
  | _ => flag.isSet flags

end FaultFlag

end AlarmMesh.Radio
