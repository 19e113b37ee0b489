/-!
# Property values

A property is an integer, a truth value or a text.  The two enumerations kept as properties,
`Presence` and `Mode`, are stored by number.
-/

namespace AlarmMesh.Shadow

/-- The value of a property. -/
inductive Value where
  /-- A number; also times and enumerations. -/
  | integer (n : Int)
  | bool (b : Bool)
  | text (s : String)
  deriving DecidableEq, Repr

namespace Value

instance : Inhabited Value := ⟨integer 0⟩

/-- A number as a value. -/
def ofNat (n : Nat) : Value := integer n

/-- The number of a numeric value. -/
def asInt : Value → Option Int
  | integer n => some n
  | _ => none

/-- The number of a numeric value, if it is a natural number below `bound`. -/
def below (bound : Nat) (value : Value) : Option Nat :=
  match value with
  | integer (.ofNat n) => if n < bound then some n else none
  | _ => none

/-- The number of a numeric value that fits 32 bits. -/
def asWord : Value → Option Nat := below 0x100000000

/-- The number of a numeric value that fits a byte. -/
def asByte (value : Value) : Option UInt8 := (value.below 256).map UInt8.ofNat

/-- The number of a numeric value that fits a model. -/
def asModel (value : Value) : Option UInt16 := (value.below 65536).map UInt16.ofNat

/-- The truth value of a logical value. -/
def asBool : Value → Option Bool
  | bool b => some b
  | _ => none

/-- The text of a textual value. -/
def asText : Value → Option String
  | text s => some s
  | _ => none

/-- What kind of value it is, in words. -/
def typeName : Value → String
  | integer _ => "an integer"
  | bool _ => "a boolean"
  | text _ => "a string"

/-- The value as it is shown. -/
def display : Value → String
  | integer n => toString n
  | bool true => "true"
  | bool false => "false"
  | text s => s

end Value

/-- Whether a device is in the network. -/
inductive Presence where
  /-- Missing from the network. -/
  | offline
  /-- Answered the last missing-node test. -/
  | online
  /-- Not tested yet. -/
  | unknown
  deriving DecidableEq, Repr

namespace Presence

/-- The number stored for a presence. -/
def code : Presence → Nat
  | offline => 0
  | online => 1
  | unknown => 2

/-- The presence as a value. -/
def value (presence : Presence) : Value := .ofNat presence.code

/-- The presence that a value stands for. -/
def ofValue? : Value → Option Presence
  | .integer 0 => some offline
  | .integer 1 => some online
  | .integer 2 => some unknown
  | _ => none

theorem ofValue?_value (presence : Presence) : ofValue? presence.value = some presence := by
  cases presence <;> rfl

end Presence

/-- What the gateway is doing. -/
inductive Mode where
  /-- New devices may join. -/
  | learning
  /-- Normal operation. -/
  | running
  /-- A missing-node test was asked for. -/
  | testMode
  deriving DecidableEq, Repr

namespace Mode

/-- The number stored for a mode. -/
def code : Mode → Nat
  | learning => 2
  | running => 3
  | testMode => 4

/-- The mode as a value. -/
def value (mode : Mode) : Value := .ofNat mode.code

/-- The mode that a value stands for. -/
def ofValue? : Value → Option Mode
  | .integer 2 => some learning
  | .integer 3 => some running
  | .integer 4 => some testMode
  | _ => none

theorem ofValue?_value (mode : Mode) : ofValue? mode.value = some mode := by
  cases mode <;> rfl

end Mode

end AlarmMesh.Shadow
