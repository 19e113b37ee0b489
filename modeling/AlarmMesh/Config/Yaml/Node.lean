import AlarmMesh.Text.Number

/-!
# YAML documents

A document is a scalar, a sequence or a mapping.  A scalar remembers whether it was written
plainly, without quotes: only then can it be something other than text.
-/

namespace AlarmMesh.Config.Yaml

/-- A node of a document. -/
inductive Node where
  /-- A single value; `plain` if it was written without quotes. -/
  | scalar (plain : Bool) (text : String)
  | sequence (items : List Node)
  | mapping (entries : List (Node × Node))
  deriving Repr

namespace Node

instance : Inhabited Node := ⟨scalar true ""⟩

/-- A value that was left out. -/
def absent : Node := scalar true ""

/-- The plain spellings of nothing. -/
def nullTexts : List String := ["", "~", "null", "Null", "NULL"]

/-- The node stands for nothing. -/
def isNull : Node → Bool
  | scalar true text => nullTexts.contains text
  | _ => false

/-! ## Unsigned integers -/

/-- The number of 64 bits that digits write in a base. -/
def digits? (base : Nat) (cs : List Char) : Option Nat := do
  guard (!cs.isEmpty)
  let value ← Text.number? base cs
  guard (value < 0x10000000000000000)
  return value

/-- The number of 64 bits that a plain scalar writes: decimal without a zero in front, or
hexadecimal, octal or binary, perhaps after a plus sign. -/
def unsignedChars? (cs : List Char) : Option Nat :=
  let digits := match cs with
    | '+' :: rest => rest
    | cs => cs
  match digits with
  | '0' :: 'x' :: rest => digits? 16 rest
  | '0' :: 'o' :: rest => digits? 8 rest
  | '0' :: 'b' :: rest => digits? 2 rest
  | ['0'] => some 0
  | '0' :: _ => none
  | digits => digits? 10 digits

/-- The number of 64 bits that a node stands for. -/
def unsigned? : Node → Option Nat
  | scalar true text => unsignedChars? text.toList
  | _ => none

end Node

end AlarmMesh.Config.Yaml
