/-!
# Byte stuffing

A frame on the wire ends with one flag byte.  Flags and escapes inside it are written as two
bytes, so a flag on the wire is always the end of a frame.

* `toWire frame` — the stuffed frame and its terminator;
* `unstuff` — undoes stuffing: `unstuff_stuff`;
* `flag_not_mem_stuff` — no flag inside a stuffed frame.
-/

namespace AlarmMesh.Link

/-- Ends a frame. -/
def flag : UInt8 := 0x7e

/-- Starts an escape of two bytes. -/
def escapeByte : UInt8 := 0x7d

/-- After the escape byte: a flag. -/
def escapedFlag : UInt8 := 0x01

/-- After the escape byte: an escape byte. -/
def escapedEscape : UInt8 := 0x02

/-- A byte that is not sent as itself. -/
def isSpecial (b : UInt8) : Bool := b = flag || b = escapeByte

/-- One byte as it is sent. -/
def stuffByte (b : UInt8) : List UInt8 :=
  if b = flag then [escapeByte, escapedFlag]
  else if b = escapeByte then [escapeByte, escapedEscape]
  else [b]

/-- A frame with its special bytes escaped. -/
def stuff (frame : List UInt8) : List UInt8 := frame.flatMap stuffByte

/-- A frame as it is sent: stuffed and terminated. -/
def toWire (frame : List UInt8) : List UInt8 := stuff frame ++ [flag]

/-- What the byte after an escape byte stands for; an unknown one stands for itself. -/
def unescapeCode (code : UInt8) : UInt8 :=
  if code = escapedFlag then flag else if code = escapedEscape then escapeByte else code

/-- A frame with its escapes undone.  An escape byte at the very end is kept. -/
def unstuff : List UInt8 → List UInt8
  | [] => []
  | [b] => [b]
  | b :: code :: rest =>
    if b = escapeByte then unescapeCode code :: unstuff rest else b :: unstuff (code :: rest)

theorem unstuff_cons_of_ne {b : UInt8} (h : b ≠ escapeByte) (rest : List UInt8) :
    unstuff (b :: rest) = b :: unstuff rest := by
  cases rest with
  | nil => rfl
  | cons code rest => simp [unstuff, h]

theorem unstuff_stuffByte_append (b : UInt8) (rest : List UInt8) :
    unstuff (stuffByte b ++ rest) = b :: unstuff rest := by
  unfold stuffByte
  split
  · next h => subst h; rfl
  · split
    · next h => subst h; rfl
    · next h => simpa using unstuff_cons_of_ne h rest

/-- Unstuffing undoes stuffing. -/
theorem unstuff_stuff (frame : List UInt8) : unstuff (stuff frame) = frame := by
  induction frame with
  | nil => rfl
  | cons b frame ih =>
    have hc : stuff (b :: frame) = stuffByte b ++ stuff frame := rfl
    rw [hc, unstuff_stuffByte_append, ih]

/-- A stuffed frame has no flag in it. -/
theorem flag_not_mem_stuff (frame : List UInt8) : flag ∉ stuff frame := by
  intro h
  obtain ⟨b, _, hb⟩ := List.mem_flatMap.1 h
  unfold stuffByte at hb
  split at hb
  · revert hb; decide
  · split at hb
    · revert hb; decide
    · next h1 _ => exact h1 (List.mem_singleton.1 hb).symm

end AlarmMesh.Link
