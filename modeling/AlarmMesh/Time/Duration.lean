import AlarmMesh.Text.Blank

/-!
# Durations

A duration is a number of nanoseconds.  In text it is a whole number with a unit.

* `Duration.parse?` — digits, perhaps blanks, and one of `h`, `m`, `s`, `ms` or nothing, which
  means seconds;
* `Duration.format` — the largest of these units that gives a whole number;
* `Duration.exactText` — the largest unit with a decimal fraction, as error texts show it.
-/

namespace AlarmMesh

/-- A length of time. -/
structure Duration where
  nanoseconds : Nat
  deriving DecidableEq, Repr

namespace Duration

/-- Nothing that is measured in 64 bits reaches this number. -/
def limit : Nat := 0x10000000000000000

/-- A number of seconds. -/
def ofSeconds (n : Nat) : Duration := ⟨n * 1000000000⟩

/-- A number of milliseconds. -/
def ofMillis (n : Nat) : Duration := ⟨n * 1000000⟩

/-- Whole seconds. -/
def seconds (d : Duration) : Nat := d.nanoseconds / 1000000000

/-- Whole milliseconds. -/
def millis (d : Duration) : Nat := d.nanoseconds / 1000000

/-- Nanoseconds past the last whole second. -/
def subsecond (d : Duration) : Nat := d.nanoseconds % 1000000000

/-- Nothing at all. -/
def isZero (d : Duration) : Bool := d.nanoseconds = 0

instance : Inhabited Duration := ⟨⟨0⟩⟩

instance : LE Duration := ⟨fun a b => a.nanoseconds ≤ b.nanoseconds⟩

instance : LT Duration := ⟨fun a b => a.nanoseconds < b.nanoseconds⟩

instance (a b : Duration) : Decidable (a ≤ b) := Nat.decLe a.nanoseconds b.nanoseconds

instance (a b : Duration) : Decidable (a < b) := Nat.decLt a.nanoseconds b.nanoseconds

/-! ## Reading -/

/-- A number of a unit; none when it is counted in more than 64 bits. -/
def ofUnit? (value : Nat) (unit : List Char) : Option Duration :=
  if limit ≤ value then none
  else
    match unit with
    | ['m', 's'] => some (ofMillis value)
    | [] | ['s'] => some (ofSeconds value)
    | ['m'] => if value * 60 < limit then some (ofSeconds (value * 60)) else none
    | ['h'] => if value * 3600 < limit then some (ofSeconds (value * 3600)) else none
    | _ => none

/-- The duration that characters without blanks around them write. -/
def ofChars? (cs : List Char) : Option Duration :=
  let digits := cs.takeWhile Text.isDigit
  if digits.isEmpty then none
  else ofUnit? (Text.digitsValue digits) (Text.trim (cs.dropWhile Text.isDigit))

/-- The duration that a text writes, blanks around it being ignored. -/
def parse? (text : String) : Option Duration := ofChars? (Text.trim text.toList)

/-! ## Writing -/

/-- A whole number of the largest unit that gives one; what is below a millisecond is not shown. -/
def format (d : Duration) : String :=
  if d.subsecond / 1000000 ≠ 0 ∨ d.seconds = 0 then toString d.millis ++ "ms"
  else if d.seconds % 3600 = 0 then toString (d.seconds / 3600) ++ "h"
  else if d.seconds % 60 = 0 then toString (d.seconds / 60) ++ "m"
  else toString d.seconds ++ "s"

/-- The decimal digits of `n` below the point, `width` of them, without the zeros at the end. -/
def fraction (width n : Nat) : List Char :=
  let digits := Nat.toDigits 10 n
  let padded := List.replicate (width - digits.length) '0' ++ digits
  (padded.reverse.dropWhile (· == '0')).reverse

/-- A number of parts, `whole` of them to one, as a decimal number with up to `width` digits below
the point. -/
def decimal (width whole parts : Nat) : String :=
  match fraction width (parts % whole) with
  | [] => toString (parts / whole)
  | digits => toString (parts / whole) ++ "." ++ String.ofList digits

/-- The duration in the largest unit that it has one of. -/
def exactText (d : Duration) : String :=
  let n := d.nanoseconds
  if 1000000000 ≤ n then decimal 9 1000000000 n ++ "s"
  else if 1000000 ≤ n then decimal 6 1000000 n ++ "ms"
  else if 1000 ≤ n then decimal 3 1000 n ++ "µs"
  else toString n ++ "ns"

end Duration

end AlarmMesh
