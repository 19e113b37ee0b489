/-!
# Numbers as text

* `hexFixed w n` — the low `4 * w` bits of `n` in `w` lower-case hexadecimal digits;
* `hexByte` — one byte in two upper-case digits, as error texts show it;
* `hexBytes` — bytes in two lower-case digits each;
* `paddedTwo` — a decimal number with at least two digits;
* `digitValue?`, `number?`, `bytesOfHex?` — what digits write.
-/

namespace AlarmMesh.Text

/-- The lower-case hexadecimal digit of a number below sixteen. -/
def hexDigit (n : Nat) : Char :=
  if n < 10 then Char.ofNat (48 + n) else Char.ofNat (87 + n)

/-- The upper-case hexadecimal digit of a number below sixteen. -/
def hexDigitUpper (n : Nat) : Char :=
  if n < 10 then Char.ofNat (48 + n) else Char.ofNat (55 + n)

/-- The last `width` hexadecimal digits of `n`, most significant first. -/
def hexDigits : (width n : Nat) → List Char
  | 0, _ => []
  | width + 1, n => hexDigits width (n / 16) ++ [hexDigit (n % 16)]

/-- The last `width` hexadecimal digits of `n` as a string. -/
def hexFixed (width n : Nat) : String := String.ofList (hexDigits width n)

/-- One byte in two upper-case hexadecimal digits. -/
def hexByte (b : UInt8) : String :=
  String.ofList [hexDigitUpper (b.toNat / 16), hexDigitUpper (b.toNat % 16)]

/-- Bytes in two lower-case hexadecimal digits each. -/
def hexBytes (bytes : List UInt8) : String :=
  String.ofList (bytes.flatMap fun b => hexDigits 2 b.toNat)

/-- A decimal number with at least two digits. -/
def paddedTwo (n : Nat) : String :=
  if n < 10 then "0" ++ toString n else toString n

/-! ## Reading -/

/-- The value of a digit in bases up to sixteen. -/
def digitValue? (base : Nat) (c : Char) : Option Nat :=
  let value :=
    if '0' ≤ c ∧ c ≤ '9' then c.toNat - 48
    else if 'a' ≤ c ∧ c ≤ 'f' then c.toNat - 87
    else if 'A' ≤ c ∧ c ≤ 'F' then c.toNat - 55
    else base
  if value < base then some value else none

/-- The number that digits write in a base. -/
def number? (base : Nat) (cs : List Char) : Option Nat :=
  cs.foldlM (fun value c => (digitValue? base c).map (base * value + ·)) 0

/-- The bytes that hexadecimal digits write, two digits each. -/
def bytesOfHex? : List Char → Option (List UInt8)
  | [] => some []
  | [_] => none
  | high :: low :: rest => do
    let value ← number? 16 [high, low]
    let bytes ← bytesOfHex? rest
    return UInt8.ofNat value :: bytes

end AlarmMesh.Text
