import AlarmMesh.Shadow.Value
import AlarmMesh.Text.Blank
import AlarmMesh.Text.Number

/-!
# Property values as JSON

A property value is written as one JSON scalar.

* `Value.toJson` — the shortest usual spelling: only quotes, backslashes and control characters
  are escaped;
* `Value.ofJson?` — reads a JSON document that is an integer of 64 bits, a truth value or a
  string; a number with a fraction or an exponent and the negative zero are refused.
-/

namespace AlarmMesh.Shadow

namespace Value

/-! ## Writing -/

/-- One character of a JSON string. -/
def escapeChar (c : Char) : List Char :=
  match c with
  | '"' => ['\\', '"']
  | '\\' => ['\\', '\\']
  | '\n' => ['\\', 'n']
  | '\r' => ['\\', 'r']
  | '\t' => ['\\', 't']
  | '\x08' => ['\\', 'b']
  | '\x0c' => ['\\', 'f']
  | c => if c.toNat < 32 then ['\\', 'u'] ++ Text.hexDigits 4 c.toNat else [c]

/-- The value as a JSON scalar. -/
def toJson : Value → String
  | text s => "\"" ++ String.ofList (s.toList.flatMap escapeChar) ++ "\""
  | value => value.display

/-! ## Reading -/

/-- The number that four hexadecimal digits write. -/
def codeUnit? (a b c d : Char) : Option Nat := Text.number? 16 [a, b, c, d]

/-- The character that one code unit or a pair of them stands for.  Gives also whether the second
one was used; a half of a pair alone stands for nothing. -/
def unitsChar? (first : Nat) (second : Option Nat) : Option (Char × Bool) :=
  if 0xdc00 ≤ first ∧ first ≤ 0xdfff then none
  else if 0xd800 ≤ first ∧ first ≤ 0xdbff then
    match second with
    | some low =>
      if 0xdc00 ≤ low ∧ low ≤ 0xdfff then
        some (Char.ofNat (0x10000 + (first - 0xd800) * 0x400 + (low - 0xdc00)), true)
      else none
    | none => none
  else some (Char.ofNat first, false)

/-- The character that follows a backslash, if it needs no digits. -/
def simpleEscape? : Char → Option Char
  | '"' => some '"'
  | '\\' => some '\\'
  | '/' => some '/'
  | 'b' => some '\x08'
  | 'f' => some '\x0c'
  | 'n' => some '\n'
  | 'r' => some '\r'
  | 't' => some '\t'
  | _ => none

/-- The content of a JSON string up to its closing quote, and what follows that. -/
def stringBody? : List Char → Option (List Char × List Char)
  | [] => none
  | '"' :: rest => some ([], rest)
  | '\\' :: 'u' :: a :: b :: c :: d :: '\\' :: 'u' :: e :: f :: g :: h :: rest => do
    let first ← codeUnit? a b c d
    let (char, paired) ← unitsChar? first (codeUnit? e f g h)
    if paired then
      let (body, rest) ← stringBody? rest
      return (char :: body, rest)
    else
      let (body, rest) ← stringBody? ('\\' :: 'u' :: e :: f :: g :: h :: rest)
      return (char :: body, rest)
  | '\\' :: 'u' :: a :: b :: c :: d :: rest => do
    let first ← codeUnit? a b c d
    let (char, _) ← unitsChar? first none
    let (body, rest) ← stringBody? rest
    return (char :: body, rest)
  | '\\' :: c :: rest => do
    let char ← simpleEscape? c
    let (body, rest) ← stringBody? rest
    return (char :: body, rest)
  | c :: rest =>
    if c.toNat < 32 ∨ c = '\\' then none
    else do
      let (body, rest) ← stringBody? rest
      return (c :: body, rest)

/-- Decimal digits without a zero in front of others. -/
def isCanonical (digits : List Char) : Bool :=
  match digits with
  | [] => false
  | ['0'] => true
  | c :: _ => c ≠ '0' && digits.all Text.isDigit

/-- The integer of 64 bits that characters write. -/
def integerChars? (cs : List Char) : Option Value :=
  match cs with
  | '-' :: digits =>
    let magnitude := Text.digitsValue digits
    if isCanonical digits && magnitude ≠ 0 && magnitude ≤ 0x8000000000000000 then
      some (integer (-magnitude))
    else none
  | digits =>
    let magnitude := Text.digitsValue digits
    if isCanonical digits && magnitude < 0x8000000000000000 then some (integer magnitude) else none

/-- White space of JSON. -/
def isJsonBlank (c : Char) : Bool := c = ' ' || c = '\t' || c = '\n' || c = '\r'

/-- The value that a JSON document writes. -/
def ofJson? (json : String) : Option Value :=
  let cs := ((json.toList.dropWhile isJsonBlank).reverse.dropWhile isJsonBlank).reverse
  match cs with
  | ['t', 'r', 'u', 'e'] => some (bool true)
  | ['f', 'a', 'l', 's', 'e'] => some (bool false)
  | '"' :: rest =>
    match stringBody? rest with
    | some (body, []) => some (text (String.ofList body))
    | _ => none
  | cs => integerChars? cs

end Value

end AlarmMesh.Shadow
