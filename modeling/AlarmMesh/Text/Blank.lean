/-!
# Blanks

White space as the Unicode standard lists it, and text without the white space around it.
-/

namespace AlarmMesh.Text

/-- The code points of white space outside the ranges 9 to 13 and 8192 to 8202. -/
def blankCodes : List Nat :=
  [0x20, 0x85, 0xa0, 0x1680, 0x2028, 0x2029, 0x202f, 0x205f, 0x3000]

/-- Unicode white space. -/
def isBlank (c : Char) : Bool :=
  let code := c.toNat
  (9 ≤ code && code ≤ 13) || (0x2000 ≤ code && code ≤ 0x200a) || blankCodes.contains code

/-- The characters without blanks at the front. -/
def trimFront (cs : List Char) : List Char := cs.dropWhile isBlank

/-- The characters without blanks at either end. -/
def trim (cs : List Char) : List Char := (trimFront (trimFront cs).reverse).reverse

/-- A decimal digit of ASCII. -/
def isDigit (c : Char) : Bool := '0' ≤ c && c ≤ '9'

/-- The number that decimal digits write, most significant first. -/
def digitsValue (cs : List Char) : Nat := cs.foldl (fun value c => 10 * value + (c.toNat - 48)) 0

end AlarmMesh.Text
