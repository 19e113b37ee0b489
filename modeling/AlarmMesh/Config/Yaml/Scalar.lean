/-!
# Scalars of YAML

Reading one scalar at the front of the input.  A `Cursor` is the input that is left and the
column it starts at; lines end with a line feed, other breaks having been replaced.

* `plain` — a scalar without quotes, up to what ends it in its context;
* `singleQuoted`, `doubleQuoted` — up to the closing quote;
* `skip` — blanks, comments and line ends up to the next token.

A scalar that goes on in the next line is folded: one line end is a space, and of several the
first is dropped.
-/

namespace AlarmMesh.Config.Yaml

/-- The input that is left, and the column it starts at. -/
structure Cursor where
  rest : List Char
  column : Nat
  deriving Repr

/-- A blank within a line. -/
def isSpace (c : Char) : Bool := c = ' ' || c = '\t'

/-- A blank, a line end or the end of the input is next. -/
def atGap : List Char → Bool
  | [] => true
  | c :: _ => isSpace c || c = '\n'

namespace Cursor

/-- Nothing is left. -/
def atEnd (cursor : Cursor) : Bool := cursor.rest.isEmpty

/-- The column after one more character. -/
def columnAfter (column : Nat) (c : Char) : Nat := if c = '\n' then 0 else column + 1

/-- The cursor where `rest`, a part of the input to its end, is left. -/
def moveTo (cursor : Cursor) (rest : List Char) : Cursor :=
  { rest := rest
    column :=
      (cursor.rest.take (cursor.rest.length - rest.length)).foldl columnAfter cursor.column }

/-- A line that starts or ends a document is next. -/
def atDocumentMark (cursor : Cursor) : Bool :=
  cursor.column = 0 &&
    match cursor.rest with
    | '-' :: '-' :: '-' :: rest => atGap rest
    | '.' :: '.' :: '.' :: rest => atGap rest
    | _ => false

/-- An item of a block sequence is next. -/
def atItem (cursor : Cursor) : Bool :=
  match cursor.rest with
  | '-' :: rest => atGap rest
  | _ => false

end Cursor

/-! ## Between tokens -/

/-- Skip blanks, comments and line ends.  Gives also whether a line end was skipped.  A tab at
the start of a line is refused, except inside brackets. -/
def skipFrom (flow comment newline : Bool) (column : Nat) : List Char → Option (Cursor × Bool)
  | [] => some (⟨[], column⟩, newline)
  | c :: rest =>
    if c = '\n' then skipFrom flow false true 0 rest
    else if comment then skipFrom flow true newline (column + 1) rest
    else if c = ' ' then skipFrom flow false newline (column + 1) rest
    else if c = '\t' then
      if newline && !flow then none else skipFrom flow false newline (column + 1) rest
    else if c = '#' then skipFrom flow true newline (column + 1) rest
    else some (⟨c :: rest, column⟩, newline)

/-- Skip to the next token. -/
def Cursor.skip (cursor : Cursor) (flow : Bool) : Option (Cursor × Bool) :=
  skipFrom flow false false cursor.column cursor.rest

/-! ## Folding -/

/-- What was read since the last character that counts. -/
inductive Gap where
  /-- Blanks within a line. -/
  | spaces (blanks : List Char)
  /-- Line ends, with the blanks around them. -/
  | lines (count : Nat)
  /-- Line ends after one that was escaped. -/
  | joined (count : Nat)

/-- What a gap stands for. -/
def Gap.text : Gap → List Char
  | spaces blanks => blanks
  | lines 1 => [' ']
  | lines count => List.replicate (count - 1) '\n'
  | joined count => List.replicate count '\n'

/-- The gap with one more blank. -/
def Gap.space (gap : Gap) (c : Char) : Gap :=
  match gap with
  | spaces blanks => spaces (blanks ++ [c])
  | gap => gap

/-- The gap with one more line end. -/
def Gap.line : Gap → Gap
  | spaces _ => lines 1
  | lines count => lines (count + 1)
  | joined count => joined (count + 1)

/-- No line end is in the gap. -/
def Gap.withinLine : Gap → Bool
  | spaces _ => true
  | _ => false

/-- What a scalar reads as, and what is left. -/
structure Scanned where
  text : List Char
  rest : List Char
  /-- The scalar stands in one line. -/
  oneLine : Bool

/-- A scanned scalar with something in front. -/
def Scanned.after (front : List Char) (oneLine : Bool) (scanned : Scanned) : Scanned :=
  { scanned with text := front ++ scanned.text, oneLine := oneLine && scanned.oneLine }

/-! ## Quoted scalars -/

/-- The rest of a scalar in single quotes; a quote inside is written twice. -/
def singleQuoted (gap : Gap) : List Char → Option Scanned
  | [] => none
  | '\'' :: '\'' :: rest =>
    (singleQuoted (.spaces []) rest).map (.after (gap.text ++ ['\'']) gap.withinLine)
  | '\'' :: rest => some ⟨gap.text, rest, gap.withinLine⟩
  | c :: rest =>
    if isSpace c then singleQuoted (gap.space c) rest
    else if c = '\n' then
      if Cursor.atDocumentMark ⟨rest, 0⟩ then none else singleQuoted gap.line rest
    else (singleQuoted (.spaces []) rest).map (.after (gap.text ++ [c]) gap.withinLine)

/-- The character that an escape of one letter stands for. -/
def escapeLetter? : Char → Option Char
  | '0' => some '\x00'
  | 'a' => some '\x07'
  | 'b' => some '\x08'
  | 't' => some '\t'
  | '\t' => some '\t'
  | 'n' => some '\n'
  | 'v' => some '\x0b'
  | 'f' => some '\x0c'
  | 'r' => some '\r'
  | 'e' => some '\x1b'
  | ' ' => some ' '
  | '"' => some '"'
  | '/' => some '/'
  | '\\' => some '\\'
  | 'N' => some '\u0085'
  | '_' => some '\u00a0'
  | 'L' => some '\u2028'
  | 'P' => some '\u2029'
  | _ => none

/-- How many hexadecimal digits follow the letter of an escape. -/
def escapeDigits? : Char → Option Nat
  | 'x' => some 2
  | 'u' => some 4
  | 'U' => some 8
  | _ => none

/-- The value of a hexadecimal digit. -/
def hexDigitValue? (c : Char) : Option Nat :=
  if '0' ≤ c ∧ c ≤ '9' then some (c.toNat - 48)
  else if 'a' ≤ c ∧ c ≤ 'f' then some (c.toNat - 87)
  else if 'A' ≤ c ∧ c ≤ 'F' then some (c.toNat - 55)
  else none

/-- The character whose number hexadecimal digits write. -/
def codeChar? (digits : List Char) : Option Char := do
  let code ← digits.foldlM (fun code c => (hexDigitValue? c).map (16 * code + ·)) 0
  if code < 0xd800 ∨ (0xdfff < code ∧ code < 0x110000) then some (Char.ofNat code) else none

/-- The rest of a scalar in double quotes, read with at most `steps` characters and escapes. -/
def doubleQuoted (gap : Gap) : (steps : Nat) → List Char → Option Scanned
  | 0, _ => none
  | _, [] => none
  | steps + 1, c :: rest =>
    if c = '"' then some ⟨gap.text, rest, gap.withinLine⟩
    else if isSpace c then doubleQuoted (gap.space c) steps rest
    else if c = '\n' then
      if Cursor.atDocumentMark ⟨rest, 0⟩ then none else doubleQuoted gap.line steps rest
    else if c = '\\' then
      match rest with
      | [] => none
      | '\n' :: rest =>
        if Cursor.atDocumentMark ⟨rest, 0⟩ then none
        else (doubleQuoted (.joined 0) steps rest).map (.after gap.text false)
      | letter :: rest =>
        match escapeDigits? letter with
        | some width => do
          guard (width ≤ rest.length)
          let char ← codeChar? (rest.take width)
          let scanned ← doubleQuoted (.spaces []) steps (rest.drop width)
          return scanned.after (gap.text ++ [char]) gap.withinLine
        | none => do
          let char ← escapeLetter? letter
          let scanned ← doubleQuoted (.spaces []) steps rest
          return scanned.after (gap.text ++ [char]) gap.withinLine
    else (doubleQuoted (.spaces []) steps rest).map (.after (gap.text ++ [c]) gap.withinLine)

/-! ## Plain scalars -/

/-- A bracket or a comma, which ends a plain scalar inside brackets. -/
def isFlowMark (c : Char) : Bool := [',', '[', ']', '\x7b', '\x7d'].contains c

/-- Characters that do not start a plain scalar, though some may if no gap follows. -/
def isIndicator (c : Char) : Bool :=
  isFlowMark c ||
    ['-', '?', ':', '#', '&', '*', '!', '|', '>', '\'', '"', '%', '@', '\x60'].contains c

/-- A plain scalar can start here. -/
def startsPlain (flow : Bool) : List Char → Bool
  | [] => false
  | c :: rest =>
    !(isIndicator c || isSpace c || c = '\n') || (c = '-' && !atGap rest) ||
      (!flow && (c = '?' || c = ':') && !atGap rest)

/-- The end of a plain scalar is next. -/
def endsPlain (flow : Bool) : List Char → Bool
  | [] => true
  | ':' :: rest => atGap rest
  | c :: _ => flow && isFlowMark c

/-- A colon stands before a mark that ends a plain scalar inside brackets, which is refused. -/
def isStrayColon (flow : Bool) : List Char → Bool
  | ':' :: c :: _ => flow && (isFlowMark c || c = '?')
  | _ => false

/-- A plain scalar over several lines, with `gap` in front of what is next.  A line that starts
before `indent` does not belong to it.  `rest` is what is left if nothing more belongs to it. -/
def plainFrom (flow : Bool) (indent : Nat) (gap : Gap) (column : Nat) (left : List Char) :
    List Char → Option Scanned
  | [] => some ⟨[], left, true⟩
  | c :: rest =>
    let input := c :: rest
    if c = '\n' then plainFrom flow indent gap.line 0 left rest
    else if isSpace c then
      if c = '\t' && !gap.withinLine && column < indent then none
      else plainFrom flow indent (gap.space c) (column + 1) left rest
    else if isStrayColon flow input then none
    else
      let gapped := match gap with
        | .spaces [] => false
        | _ => true
      let outside := !gap.withinLine && !flow && column < indent
      if endsPlain flow input || (gapped && c = '#') || outside
          || (!gap.withinLine && Cursor.atDocumentMark ⟨input, column⟩) then
        some ⟨[], left, true⟩
      else
        (plainFrom flow indent (.spaces []) (column + 1) rest rest).map
          (.after (gap.text ++ [c]) gap.withinLine)

/-- A plain scalar. -/
def plain (flow : Bool) (indent : Nat) (cursor : Cursor) : Option Scanned :=
  if startsPlain flow cursor.rest then
    plainFrom flow indent (.spaces []) cursor.column cursor.rest cursor.rest
  else none

end AlarmMesh.Config.Yaml
