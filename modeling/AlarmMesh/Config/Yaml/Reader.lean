import AlarmMesh.Config.Yaml.Node
import AlarmMesh.Config.Yaml.Scalar

/-!
# Reading a YAML document

Block mappings and sequences go by indentation, those in brackets by punctuation.  Anchors,
tags, block scalars, directives and keys that are no scalars are refused, and so is everything
that is not YAML.

Each reader starts at a token and leaves the cursor right behind what it read.  Its number of
steps is bounded; `read?` gives it more than there are characters.
-/

namespace AlarmMesh.Config.Yaml

/-! ## Scalars as nodes -/

/-- A quoted or plain scalar.  Gives also the cursor behind it and whether it is in one line. -/
def readScalar (flow : Bool) (indent : Nat) (cursor : Cursor) : Option (Node × Cursor × Bool) :=
  let node (plainly : Bool) (scanned : Scanned) : Node × Cursor × Bool :=
    (.scalar plainly (String.ofList scanned.text), cursor.moveTo scanned.rest, scanned.oneLine)
  match cursor.rest with
  | '"' :: rest => (doubleQuoted (.spaces []) (rest.length + 1) rest).map (node false)
  | '\'' :: rest => (singleQuoted (.spaces []) rest).map (node false)
  | _ => (plain flow indent cursor).map (node true)

/-- A scalar of one line with a colon behind it.  Leaves the cursor behind the colon. -/
def readKey (indent : Nat) (cursor : Cursor) : Option (Node × Cursor) := do
  let (key, behind, oneLine) ← readScalar false indent cursor
  guard oneLine
  let rest := behind.rest.dropWhile isSpace
  match rest with
  | ':' :: value =>
    guard (atGap value)
    return (key, cursor.moveTo value)
  | _ => none

/-! ## Inside brackets -/

mutual

/-- A node inside brackets. -/
def readFlow : (steps : Nat) → (indent : Nat) → Cursor → Option (Node × Cursor)
  | 0, _, _ => none
  | steps + 1, indent, cursor =>
    match cursor.rest with
    | '[' :: rest => do
      let (items, cursor) ← readFlowItems steps indent (cursor.moveTo rest)
      return (.sequence items, cursor)
    | '\x7b' :: rest => do
      let (entries, cursor) ← readFlowEntries steps indent (cursor.moveTo rest)
      return (.mapping entries, cursor)
    | _ => (readScalar true indent cursor).map fun read => (read.1, read.2.1)

/-- What may follow a key inside brackets: a colon and a value, or nothing. -/
def readFlowValue : (steps : Nat) → (indent : Nat) → Cursor → Option (Option Node × Cursor)
  | 0, _, _ => none
  | steps + 1, indent, cursor => do
    let (next, _) ← cursor.skip true
    match next.rest with
    | ':' :: rest => do
      let (next, _) ← (next.moveTo rest).skip true
      match next.rest with
      | ',' :: _ | ']' :: _ | '\x7d' :: _ => return (some .absent, next)
      | _ =>
        let (value, cursor) ← readFlow steps indent next
        return (some value, cursor)
    | _ => return (none, next)

/-- The items of a sequence in brackets, after the opening bracket or a comma. -/
def readFlowItems : (steps : Nat) → (indent : Nat) → Cursor → Option (List Node × Cursor)
  | 0, _, _ => none
  | steps + 1, indent, cursor => do
    let (next, _) ← cursor.skip true
    match next.rest with
    | ']' :: rest => return ([], next.moveTo rest)
    | _ =>
      let (key, cursor) ← readFlow steps indent next
      let (value, cursor) ← readFlowValue steps indent cursor
      let item := match value with
        | some value => .mapping [(key, value)]
        | none => key
      let (next, _) ← cursor.skip true
      match next.rest with
      | ']' :: rest => return ([item], next.moveTo rest)
      | ',' :: rest =>
        let (items, cursor) ← readFlowItems steps indent (next.moveTo rest)
        return (item :: items, cursor)
      | _ => none

/-- The entries of a mapping in braces, after the opening brace or a comma. -/
def readFlowEntries :
    (steps : Nat) → (indent : Nat) → Cursor → Option (List (Node × Node) × Cursor)
  | 0, _, _ => none
  | steps + 1, indent, cursor => do
    let (next, _) ← cursor.skip true
    match next.rest with
    | '\x7d' :: rest => return ([], next.moveTo rest)
    | _ =>
      let (key, cursor) ← readFlow steps indent next
      let (value, cursor) ← readFlowValue steps indent cursor
      let entry := (key, value.getD .absent)
      let (next, _) ← cursor.skip true
      match next.rest with
      | '\x7d' :: rest => return ([entry], next.moveTo rest)
      | ',' :: rest =>
        let (entries, cursor) ← readFlowEntries steps indent (next.moveTo rest)
        return (entry :: entries, cursor)
      | _ => none

end

/-! ## By indentation -/

/-- Nothing more of the document follows. -/
def Cursor.finished (cursor : Cursor) : Bool := cursor.atEnd || cursor.atDocumentMark

mutual

/-- A node on a line of its own, or behind the dash of an item. -/
def readBlock : (steps : Nat) → (indent : Nat) → Cursor → Option (Node × Cursor)
  | 0, _, _ => none
  | steps + 1, indent, cursor =>
    if cursor.atItem then do
      let (items, cursor) ← readItems steps cursor.column false cursor
      return (.sequence items, cursor)
    else if (readKey indent cursor).isSome then do
      let (entries, cursor) ← readEntries steps cursor.column cursor
      return (.mapping entries, cursor)
    else readFlowOrScalar steps indent cursor

/-- A node that may stand behind a key in the same line. -/
def readFlowOrScalar : (steps : Nat) → (indent : Nat) → Cursor → Option (Node × Cursor)
  | 0, _, _ => none
  | steps + 1, indent, cursor =>
    match cursor.rest with
    | '[' :: _ | '\x7b' :: _ => readFlow steps indent cursor
    | _ => (readScalar false indent cursor).map fun read => (read.1, read.2.1)

/-- The value behind the colon of a key in `column`. -/
def readValue : (steps : Nat) → (column : Nat) → Cursor → Option (Node × Cursor)
  | 0, _, _ => none
  | steps + 1, column, cursor => do
    let (next, newline) ← cursor.skip false
    if next.atEnd then return (.absent, cursor)
    else if !newline then readFlowOrScalar steps (column + 1) next
    else if next.finished then return (.absent, cursor)
    else if column < next.column then readBlock steps (column + 1) next
    else if column = next.column && next.atItem then
      let (items, cursor) ← readItems steps column true next
      return (.sequence items, cursor)
    else return (.absent, cursor)

/-- The entries of a mapping whose keys stand in `column`. -/
def readEntries :
    (steps : Nat) → (column : Nat) → Cursor → Option (List (Node × Node) × Cursor)
  | 0, _, _ => none
  | steps + 1, column, cursor => do
    let (key, cursor) ← readKey (column + 1) cursor
    let (value, cursor) ← readValue steps column cursor
    let (next, newline) ← cursor.skip false
    if next.finished || (newline && next.column < column) then return ([(key, value)], cursor)
    else if newline && next.column = column then
      let (entries, cursor) ← readEntries steps column next
      return ((key, value) :: entries, cursor)
    else none

/-- The items of a sequence whose dashes stand in `column`.  Those of a sequence that is `level`
with the key in front of it end with the next key. -/
def readItems :
    (steps : Nat) → (column : Nat) → (level : Bool) → Cursor → Option (List Node × Cursor)
  | 0, _, _, _ => none
  | steps + 1, column, level, cursor => do
    let behind := cursor.moveTo (cursor.rest.drop 1)
    let (next, newline) ← behind.skip false
    let (item, cursor) ←
      if next.finished || (newline && next.column ≤ column) then some (.absent, behind)
      else readBlock steps (column + 1) next
    let (next, newline) ← cursor.skip false
    if next.finished || (newline && next.column < column) then return ([item], cursor)
    else if !newline || column < next.column then none
    else if next.atItem then
      let (items, cursor) ← readItems steps column level next
      return (item :: items, cursor)
    else if level then return ([item], cursor)
    else none

end

/-! ## The document -/

/-- Characters that may stand in a document. -/
def isPrintable (c : Char) : Bool :=
  let code := c.toNat
  c = '\t' || c = '\n' || (0x20 ≤ code && code ≤ 0x7e) || code = 0x85
    || (0xa0 ≤ code && code ≤ 0xfffd && code ≠ 0xfeff) || 0x10000 ≤ code

/-- The input with every line end as a line feed. -/
def withLineFeeds : List Char → List Char
  | [] => []
  | '\r' :: '\n' :: rest => '\n' :: withLineFeeds rest
  | c :: rest =>
    (if c = '\r' || c = '\u0085' || c = '\u2028' || c = '\u2029' then '\n' else c)
      :: withLineFeeds rest

/-- The input that is left may follow the end of a document. -/
def closes (cursor : Cursor) : Bool :=
  match cursor.rest with
  | [] => true
  | '.' :: '.' :: '.' :: rest =>
    cursor.atDocumentMark &&
      match (cursor.moveTo rest).skip false with
      | some (next, _) => next.atEnd
      | none => false
  | _ => false

/-- The node of a document behind its start. -/
def readRoot (steps : Nat) (cursor : Cursor) (newline : Bool) : Option (Node × Cursor) :=
  if cursor.finished then some (.absent, cursor)
  else if newline then readBlock steps 0 cursor
  else readFlowOrScalar steps 0 cursor

/-- The one document of a text.  A text without one stands for nothing. -/
def read? (text : String) : Option Node := do
  let input := withLineFeeds text.toList
  guard (input.all isPrintable)
  let steps := 4 * input.length + 16
  let (start, _) ← skipFrom false false true 0 input
  let (node, cursor) ←
    if start.atDocumentMark && start.rest.head? = some '-' then do
      let (root, newline) ← (start.moveTo (start.rest.drop 3)).skip false
      readRoot steps root newline
    else readRoot steps start true
  let (last, _) ← cursor.skip false
  guard (closes last)
  return node

end AlarmMesh.Config.Yaml
