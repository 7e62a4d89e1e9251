import ContractFixtures.Yaml.Scalar

/-!
# Tokens

A text is cut into tokens. Blocks have no brackets of their own: their starts and ends follow from
the columns, and a key without a mark is known as one only when its colon is met, so its tokens are
put in front of those already found.
-/

namespace ContractFixtures.Yaml

/-- A token. -/
inductive Token where
  | version (major minor : Nat)
  | tagHandle (handle : List Char)
  | documentStart
  | documentEnd
  | blockSequence
  | blockMapping
  | blockEnd
  | flowSequence
  | flowSequenceEnd
  | flowMapping
  | flowMappingEnd
  | blockEntry
  | flowEntry
  | key
  | value
  | alias (name : List Char)
  | anchor (name : List Char)
  /-- A tag with a handle, or without one if it is written out. -/
  | tag (handle : Option (List Char))
  | scalar (text : List Char) (plain : Bool)
  | streamEnd
deriving DecidableEq, Repr

/-- Where a token stands that may turn out to be a key. -/
structure KeyPlace where
  /-- The number of tokens before it. -/
  position : Nat
  index : Nat
  line : Nat
  column : Nat
  /-- Whether it can be nothing else. -/
  required : Bool

/-- Where the reader of tokens is. -/
structure Scanner where
  cursor : Cursor
  /-- The column of the innermost block. -/
  indent : Int := -1
  /-- The columns of the blocks around it. -/
  indents : List Int := []
  /-- Whether a key may start here. -/
  keyAllowed : Bool := true
  /-- The possible key within the innermost brackets. -/
  key : Option KeyPlace := none
  /-- The possible keys within the brackets around them, one for each. -/
  outerKeys : List (Option KeyPlace) := []
  tokens : Array Token := #[]

namespace Scanner

/-- Whether this is within brackets. -/
def inFlow (s : Scanner) : Bool := !s.outerKeys.isEmpty

/-- Appends a token. -/
def push (s : Scanner) (t : Token) : Scanner :=
  { s with tokens := s.tokens.push t }

/-- Puts tokens in front of those from a position on. -/
def insertAt (s : Scanner) (position : Nat) (ts : List Token) : Scanner :=
  let behind := s.tokens.extract position s.tokens.size
  { s with tokens := s.tokens.shrink position ++ ts.toArray ++ behind }

/-- Passes characters of one line. -/
def skip (s : Scanner) (count : Nat) : Scanner :=
  { s with cursor := s.cursor.skip count }

/-- Says whether a key may start behind here. -/
def allowKey (s : Scanner) (allowed : Bool) : Scanner :=
  { s with keyAllowed := allowed }

/-- Gives up a possible key, unless it has to be one. -/
def dropKey (s : Scanner) : Option Scanner :=
  if s.key.any (·.required) then none else some { s with key := none }

/-- Notes that the next token may be a key, if one is allowed. -/
def saveKey (s : Scanner) : Option Scanner :=
  if s.keyAllowed then
    let c := s.cursor
    let required := !s.inFlow && s.indent == (c.column : Int)
    (s.dropKey).map fun s =>
      { s with key := some ⟨s.tokens.size, c.index, c.line, c.column, required⟩ }
  else some s

/-- A key ends on the line where it starts, within 1024 bytes. -/
def KeyPlace.isStale (c : Cursor) (k : KeyPlace) : Bool :=
  k.line < c.line || k.index + 1024 < c.index

/-- Gives up the keys that did not end in time, unless one of them has to be one. -/
def dropStaleKeys (s : Scanner) : Option Scanner :=
  let stale := KeyPlace.isStale s.cursor
  if (s.key :: s.outerKeys).any fun k => k.any fun k => stale k && k.required then none
  else
    let keep := fun (k : Option KeyPlace) => k.filter fun k => !stale k
    some { s with key := keep s.key, outerKeys := s.outerKeys.map keep }

/-- Opens a block at a column to the right of the innermost one. Its start goes in front of the
token at a position. -/
def openBlock (s : Scanner) (column position : Nat) (t : Token) : Scanner :=
  if s.inFlow ∨ (column : Int) ≤ s.indent then s
  else { s.insertAt position [t] with indent := column, indents := s.indent :: s.indents }

/-- Closes blocks, given the columns of the innermost one and of those around it, that stand to
the right of a column. -/
def closeBlocksFrom (s : Scanner) (column : Int) (indent : Int) : List Int → Scanner
  | [] => { s with indent := indent, indents := [] }
  | outer :: rest =>
    if column < indent then (s.push .blockEnd).closeBlocksFrom column outer rest
    else { s with indent := indent, indents := outer :: rest }

/-- Closes the blocks that stand to the right of a column. Brackets keep all blocks open. -/
def closeBlocks (s : Scanner) (column : Int) : Scanner :=
  if s.inFlow then s else s.closeBlocksFrom column s.indent s.indents

/-- Passes blanks, comments and breaks, and a byte order mark at the start of a line. Where a key
may start, outside of brackets, tabs are no blanks. A break outside of brackets makes keys
possible. -/
def skipToToken (s : Scanner) : Option Scanner :=
  repeatStep (fun (s : Scanner) =>
    let s := if s.cursor.column = 0 ∧ s.cursor.text.head? = some '\ufeff' then s.skip 1 else s
    let isSpace := fun c => c == ' ' || (c == '\t' && (s.inFlow || !s.keyAllowed))
    let c := s.cursor.skipWhile isSpace
    let c := if c.text.head? = some '#' then c.skipLine else c
    if c.text.head?.any isBreak then
      some (.inl { s with cursor := c.skipBreak, keyAllowed := s.keyAllowed || !s.inFlow })
    else some (.inr { s with cursor := c })) (s.cursor.size + 1) s

/-! ## Directives, anchors and tags -/

/-- Reads the decimal digits of a version number, at most nine. -/
def versionNumber (c : Cursor) : Option (Nat × Cursor) :=
  let digits := c.text.takeWhile Char.isDigit
  if digits = [] ∨ 9 < digits.length then none
  else some (digits.foldl (fun n d => 10 * n + (d.toNat - '0'.toNat)) 0, c.skip digits.length)

/-- Reads a handle of tags: an exclamation mark, or a name between two of them. A tag may also
start with a name behind one mark. -/
def tagHandle (inDirective : Bool) (c : Cursor) : Option (List Char × Cursor) :=
  match c.text with
  | '!' :: rest =>
    let name := rest.takeWhile isNameChar
    if (rest.drop name.length).head? = some '!' then
      some ('!' :: name ++ ['!'], c.skip (name.length + 2))
    else if inDirective ∧ name ≠ [] then none
    else some ('!' :: name, c.skip (name.length + 1))
  | _ => none

/-- The characters of tags; those that are also brackets or commas only if tags are delimited. -/
def isTagChar (delimited : Bool) (c : Char) : Bool :=
  isNameChar c || ";/?:@&=+$.!~*'()".toList.contains c
    || (delimited && (c == ',' || c == '[' || c == ']'))

/-- The number of bytes of a character whose first byte this is. -/
def widthOf? (octet : Nat) : Option Nat :=
  if octet < 0x80 then some 1
  else if 0xc0 ≤ octet ∧ octet < 0xe0 then some 2
  else if 0xe0 ≤ octet ∧ octet < 0xf0 then some 3
  else if 0xf0 ≤ octet ∧ octet < 0xf8 then some 4
  else none

/-- Passes bytes written as a percent sign and two digits, up to the end of a character. -/
def tagEscape (c : Cursor) : Option Cursor :=
  repeatStep (fun (c, left) =>
    match c.text with
    | '%' :: a :: b :: _ => do
      let octet := 16 * (← hexValue? a) + (← hexValue? b)
      let left ←
        if left = 0 then widthOf? octet
        else if 0x80 ≤ octet ∧ octet < 0xc0 then some left
        else none
      if left = 1 then return .inr (c.skip 3) else return .inl (c.skip 3, left - 1)
    | _ => none) (c.size + 1) (c, 0)

/-- Passes the characters of a tag and gives their number. -/
def tagBody (delimited : Bool) (c : Cursor) : Option (Nat × Cursor) :=
  repeatStep (fun (count, c) =>
    match c.text with
    | '%' :: _ => do return .inl (count + 1, ← tagEscape c)
    | d :: _ =>
      if isTagChar delimited d then some (.inl (count + 1, c.skip 1)) else some (.inr (count, c))
    | [] => some (.inr (count, c))) (c.size + 1) (0, c)

/-- Reads a tag: its handle, if it has one. -/
def readTag (c : Cursor) : Option (Option (List Char) × Cursor) :=
  match c.text with
  | '!' :: '<' :: _ => do
    let (count, c) ← tagBody true (c.skip 2)
    if count = 0 ∨ c.text.head? ≠ some '>' then none else return (none, c.skip 1)
  | _ => do
    let (handle, c) ← tagHandle false c
    let (count, c) ← tagBody false c
    if 2 ≤ handle.length ∧ handle.getLast? = some '!' then
      if count = 0 then none else return (some handle, c)
    else
      return (if count = 0 ∧ handle = ['!'] then none else some ['!'], c)

/-- Reads a directive: the version, or a handle of tags. -/
def directive (c : Cursor) : Option (Token × Cursor) := do
  let name := c.text.takeWhile isNameChar
  let c := c.skip name.length
  if !atGap c.text then none
  else
    let c := c.skipWhile isBlank
    let (token, c) ←
      if name = "YAML".toList then do
        let (major, c) ← versionNumber c
        if c.text.head? ≠ some '.' then none
        else
          let (minor, c) ← versionNumber (c.skip 1)
          some (Token.version major minor, c)
      else if name = "TAG".toList then do
        let (handle, c) ← tagHandle true c
        if !(c.text.head?.any isBlank) then none
        else
          let (count, c) ← tagBody true (c.skipWhile isBlank)
          if count = 0 ∨ !atGap c.text then none else some (Token.tagHandle handle, c)
      else none
    let c := c.skipComment
    if atLineEnd c.text then return (token, c.skipBreak) else none

/-- Reads the name of an anchor or an alias. -/
def anchorName (c : Cursor) : Option (List Char × Cursor) :=
  let name := c.text.takeWhile isNameChar
  let c := c.skip name.length
  let ended := atGap c.text || c.text.head?.any ("?:,]\x7d%@\x60".toList.contains ·)
  if name = [] ∨ !ended then none else some (name, c)

/-! ## Tokens one by one -/

/-- Reads the end of the text. -/
def atEnd (s : Scanner) : Option (Array Token) :=
  let s := s.closeBlocks (-1)
  s.dropKey.map fun s => (s.push .streamEnd).tokens

/-- Reads a directive. -/
def fetchDirective (s : Scanner) : Option Scanner := do
  let s ← (s.closeBlocks (-1)).dropKey
  let (token, c) ← directive (s.cursor.skip 1)
  return ({ s with cursor := c }.allowKey false).push token

/-- Reads a mark of documents. -/
def fetchDocumentMark (s : Scanner) (t : Token) : Option Scanner := do
  let s ← (s.closeBlocks (-1)).dropKey
  return ((s.allowKey false).skip 3).push t

/-- Reads an opening bracket. -/
def fetchOpening (s : Scanner) (t : Token) : Option Scanner := do
  let s ← s.saveKey
  return (({ s with key := none, outerKeys := s.key :: s.outerKeys }.allowKey true).skip 1).push t

/-- Reads a closing bracket. -/
def fetchClosing (s : Scanner) (t : Token) : Option Scanner := do
  let s ← s.dropKey
  let s :=
    match s.outerKeys with
    | [] => s
    | key :: rest => { s with key := key, outerKeys := rest }
  return ((s.allowKey false).skip 1).push t

/-- Reads a comma within brackets. -/
def fetchFlowEntry (s : Scanner) : Option Scanner := do
  let s ← s.dropKey
  return ((s.allowKey true).skip 1).push .flowEntry

/-- Reads the dash of an entry. -/
def fetchBlockEntry (s : Scanner) : Option Scanner := do
  if !s.inFlow && !s.keyAllowed then none
  else
    let s ← (s.openBlock s.cursor.column s.tokens.size .blockSequence).dropKey
    return ((s.allowKey true).skip 1).push .blockEntry

/-- Reads the question mark in front of a key. -/
def fetchKey (s : Scanner) : Option Scanner := do
  if !s.inFlow && !s.keyAllowed then none
  else
    let s ← (s.openBlock s.cursor.column s.tokens.size .blockMapping).dropKey
    return ((s.allowKey !s.inFlow).skip 1).push .key

/-- Reads the colon in front of a value. -/
def fetchValue (s : Scanner) : Option Scanner :=
  let place := fun (s : Scanner) => (s.skip 1).push .value
  match s.key with
  | some k =>
    let s := (s.insertAt k.position [.key]).openBlock k.column k.position .blockMapping
    some (place { s with key := none, keyAllowed := false })
  | none =>
    if s.inFlow then some (place (s.allowKey false))
    else if !s.keyAllowed then none
    else some (place ((s.openBlock s.cursor.column s.tokens.size .blockMapping).allowKey true))

/-- Reads an anchor or an alias. -/
def fetchAnchor (s : Scanner) (t : List Char → Token) : Option Scanner := do
  let s ← s.saveKey
  let (name, c) ← anchorName (s.cursor.skip 1)
  return ({ s with cursor := c }.allowKey false).push (t name)

/-- Reads a tag. -/
def fetchTag (s : Scanner) : Option Scanner := do
  let s ← s.saveKey
  let (handle, c) ← readTag s.cursor
  if atGap c.text || (s.inFlow && c.text.head? == some ',') then
    return ({ s with cursor := c }.allowKey false).push (.tag handle)
  else none

/-- Reads a block scalar. -/
def fetchBlock (s : Scanner) (literal : Bool) : Option Scanner := do
  let s ← s.dropKey
  let (text, c) ← readBlock literal s.indent (s.cursor.skip 1)
  return ({ s with cursor := c }.allowKey true).push (.scalar text false)

/-- Reads a scalar in quotes. -/
def fetchQuoted (s : Scanner) (single : Bool) : Option Scanner := do
  let s ← s.saveKey
  let (text, c) ← readQuoted single (s.cursor.skip 1)
  return ({ s with cursor := c }.allowKey false).push (.scalar text false)

/-- Reads a plain scalar. -/
def fetchPlain (s : Scanner) : Option Scanner := do
  let s ← s.saveKey
  let plain ← readPlain s.inFlow (s.indent + 1).toNat s.cursor
  return ({ s with cursor := plain.cursor }.allowKey plain.broken).push (.scalar plain.text true)

/-- The characters that plain scalars do not start with. -/
def isIndicator (c : Char) : Bool :=
  "-?:,[]\x7b\x7d#&*!|>'\"%@\x60".toList.contains c

/-- Whether a plain scalar starts with a character in front of a text. -/
def startsPlain (s : Scanner) (c : Char) (rest : List Char) : Bool :=
  !(isBlank c || isIndicator c) || (c == '-' && !(rest.head?.any isBlank))
    || (!s.inFlow && (c == '?' || c == ':') && !atGap rest)

/-- Reads the next token, or the end of the text. -/
def step (s : Scanner) : Option (Scanner ⊕ Array Token) := do
  let s ← (← s.skipToToken).dropStaleKeys
  let s := s.closeBlocks s.cursor.column
  let atStart := s.cursor.column == 0
  match s.cursor.text with
  | [] => return .inr (← s.atEnd)
  | c :: rest =>
    Sum.inl <$>
      if atStart && c == '%' then s.fetchDirective
      else if atStart && isDocumentMark '-' (c :: rest) then s.fetchDocumentMark .documentStart
      else if atStart && isDocumentMark '.' (c :: rest) then s.fetchDocumentMark .documentEnd
      else if c = '[' then s.fetchOpening .flowSequence
      else if c = '\x7b' then s.fetchOpening .flowMapping
      else if c = ']' then s.fetchClosing .flowSequenceEnd
      else if c = '\x7d' then s.fetchClosing .flowMappingEnd
      else if c = ',' then s.fetchFlowEntry
      else if c == '-' && atGap rest then s.fetchBlockEntry
      else if c == '?' && (s.inFlow || atGap rest) then s.fetchKey
      else if c == ':' && (s.inFlow || atGap rest) then s.fetchValue
      else if c = '*' then s.fetchAnchor .alias
      else if c = '&' then s.fetchAnchor .anchor
      else if c = '!' then s.fetchTag
      else if c == '|' && !s.inFlow then s.fetchBlock true
      else if c == '>' && !s.inFlow then s.fetchBlock false
      else if c = '\'' then s.fetchQuoted true
      else if c = '"' then s.fetchQuoted false
      else if s.startsPlain c rest then s.fetchPlain
      else none

end Scanner

/-- The characters that may stand in a text. -/
def isAllowed (c : Char) : Bool :=
  let n := c.toNat
  c == '\t' || c == '\n' || c == '\r' || (0x20 ≤ n && n ≤ 0x7e) || n == 0x85
    || (0xa0 ≤ n && n ≤ 0xfffd) || 0x10000 ≤ n

/-- The tokens of a text. -/
def Token.ofText? (text : List Char) : Option (List Token) :=
  if text.all isAllowed then
    let size := text.length
    (repeatStep Scanner.step (size + 1) { cursor := { text, size } }).map (·.toList)
  else none

end ContractFixtures.Yaml
