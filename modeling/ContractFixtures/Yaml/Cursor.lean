import ContractFixtures.Text.Utf8

/-!
# Places in a text

A cursor is the rest of a text with the number of bytes before it, its line and its column, which
counts characters. Line breaks are the ASCII ones and three more, and each counts as one break.
-/

namespace ContractFixtures.Yaml

/-- A place in a text, counted from 0. -/
structure Cursor where
  text : List Char
  /-- The number of characters of the whole text. -/
  size : Nat
  /-- The number of bytes before the place. -/
  index : Nat := 0
  line : Nat := 0
  column : Nat := 0
deriving Repr

/-- Spaces and tabs. -/
def isBlank (c : Char) : Bool :=
  c == ' ' || c == '\t'

/-- The characters that end a line. -/
def isBreak (c : Char) : Bool :=
  c == '\r' || c == '\n' || c == '\x85' || c == '\u2028' || c == '\u2029'

/-- Whether a text starts with a blank or a break, or is at its end. -/
def atGap : List Char → Bool
  | [] => true
  | c :: _ => isBlank c || isBreak c

/-- Whether a text starts with a break or is at its end. -/
def atLineEnd : List Char → Bool
  | [] => true
  | c :: _ => isBreak c

/-- The characters of names of anchors, handles and directives. -/
def isNameChar (c : Char) : Bool :=
  c.isAlphanum || c == '_' || c == '-'

/-- Whether a text starts with a mark of documents, `---` or `...`, on its own. -/
def isDocumentMark (mark : Char) : List Char → Bool
  | a :: b :: c :: rest => a == mark && b == mark && c == mark && atGap rest
  | _ => false

namespace Cursor

/-- Passes characters of one line. -/
def skip (c : Cursor) (count : Nat) : Cursor :=
  { c with
    text := c.text.drop count
    index := c.index + Text.byteLength (c.text.take count)
    column := c.column + count }

/-- Passes the characters of one line up to the first without a property. -/
def skipWhile (c : Cursor) (p : Char → Bool) : Cursor :=
  c.skip (c.text.takeWhile p).length

/-- Passes the rest of the line. -/
def skipLine (c : Cursor) : Cursor :=
  c.skipWhile fun d => !isBreak d

/-- Takes a break, if there is one, and gives what it adds to a value: a line feed for all but two
of the breaks, which stand for themselves. -/
def takeBreak (c : Cursor) : List Char × Cursor :=
  let pass := fun count =>
    { c with
      text := c.text.drop count
      index := c.index + Text.byteLength (c.text.take count)
      line := c.line + 1
      column := 0 }
  match c.text with
  | '\r' :: '\n' :: _ => (['\n'], pass 2)
  | d :: _ =>
    if d = '\u2028' ∨ d = '\u2029' then ([d], pass 1)
    else if isBreak d then (['\n'], pass 1)
    else ([], c)
  | [] => ([], c)

/-- Passes a break, if there is one. -/
def skipBreak (c : Cursor) : Cursor := c.takeBreak.2

/-- Passes blanks and a comment. -/
def skipComment (c : Cursor) : Cursor :=
  let c := c.skipWhile isBlank
  if c.text.head? = some '#' then c.skipLine else c

/-- Whether a mark of documents stands here at the start of a line. -/
def atDocumentMark (c : Cursor) : Bool :=
  c.column == 0 && (isDocumentMark '-' c.text || isDocumentMark '.' c.text)

end Cursor

end ContractFixtures.Yaml
