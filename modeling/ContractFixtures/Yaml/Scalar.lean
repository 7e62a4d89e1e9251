import ContractFixtures.Steps
import ContractFixtures.Yaml.Cursor

/-!
# Texts of scalars

A scalar is written plain, in quotes, or as a block. Within the first two, a single line break
stands for a space; a block folds its breaks in the same way or keeps them.
-/

namespace ContractFixtures.Yaml

/-! ## Gaps between words -/

/-- Blanks and breaks between two words: the blanks as long as there is no break, then the first
break and the breaks after it. -/
structure Gap where
  blanks : List Char := []
  broken : Bool := false
  first : List Char := []
  more : List Char := []

/-- What breaks stand for: a single line feed for a space, the first of several for nothing. -/
def foldBreaks (first more : List Char) : List Char :=
  if first.head? = some '\n' then (if more = [] then [' '] else more) else first ++ more

/-- What a gap adds to a value. -/
def Gap.text (g : Gap) : List Char :=
  if g.broken then foldBreaks g.first g.more else g.blanks

/-- Reads blanks and breaks. Behind a break, no tab may stand in a column below `indent`. -/
def Gap.read (indent : Nat) (g : Gap) (c : Cursor) : Option (Gap × Cursor) :=
  repeatStep (fun (g, c) =>
    match c.text with
    | [] => some (.inr (g, c))
    | d :: _ =>
      if isBlank d then
        if g.broken then
          if d = '\t' ∧ c.column < indent then none else some (.inl (g, c.skip 1))
        else some (.inl ({ g with blanks := g.blanks ++ [d] }, c.skip 1))
      else if isBreak d then
        let (text, next) := c.takeBreak
        if g.broken then some (.inl ({ g with more := g.more ++ text }, next))
        else some (.inl ({ blanks := [], broken := true, first := text, more := [] }, next))
      else some (.inr (g, c))) (c.size + 1) (g, c)

/-! ## Quoted scalars -/

/-- The value of a digit in base 16. -/
def hexValue? (c : Char) : Option Nat :=
  if c.isDigit then some (c.toNat - '0'.toNat)
  else if 'a' ≤ c ∧ c ≤ 'f' then some (c.toNat - 'a'.toNat + 10)
  else if 'A' ≤ c ∧ c ≤ 'F' then some (c.toNat - 'A'.toNat + 10)
  else none

/-- The character written by digits in base 16. -/
def charOfDigits? (digits : List Char) : Option Char := do
  let n := (← digits.mapM hexValue?).foldl (fun n d => 16 * n + d) 0
  if n.isValidChar then some (Char.ofNat n) else none

/-- The character that a letter behind a backslash stands for, and how many digits follow. -/
def escapeOf? : Char → Option (Char ⊕ Nat)
  | '0' => some (.inl '\x00')
  | 'a' => some (.inl '\x07')
  | 'b' => some (.inl '\x08')
  | 't' => some (.inl '\t')
  | '\t' => some (.inl '\t')
  | 'n' => some (.inl '\n')
  | 'v' => some (.inl '\x0b')
  | 'f' => some (.inl '\x0c')
  | 'r' => some (.inl '\r')
  | 'e' => some (.inl '\x1b')
  | ' ' => some (.inl ' ')
  | '"' => some (.inl '"')
  | '/' => some (.inl '/')
  | '\\' => some (.inl '\\')
  | 'N' => some (.inl '\x85')
  | '_' => some (.inl '\xa0')
  | 'L' => some (.inl '\u2028')
  | 'P' => some (.inl '\u2029')
  | 'x' => some (.inr 2)
  | 'u' => some (.inr 4)
  | 'U' => some (.inr 8)
  | _ => none

/-- Reads an escape behind its backslash. -/
def readEscape (c : Cursor) : Option (Char × Cursor) :=
  match c.text with
  | [] => none
  | letter :: rest => do
    match ← escapeOf? letter with
    | .inl d => return (d, c.skip 1)
    | .inr count =>
      let digits := rest.take count
      if digits.length < count then none
      else return (← charOfDigits? digits, c.skip (count + 1))

/-- A value read so far, last character first, and the place behind it. -/
structure Partial where
  reversed : List Char := []
  cursor : Cursor

/-- The value with more characters, and another place. -/
def Partial.add (s : Partial) (text : List Char) (cursor : Cursor) : Partial :=
  ⟨text.reverse ++ s.reversed, cursor⟩

/-- One step in a scalar in quotes. -/
def quotedStep (single : Bool) (s : Partial) : Option (Partial ⊕ (List Char × Cursor)) :=
  let c := s.cursor
  let quote := if single then '\'' else '"'
  let gap := fun (g : Gap) (c : Cursor) => do
    let (g, c) ← g.read 0 c
    return .inl (s.add g.text c)
  if c.atDocumentMark then none
  else
    match c.text with
    | [] => none
    | d :: rest =>
      if isBlank d || isBreak d then gap {} c
      else if single && d == '\'' && rest.head? == some '\'' then
        some (.inl (s.add ['\''] (c.skip 2)))
      else if d = quote then some (.inr (s.reversed.reverse, c.skip 1))
      else if !single && d == '\\' then
        if rest.head?.any isBreak then gap { broken := true } (c.skip 1).skipBreak
        else do
          let (e, c) ← readEscape (c.skip 1)
          return .inl (s.add [e] c)
      else some (.inl (s.add [d] (c.skip 1)))

/-- Reads a scalar in quotes behind the first of them. -/
def readQuoted (single : Bool) (c : Cursor) : Option (List Char × Cursor) :=
  repeatStep (quotedStep single) (c.size + 1) { cursor := c }

/-! ## Plain scalars -/

/-- Where the reader of a plain scalar is: what it read, and the gap behind it, if there is one.
At the start and behind a gap a comment or a mark of documents may end the scalar. -/
structure PlainState where
  value : Partial
  gap : Option Gap := none
  atWord : Bool := true

/-- The characters that are never part of plain scalars within brackets. -/
def isFlowIndicator (c : Char) : Bool :=
  c == ',' || c == '[' || c == ']' || c == '\x7b' || c == '\x7d'

/-- The value of a plain scalar, whether a line break follows it, and the place behind it. -/
structure Plain where
  text : List Char
  broken : Bool
  cursor : Cursor

/-- One step in a plain scalar, which outside of brackets stands at least in the column `indent`. -/
def plainStep (inFlow : Bool) (indent : Nat) (s : PlainState) : Option (PlainState ⊕ Plain) :=
  let c := s.value.cursor
  let finish := some (.inr ⟨s.value.reversed.reverse, s.gap.any (·.broken), c⟩)
  let indented := inFlow || s.gap.isNone || indent ≤ c.column
  if s.atWord && (!indented || c.atDocumentMark || c.text.head? == some '#') then finish
  else
    match c.text with
    | [] => finish
    | d :: rest =>
      if isBlank d || isBreak d then do
        let (g, c) ← Gap.read indent {} c
        return .inl { value := { s.value with cursor := c }, gap := some g }
      else if inFlow && d == ':' &&
          rest.head?.any (fun e => isFlowIndicator e || e == '?') then none
      else if (d == ':' && atGap rest) || (inFlow && isFlowIndicator d) then finish
      else
        let text := (s.gap.map Gap.text).getD [] ++ [d]
        some (.inl { value := s.value.add text (c.skip 1), atWord := false })

/-- Reads a plain scalar. -/
def readPlain (inFlow : Bool) (indent : Nat) (c : Cursor) : Option Plain :=
  repeatStep (plainStep inFlow indent) (c.size + 1) { value := { cursor := c } }

/-! ## Block scalars -/

/-- What becomes of the breaks at the end of a block. -/
inductive Chomping where
  | strip | clip | keep

/-- The mark of chomping that a character is. -/
def chompingOf? : Char → Option Chomping
  | '+' => some .keep
  | '-' => some .strip
  | _ => none

/-- Reads the marks behind the indicator of a block in either order: the chomping, and how far the
block is indented, 0 if the mark is missing. -/
def readBlockMarks (c : Cursor) : Option (Chomping × Nat × Cursor) :=
  let digit := fun (c : Cursor) =>
    match c.text with
    | d :: _ =>
      if !d.isDigit then some (0, c)
      else if d = '0' then none
      else some (d.toNat - '0'.toNat, c.skip 1)
    | [] => some (0, c)
  let chomping := fun (c : Cursor) =>
    match c.text.head?.bind chompingOf? with
    | some mark => (mark, c.skip 1)
    | none => (.clip, c)
  match c.text.head?.bind chompingOf? with
  | some mark => do
    let (n, c) ← digit (c.skip 1)
    return (mark, n, c)
  | none => do
    let (n, c) ← digit c
    if n = 0 then return (.clip, 0, c)
    else
      let (mark, c) := chomping c
      return (mark, n, c)

/-- Breaks in front of a line of a block: the greatest column reached, and what they add. -/
structure Breaks where
  column : Nat := 0
  text : List Char := []
  cursor : Cursor

/-- Reads empty lines in front of a line of a block that is indented by `indent`, or by as much as
it is if that is 0. There may be no tabs in the indentation. -/
def readBreaks (indent : Nat) (c : Cursor) : Option Breaks :=
  repeatStep (fun s =>
    let spaces := (s.cursor.text.takeWhile (· == ' ')).length
    let c := s.cursor.skip (if indent = 0 then spaces else min spaces (indent - s.cursor.column))
    let column := max s.column c.column
    match c.text with
    | [] => some (.inr ⟨column, s.text, c⟩)
    | d :: _ =>
      if d = '\t' ∧ (indent = 0 ∨ c.column < indent) then none
      else if isBreak d then
        let (text, next) := c.takeBreak
        some (.inl ⟨column, s.text ++ text, next⟩)
      else some (.inr ⟨column, s.text, c⟩)) (c.size + 1) ({ cursor := c } : Breaks)

/-- Where the reader of a block is, at the start of a line. -/
structure BlockState where
  value : Partial
  /-- The break behind the last line. -/
  leading : List Char := []
  /-- The breaks behind that one. -/
  trailing : List Char
  /-- Whether the last line started with a blank. -/
  blankLine : Bool := false

/-- One step in a block: a line and the breaks behind it. -/
def blockStep (literal : Bool) (indent : Nat) (s : BlockState) :
    Option (BlockState ⊕ BlockState) :=
  let c := s.value.cursor
  if c.column ≠ indent ∨ c.text = [] then some (.inr s)
  else do
    let startsBlank := c.text.head?.any isBlank
    let breaks :=
      if !literal && s.leading.head? == some '\n' && !s.blankLine && !startsBlank then
        (if s.trailing = [] then [' '] else s.trailing)
      else s.leading ++ s.trailing
    let line := c.text.takeWhile fun d => !isBreak d
    let (leading, c) := (c.skip line.length).takeBreak
    let next ← readBreaks indent c
    return .inl
      { value := s.value.add (breaks ++ line) next.cursor
        leading := leading
        trailing := next.text
        blankLine := startsBlank }

/-- Reads a block behind its indicator. Its lines are indented further than `parent`. -/
def readBlock (literal : Bool) (parent : Int) (c : Cursor) : Option (List Char × Cursor) := do
  let (chomping, increment, c) ← readBlockMarks c
  let c := c.skipComment
  if !atLineEnd c.text then none
  else
    let fixed := if increment = 0 then 0 else (max parent 0).toNat + increment
    let breaks ← readBreaks fixed c.skipBreak
    let indent :=
      if increment ≠ 0 then fixed else max breaks.column (max (parent + 1) 1).toNat
    let s ← repeatStep (blockStep literal indent) (c.size + 1)
      { value := { cursor := breaks.cursor }, trailing := breaks.text }
    let ending :=
      match chomping with
      | .strip => []
      | .clip => s.leading
      | .keep => s.leading ++ s.trailing
    return (s.value.reversed.reverse ++ ending, s.value.cursor)

end ContractFixtures.Yaml
