import ContractFixtures.Steps
import ContractFixtures.Pattern.Regex
import ContractFixtures.Text.Recent

/-!
# The notation of patterns

A pattern is read in one pass. The flags in force, the groups that are open and the alternatives
read so far are the state of the reader; every step takes at least one character.
-/

namespace ContractFixtures.Pattern

/-- The flags that change what a pattern means. -/
structure Flags where
  ignoreCase : Bool := false
  multiLine : Bool := false
  dotAll : Bool := false
  crlf : Bool := false
  unicode : Bool := true
  /-- Whether repetitions prefer few matches unless they are marked. -/
  swapGreed : Bool := false
  /-- White space and comments in the pattern do not count. -/
  verbose : Bool := false
deriving DecidableEq, Repr

/-- Takes characters with a property up to the first that counts and does not have it. What does
not count is passed over, also behind the last character taken: in verbose patterns white space
and comments, which end with their line. -/
def takeCounted (flags : Flags) (p : Char → Bool) (inComment : Bool) :
    List Char → List Char × List Char
  | [] => ([], [])
  | c :: rest =>
    if inComment then takeCounted flags p (c != '\n') rest
    else if flags.verbose && Text.isBlank c then takeCounted flags p false rest
    else if flags.verbose && c == '#' then takeCounted flags p true rest
    else if p c then
      let (taken, rest) := takeCounted flags p false rest
      (c :: taken, rest)
    else ([], c :: rest)

/-- Drops what does not count under the flags. -/
def skip (flags : Flags) (text : List Char) : List Char :=
  (takeCounted flags (fun _ => false) false text).2

/-! ## Characters -/

/-- What an escape stands for. -/
inductive Atom where
  /-- A character; `byte` if it was written by the two digits of a byte. -/
  | literal (c : Char) (byte : Bool)
  | assertion (a : Assertion)
  /-- One of the classes for digits, white space and words, or all other characters. -/
  | perl (letter : Char) (negated : Bool)
  | property (set : CharSet) (negated : Bool)

/-- The characters that stand for themselves behind a backslash: in ASCII all but letters, digits
and angle brackets. -/
def isEscapable (c : Char) : Bool :=
  c.toNat < 128 && !c.isAlphanum && c != '<' && c != '>'

/-- The value of a digit in base 16. -/
def hexValue? (c : Char) : Option Nat :=
  if c.isDigit then some (c.toNat - '0'.toNat)
  else if 'a' ≤ c ∧ c ≤ 'f' then some (c.toNat - 'a'.toNat + 10)
  else if 'A' ≤ c ∧ c ≤ 'F' then some (c.toNat - 'A'.toNat + 10)
  else none

/-- The character with a code point, if it has one. -/
def charOf? (n : Nat) : Option Char :=
  if n.isValidChar then some (Char.ofNat n) else none

/-- Reads a given number of digits in base 16. -/
def hexFixed (flags : Flags) : Nat → Nat → List Char → Option (Nat × List Char)
  | 0, acc, text => some (acc, text)
  | n + 1, acc, text =>
    match skip flags text with
    | [] => none
    | c :: rest => do hexFixed flags n (16 * acc + (← hexValue? c)) rest

/-- Reads the characters up to a closing brace. -/
def untilBrace (flags : Flags) (text : List Char) : Option (List Char × List Char) :=
  match takeCounted flags (· != '\x7d') false text with
  | (name, '\x7d' :: rest) => some (name, rest)
  | _ => none

/-- The number that digits in base 16 denote, unless 32 bits cannot hold it. -/
def hexNumber? (digits : List Char) : Option Nat := do
  let ds ← digits.mapM hexValue?
  let n := ds.foldl (fun n d => 16 * n + d) 0
  if ds = [] ∨ UInt32.size ≤ n then none else some n

/-- Reads a character by its code point: in braces, or by as many digits as the letter asks for. -/
def hexEscape (flags : Flags) (letter : Char) (text : List Char) : Option (Atom × List Char) :=
  match skip flags text with
  | '\x7b' :: rest => do
    let (digits, rest) ← untilBrace flags rest
    return (.literal (← charOf? (← hexNumber? digits)) false, rest)
  | text => do
    let count := if letter = 'x' then 2 else if letter = 'u' then 4 else 8
    let (n, rest) ← hexFixed flags count 0 text
    return (.literal (← charOf? n) (letter == 'x'), rest)

/-- A name in lower case, without separators and without a leading `is`. Other characters than
ASCII do not count. -/
def normalName (name : List Char) : String :=
  let (is, body) :=
    match name with
    | i :: s :: rest =>
      if (i = 'i' ∨ i = 'I') ∧ (s = 's' ∨ s = 'S') then (true, rest) else (false, name)
    | _ => (false, name)
  let kept := body.filter fun c => c.toNat < 128 && c != ' ' && c != '_' && c != '-'
  let lower := kept.map Char.toLower
  if is && lower == ['c'] then "isc" else String.ofList lower

/-- Cuts a name in two at the first place with some characters, which are left out. -/
def cutAt (operator : List Char) : List Char → Option (List Char × List Char)
  | [] => none
  | c :: rest =>
    if operator.isPrefixOf (c :: rest) then some ([], (c :: rest).drop operator.length)
    else (cutAt operator rest).map fun (a, b) => (c :: a, b)

/-- Cuts a name at an operator between a property and its value. All operators mean the same. -/
def splitOperator (name : List Char) : Option (List Char × List Char) :=
  (cutAt ['!', '='] name).orElse fun _ => (cutAt [':'] name).orElse fun _ => cutAt ['='] name

/-- The class of a property name: a set, and whether its complement is meant. -/
def propertyClass? (name : List Char) (negated : Bool) : Option Atom :=
  match splitOperator name with
  | some (property, value) => do
    return .property (← CharSet.ofValue? (normalName property) (normalName value)) negated
  | none => do return .property (← CharSet.ofName? (normalName name)) negated

/-- Reads the class of a property, named by one letter or in braces. -/
def propertyEscape (flags : Flags) (negated : Bool) (text : List Char) :
    Option (Atom × List Char) :=
  match skip flags text with
  | [] => none
  | '\\' :: _ => none
  | '\x7b' :: rest => do
    let (name, rest) ← untilBrace flags rest
    return (← propertyClass? name negated, rest)
  | c :: rest => do return (← propertyClass? [c] negated, skip flags rest)

/-- The edges of words with names. -/
def wordEdge? (name : List Char) : Option WordEdge :=
  match String.ofList name with
  | "start" => some .start
  | "end" => some .stop
  | "start-half" => some .startHalf
  | "end-half" => some .stopHalf
  | _ => none

/-- The characters of the names of edges. -/
def isEdgeLetter (c : Char) : Bool :=
  c.isAlpha || c == '-'

/-- Reads what may follow `\b`: the name of an edge in braces. Braces with anything else are left
to be read as a repetition. -/
def boundaryEscape (flags : Flags) (text : List Char) : Option (Atom × List Char) :=
  let plain : Option (Atom × List Char) := some (.assertion (.word .boundary !flags.unicode), text)
  match text with
  | '\x7b' :: rest =>
    match takeCounted flags isEdgeLetter false rest with
    | ([], []) => none
    | ([], _) => plain
    | (name, '\x7d' :: rest) => do
      return (.assertion (.word (← wordEdge? name) !flags.unicode), rest)
    | _ => none
  | _ => plain

/-- Reads what follows a backslash. -/
def escape (flags : Flags) (text : List Char) : Option (Atom × List Char) :=
  match text with
  | [] => none
  | c :: rest =>
    if c = 'x' ∨ c = 'u' ∨ c = 'U' then hexEscape flags c rest
    else if c = 'p' ∨ c = 'P' then propertyEscape flags (c == 'P') rest
    else if c = 'd' ∨ c = 's' ∨ c = 'w' then some (.perl c false, rest)
    else if c = 'D' ∨ c = 'S' ∨ c = 'W' then some (.perl c.toLower true, rest)
    else if isEscapable c then some (.literal c false, rest)
    else
      let edge := fun kind => some (Atom.assertion (.word kind !flags.unicode), rest)
      match c with
      | 'a' => some (.literal '\x07' false, rest)
      | 'f' => some (.literal '\x0c' false, rest)
      | 't' => some (.literal '\t' false, rest)
      | 'n' => some (.literal '\n' false, rest)
      | 'r' => some (.literal '\r' false, rest)
      | 'v' => some (.literal '\x0b' false, rest)
      | 'A' => some (.assertion .textStart, rest)
      | 'z' => some (.assertion .textEnd, rest)
      | 'b' => boundaryEscape flags rest
      | 'B' => edge .noBoundary
      | '<' => edge .start
      | '>' => edge .stop
      | _ => none

/-! ## Classes -/

/-- A set under the flags: closed under case if case does not count. -/
def foldUnder (flags : Flags) (set : CharSet) : CharSet :=
  if !flags.ignoreCase then set else if flags.unicode then set.fold else set.foldAscii

/-- A set or its complement. Without Unicode there are no complements, since they would hold bytes
that are no characters. -/
def complementIf (flags : Flags) (negated : Bool) (set : CharSet) : Option CharSet :=
  if !negated then some set else if flags.unicode then some set.compl else none

/-- The class for digits, white space or words. -/
def perlClass (flags : Flags) (letter : Char) (negated : Bool) : Option CharSet :=
  let ascii := fun (name : String) => (CharSet.asciiClass? name.toList).getD .none
  complementIf flags negated <|
    if letter = 'd' then (if flags.unicode then .digit else ascii "digit")
    else if letter = 's' then (if flags.unicode then .space else ascii "space")
    else if flags.unicode then .word else ascii "word"

/-- The class of a property. -/
def propertyClass (flags : Flags) (set : CharSet) (negated : Bool) : Option CharSet :=
  if flags.unicode then complementIf flags negated (foldUnder flags set) else none

/-- The character that a literal stands for within a class. Without Unicode it has to be ASCII. -/
def classLiteral? (flags : Flags) (c : Char) : Option Char :=
  if flags.unicode ∨ c.toNat < 128 then some c else none

/-- The set that an atom within a class stands for. -/
def atomSet? (flags : Flags) : Atom → Option CharSet
  | .literal c _ => (classLiteral? flags c).map .single
  | .assertion _ => none
  | .perl letter negated => perlClass flags letter negated
  | .property set negated => propertyClass flags set negated

/-- A set with the depth of its notation. -/
structure SizedSet where
  set : CharSet
  depth : Nat

/-- The set that the items of a class, last first, stand for. -/
def unionItems (items : List SizedSet) : SizedSet :=
  match items with
  | [] => ⟨.none, 0⟩
  | [x] => x
  | xs => ⟨.unionAll (xs.reverse.map (·.set)), 1 + (xs.map (·.depth)).foldl max 0⟩

/-- The operators between sets. -/
inductive SetOperator where
  | inter | diff | symmDiff

/-- What the reader of a class has to come back to. -/
inductive SetFrame where
  /-- A class was opened behind these items. -/
  | opened (items : List SizedSet) (negated : Bool)
  /-- An operator waits for its right side. -/
  | operator (op : SetOperator) (left : SizedSet)

/-- The set that an operator gives. -/
def applyOperator (flags : Flags) (op : SetOperator) (a b : SizedSet) : SizedSet :=
  let left := foldUnder flags a.set
  let right := foldUnder flags b.set
  let set :=
    match op with
    | .inter => CharSet.inter left right
    | .diff => CharSet.diff left right
    | .symmDiff => CharSet.symmDiff left right
  ⟨set, 1 + max a.depth b.depth⟩

/-- Completes an operator that waits for its right side. -/
def closeOperator (flags : Flags) (frames : List SetFrame) (right : SizedSet) :
    SizedSet × List SetFrame :=
  match frames with
  | .operator op left :: rest => (applyOperator flags op left right, rest)
  | _ => (right, frames)

/-- Reads the start of a class behind its bracket: whether it is negated, its first items and the
rest. Dashes that come first stand for themselves, and so does a bracket. -/
def openClass (flags : Flags) (text : List Char) :
    Option (Bool × List SizedSet × List Char) :=
  let text := skip flags text
  let (negated, text) :=
    match text with
    | '^' :: rest => (true, skip flags rest)
    | _ => (false, text)
  match takeCounted flags (· == '-') false text with
  | (_, []) => none
  | ([], ']' :: rest) => some (negated, [⟨.single ']', 0⟩], rest)
  | (dashes, rest) => some (negated, dashes.map fun c => ⟨.single c, 0⟩, rest)

/-- Reads the name of an ASCII class between `[:` and `:]`. -/
def asciiClassName (text : List Char) : Option (CharSet × Bool × List Char) :=
  let (negated, text) :=
    match text with
    | '^' :: rest => (true, rest)
    | _ => (false, text)
  match text.dropWhile (· != ':') with
  | ':' :: ']' :: rest =>
    (CharSet.asciiClass? (text.takeWhile (· != ':'))).map fun set => (set, negated, rest)
  | _ => none

/-- Reads one character or class of characters. -/
def classAtom (flags : Flags) (text : List Char) : Option (Atom × List Char) :=
  match text with
  | [] => none
  | '\\' :: rest => escape flags rest
  | c :: rest => some (.literal c false, rest)

/-- The character that decides whether a dash in front of it makes a range: the first that is no
white space, except for a single number sign. -/
def behindDash (flags : Flags) (text : List Char) : Option Char :=
  if flags.verbose then
    match text.dropWhile Text.isBlank with
    | '#' :: rest => (rest.dropWhile Text.isBlank).head?
    | rest => rest.head?
  else text.head?

/-- Reads one item of a class: a range, or a single atom. -/
def classItem (flags : Flags) (text : List Char) : Option (CharSet × List Char) := do
  let (first, rest) ← classAtom flags text
  let rest := skip flags rest
  match rest with
  | [] => none
  | '-' :: more =>
    let next := behindDash flags more
    if next = some ']' ∨ next = some '-' then
      return (← atomSet? flags first, rest)
    else
      let (last, rest) ← classAtom flags (skip flags more)
      match first, last with
      | .literal a _, .literal b _ =>
        let a ← classLiteral? flags a
        let b ← classLiteral? flags b
        if a ≤ b then return (.range a b, rest) else none
      | _, _ => none
  | _ => return (← atomSet? flags first, rest)

/-- Where the reader of a class is: the frames and the items of the innermost class, last first. -/
structure SetState where
  frames : List SetFrame
  items : List SizedSet

/-- One step in a class: the new state or the class itself, and the rest. -/
def classStep (flags : Flags) (s : SetState) (text : List Char) :
    Option ((SetState ⊕ SizedSet) × List Char) :=
  let operator := fun op rest =>
    let (left, frames) := closeOperator flags s.frames (unionItems s.items)
    some (.inl ⟨.operator op left :: frames, []⟩, rest)
  match text with
  | [] => none
  | '[' :: ':' :: rest =>
    match asciiClassName rest with
    | some (set, negated, rest) => do
      let set ← complementIf flags negated (foldUnder flags set)
      return (.inl { s with items := ⟨set, 0⟩ :: s.items }, rest)
    | none => do
      let (negated, items, rest) ← openClass flags (':' :: rest)
      return (.inl ⟨.opened s.items negated :: s.frames, items⟩, rest)
  | '[' :: rest => do
    let (negated, items, rest) ← openClass flags rest
    return (.inl ⟨.opened s.items negated :: s.frames, items⟩, rest)
  | ']' :: rest =>
    let (inner, frames) := closeOperator flags s.frames (unionItems s.items)
    match frames with
    | .opened items negated :: frames => do
      let set ← complementIf flags negated (foldUnder flags inner.set)
      let closed : SizedSet := ⟨set, inner.depth + 1⟩
      if frames.isEmpty then return (.inr closed, rest)
      else return (.inl ⟨frames, closed :: items⟩, rest)
    | _ => none
  | '&' :: '&' :: rest => operator .inter rest
  | '-' :: '-' :: rest => operator .diff rest
  | '~' :: '~' :: rest => operator .symmDiff rest
  | _ => do
    let (set, rest) ← classItem flags text
    return (.inl { s with items := ⟨set, 0⟩ :: s.items }, rest)

/-- Reads the rest of a class, in a number of steps at most. -/
def classRest (flags : Flags) (size : Nat) (s : SetState) (text : List Char) :
    Option (SizedSet × List Char) :=
  repeatStep (fun (s, text) => do
    match ← classStep flags s (skip flags text) with
    | (.inl s, rest) => return .inl (s, rest)
    | (.inr set, rest) => return .inr (set, rest)) size (s, text)

/-- Reads a class behind its bracket, in a number of steps at most. -/
def charClass (flags : Flags) (size : Nat) (text : List Char) :
    Option (SizedSet × List Char) := do
  let (negated, items, rest) ← openClass flags text
  classRest flags size ⟨[.opened [] negated], items⟩ rest

/-! ## Groups and repetitions -/

/-- One member of a sequence: an expression and the depth of its notation. Settings of flags
cannot be repeated. -/
structure Item where
  regex : Regex
  depth : Nat
  repeatable : Bool

/-- A group that is open: what was read before it, the flags that hold again behind it, and its
number if it is counted. -/
structure Frame where
  branches : List Item
  items : List Item
  flags : Flags
  number : Option Nat

/-- Where the reader is: the open groups, the alternatives of the innermost one and the members of
the current alternative, last first, the flags, the number of counted groups and their names. -/
structure State where
  /-- The number of characters of the whole text. -/
  size : Nat
  frames : List Frame := []
  branches : List Item := []
  items : List Item := []
  flags : Flags := {}
  groups : Nat := 0
  names : List (List Char) := []

/-- The members of a sequence, last first, as one item. -/
def concatenate (items : List Item) : Item :=
  match items with
  | [] => ⟨.empty, 0, true⟩
  | [x] => x
  | xs =>
    ⟨.sequence (xs.reverse.map (·.regex)), 1 + (xs.map (·.depth)).foldl max 0, true⟩

/-- The alternatives, last first, as one item. -/
def alternate (branches : List Item) : Item :=
  match branches with
  | [] => ⟨.empty, 0, true⟩
  | [x] => x
  | xs => ⟨.alternatives (xs.reverse.map (·.regex)), 1 + (xs.map (·.depth)).foldl max 0, true⟩

/-- The item that the innermost group holds. -/
def State.close (s : State) : Item :=
  alternate (concatenate s.items :: s.branches)

/-- Adds a member. -/
def State.push (s : State) (regex : Regex) (depth : Nat) : State :=
  { s with items := ⟨regex, depth, true⟩ :: s.items }

/-- Opens a group in which other flags hold. -/
def State.enter (s : State) (flags : Flags) (number : Option Nat) : State :=
  { s with
    frames := ⟨s.branches, s.items, s.flags, number⟩ :: s.frames
    branches := []
    items := []
    flags := flags }

/-- Opens a group that is counted. -/
def State.enterCounted (s : State) : State :=
  { s with groups := s.groups + 1 }.enter s.flags (some s.groups)

/-- Changes a flag. -/
def setFlag? (flags : Flags) (letter : Char) (value : Bool) : Option Flags :=
  match letter with
  | 'i' => some { flags with ignoreCase := value }
  | 'm' => some { flags with multiLine := value }
  | 's' => some { flags with dotAll := value }
  | 'R' => some { flags with crlf := value }
  | 'u' => some { flags with unicode := value }
  | 'x' => some { flags with verbose := value }
  | 'U' => some { flags with swapGreed := value }
  | _ => none

/-- Reads flags up to a colon or a parenthesis. Each of them, and the dash in front of those that
are switched off, may come once; a dash may not come last. -/
def flagList (flags : Flags) (seen : List Char) : List Char → Option (Flags × List Char × List Char)
  | [] => none
  | c :: rest =>
    if c = ':' ∨ c = ')' then
      if seen.head? = some '-' then none else some (flags, seen, c :: rest)
    else if seen.contains c then none
    else if c = '-' then flagList flags (c :: seen) rest
    else do flagList (← setFlag? flags c (!seen.contains '-')) (c :: seen) rest

/-- Whether a character may stand in the name of a group. -/
def isNameChar (first : Bool) (c : Char) : Bool :=
  if first then c == '_' || Text.isAlphabetic c
  else c == '_' || c == '.' || c == '[' || c == ']' || Text.isAlphanumeric c

/-- Reads the name of a group, which no other group may have. -/
def groupName (names : List (List Char)) (text : List Char) : Option (List Char × List Char) :=
  let name := text.takeWhile (· != '>')
  match name, text.dropWhile (· != '>') with
  | c :: cs, '>' :: rest =>
    if isNameChar true c && cs.all (isNameChar false) && !names.contains name then
      some (name, rest)
    else none
  | _, _ => none

/-- Reads a named group. -/
def namedGroup (s : State) (text : List Char) : Option (State × List Char) := do
  let (name, rest) ← groupName s.names text
  return ({ s with names := name :: s.names }.enterCounted, rest)

/-- Reads what follows an opening parenthesis: a group, or flags for the rest of this one. There is
no looking around. -/
def groupStart (s : State) (text : List Char) : Option (State × List Char) :=
  match skip s.flags text with
  | '?' :: '=' :: _ => none
  | '?' :: '!' :: _ => none
  | '?' :: '<' :: '=' :: _ => none
  | '?' :: '<' :: '!' :: _ => none
  | '?' :: 'P' :: '<' :: rest => namedGroup s rest
  | '?' :: '<' :: rest => namedGroup s rest
  | '?' :: rest => do
    let (flags, seen, rest) ← flagList s.flags [] rest
    match rest with
    | ':' :: rest => return (s.enter flags none, rest)
    | ')' :: rest =>
      if seen.isEmpty then none
      else
        return ({ s with flags := flags, items := ⟨.empty, 0, false⟩ :: s.items }, rest)
    | _ => none
  | text => some (s.enterCounted, text)

/-- Reads what follows a closing parenthesis. -/
def groupEnd (s : State) : Option State :=
  match s.frames with
  | [] => none
  | frame :: frames =>
    let inner := s.close
    let regex :=
      match frame.number with
      | some n => .group n inner.regex
      | none => inner.regex
    some
      { s with
        frames := frames
        branches := frame.branches
        items := ⟨regex, inner.depth + 1, true⟩ :: frame.items
        flags := frame.flags }

/-- Repeats the last member, in front of a text that may start with the mark of a repetition that
prefers few matches. -/
def repeatLast (s : State) (least : Nat) (most : Option Nat) (text : List Char) :
    Option (State × List Char) :=
  let (marked, rest) :=
    match text with
    | '?' :: rest => (true, rest)
    | _ => (false, text)
  match s.items with
  | ⟨r, depth, true⟩ :: items =>
    let item := ⟨r.times least most (marked == s.flags.swapGreed), depth + 1, true⟩
    some ({ s with items := item :: items }, rest)
  | _ => none

/-- Reads a number that 32 bits can hold, with blanks around it. -/
def decimal (flags : Flags) (text : List Char) : Option (Nat × List Char) :=
  let (ds, rest) := takeCounted flags Char.isDigit false (text.dropWhile Text.isBlank)
  let n := ds.foldl (fun n c => 10 * n + (c.toNat - '0'.toNat)) 0
  if ds = [] ∨ UInt32.size ≤ n then none else some (n, rest.dropWhile Text.isBlank)

/-- Reads the bounds of a counted repetition behind its brace. -/
def countedRepetition (s : State) (text : List Char) : Option (State × List Char) := do
  let (least, rest) ← decimal s.flags (skip s.flags text)
  let (most, rest) ←
    match rest with
    | ',' :: rest =>
      match skip s.flags rest with
      | '\x7d' :: rest => some (none, '\x7d' :: rest)
      | rest => do
        let (most, rest) ← decimal s.flags rest
        some (some most, rest)
    | _ => some (some least, rest)
  match rest with
  | '\x7d' :: rest =>
    if most.any (· < least) then none else repeatLast s least most (skip s.flags rest)
  | _ => none

/-- The expression for a character. -/
def literalRegex (flags : Flags) (c : Char) (byte : Bool) : Option Regex :=
  if flags.unicode then some (.ofSet (foldUnder flags (.single c)))
  else if byte ∧ 128 ≤ c.toNat then none
  else if flags.ignoreCase ∧ c.isAlpha then some (.ofSet (CharSet.single c).foldAscii)
  else some (.text [c])

/-- The expression for an atom outside of classes. -/
def atomRegex (flags : Flags) : Atom → Option Regex
  | .literal c byte => literalRegex flags c byte
  | .assertion a => some (.assert a)
  | .perl letter negated => (perlClass flags letter negated).map .ofSet
  | .property set negated => (propertyClass flags set negated).map .ofSet

/-- The expression for a dot. -/
def dot (flags : Flags) : Option Regex :=
  if !flags.unicode then none
  else if flags.dotAll then some (.ofSet .all)
  else if flags.crlf then some (.ofSet (CharSet.ofChars [('\n', '\n'), ('\r', '\r')]).compl)
  else some (.ofSet (CharSet.single '\n').compl)

/-- One step: the new state and the rest of the text behind its first character. -/
def step (s : State) (c : Char) (rest : List Char) : Option (State × List Char) :=
  match c with
  | '(' => groupStart s rest
  | ')' => (groupEnd s).map fun s => (s, rest)
  | '|' => some ({ s with branches := concatenate s.items :: s.branches, items := [] }, rest)
  | '[' => do
    let (set, rest) ← charClass s.flags s.size rest
    return (s.push (.ofSet set.set) set.depth, rest)
  | '?' => repeatLast s 0 (some 1) rest
  | '*' => repeatLast s 0 none rest
  | '+' => repeatLast s 1 none rest
  | '\x7b' => countedRepetition s rest
  | '\\' => do
    let (atom, rest) ← escape s.flags rest
    return (s.push (← atomRegex s.flags atom) 0, rest)
  | '.' => do return (s.push (← dot s.flags) 0, rest)
  | '^' =>
    let a := if s.flags.multiLine then .lineStart s.flags.crlf else .textStart
    some (s.push (.assert a) 0, rest)
  | '$' =>
    let a := if s.flags.multiLine then .lineEnd s.flags.crlf else .textEnd
    some (s.push (.assert a) 0, rest)
  | c => do return (s.push (← literalRegex s.flags c false) 0, rest)

/-- Reads the text to its end, where no group may be open. -/
def readAll (text : List Char) : Option Item :=
  let size := text.length
  repeatStep (fun (s, text) =>
    match skip s.flags text with
    | [] => if s.frames.isEmpty then some (.inr s.close) else none
    | c :: rest => (step s c rest).map .inl) (size + 1) (({ size } : State), text)

/-- The greatest depth of the notation. -/
def maxNesting : Nat := 250

/-- The expression that a text denotes. -/
def parse? (text : String) : Option Regex := do
  let item ← readAll text.toList
  if maxNesting < item.depth then none else some item.regex

end ContractFixtures.Pattern
