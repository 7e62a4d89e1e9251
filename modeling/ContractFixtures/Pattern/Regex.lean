import ContractFixtures.Pattern.CharSet

/-!
# Regular expressions

Regular expressions with assertions about the place in the text. They are built by functions that
bring them into a normal form: neighbouring characters are one text, sequences and alternatives
are flat and have at least two members, and a common start of alternatives stands before them.
-/

namespace ContractFixtures.Pattern

/-- A place in a text: the character before it and the one behind it. -/
structure Place where
  before : Option Char
  behind : Option Char

/-- Which edges of words an assertion asks for. -/
inductive WordEdge where
  | boundary | noBoundary | start | stop | startHalf | stopHalf
deriving DecidableEq, Repr

/-- A condition on a place. -/
inductive Assertion where
  | textStart | textEnd
  /-- The start of a line; `crlf` if a carriage return ends lines, too. -/
  | lineStart (crlf : Bool)
  | lineEnd (crlf : Bool)
  | word (edge : WordEdge) (ascii : Bool)
deriving DecidableEq, Repr

/-- Whether an edge is between characters that are in words or not. -/
def WordEdge.holds (before behind : Bool) : WordEdge → Bool
  | .boundary => before != behind
  | .noBoundary => before == behind
  | .start => !before && behind
  | .stop => before && !behind
  | .startHalf => !before
  | .stopHalf => !behind

/-- Whether a condition holds at a place. -/
def Assertion.holds (p : Place) : Assertion → Bool
  | .textStart => p.before.isNone
  | .textEnd => p.behind.isNone
  | .lineStart false => p.before.isNone || p.before == some '\n'
  | .lineStart true =>
    p.before.isNone || p.before == some '\n' || (p.before == some '\r' && p.behind != some '\n')
  | .lineEnd false => p.behind.isNone || p.behind == some '\n'
  | .lineEnd true =>
    p.behind.isNone || p.behind == some '\r' || (p.behind == some '\n' && p.before != some '\r')
  | .word edge ascii =>
    let isWord := if ascii then CharSet.isAsciiWord else CharSet.word.contains
    edge.holds (p.before.any isWord) (p.behind.any isWord)

/-- A regular expression. -/
inductive Regex where
  | empty
  /-- Some characters, one behind the other. -/
  | text (cs : List Char)
  | one (set : CharSet)
  | assert (a : Assertion)
  /-- A group that is counted, by its number. -/
  | group (number : Nat) (r : Regex)
  | seq (rs : List Regex)
  | alt (rs : List Regex)
  /-- At least `least` times, at most `most` times if that is given; `greedy` if many times are
  preferred to few. -/
  | repeated (r : Regex) (least : Nat) (most : Option Nat) (greedy : Bool)
deriving BEq, Repr

namespace Regex

/-! ## Shapes -/

/-- What all matches of an expression have in common. -/
structure Shape where
  /-- The least number of characters, if there can be a match. -/
  shortest : Option Nat
  /-- Whether matches are always empty. -/
  isBlank : Bool
  /-- Whether matches begin where the text starts. -/
  atStart : Bool
  /-- Whether matches finish where the text ends. -/
  atEnd : Bool

/-- The shape of one expression behind another. -/
def Shape.followedBy (a b : Shape) : Shape :=
  { shortest := a.shortest.bind fun m => b.shortest.map (m + ·)
    isBlank := a.isBlank && b.isBlank
    atStart := a.atStart || (a.isBlank && b.atStart)
    atEnd := b.atEnd || (b.isBlank && a.atEnd) }

/-- The shape of one of two expressions. -/
def Shape.either (a b : Shape) : Shape :=
  { shortest := a.shortest.bind fun m => b.shortest.map (min m)
    isBlank := a.isBlank && b.isBlank
    atStart := a.atStart && b.atStart
    atEnd := a.atEnd && b.atEnd }

mutual

/-- The shape of an expression. -/
def shape : Regex → Shape
  | empty => ⟨some 0, true, false, false⟩
  | text cs => ⟨some cs.length, false, false, false⟩
  | one set => ⟨if set.isEmpty then none else some 1, false, false, false⟩
  | assert a => ⟨some 0, true, a == .textStart, a == .textEnd⟩
  | group _ r => r.shape
  | seq rs => shapeOfSequence rs
  | alt rs => shapeOfBranches rs
  | repeated r least _ _ =>
    let s := r.shape
    ⟨s.shortest.map (· * least), s.isBlank, decide (0 < least) && s.atStart,
      decide (0 < least) && s.atEnd⟩

/-- The shape of a sequence. -/
def shapeOfSequence : List Regex → Shape
  | [] => ⟨some 0, true, false, false⟩
  | r :: rs => r.shape.followedBy (shapeOfSequence rs)

/-- The shape of alternatives. -/
def shapeOfBranches : List Regex → Shape
  | [] => ⟨none, true, true, true⟩
  | [r] => r.shape
  | r :: rs => r.shape.either (shapeOfBranches rs)

end

/-! ## Construction -/

/-- The expression for some characters. -/
def ofText (cs : List Char) : Regex :=
  if cs.isEmpty then empty else text cs

/-- The expression for one character of a set. -/
def ofSet (set : CharSet) : Regex :=
  match set.only? with
  | some c => text [c]
  | none => one set

/-- The repetition of an expression. What matches empty texts only is not repeated. -/
def times (r : Regex) (least : Nat) (most : Option Nat) (greedy : Bool) : Regex :=
  let (least, most) :=
    if r.shape.isBlank then (min least 1, some (min (most.getD 1) 1)) else (least, most)
  if least = 0 ∧ most = some 0 then empty
  else if least = 1 ∧ most = some 1 then r
  else repeated r least most greedy

/-- The members of an expression that is a sequence. -/
def factors : Regex → List Regex
  | empty => []
  | seq rs => rs
  | r => [r]

/-- The branches of an expression that has alternatives. -/
def branches : Regex → List Regex
  | alt rs => rs
  | r => [r]

/-- Makes one text of texts that follow each other. -/
def joinTexts : List Regex → List Regex
  | [] => []
  | text a :: rest =>
    match joinTexts rest with
    | text b :: rest => text (a ++ b) :: rest
    | rest => text a :: rest
  | r :: rest => r :: joinTexts rest

/-- The sequence of some expressions. -/
def sequence (rs : List Regex) : Regex :=
  match joinTexts (rs.flatMap factors) with
  | [] => empty
  | [r] => r
  | rs => seq rs

/-- The character of an expression for a single one. -/
def singleChar? : Regex → Option Char
  | text [c] => some c
  | _ => none

/-- The set of an expression for a single character of a set. -/
def set? : Regex → Option CharSet
  | one set => some set
  | _ => none

/-- The longest common start of two lists. -/
def commonStart : List Regex → List Regex → List Regex
  | a :: xs, b :: ys => if a == b then a :: commonStart xs ys else []
  | _, _ => []

/-- The members of a sequence with at least two. -/
def sequence? : Regex → Option (List Regex)
  | seq rs => some rs
  | _ => none

/-- The members that all of several sequences start with, unless one of the expressions is no
sequence. -/
def sharedStart (rs : List Regex) : List Regex :=
  match rs.mapM sequence? with
  | some (xs :: rest) => rest.foldl commonStart xs
  | _ => []

/-- Takes the common start of flat alternatives out of them, as often as there is one. -/
def factorOut : Nat → List Regex → Regex
  | _, [r] => r
  | 0, rs => alt rs
  | fuel + 1, rs =>
    match rs.mapM singleChar?, rs.mapM set? with
    | some cs, _ => ofSet (.ofChars (cs.map fun c => (c, c)))
    | _, some sets => ofSet (.unionAll sets)
    | none, none =>
      let start := sharedStart rs
      if start.isEmpty then alt rs
      else
        let rests := rs.map fun r => sequence (r.factors.drop start.length)
        sequence (start ++ [factorOut fuel (rests.flatMap branches)])

mutual

/-- The number of parts of an expression. -/
def parts : Regex → Nat
  | empty | text _ | one _ | assert _ => 1
  | group _ r => r.parts + 1
  | seq rs => partsOfAll rs + 1
  | alt rs => partsOfAll rs + 1
  | repeated r _ _ _ => r.parts + 1

/-- The number of parts of several expressions. -/
def partsOfAll : List Regex → Nat
  | [] => 0
  | r :: rs => r.parts + partsOfAll rs

end

/-- The alternatives between some expressions. -/
def alternatives (rs : List Regex) : Regex :=
  let rs := rs.flatMap branches
  factorOut (partsOfAll rs + 1) rs

end Regex

end ContractFixtures.Pattern
