import ContractFixtures.Text.Age
import ContractFixtures.Text.Blank
import ContractFixtures.Text.Boundary
import ContractFixtures.Text.CaseOrbit
import ContractFixtures.Text.Category
import ContractFixtures.Text.Property
import ContractFixtures.Text.Script

/-!
# Sets of characters

The sets that a pattern can name, and the operations on them. A set is a list of ranges of code
points. It can be closed under case, so that it holds every character that differs from a member
in case only.
-/

namespace ContractFixtures.Pattern

/-- A set of characters: the first and the last code point of each range, in ascending order. -/
structure CharSet where
  ranges : Array (Nat × Nat)
deriving DecidableEq, Repr, Inhabited

namespace CharSet

/-- The last code point. -/
def lastCode : Nat := 0x10ffff

/-- The code point of the character behind one; the surrogates are passed over. -/
def next (code : Nat) : Nat :=
  if code = 0xd7ff then 0xe000 else code + 1

/-- The code point of the character before one. -/
def previous (code : Nat) : Nat :=
  if code = 0xe000 then 0xd7ff else code - 1

/-- Makes one range of two that overlap or follow each other, in a list in ascending order. -/
def merge : List (Nat × Nat) → List (Nat × Nat)
  | (a, b) :: (c, d) :: rest =>
    if c ≤ b + 1 then merge ((a, max b d) :: rest) else (a, b) :: merge ((c, d) :: rest)
  | rs => rs
termination_by rs => rs.length

/-- The set with the code points of ranges in any order. -/
def ofRanges (ranges : List (Nat × Nat)) : CharSet :=
  ⟨(merge (ranges.mergeSort fun x y => x.1 ≤ y.1)).toArray⟩

/-- The set without members. -/
def none : CharSet := ⟨#[]⟩

/-- The characters between two, both included. -/
def range (first last : Char) : CharSet := ⟨#[(first.toNat, last.toNat)]⟩

/-- The set with one member. -/
def single (c : Char) : CharSet := range c c

/-- All characters. -/
def all : CharSet := ⟨#[(0, lastCode)]⟩

/-- Whether a character is in a set. -/
def contains (s : CharSet) (c : Char) : Bool :=
  let code := c.toNat
  (s.ranges[Text.Runs.indexOf s.ranges code 0 s.ranges.size]?).any fun (a, b) =>
    a ≤ code && code ≤ b

/-- The members. -/
def members (s : CharSet) : List Char :=
  s.ranges.toList.flatMap fun (a, b) => (List.range' a (b + 1 - a)).map Char.ofNat

/-- The member of a set that has no other. -/
def only? (s : CharSet) : Option Char :=
  match s.ranges.toList with
  | [(a, b)] => if a = b then some (Char.ofNat a) else Option.none
  | _ => Option.none

/-- Whether there is no member. -/
def isEmpty (s : CharSet) : Bool := s.ranges.isEmpty

/-- Whether all members are ASCII characters. -/
def isAscii (s : CharSet) : Bool :=
  s.ranges.back?.all fun (_, b) => b < 128

/-! ## Operations -/

/-- The characters in one of two sets. -/
def union (a b : CharSet) : CharSet :=
  ofRanges (a.ranges.toList ++ b.ranges.toList)

/-- The union of all sets of a list. -/
def unionAll (sets : List CharSet) : CharSet :=
  ofRanges (sets.flatMap (·.ranges.toList))

/-- The common parts of two lists of ranges. -/
def interRanges : List (Nat × Nat) → List (Nat × Nat) → List (Nat × Nat)
  | (a, b) :: xs, (c, d) :: ys =>
    let rest := if b < d then interRanges xs ((c, d) :: ys) else interRanges ((a, b) :: xs) ys
    if max a c ≤ min b d then (max a c, min b d) :: rest else rest
  | _, _ => []
termination_by xs ys => xs.length + ys.length

/-- The characters in both of two sets. -/
def inter (a b : CharSet) : CharSet :=
  ⟨(interRanges a.ranges.toList b.ranges.toList).toArray⟩

/-- What is left of a list of ranges without those of another. -/
def diffRanges : List (Nat × Nat) → List (Nat × Nat) → List (Nat × Nat)
  | (a, b) :: xs, (c, d) :: ys =>
    if b < c then (a, b) :: diffRanges xs ((c, d) :: ys)
    else if d < a then diffRanges ((a, b) :: xs) ys
    else
      let rest :=
        if d < b then diffRanges ((next d, b) :: xs) ys else diffRanges xs ((c, d) :: ys)
      if a < c then (a, previous c) :: rest else rest
  | xs, _ => xs
termination_by xs ys => xs.length + ys.length

/-- The members of one set that are not in the other. -/
def diff (a b : CharSet) : CharSet :=
  ⟨(diffRanges a.ranges.toList b.ranges.toList).toArray⟩

/-- The members of one of two sets that are not in both. -/
def symmDiff (a b : CharSet) : CharSet :=
  diff (union a b) (inter a b)

/-- The gaps from a code point on between ranges. Between two ranges that only the surrogates part
there is nothing; the two characters around the surrogates stand for that gap. -/
def gaps (low : Nat) : List (Nat × Nat) → List (Nat × Nat)
  | [] => if low ≤ lastCode then [(low, lastCode)] else []
  | (a, b) :: rest =>
    let high := previous a
    if a = 0 then gaps (next b) rest
    else (min low high, max low high) :: gaps (next b) rest

/-- The characters that are not in a set. -/
def compl (s : CharSet) : CharSet :=
  ⟨(gaps 0 s.ranges.toList).toArray⟩

/-- The characters that have another case. -/
def cased : CharSet :=
  ofRanges (Text.CaseOrbit.distances.ranges (· != 0))

/-- A set closed under case. -/
def fold (s : CharSet) : CharSet :=
  let others := (s.inter cased).members.flatMap Text.CaseOrbit.members
  ofRanges (s.ranges.toList ++ others.map fun c => (c.toNat, c.toNat))

/-- The other case of an ASCII letter. -/
def otherAsciiCase (c : Char) : Char :=
  if c.isUpper then c.toLower else c.toUpper

/-- A set closed under the case of ASCII letters. -/
def foldAscii (s : CharSet) : CharSet :=
  let letters := ofRanges [('A'.toNat, 'Z'.toNat), ('a'.toNat, 'z'.toNat)]
  let others := (s.inter letters).members.map otherAsciiCase
  ofRanges (s.ranges.toList ++ others.map fun c => (c.toNat, c.toNat))

/-! ## Named sets -/

/-- The characters between any two of a list. -/
def ofChars (ranges : List (Char × Char)) : CharSet :=
  ofRanges (ranges.map fun (first, last) => (first.toNat, last.toNat))

/-- The characters of some general categories. -/
def categories (kinds : List Text.Category) : CharSet :=
  ofRanges (Text.categoryRuns.ranges kinds.contains)

/-- The characters with a binary property. -/
def property (p : Text.Runs Bool) : CharSet :=
  ofRanges (p.ranges id)

/-- Decimal digits of any script. -/
def digit : CharSet := categories [.decimalNumber]

/-- White space. -/
def space : CharSet := property Text.Property.whiteSpace

/-- What words are made of: letters, marks, digits, connectors and joiners. -/
def word : CharSet :=
  unionAll
    [categories [.nonspacingMark, .spacingMark, .enclosingMark, .decimalNumber,
       .connectorPunctuation],
     property Text.Property.alphabetic, property Text.Property.joinControl]

/-- Whether a character is an ASCII letter, an ASCII digit or the underscore. -/
def isAsciiWord (c : Char) : Bool :=
  c.isAlphanum || c == '_'

/-- The sets of ASCII characters with names. -/
def asciiClass? : List Char → Option CharSet
  | ['a', 'l', 'n', 'u', 'm'] => ofChars [('0', '9'), ('A', 'Z'), ('a', 'z')]
  | ['a', 'l', 'p', 'h', 'a'] => ofChars [('A', 'Z'), ('a', 'z')]
  | ['a', 's', 'c', 'i', 'i'] => ofChars [('\x00', '\x7f')]
  | ['b', 'l', 'a', 'n', 'k'] => ofChars [('\t', '\t'), (' ', ' ')]
  | ['c', 'n', 't', 'r', 'l'] => ofChars [('\x00', '\x1f'), ('\x7f', '\x7f')]
  | ['d', 'i', 'g', 'i', 't'] => ofChars [('0', '9')]
  | ['g', 'r', 'a', 'p', 'h'] => ofChars [('!', '~')]
  | ['l', 'o', 'w', 'e', 'r'] => ofChars [('a', 'z')]
  | ['p', 'r', 'i', 'n', 't'] => ofChars [(' ', '~')]
  | ['p', 'u', 'n', 'c', 't'] => ofChars [('!', '/'), (':', '@'), ('[', '\x60'), ('\x7b', '~')]
  | ['s', 'p', 'a', 'c', 'e'] => ofChars [('\t', '\r'), (' ', ' ')]
  | ['u', 'p', 'p', 'e', 'r'] => ofChars [('A', 'Z')]
  | ['w', 'o', 'r', 'd'] => ofChars [('0', '9'), ('A', 'Z'), ('_', '_'), ('a', 'z')]
  | ['x', 'd', 'i', 'g', 'i', 't'] => ofChars [('0', '9'), ('A', 'F'), ('a', 'f')]
  | _ => Option.none

/-- The general categories with their names, in lower case and without separators. -/
def categoryNames : List (List String × List Text.Category) :=
  let letters : List Text.Category :=
    [.uppercaseLetter, .lowercaseLetter, .titlecaseLetter, .modifierLetter, .otherLetter]
  let cased : List Text.Category := [.uppercaseLetter, .lowercaseLetter, .titlecaseLetter]
  let marks : List Text.Category := [.nonspacingMark, .spacingMark, .enclosingMark]
  let numbers : List Text.Category := [.decimalNumber, .letterNumber, .otherNumber]
  let punctuation : List Text.Category :=
    [.connectorPunctuation, .dashPunctuation, .openPunctuation, .closePunctuation,
     .initialPunctuation, .finalPunctuation, .otherPunctuation]
  let symbols : List Text.Category := [.mathSymbol, .currencySymbol, .modifierSymbol, .otherSymbol]
  let separators : List Text.Category := [.spaceSeparator, .lineSeparator, .paragraphSeparator]
  let others : List Text.Category := [.control, .format, .surrogate, .privateUse, .unassigned]
  [(["l", "letter"], letters), (["lc", "casedletter"], cased),
   (["lu", "uppercaseletter"], [.uppercaseLetter]), (["ll", "lowercaseletter"], [.lowercaseLetter]),
   (["lt", "titlecaseletter"], [.titlecaseLetter]), (["lm", "modifierletter"], [.modifierLetter]),
   (["lo", "otherletter"], [.otherLetter]), (["m", "mark", "combiningmark"], marks),
   (["mn", "nonspacingmark"], [.nonspacingMark]), (["mc", "spacingmark"], [.spacingMark]),
   (["me", "enclosingmark"], [.enclosingMark]), (["n", "number"], numbers),
   (["nd", "decimalnumber", "digit"], [.decimalNumber]), (["nl", "letternumber"], [.letterNumber]),
   (["no", "othernumber"], [.otherNumber]), (["p", "punctuation", "punct"], punctuation),
   (["pc", "connectorpunctuation"], [.connectorPunctuation]),
   (["pd", "dashpunctuation"], [.dashPunctuation]),
   (["ps", "openpunctuation"], [.openPunctuation]),
   (["pe", "closepunctuation"], [.closePunctuation]),
   (["pi", "initialpunctuation"], [.initialPunctuation]),
   (["pf", "finalpunctuation"], [.finalPunctuation]),
   (["po", "otherpunctuation"], [.otherPunctuation]), (["s", "symbol"], symbols),
   (["sm", "mathsymbol"], [.mathSymbol]), (["sc", "currencysymbol"], [.currencySymbol]),
   (["sk", "modifiersymbol"], [.modifierSymbol]), (["so", "othersymbol"], [.otherSymbol]),
   (["z", "separator"], separators), (["zs", "spaceseparator"], [.spaceSeparator]),
   (["zl", "lineseparator"], [.lineSeparator]),
   (["zp", "paragraphseparator"], [.paragraphSeparator]),
   (["c", "other"], others), (["cc", "control", "cntrl"], [.control]),
   (["cf", "format"], [.format]),
   (["co", "privateuse"], [.privateUse]), (["cn", "unassigned"], [.unassigned])]

/-- The set that the name of a general category stands for. -/
def ofCategoryName? (name : String) : Option CharSet :=
  if name = "any" then some all
  else if name = "assigned" then some (categories [.unassigned]).compl
  else if name = "ascii" then some (range '\x00' '\x7f')
  else (categoryNames.find? fun entry => entry.1.contains name).map fun entry => categories entry.2

/-- The set that a binary property, a general category or a script stands for. -/
def ofName? (name : String) : Option CharSet :=
  ((Text.Property.ofName? name).map property).orElse fun _ =>
    (ofCategoryName? name).orElse fun _ =>
      (Text.Script.ofName? name).map fun code => ofRanges (Text.Script.ranges code)

/-- The characters of a class of boundaries. -/
def ofBoundary? (kind : Text.Boundary) (name : String) : Option CharSet :=
  (kind.ofName? name).map fun code => ofRanges (kind.ranges code)

/-- The set of the characters with a value of a property. -/
def ofValue? (name value : String) : Option CharSet :=
  if name = "gc" ∨ name = "generalcategory" then ofCategoryName? value
  else if name = "sc" ∨ name = "script" then
    (Text.Script.ofName? value).map fun code => ofRanges (Text.Script.ranges code)
  else if name = "scx" ∨ name = "scriptextensions" then
    (Text.Script.ofName? value).map fun code => ofRanges (Text.Script.usedRanges code)
  else if name = "age" then
    (Text.Age.ofName? value).map fun version => ofRanges (Text.Age.ranges version)
  else if name = "gcb" ∨ name = "graphemeclusterbreak" then ofBoundary? .grapheme value
  else if name = "wb" ∨ name = "wordbreak" then ofBoundary? .word value
  else if name = "sb" ∨ name = "sentencebreak" then ofBoundary? .sentence value
  else Option.none

end CharSet

end ContractFixtures.Pattern
