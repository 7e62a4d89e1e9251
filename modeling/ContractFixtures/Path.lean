import ContractFixtures.Text.Split

/-!
# Paths

A path is a text whose parts are separated by slashes. Two texts denote the same path if they have
the same parts: repeated slashes, slashes at the end and parts that stay in the same place do not
count, but for a leading one in a relative path. Paths are ordered part by part.

A path is a text here. Paths with bytes that are no UTF-8 are left out, and with them what a stem or
a name of a directory is taken for that cannot be read.
-/

namespace ContractFixtures

/-- A path, as it is written. -/
structure Path where
  text : String
deriving DecidableEq, Repr, Inhabited

namespace Path

/-- One part of a path. -/
inductive Part where
  /-- The slash in front of an absolute path. -/
  | root
  /-- The dot in front of a relative path. -/
  | here
  | up
  | name (text : String)
deriving DecidableEq, Repr

namespace Part

/-- The text of a part. -/
def text : Part → String
  | .root => "/"
  | .here => "."
  | .up => ".."
  | .name text => text

/-- The position of the kind of a part in the order of parts. -/
def rank : Part → Nat
  | .root => 0
  | .here => 1
  | .up => 2
  | .name _ => 3

instance : Ord Part where
  compare a b := (compare a.rank b.rank).then (compare a.text b.text)

end Part

/-- The part that a piece between slashes stands for, if any. -/
def partOf? (piece : List Char) : Option Part :=
  if piece = [] ∨ piece = ['.'] then none
  else if piece = ['.', '.'] then some .up
  else some (.name (String.ofList piece))

/-- The parts that the characters of a path denote. -/
def partsOf (cs : List Char) : List Part :=
  let pieces := Text.splitAll '/' cs
  let start :=
    if cs.head? = some '/' then [Part.root]
    else if pieces.head? = some ['.'] then [Part.here]
    else []
  start ++ pieces.filterMap partOf?

/-- The parts of a path. -/
def parts (p : Path) : List Part :=
  partsOf p.text.toList

/-- The path that a text written behind another one leads to. -/
def join (p : Path) (name : String) : Path :=
  if p.text = "" ∨ p.text.toList.getLast? = some '/' then ⟨p.text ++ name⟩
  else ⟨p.text ++ "/" ++ name⟩

/-- Paths are the same if their parts are. -/
def same (p q : Path) : Bool :=
  p.parts == q.parts

instance : Ord Path where
  compare p q := compare p.parts q.parts

instance : ToString Path := ⟨Path.text⟩

/-! ## Names -/

/-- The parts of the directory that holds what the parts denote. Nothing holds the root. -/
def parentParts? (parts : List Part) : Option (List Part) :=
  match parts.getLast? with
  | none | some .root => none
  | some _ => some parts.dropLast

/-- The name that parts end with. -/
def fileName? (parts : List Part) : Option String :=
  match parts.getLast? with
  | some (.name text) => some text
  | _ => none

/-- A name without its extension, and the extension: what stands behind its last dot. A dot in
front of a name makes no extension. -/
def splitExtension (name : List Char) : List Char × Option (List Char) :=
  match Text.splitFirst? '.' name.reverse with
  | some (behind, before) =>
    if before = [] then (name, none) else (before.reverse, some behind.reverse)
  | none => (name, none)

/-- The name that parts end with, without its extension; empty if they end with no name. -/
def fileStem (parts : List Part) : String :=
  match fileName? parts with
  | some name => String.ofList (splitExtension name.toList).1
  | none => ""

/-- The extension of the name that parts end with. -/
def extension? (parts : List Part) : Option String :=
  (fileName? parts).bind fun name => (splitExtension name.toList).2.map String.ofList

/-- The stem of the name of the directory that holds what the parts denote. -/
def directoryStem (parts : List Part) : String :=
  ((parentParts? parts).map fileStem).getD ""

end Path

end ContractFixtures
