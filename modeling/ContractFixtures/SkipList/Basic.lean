import ContractFixtures.Path
import ContractFixtures.Pattern.Compile
import ContractFixtures.SkipList.Rules

/-!
# Skip lists

A skip list is a set of rules together with its compiled patterns. It decides on files by their
path below the root of a suite, and on cases by the stem of their file.
-/

namespace ContractFixtures

/-- Rules and their compiled patterns. -/
structure SkipList where
  rules : SkipRules := {}
  patterns : NameMap (List Pattern) := .empty
deriving Inhabited

namespace SkipList

/-- Why there is no skip list. -/
inductive Fault where
  | malformedYaml
  | invalidPattern (pattern folder : String) (fault : Pattern.Fault)
deriving DecidableEq, Repr

/-- The first line of a text. A line ends at a line feed, or at a carriage return right before
one. -/
def firstLine (text : String) : String :=
  let line := text.toList.takeWhile (· != '\n')
  let broken := text.toList.contains '\n'
  String.ofList (if broken && line.getLast? == some '\r' then line.dropLast else line)

/-- The first line of the wording of a fault. -/
def Fault.headline : Fault → String
  | .malformedYaml => "malformed YAML"
  | .invalidPattern pattern folder fault =>
    firstLine ("Invalid regex `" ++ pattern ++ "` for " ++ folder ++ ": " ++ fault.headline)

/-- Compiles the patterns of a folder one after the other. -/
def compileAll (folder : String) : List String → Except Fault (List Pattern)
  | [] => .ok []
  | text :: rest =>
    match Pattern.compile text with
    | .error fault => .error (.invalidPattern text folder fault)
    | .ok p => (compileAll folder rest).map (p :: ·)

/-- The skip list that leaves nothing out. -/
def empty : SkipList := {}

/-- The skip list with some rules. Folders are compiled in the order of their names. -/
def ofRules (rules : SkipRules) : Except Fault SkipList :=
  (rules.regex.traverse compileAll).map fun patterns => ⟨rules, patterns⟩

/-- The skip list that a text denotes. -/
def ofYaml (text : String) : Except Fault SkipList :=
  match SkipRules.ofYaml? text with
  | none => .error .malformedYaml
  | some rules => ofRules rules

/-- Whether a path leads through one of the directories. -/
def hitsDirectory (s : SkipList) (parts : List Path.Part) : Bool :=
  match Path.parentParts? parts with
  | none => false
  | some parent => s.rules.directories.any fun name => parent.any fun part => part.text == name

/-- Whether a rule for the directory of a file names the stem of the file. -/
def hitsName (s : SkipList) (parts : List Path.Part) : Bool :=
  ((s.rules.filename.get? (Path.directoryStem parts)).getD []).contains (Path.fileStem parts)

/-- Whether a pattern for the directory of a file matches the stem of the file. -/
def hitsPattern (s : SkipList) (parts : List Path.Part) : Bool :=
  ((s.patterns.get? (Path.directoryStem parts)).getD []).any (·.isMatch (Path.fileStem parts))

/-- Whether the parts of a path lead to a file that is left out. -/
def skipsParts (s : SkipList) (parts : List Path.Part) : Bool :=
  s.hitsDirectory parts || s.hitsName parts || s.hitsPattern parts

/-- Whether a file is left out. -/
def skips (s : SkipList) (p : Path) : Bool :=
  s.skipsParts p.parts

/-- Whether a case of a method in a file is left out. -/
def skipsCase (s : SkipList) (p : Path) (method : String) : Bool :=
  ((s.rules.method.get? (Path.fileStem p.parts)).getD []).contains method

end SkipList

end ContractFixtures
