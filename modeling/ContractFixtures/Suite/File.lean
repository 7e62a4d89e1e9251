import ContractFixtures.FileTree.Edit
import ContractFixtures.Record.Decoding
import ContractFixtures.Record.Encoding
import ContractFixtures.Suite.Event

/-!
# Fixture files

A fixture file holds groups of cases as an indented document.
-/

namespace ContractFixtures

/-- Why a fixture file or a suite cannot be loaded or saved. -/
inductive LoadFault where
  | unusable (path : Path) (fault : FileTree.Fault)
  /-- The walk cannot start, or it cannot go on. -/
  | unwalkable (path : Path) (fault : FileTree.Fault)
  | notDirectory (path : Path)
  | malformed (path : Path) (error : Json.Error)
deriving DecidableEq, Repr

namespace LoadFault

/-- The wording of a fault. -/
def message : LoadFault → String
  | unusable path fault => atPath path fault.message
  | unwalkable path fault =>
    atPath path ("IO error for operation on " ++ path.text ++ ": " ++ fault.message)
  | notDirectory path => atPath path "expected directory"
  | malformed path error =>
    "An error occurred deserializing the fixture at " ++ path.text ++ ": " ++ error.message
where
  /-- The wording of a fault of the file system. -/
  atPath (path : Path) (reason : String) : String :=
    "An error occurred interacting with the file system at " ++ path.text ++ ": " ++ reason

end LoadFault

/-- A fixture file: its path and its groups. -/
structure FixtureFile where
  path : Path
  groups : List Group
deriving DecidableEq, Repr

namespace FixtureFile

/-- The fixture file that the text at a path denotes. -/
def ofText (path : Path) (text : String) : Except LoadFault FixtureFile :=
  match Group.decodeList text with
  | .error error => .error (.malformed path error)
  | .ok groups => .ok ⟨path, groups⟩

/-- Loads the fixture file at a path. -/
def load (fs : FileSystem) (path : Path) : Except LoadFault FixtureFile :=
  match fs.readText path with
  | .error fault => .error (.unusable path fault)
  | .ok text => ofText path text

/-- The text that a fixture file is saved as. -/
def text (f : FixtureFile) : String :=
  Group.encodeListPretty f.groups

/-- Saves a fixture file at its path. Its text is known before the file is opened. -/
def save (storage : FileSystem.Storage) (f : FixtureFile) : FileSystem.Action LoadFault Unit :=
  EStateM.adaptExcept (.unusable f.path)
    (FileSystem.writeFile storage f.path (Text.bytesOf f.text.toList))

/-- All cases, in order. -/
def cases (f : FixtureFile) : List Case := f.groups.flatten

/-- The file without the cases that a skip list leaves out, and without the groups that are left
empty. -/
def filtered (skip : SkipList) (f : FixtureFile) : FixtureFile :=
  let kept := f.groups.map fun g => g.filter fun c => !skip.skipsCase f.path c.method
  { f with groups := kept.filter fun g => !g.isEmpty }

/-- What is said about the cases that a skip list leaves out. -/
def skippedCases (skip : SkipList) (f : FixtureFile) : List Event :=
  (f.cases.filter fun c => skip.skipsCase f.path c.method).map fun c => .skippedCase f.path c.method

end FixtureFile

end ContractFixtures
