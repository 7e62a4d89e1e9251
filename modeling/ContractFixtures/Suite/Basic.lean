import ContractFixtures.FileTree.Walk
import ContractFixtures.Suite.File

/-!
# Suites of fixtures

A suite is what a skip list leaves of all fixture files below a root, in the order of their paths.
Files are chosen by their path below the root, so it does not matter where the root lies.
-/

namespace ContractFixtures

/-- The fixture files below a root. -/
structure Suite where
  root : Path
  files : List FixtureFile
deriving DecidableEq, Repr

namespace Suite

/-- The extension of fixture files. -/
def fixtureExtension : String := "json"

/-- Whether a file that was found from a root is a fixture file. -/
def isFixture (root : Path) (f : FileTree.Found) : Bool :=
  Path.extension? (f.path root).parts == some fixtureExtension

/-- The fixture files that a walk from a root finds. -/
def fixturesBelow (fs : FileSystem) (root : Path) : Except LoadFault (List FileTree.Found) :=
  match fs.walk root with
  | .error obstacle => .error (.unwalkable obstacle.path obstacle.fault)
  | .ok found => .ok (found.filter (isFixture root))

/-- The paths of the fixture files that a walk from a root finds. -/
def pathsBelow (fs : FileSystem) (root : Path) : Except LoadFault (List Path) :=
  (fixturesBelow fs root).map fun found => found.map (·.path root)

/-- Loads files one after the other by their paths, without the cases that are left out. -/
def loadAll (fs : FileSystem) (root : Path) (skip : SkipList) :
    List FileTree.Found → Except LoadFault (List FixtureFile × List Event)
  | [] => .ok ([], [])
  | f :: rest =>
    match FixtureFile.load fs (f.path root) with
    | .error fault => .error fault
    | .ok file =>
      match loadAll fs root skip rest with
      | .error fault => .error fault
      | .ok (files, events) =>
        .ok (file.filtered skip :: files, file.skippedCases skip ++ events)

/-- The files in the order of their paths. -/
def sortFiles (files : List FixtureFile) : List FixtureFile :=
  files.mergeSort fun a b => (compare a.path b.path).isLE

/-- All cases, each with the path of its file. -/
def cases (s : Suite) : List (Path × Case) :=
  s.files.flatMap fun f => f.cases.map fun c => (f.path, c)

/-- Loads the files, found from a root in whatever order, that the skip list keeps. -/
def loadFound (fs : FileSystem) (root : Path) (skip : SkipList) (found : List FileTree.Found) :
    Except LoadFault (Suite × List Event) :=
  let skipped := found.filter fun f => skip.skipsParts f.parts
  let kept := found.filter fun f => !skip.skipsParts f.parts
  match loadAll fs root skip kept with
  | .error fault => .error fault
  | .ok (files, events) =>
    let suite : Suite := ⟨root, sortFiles files⟩
    .ok (suite,
      skipped.map (fun f => .skippedFile (f.path root)) ++ events
        ++ [.loaded suite.cases.length suite.files.length root])

/-- Loads every fixture file below a root that the skip list keeps. -/
def load (fs : FileSystem) (root : Path) (skip : SkipList) :
    Except LoadFault (Suite × List Event) :=
  if !fs.isDirectory root then .error (.notDirectory root)
  else
    match fixturesBelow fs root with
    | .error fault => .error fault
    | .ok found => loadFound fs root skip found

end Suite

end ContractFixtures
