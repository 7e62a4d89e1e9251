import ContractFixtures.Suite.Basic

/-!
# Settings

Where fixtures and the skip list are looked for. A setting that is missing or empty stands for a
place below the directory where the fixtures are at home.
-/

namespace ContractFixtures

/-- Where fixtures and the skip list are. -/
structure Settings where
  fixtures : Path
  skipFile : Path
deriving DecidableEq, Repr

/-- Why no suite can be loaded. -/
inductive SuiteFault where
  | unreadableSkipList (path : Path) (fault : FileTree.Fault)
  | skipList (fault : SkipList.Fault)
  | load (fault : LoadFault)
deriving DecidableEq, Repr

/-- The first line of the wording of a fault. -/
def SuiteFault.headline : SuiteFault → String
  | .unreadableSkipList path fault =>
    "Unable to read filter file " ++ path.text ++ ": " ++ fault.message
  | .skipList fault => fault.headline
  | .load fault => fault.message

/-- Reads the skip list at a path. -/
def SkipList.load (fs : FileSystem) (path : Path) : Except SuiteFault SkipList :=
  match fs.readText path with
  | .error fault => .error (.unreadableSkipList path fault)
  | .ok text => (SkipList.ofYaml text).mapError .skipList

namespace Settings

/-- The path of the fixtures below their home. -/
def defaultFixtures (home : Path) : Path := home.join "test_data/fixtures"

/-- The path of the skip list below the home of the fixtures. -/
def defaultSkipFile (home : Path) : Path := home.join "test_data/wasm-tests-skip.yml"

/-- The path that a value stands for. -/
def pathOf (value : Option String) (default : Path) : Path :=
  match value with
  | none => default
  | some text => if text = "" then default else ⟨text⟩

/-- The settings that two values stand for. -/
def ofValues (home : Path) (fixtures skipFile : Option String) : Settings where
  fixtures := pathOf fixtures (defaultFixtures home)
  skipFile := pathOf skipFile (defaultSkipFile home)

/-- Whether settings are those without any values. -/
def isDefault (home : Path) (s : Settings) : Bool :=
  let d := ofValues home none none
  s.fixtures.same d.fixtures && s.skipFile.same d.skipFile

/-- The skip list; without a file nothing is left out. -/
def skipList (s : Settings) (fs : FileSystem) : Except SuiteFault SkipList :=
  if fs.pathExists s.skipFile then SkipList.load fs s.skipFile else .ok .empty

/-- Loads the suite. -/
def loadSuite (s : Settings) (fs : FileSystem) : Except SuiteFault (Suite × List Event) := do
  let skip ← s.skipList fs
  let (suite, events) ← (Suite.load fs s.fixtures skip).mapError SuiteFault.load
  return (suite, .loading s.fixtures :: events)

end Settings

end ContractFixtures
