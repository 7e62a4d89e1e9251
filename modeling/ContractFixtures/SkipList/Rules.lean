import ContractFixtures.NameMap
import ContractFixtures.Yaml.Node

/-!
# Rules of skip lists

A skip list tells which fixture files and which cases are left out. It is written as a YAML
document with four keys, each of which may be missing or empty.
-/

namespace ContractFixtures

/-- What is left out. -/
structure SkipRules where
  /-- Directories whose files are left out, however deep they lie in them. -/
  directories : List String := []
  /-- Stems of files, for each directory that holds them. -/
  filename : NameMap (List String) := .empty
  /-- Texts of patterns for stems of files, for each directory that holds them. -/
  regex : NameMap (List String) := .empty
  /-- Methods of cases, for each stem of the file that holds them. -/
  method : NameMap (List String) := .empty
deriving DecidableEq, Inhabited

namespace SkipRules

/-- A document: its root, its nodes with numbers, the last one first. -/
structure Document where
  root : Yaml.Node
  targets : List (Nat × Yaml.Node)

/-- The document with a root. -/
def Document.ofRoot (root : Yaml.Node) : Document :=
  ⟨root, root.targets.reverse⟩

/-- A reader knows how many aliases it may still follow. -/
abbrev Reader := StateT Nat Option

/-- What a node stands for: itself without its name, or the node that an alias denotes. -/
def content (d : Document) : Yaml.Node → Reader Yaml.Node
  | .named _ node => pure node
  | .alias number => fun left =>
    if left = 0 then none else (d.targets.lookup number).map fun node => (node, left - 1)
  | node => pure node

/-- A text, as which any scalar counts. -/
def readText (d : Document) (node : Yaml.Node) : Reader String := do
  match ← content d node with
  | .scalar text _ => return String.ofList text
  | _ => failure

/-- Texts, as which a plain scalar without characters counts, too. -/
def readTexts (d : Document) (node : Yaml.Node) : Reader (List String) := do
  match ← content d node with
  | .sequence items => items.mapM (readText d)
  | .scalar [] true => return []
  | _ => failure

/-- A map from names to texts. The last value of a name counts. -/
def readMap (d : Document) (node : Yaml.Node) : Reader (NameMap (List String)) := do
  match ← content d node with
  | .mapping entries =>
    NameMap.ofList <$> entries.mapM fun (k, v) => do return (← readText d k, ← readTexts d v)
  | .scalar [] true => return .empty
  | _ => failure

/-- The fields that were read so far. -/
structure Fields where
  directories : Option (List String) := none
  filename : Option (NameMap (List String)) := none
  regex : Option (NameMap (List String)) := none
  method : Option (NameMap (List String)) := none

/-- The rules that fields give. -/
def Fields.rules (f : Fields) : SkipRules where
  directories := f.directories.getD []
  filename := f.filename.getD .empty
  regex := f.regex.getD .empty
  method := f.method.getD .empty

/-- Reads the value of a key, which may come only once. Other keys do not count. -/
def readField (d : Document) (f : Fields) (key : String) (v : Yaml.Node) : Reader Fields := do
  match key with
  | "directories" =>
    if f.directories.isSome then failure
    else return { f with directories := some (← readTexts d v) }
  | "filename" =>
    if f.filename.isSome then failure else return { f with filename := some (← readMap d v) }
  | "regex" =>
    if f.regex.isSome then failure else return { f with regex := some (← readMap d v) }
  | "method" =>
    if f.method.isSome then failure else return { f with method := some (← readMap d v) }
  | _ => return f

/-- Reads the entries of a document. -/
def readFields (d : Document) (f : Fields) : List (Yaml.Node × Yaml.Node) → Reader Fields
  | [] => return f
  | (k, v) :: rest => do
    let key ← readText d k
    readFields d (← readField d f key v) rest

/-- The rules that the root of a document denotes. -/
def read (d : Document) : Reader SkipRules := do
  match ← content d d.root with
  | .mapping entries => Fields.rules <$> readFields d {} entries
  | .scalar [] true => return {}
  | _ => failure

/-- The rules that a node denotes. Aliases are followed at most 100 times its size. -/
def ofNode? (root : Yaml.Node) : Option SkipRules :=
  ((read (.ofRoot root)).run (100 * root.size)).map (·.1)

/-- The rules that a text denotes. A text without a document denotes no rules at all. -/
def ofYaml? (text : String) : Option SkipRules := do
  match ← Yaml.Node.ofText? text with
  | some node => ofNode? node
  | none => return {}

end SkipRules

end ContractFixtures
