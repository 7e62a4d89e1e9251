import ContractFixtures.FileTree.Basic

/-!
# Walking through trees of files

The walk finds every file below a directory through directories only, each of which it opens by its
path. No link below the place where it starts is followed, so it ends, and it finds each file once.
It stops at the first directory that it cannot open: one whose path has become too long.
-/

namespace ContractFixtures

namespace FileTree

/-- A file that a walk found: the names that lead to it from the start, and its bytes. -/
structure Found where
  names : List String
  bytes : List UInt8
deriving DecidableEq, Repr

/-- The file as it is found one directory further up. -/
def Found.below (name : String) (f : Found) : Found :=
  ⟨name :: f.names, f.bytes⟩

/-- The path of a file found from a path. -/
def Found.path (root : Path) (f : Found) : Path :=
  f.names.foldl Path.join root

/-- The parts of the path of a file from the start of the walk on. -/
def Found.parts (f : Found) : List Path.Part :=
  f.names.map .name

end FileTree

namespace FileSystem

open FileTree (Found Fault)

/-- Where a walk stopped: the path that could not be opened, and why. -/
structure Obstacle where
  path : Path
  fault : Fault
deriving DecidableEq, Repr

mutual

/-- The files in what a path leads to. -/
def walkTree (fs : FileSystem) (path : Path) : FileTree → Except Obstacle (List Found)
  | .file bytes => .ok [⟨[], bytes⟩]
  | .directory entries =>
    match fs.find .content path with
    | .error fault => .error ⟨path, fault⟩
    | .ok _ => fs.walkEntries path entries
  | .link _ => .ok []

/-- The files in the entries of the directory that a path leads to. -/
def walkEntries (fs : FileSystem) (path : Path) :
    List (String × FileTree) → Except Obstacle (List Found)
  | [] => .ok []
  | (name, t) :: rest =>
    match fs.walkTree (path.join name) t with
    | .error obstacle => .error obstacle
    | .ok found =>
      match fs.walkEntries path rest with
      | .error obstacle => .error obstacle
      | .ok others => .ok (found.map (·.below name) ++ others)

end

/-- The files that a walk from a path finds. A link to a directory is entered at the start. -/
def walk (fs : FileSystem) (root : Path) : Except Obstacle (List Found) :=
  match fs.find .entry root with
  | .error fault => .error ⟨root, fault⟩
  | .ok (.link _) =>
    match fs.find .content root with
    | .error fault => .error ⟨root, fault⟩
    | .ok (.directory entries) => fs.walkEntries root entries
    | .ok _ => .ok []
  | .ok t => fs.walkTree root t

end FileSystem

end ContractFixtures
