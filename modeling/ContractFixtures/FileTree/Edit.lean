import ContractFixtures.FileTree.Basic

/-!
# Changing file systems

A file is written where a path leads, through links: it is opened first, which makes or empties it,
and then takes the bytes as far as the storage does. Other changes make or remove entries as they
are named. The place that relative paths are followed from stays where it is.
-/

namespace ContractFixtures.FileSystem

open FileTree (Place Fault maxLinks maxPathBytes startOf)

/-- Another tree, with something else at a place below the top, or nothing. -/
def change (fs : FileSystem) (node : Option FileTree) (place : Place) : FileSystem :=
  { fs with tree := fs.tree.change node place }

/-! ## Writing files -/

/-- Something done to a file system. Whatever was done before a fault stays done. -/
abbrev Action (ε : Type) := EStateM ε FileSystem

/-- What is left of a file system after something was done to it. -/
def after {ε α : Type} (action : Action ε α) (fs : FileSystem) : FileSystem :=
  match action.run fs with
  | .ok _ left => left
  | .error _ left => left

/-- What storage makes of bytes that are put into a file: it takes all of them, or it fails after
so many of them. -/
abbrev Storage := List UInt8 → Option (Nat × Fault)

/-- Storage that never fails. -/
def Storage.sound : Storage := fun _ => none

/-- Where a file can be written: its place, which is free or that of a file. -/
def locateForWriting (fs : FileSystem) (p : Path) : Except Fault Place :=
  match fs.locate .writing p with
  | .error fault => .error fault
  | .ok (.absent holder name) => .ok (holder ++ [name])
  | .ok (.present place) =>
    match fs.tree.at? place with
    | some (.file _) => .ok place
    | _ => .error .isDirectory

/-- Opens a file to write it. A file that is not there is made, and one that is there is
emptied. -/
def openFile (p : Path) : Action Fault Place := do
  match (← get).locateForWriting p with
  | .error fault => throw fault
  | .ok place =>
    modify (·.change (some (.file [])) place)
    return place

/-- Puts bytes into the empty file at a place, as far as the storage takes them. -/
def putBytes (storage : Storage) (place : Place) (bytes : List UInt8) : Action Fault Unit := do
  match storage bytes with
  | none => modify (·.change (some (.file bytes)) place)
  | some (count, fault) =>
    modify (·.change (some (.file (bytes.take count))) place)
    throw fault

/-- Writes a file: opens it, and puts the bytes into it. -/
def writeFile (storage : Storage) (p : Path) (bytes : List UInt8) : Action Fault Unit := do
  let place ← openFile p
  putBytes storage place bytes

/-! ## Making and removing entries -/

/-- Characters of a path up to the slash in front of its last piece. -/
def parentChars (cs : List Char) : List Char :=
  (cs.reverse.dropWhile (· != '/')).reverse

/-- The file system in which every piece is a directory below the one before it, as far as nothing
else is in the way. -/
def makeDirectories (fs : FileSystem) (place : Place) : List (List Char) → FileSystem
  | [] => fs
  | piece :: rest =>
    match fs.tree.followPieces .content maxLinks place [piece] with
    | .ok (.present next) => fs.makeDirectories next rest
    | .ok (.absent holder name) =>
      (fs.change (some (.directory [])) (holder ++ [name])).makeDirectories (holder ++ [name]) rest
    | .error _ => fs

/-- The file system with the directories that characters of a path name. -/
def makeAll (fs : FileSystem) (cs : List Char) : FileSystem :=
  fs.makeDirectories (startOf fs.here cs) (Text.splitAll '/' cs)

/-- The file system with the directory that a path names and all directories around it. -/
def putDirectory (fs : FileSystem) (p : Path) : FileSystem :=
  fs.makeAll p.text.toList

/-- The file system with all directories around what a path names. -/
def putParents (fs : FileSystem) (p : Path) : FileSystem :=
  fs.makeAll (parentChars p.text.toList)

/-- The file system with a file, and with all directories around it. -/
def putFile (fs : FileSystem) (p : Path) (bytes : List UInt8) : FileSystem :=
  after (writeFile .sound p bytes) (fs.putParents p)

/-- Whether a link can have a target. -/
def isLinkTarget (target : String) : Bool :=
  target != "" && !target.toList.contains '\x00' && Text.byteLength target.toList < maxPathBytes

/-- The file system with something else, or nothing, at a place, unless its own place is there or
below. -/
def replace (fs : FileSystem) (node : Option FileTree) (place : Place) : FileSystem :=
  if place.isPrefixOf fs.here then fs else fs.change node place

/-- The file system with a link, and with all directories around it. -/
def putLink (fs : FileSystem) (p : Path) (target : String) : FileSystem :=
  let fs := fs.putParents p
  if isLinkTarget target then
    match fs.locate .entry p with
    | .ok (.absent holder name) => fs.replace (some (.link target)) (holder ++ [name])
    | .ok (.present place) => fs.replace (some (.link target)) place
    | .error _ => fs
  else fs

/-- The file system without what a path names. A link is removed, and not what it leads to. -/
def remove (fs : FileSystem) (p : Path) : FileSystem :=
  match fs.locate .entry p with
  | .ok (.present place) => fs.replace none place
  | _ => fs

end ContractFixtures.FileSystem
