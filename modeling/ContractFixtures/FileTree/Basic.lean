import ContractFixtures.Path
import ContractFixtures.Text.Utf8

/-!
# Trees of files

A tree of files, directories and symbolic links. A place in the tree is a list of names from the
top, each of which is the name of an entry in the directory that the names before it lead to; a
path leads to a place by way of links. In a file system an absolute path is followed from the top
and a relative one from the place that the system is at.

Names are texts: names that are no UTF-8 are left out. There are no permissions either, so the
system refuses a path for what is on its way and for its length alone.
-/

namespace ContractFixtures

/-- A file, a directory or a symbolic link. -/
inductive FileTree where
  | file (bytes : List UInt8)
  | directory (entries : List (String × FileTree))
  | link (target : String)
deriving Repr, Inhabited

namespace FileTree

/-- A place in a tree. -/
abbrev Place := List String

/-- What is at a place. Links are not followed. -/
def at? : FileTree → Place → Option FileTree
  | t, [] => some t
  | .directory entries, name :: rest => (entries.lookup name).bind fun t => t.at? rest
  | _, _ :: _ => none

/-- The entries with another one under a name, or without one. -/
def changeEntry (name : String) (node : Option FileTree) :
    List (String × FileTree) → List (String × FileTree)
  | [] => (node.map fun t => (name, t)).toList
  | (k, t) :: rest =>
    if k = name then (node.map fun t => (name, t)).toList ++ rest
    else (k, t) :: changeEntry name node rest

/-- The tree with something else, or nothing, at a place below the top. The directory that holds
the place has to be there. -/
def change (node : Option FileTree) : Place → FileTree → FileTree
  | [name], .directory entries => .directory (changeEntry name node entries)
  | name :: rest, .directory entries =>
    match entries.lookup name with
    | some t => .directory (changeEntry name (some (t.change node rest)) entries)
    | none => .directory entries
  | _, t => t

/-! ## Paths -/

/-- Why a path leads nowhere, or why what is there cannot be used. -/
inductive Fault where
  | notFound
  | deviceFailed
  | notDirectory
  | isDirectory
  | noSpace
  | nameTooLong
  | tooManyLinks
  | invalidName
  | invalidText
deriving DecidableEq, Repr

/-- The wording of a fault. -/
def Fault.message : Fault → String
  | .notFound => "No such file or directory (os error 2)"
  | .deviceFailed => "Input/output error (os error 5)"
  | .notDirectory => "Not a directory (os error 20)"
  | .isDirectory => "Is a directory (os error 21)"
  | .noSpace => "No space left on device (os error 28)"
  | .nameTooLong => "File name too long (os error 36)"
  | .tooManyLinks => "Too many levels of symbolic links (os error 40)"
  | .invalidName => "file name contained an unexpected NUL byte"
  | .invalidText => "stream did not contain valid UTF-8"

/-- Where a path leads: to something, or to a free name in a directory. -/
inductive Target where
  | present (place : Place)
  | absent (directory : Place) (name : String)
deriving DecidableEq, Repr

/-- What a path is followed for. -/
inductive Purpose where
  /-- For the entry that it names. A link in the last place is not followed. -/
  | entry
  /-- For what it leads to. -/
  | content
  /-- For a file to be written. No slash may stand behind the name of the file. -/
  | writing
deriving DecidableEq, Repr

/-- The number of links that may be followed on one path. -/
def maxLinks : Nat := 40

/-- The greatest number of bytes of a name. -/
def maxNameBytes : Nat := 255

/-- The number of bytes that a path is shorter than. -/
def maxPathBytes : Nat := 4096

/-- Whether the pieces behind a name come from slashes alone. -/
def endsInSlashes (rest : List (List Char)) : Bool :=
  rest != [] && rest.all (· == [])

/-- Where characters of a path are followed from: the top, if they start with a slash. -/
def startOf (here : Place) (cs : List Char) : Place :=
  if cs.head? = some '/' then [] else here

/-- Follows the pieces of a path from a directory. Links in front of the last piece are followed,
and the last one if the purpose asks for it. Above the top is the top itself. -/
def followPieces (tree : FileTree) (purpose : Purpose) (links : Nat) (here : Place)
    (pieces : List (List Char)) : Except Fault Target :=
  match pieces with
  | [] => .ok (.present here)
  | piece :: rest =>
    if piece = [] ∨ piece = ['.'] then followPieces tree purpose links here rest
    else if piece = ['.', '.'] then followPieces tree purpose links here.dropLast rest
    else if purpose = .writing ∧ endsInSlashes rest then .error .isDirectory
    else if maxNameBytes < Text.byteLength piece then .error .nameTooLong
    else
      let name := String.ofList piece
      match tree.at? (here ++ [name]) with
      | none => if rest = [] then .ok (.absent here name) else .error .notFound
      | some (.file _) =>
        if rest = [] then .ok (.present (here ++ [name])) else .error .notDirectory
      | some (.directory _) => followPieces tree purpose links (here ++ [name]) rest
      | some (.link target) =>
        if rest = [] ∧ purpose = .entry then .ok (.present (here ++ [name]))
        else
          match links with
          | 0 => .error .tooManyLinks
          | links + 1 =>
            followPieces tree purpose links (startOf here target.toList)
              (Text.splitAll '/' target.toList ++ rest)
termination_by (links, pieces.length)

end FileTree

/-! ## File systems -/

/-- All files from the top on, and the place from which relative paths are followed. -/
structure FileSystem where
  tree : FileTree
  here : FileTree.Place
deriving Repr, Inhabited

namespace FileSystem

open FileTree (Place Fault Target Purpose maxPathBytes maxLinks startOf)

/-- Where the characters of a path lead. -/
def locateChars (fs : FileSystem) (purpose : Purpose) (cs : List Char) : Except Fault Target :=
  if cs.contains '\x00' then .error .invalidName
  else if maxPathBytes ≤ Text.byteLength cs then .error .nameTooLong
  else if cs = [] then .error .notFound
  else fs.tree.followPieces purpose maxLinks (startOf fs.here cs) (Text.splitAll '/' cs)

/-- Where a path leads. -/
def locate (fs : FileSystem) (purpose : Purpose) (p : Path) : Except Fault Target :=
  fs.locateChars purpose p.text.toList

/-- What a path leads to. -/
def find (fs : FileSystem) (purpose : Purpose) (p : Path) : Except Fault FileTree :=
  match fs.locate purpose p with
  | .error fault => .error fault
  | .ok (.absent ..) => .error .notFound
  | .ok (.present place) =>
    match fs.tree.at? place with
    | some t => .ok t
    | none => .error .notFound

/-- Whether a path leads to something. -/
def pathExists (fs : FileSystem) (p : Path) : Bool :=
  (fs.find .content p).toOption.isSome

/-- Whether a path leads to a directory. -/
def isDirectory (fs : FileSystem) (p : Path) : Bool :=
  match fs.find .content p with
  | .ok (.directory _) => true
  | _ => false

/-- The text of the file that a path leads to. -/
def readText (fs : FileSystem) (p : Path) : Except Fault String :=
  match fs.find .content p with
  | .error fault => .error fault
  | .ok (.file bytes) =>
    match Text.ofBytes? bytes with
    | some text => .ok text
    | none => .error .invalidText
  | .ok _ => .error .isDirectory

end FileSystem

end ContractFixtures
