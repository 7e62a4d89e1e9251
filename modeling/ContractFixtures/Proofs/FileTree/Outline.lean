import ContractFixtures.Proofs.FileTree.Reading
import Mathlib.Data.List.Perm.Basic

/-!
# What is at the places of trees

A tree is seen through what is at each of its places: a file with its bytes, a directory, or a link
with its target. The order of the entries of a directory is not seen. Paths lead to the same places
of trees that differ in the bytes of files only, and a walk finds the files that are at the places
below its start.

* `nodeAt?`: what is at a place.
* `FileTree.SameEntries`, `FileSystem.SameEntries`: trees that differ in the bytes of their files
  only, and file systems with such trees.

Results:
1. `mem_filesOf_iff`: which files are below a directory.
2. `names_filesOf_perm`, `filter_filesOf_perm`: the files below directories with the same entries.
3. `SameEntries.locate`, `SameEntries.find`: the bytes of files do not matter to paths.
-/

namespace ContractFixtures

namespace FileTree

/-- What is at a place, apart from the entries of a directory. -/
inductive Node where
  | file (bytes : List UInt8)
  | directory
  | link (target : String)
deriving DecidableEq, Repr

/-- The top of a tree. -/
def node : FileTree → Node
  | .file bytes => .file bytes
  | .directory _ => .directory
  | .link target => .link target

/-- What is at a place of a tree. -/
def nodeAt? (tree : FileTree) (place : Place) : Option Node :=
  (tree.at? place).map node

/-- The same without the bytes of a file. -/
def Node.outline : Node → Node
  | .file _ => .file []
  | n => n

/-- Trees that have the same entries: the same paths, kinds and links, and perhaps other bytes in
their files. -/
def SameEntries (t u : FileTree) : Prop :=
  ∀ place, (t.nodeAt? place).map Node.outline = (u.nodeAt? place).map Node.outline

/-! ## Places -/

theorem nodeAt?_eq_file_iff {tree : FileTree} {place : Place} {bytes : List UInt8} :
    tree.nodeAt? place = some (.file bytes) ↔ tree.at? place = some (.file bytes) := by
  unfold nodeAt?
  rcases tree.at? place with _ | (_ | _ | _) <;> simp [node]

theorem nodeAt?_eq_directory_iff {tree : FileTree} {place : Place} :
    tree.nodeAt? place = some .directory ↔
      ∃ entries, tree.at? place = some (.directory entries) := by
  unfold nodeAt?
  rcases tree.at? place with _ | (_ | _ | _) <;> simp [node]

theorem nodeAt?_append {tree t : FileTree} {place : Place} (h : tree.at? place = some t)
    (rest : Place) : tree.nodeAt? (place ++ rest) = t.nodeAt? rest := by
  rw [nodeAt?, at?_append, h, Option.bind_some, nodeAt?]

/-- What is around something is a directory. -/
theorem nodeAt?_of_append {tree : FileTree} {holder rest : Place} {n : Node} (hrest : rest ≠ [])
    (h : tree.nodeAt? (holder ++ rest) = some n) : tree.nodeAt? holder = some .directory := by
  obtain ⟨name, rest, rfl⟩ := List.exists_cons_of_ne_nil hrest
  obtain ⟨t, ht, -⟩ := Option.map_eq_some_iff.mp h
  rw [at?_append] at ht
  obtain ⟨inner, hinner, hat⟩ := Option.bind_eq_some_iff.mp ht
  cases inner with
  | directory entries => exact nodeAt?_eq_directory_iff.mpr ⟨entries, hinner⟩
  | file bytes => cases hat
  | link target => cases hat

theorem nodeAt?_dropLast {tree : FileTree} {place : Place}
    (h : tree.nodeAt? place = some .directory) : tree.nodeAt? place.dropLast = some .directory := by
  rcases List.eq_nil_or_concat' place with rfl | ⟨holder, name, rfl⟩
  · exact h
  · rw [List.dropLast_concat]
    exact nodeAt?_of_append (List.cons_ne_nil name []) h

section
variable {t u : FileTree} {place : Place}

theorem SameEntries.symm (h : SameEntries t u) : SameEntries u t :=
  fun place => (h place).symm

/-- What is at a place of two trees with the same entries. -/
inductive Matches : Option FileTree → Option FileTree → Prop
  | none : Matches none none
  | file (bytes bytes' : List UInt8) : Matches (some (.file bytes)) (some (.file bytes'))
  | directory (entries entries' : List (String × FileTree)) :
      Matches (some (.directory entries)) (some (.directory entries'))
  | link (target : String) : Matches (some (.link target)) (some (.link target))

theorem matches_of_outline_eq {t u : FileTree} {place : Place}
    (h : (t.nodeAt? place).map Node.outline = (u.nodeAt? place).map Node.outline) :
    Matches (t.at? place) (u.at? place) := by
  unfold nodeAt? at h
  generalize t.at? place = left at h ⊢
  generalize u.at? place = right at h ⊢
  rcases left with _ | (_ | _ | _) <;> rcases right with _ | (_ | _ | _) <;>
    simp [node, Node.outline] at h
  · exact .none
  · exact .file _ _
  · exact .directory _ _
  · exact h ▸ .link _

theorem SameEntries.matches (h : SameEntries t u) (place : Place) :
    Matches (t.at? place) (u.at? place) :=
  matches_of_outline_eq (h place)

/-- Paths lead to the same places of trees with the same entries. -/
theorem SameEntries.followPieces (h : SameEntries t u) (purpose : Purpose) (links : Nat)
    (here : Place) (pieces : List (List Char)) :
    t.followPieces purpose links here pieces = u.followPieces purpose links here pieces := by
  have hmatches := h.matches
  fun_induction FileTree.followPieces t purpose links here pieces with
  | case1 => rw [FileTree.followPieces]
  | _ =>
    rw [FileTree.followPieces]
    grind [Matches]

end

/-! ## Files -/

mutual

theorem mem_files_of_at? {t : FileTree} {names : List String} {bytes : List UInt8}
    (h : t.at? names = some (.file bytes)) : ⟨names, bytes⟩ ∈ t.files := by
  match t, names with
  | .file _, [] =>
    cases h
    exact List.mem_singleton_self _
  | .file _, _ :: _ => cases h
  | .directory _, [] => cases h
  | .directory entries, name :: rest => exact mem_filesOf_of_at? h
  | .link _, [] => cases h
  | .link _, _ :: _ => cases h

theorem mem_filesOf_of_at? {entries : List (String × FileTree)} {name : String}
    {rest : List String} {bytes : List UInt8}
    (h : (FileTree.directory entries).at? (name :: rest) = some (.file bytes)) :
    ⟨name :: rest, bytes⟩ ∈ filesOf entries := by
  match entries with
  | [] => cases h
  | (key, t) :: more =>
    rw [filesOf_cons, List.mem_append, List.mem_map]
    rw [at?, List.lookup_cons] at h
    split at h
    · next hkey =>
      rw [beq_iff_eq] at hkey
      subst hkey
      exact .inl ⟨⟨rest, bytes⟩, mem_files_of_at? h, rfl⟩
    · exact .inr (mem_filesOf_of_at? h)

end

/-- A walk finds a file under names exactly if they lead to it. -/
theorem mem_filesOf_iff {entries : List (String × FileTree)}
    (hw : (FileTree.directory entries).WellFormed) {f : Found} :
    f ∈ filesOf entries ↔ (FileTree.directory entries).nodeAt? f.names = some (.file f.bytes) := by
  rw [nodeAt?_eq_file_iff]
  refine ⟨at?_of_mem_filesOf hw.1 hw.2, fun h => ?_⟩
  obtain ⟨names, bytes⟩ := f
  cases names with
  | nil => cases h
  | cons name rest => exact mem_filesOf_of_at? h

theorem mem_names_filesOf_iff {entries : List (String × FileTree)}
    (hw : (FileTree.directory entries).WellFormed) {names : List String} :
    names ∈ (filesOf entries).map Found.names ↔
      ((FileTree.directory entries).nodeAt? names).map Node.outline = some (.file []) := by
  rw [List.mem_map]
  constructor
  · rintro ⟨f, hf, rfl⟩
    rw [(mem_filesOf_iff hw).mp hf]
    rfl
  · intro h
    obtain ⟨n, hn, hfile⟩ := Option.map_eq_some_iff.mp h
    cases n with
    | file bytes => exact ⟨⟨names, bytes⟩, (mem_filesOf_iff hw).mpr hn, rfl⟩
    | directory => cases hfile
    | link target => cases hfile

section
variable {left right : List (String × FileTree)} (hleft : (FileTree.directory left).WellFormed)
  (hright : (FileTree.directory right).WellFormed)
include hleft hright

/-- Walks find files under the same names in directories with the same entries. -/
theorem names_filesOf_perm
    (h : SameEntries (.directory left) (.directory right)) :
    ((filesOf left).map Found.names).Perm ((filesOf right).map Found.names) := by
  refine (List.perm_ext_iff_of_nodup (nodup_names_filesOf hleft.1 hleft.2)
    (nodup_names_filesOf hright.1 hright.2)).mpr fun names => ?_
  rw [mem_names_filesOf_iff hleft, mem_names_filesOf_iff hright, h names]

/-- Walks find the same files under the names under which there is the same in both directories. -/
theorem filter_filesOf_perm (keep : List String → Bool)
    (h : ∀ names, keep names = true →
      (FileTree.directory left).nodeAt? names = (FileTree.directory right).nodeAt? names) :
    ((filesOf left).filter (keep ·.names)).Perm ((filesOf right).filter (keep ·.names)) := by
  have hnodup : ∀ {entries : List (String × FileTree)}, (FileTree.directory entries).WellFormed →
      ((filesOf entries).filter (keep ·.names)).Nodup := fun hw =>
    (List.Nodup.of_map Found.names (nodup_names_filesOf hw.1 hw.2)).filter _
  refine (List.perm_ext_iff_of_nodup (hnodup hleft) (hnodup hright)).mpr fun f => ?_
  rw [List.mem_filter, List.mem_filter, mem_filesOf_iff hleft, mem_filesOf_iff hright]
  exact and_congr_left fun hkeep => by rw [h f.names hkeep]

end

end FileTree

/-! ## Paths -/

namespace FileSystem

open FileTree (Purpose Matches)

/-- File systems that have the same entries, seen from the same place. -/
structure SameEntries (t u : FileSystem) : Prop where
  here : t.here = u.here
  tree : FileTree.SameEntries t.tree u.tree

variable {t u : FileSystem} {p : Path}

theorem SameEntries.symm (h : SameEntries t u) : SameEntries u t where
  here := h.here.symm
  tree := h.tree.symm

theorem SameEntries.locate (h : SameEntries t u) (purpose : Purpose) (p : Path) :
    t.locate purpose p = u.locate purpose p := by
  simp only [FileSystem.locate, locateChars, h.here, h.tree.followPieces]

/-- A path leads nowhere in file systems with the same entries, for the same reason, or to the same
place. -/
theorem SameEntries.find (h : SameEntries t u) (purpose : Purpose) (p : Path) :
    (∃ fault, t.find purpose p = .error fault ∧ u.find purpose p = .error fault) ∨
      ∃ place v w, t.locate purpose p = .ok (.present place) ∧ t.tree.at? place = some v ∧
        u.tree.at? place = some w ∧ t.find purpose p = .ok v ∧ u.find purpose p = .ok w := by
  have hlocate' := h.locate purpose p
  rcases hlocate : t.locate purpose p with fault | (place | ⟨holder, name⟩) <;>
    rw [hlocate] at hlocate'
  · exact .inl ⟨fault, by rw [FileSystem.find, hlocate], by rw [FileSystem.find, ← hlocate']⟩
  · have hmatches := h.tree.matches place
    generalize hleft : t.tree.at? place = left at hmatches
    generalize hright : u.tree.at? place = right at hmatches
    cases hmatches with
    | none =>
      refine .inl ⟨.notFound, ?_, ?_⟩
      · simp only [FileSystem.find, hlocate, hleft]
      · simp only [FileSystem.find, ← hlocate', hright]
    | _ =>
      exact .inr ⟨place, _, _, rfl, hleft, hright, find_of_at? hlocate hleft,
        find_of_at? hlocate'.symm hright⟩
  · exact .inl ⟨.notFound, by rw [FileSystem.find, hlocate], by rw [FileSystem.find, ← hlocate']⟩

theorem SameEntries.find_error (h : SameEntries t u) {purpose : Purpose} {fault : FileTree.Fault}
    (hfind : t.find purpose p = .error fault) : u.find purpose p = .error fault := by
  rcases h.find purpose p with ⟨fault', ht, hu⟩ | ⟨_, v, w, -, -, -, ht, -⟩
  · exact hu.trans (ht.symm.trans hfind)
  · cases ht.symm.trans hfind

theorem SameEntries.pathExists (h : SameEntries t u) (p : Path) :
    t.pathExists p = u.pathExists p := by
  unfold FileSystem.pathExists
  rcases h.find .content p with ⟨fault, ht, hu⟩ | ⟨_, v, w, -, -, -, ht, hu⟩
  · rw [ht, hu]
  · rw [ht, hu]
    rfl

/-- A path that leads to a directory leads to one at the same place of a file system with the same
entries. -/
theorem SameEntries.find_directory (h : SameEntries t u)
    {entries : List (String × FileTree)} (hfind : t.find .content p = .ok (.directory entries)) :
    ∃ entries', u.find .content p = .ok (.directory entries') ∧
      ∃ start, t.locate .content p = .ok (.present start) ∧
        t.tree.at? start = some (.directory entries) ∧
        u.tree.at? start = some (.directory entries') := by
  rcases h.find .content p with ⟨fault, ht, -⟩ | ⟨start, v, w, hlocate, hv, hw, ht, hu⟩
  · cases ht.symm.trans hfind
  · cases ht.symm.trans hfind
    have hmatches := h.tree.matches start
    rw [hv, hw] at hmatches
    cases hmatches with
    | directory _ entries' => exact ⟨entries', hu, start, hlocate, hv, hw⟩

theorem SameEntries.isDirectory (h : SameEntries t u) (p : Path) :
    t.isDirectory p = u.isDirectory p := by
  rw [Bool.eq_iff_iff, isDirectory_iff, isDirectory_iff]
  constructor
  · rintro ⟨entries, hfind⟩
    obtain ⟨entries', hfind', -⟩ := h.find_directory hfind
    exact ⟨entries', hfind'⟩
  · rintro ⟨entries, hfind⟩
    obtain ⟨entries', hfind', -⟩ := h.symm.find_directory hfind
    exact ⟨entries', hfind'⟩

end FileSystem

end ContractFixtures
