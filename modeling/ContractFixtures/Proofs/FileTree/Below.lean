import ContractFixtures.Proofs.FileTree.Outline

/-!
# Files that a walk reaches

A walk goes from its start through directories only. So it reaches what lies below the start
without a link in between, and cannot be led in circles. Links count at the start alone: the start
may be a link to a directory, but a link to a file is no file.

* `Reached`: the files that a walk has to find.
* `Walkable`: paths from which a walk gets to its end.

Results:
1. `walk_eq_ok_iff`, `exists_walk_iff`: where a walk can start, and when it gets to its end.
2. `exists_blocked_of_walk`: where a walk stops else.
3. `mem_walk_iff`, `nodup_parts_walk`: a walk finds each file that it reaches, under a path of its
   own.
4. `SameEntries.blocked_iff`: walks stop at the same directories of trees with the same entries.
-/

namespace ContractFixtures

namespace FileTree

/-! ## Places -/

/-- Nothing lies below a link. -/
theorem not_below_append_of_link {t : FileTree} (hw : t.WellFormed) {names more : List String}
    {target : String} {bytes : List UInt8} (hlink : Below t names (.link target)) :
    ¬ Below t (names ++ more) (.file bytes) := by
  intro h
  rw [below_iff_at? hw] at hlink h
  rw [at?_append, hlink] at h
  cases more with
  | nil => cases h
  | cons name more => cases h

theorem mem_filesOf_iff_below {entries : List (String × FileTree)}
    (hw : (FileTree.directory entries).WellFormed) {f : Found} :
    f ∈ filesOf entries ↔ Below (.directory entries) f.names (.file f.bytes) := by
  rw [mem_filesOf_iff hw, nodeAt?_eq_file_iff, below_iff_at? hw]

/-- The directories below trees with the same entries are the same. -/
theorem SameEntries.exists_below_directory_iff {t u : FileTree} (h : SameEntries t u)
    (ht : t.WellFormed) (hu : u.WellFormed) {names : List String} :
    (∃ inner, Below t names (.directory inner)) ↔ ∃ inner, Below u names (.directory inner) := by
  simp only [below_iff_at? ht, below_iff_at? hu]
  have hmatches := h.matches names
  generalize t.at? names = left at hmatches ⊢
  generalize u.at? names = right at hmatches ⊢
  cases hmatches <;> simp

end FileTree

namespace FileSystem

open FileTree (Below Found)

/-- The files that a walk from a path has to find.

* `below`: a file below the directory that the path leads to.
* `start`: the file that the path names, if that is no link. -/
inductive Reached (fs : FileSystem) (root : Path) : Found → Prop
  | below {entries : List (String × FileTree)} {f : Found} :
      fs.find .content root = .ok (.directory entries) →
      Below (.directory entries) f.names (.file f.bytes) → Reached fs root f
  | start {bytes : List UInt8} :
      fs.find .entry root = .ok (.file bytes) → Reached fs root ⟨[], bytes⟩

/-- Whether the directories below the one that a path leads to can all be opened by their paths. -/
def Walkable (fs : FileSystem) (root : Path) : Prop :=
  ∀ entries, fs.find .content root = .ok (.directory entries) →
    fs.Opens root (.directory entries)

/-! ## Walks -/

section
variable {fs : FileSystem} {root : Path} {found : List Found}

/-- A path that names a file leads to it. -/
theorem find_content_of_file {bytes : List UInt8} (h : fs.find .entry root = .ok (.file bytes)) :
    fs.find .content root = .ok (.file bytes) := by
  rcases fs.find_entry root with he | ⟨target, he⟩
  · exact he.symm.trans h
  · cases he.symm.trans h

/-- A walk starts in a directory, at a file or at a link that leads to no directory. From a
directory it gets to its end if it can open all directories below. -/
theorem walk_eq_ok_iff :
    fs.walk root = .ok found ↔
      (∃ entries, fs.find .content root = .ok (.directory entries) ∧
        fs.Opens root (.directory entries) ∧ found = FileTree.filesOf entries) ∨
      (∃ bytes, fs.find .entry root = .ok (.file bytes) ∧ found = [⟨[], bytes⟩]) ∨
      ∃ target t, fs.find .entry root = .ok (.link target) ∧ fs.find .content root = .ok t ∧
        (∀ entries, t ≠ .directory entries) ∧ found = [] := by
  cases hfind : fs.find .content root with
  | error fault =>
    rcases fs.find_entry root with he | ⟨target, he⟩
    · simp [walk, he, hfind]
    · simp [walk, he, hfind]
  | ok t =>
    cases t with
    | directory entries =>
      rw [walk_eq_ok_iff_of_find hfind]
      rcases fs.find_entry root with he | ⟨target, he⟩
      · simp [he, hfind]
      · simp [he]
    | file bytes =>
      rcases fs.find_entry root with he | ⟨target, he⟩
      · simp [walk, walkTree, he, hfind, eq_comm]
      · simp [walk, he, hfind, eq_comm]
    | link text =>
      rcases fs.find_entry root with he | ⟨target, he⟩
      · simp [walk, he, hfind, eq_comm]
      · simp [walk, he, hfind, eq_comm]

/-- A walk gets to its end if it can start and can open all directories below. -/
theorem exists_walk_iff :
    (∃ found, fs.walk root = .ok found) ↔ fs.pathExists root = true ∧ fs.Walkable root := by
  constructor
  · rintro ⟨found, h⟩
    rcases walk_eq_ok_iff.mp h with ⟨entries, hfind, hopens, -⟩ | ⟨bytes, hfile, -⟩ |
      ⟨target, t, -, hfind, ht, -⟩
    · refine ⟨pathExists_of_find hfind, fun entries' hfind' => ?_⟩
      cases hfind.symm.trans hfind'
      exact hopens
    · have hfind := find_content_of_file hfile
      exact ⟨pathExists_of_find hfind, fun entries hfind' => by cases hfind.symm.trans hfind'⟩
    · refine ⟨pathExists_of_find hfind, fun entries hfind' => ?_⟩
      exact absurd (Except.ok.inj (hfind.symm.trans hfind')) (ht entries)
  · rintro ⟨hexists, hwalkable⟩
    obtain ⟨t, hfind⟩ := pathExists_iff.mp hexists
    by_cases hdirectory : ∃ entries, t = .directory entries
    · obtain ⟨entries, rfl⟩ := hdirectory
      exact ⟨_, walk_eq_ok_iff.mpr (.inl ⟨entries, hfind, hwalkable entries hfind, rfl⟩)⟩
    have ht : ∀ entries, t ≠ .directory entries := fun entries he => hdirectory ⟨entries, he⟩
    rcases fs.find_entry root with he | ⟨target, he⟩
    · cases t with
      | directory entries => exact absurd rfl (ht entries)
      | file bytes => exact ⟨_, walk_eq_ok_iff.mpr (.inr (.inl ⟨bytes, he.trans hfind, rfl⟩))⟩
      | link text =>
        exact ⟨_, walk_eq_ok_iff.mpr (.inr (.inr ⟨text, _, he.trans hfind, hfind, ht, rfl⟩))⟩
    · exact ⟨_, walk_eq_ok_iff.mpr (.inr (.inr ⟨target, t, he, hfind, ht, rfl⟩))⟩

/-- A walk that has started stops at a directory that it cannot open. -/
theorem exists_blocked_of_walk {obstacle : Obstacle} (hexists : fs.pathExists root = true)
    (h : fs.walk root = .error obstacle) :
    ∃ entries names, fs.find .content root = .ok (.directory entries) ∧
      fs.Blocked root (.directory entries) names obstacle.fault ∧
      obstacle.path = names.foldl Path.join root := by
  obtain ⟨t, hfind⟩ := pathExists_iff.mp hexists
  cases t with
  | directory entries =>
    rw [walk_of_find hfind] at h
    obtain ⟨names, hblocked, hpath⟩ := exists_blocked_of_walkTree h
    exact ⟨entries, names, hfind, hblocked, hpath⟩
  | _ =>
    obtain ⟨found, hfound⟩ := exists_walk_iff.mpr
      ⟨hexists, fun entries hdirectory => by cases hfind.symm.trans hdirectory⟩
    cases hfound.symm.trans h

/-- A walk finds the files that it reaches. -/
theorem mem_walk_iff (hw : fs.WellFormed) (h : fs.walk root = .ok found) {f : Found} :
    f ∈ found ↔ Reached fs root f := by
  rcases walk_eq_ok_iff.mp h with ⟨entries, hfind, -, rfl⟩ | ⟨bytes, hfind, rfl⟩ |
    ⟨target, t, hfind, hcontent, ht, rfl⟩
  · rw [FileTree.mem_filesOf_iff_below (hw.find hfind)]
    constructor
    · exact .below hfind
    · intro hreached
      cases hreached with
      | below hfind' hbelow =>
        cases hfind.symm.trans hfind'
        exact hbelow
      | start hstart => cases hfind.symm.trans (find_content_of_file hstart)
  · rw [List.mem_singleton]
    constructor
    · rintro rfl
      exact .start hfind
    · intro hreached
      cases hreached with
      | below hfind' _ => cases hfind'.symm.trans (find_content_of_file hfind)
      | start hstart =>
        cases hfind.symm.trans hstart
        rfl
  · refine iff_of_false List.not_mem_nil fun hreached => ?_
    cases hreached with
    | below hfind' _ => exact ht _ (Except.ok.inj (hcontent.symm.trans hfind'))
    | start hstart => cases hfind.symm.trans hstart

/-- No two files are found under paths with the same parts. -/
theorem nodup_parts_walk (hw : fs.WellFormed) (h : fs.walk root = .ok found) :
    (found.map fun f => (f.path root).parts).Nodup := by
  rcases walk_eq_ok_iff.mp h with ⟨entries, hfind, -, rfl⟩ | ⟨bytes, -, rfl⟩ | ⟨_, _, -, -, -, rfl⟩
  · exact FileTree.nodup_parts_filesOf (hw.find hfind) root
  · exact List.nodup_singleton _
  · exact List.nodup_nil

end

/-! ## Directories on the way -/

section
variable {t u : FileSystem} {root : Path} {entries entries' : List (String × FileTree)}
  (h : SameEntries t u)
  (hw : (FileTree.directory entries).WellFormed) (hw' : (FileTree.directory entries').WellFormed)
  (hsame : FileTree.SameEntries (.directory entries) (.directory entries'))
include h hw hw' hsame

/-- Walks stop at the same directories of file systems with the same entries. -/
theorem SameEntries.blocked_iff {names : List String} {fault : FileTree.Fault} :
    t.Blocked root (.directory entries) names fault ↔
      u.Blocked root (.directory entries') names fault := by
  have hbelow : (∃ inner, Below (.directory entries) names (.directory inner)) ↔
      ∃ inner, Below (.directory entries') names (.directory inner) :=
    hsame.exists_below_directory_iff hw hw'
  constructor
  · rintro ⟨hat, hrefused, haround⟩
    refine ⟨hbelow.mp hat, h.find_error hrefused, fun front hfront hne => ?_⟩
    rw [← h.pathExists]
    exact haround front hfront hne
  · rintro ⟨hat, hrefused, haround⟩
    refine ⟨hbelow.mpr hat, h.symm.find_error hrefused, fun front hfront hne => ?_⟩
    rw [h.pathExists]
    exact haround front hfront hne

/-- The same directories can be opened in file systems with the same entries. -/
theorem SameEntries.opens_iff :
    t.Opens root (.directory entries) ↔ u.Opens root (.directory entries') := by
  simp only [opens_iff_not_blocked, h.blocked_iff hw hw' hsame]

end

end FileSystem

end ContractFixtures
