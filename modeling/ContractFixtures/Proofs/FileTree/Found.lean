import ContractFixtures.FileTree.Walk
import ContractFixtures.Proofs.FileTree.WellFormed

/-!
# The files below a directory

The files in the entries of a directory are what a walk is to find. In a well-formed tree each of
them is there once and has a path of its own.

* `files`, `filesOf`: all files below a tree, and in entries.

Results:
1. `nodup_parts_filesOf`: no two files have paths with the same parts.
2. `Found.partsFrom_path`: the parts of the path of a file behind those of the root.
-/

namespace ContractFixtures.FileTree

mutual

/-- The files in a tree. -/
def files : FileTree → List Found
  | .file bytes => [⟨[], bytes⟩]
  | .directory entries => filesOf entries
  | .link _ => []

/-- The files in the entries of a directory. -/
def filesOf : List (String × FileTree) → List Found
  | [] => []
  | (name, t) :: rest => t.files.map (·.below name) ++ filesOf rest

end

/-! ## Names -/

theorem filesOf_cons (name : String) (t : FileTree) (rest : List (String × FileTree)) :
    filesOf ((name, t) :: rest) = t.files.map (·.below name) ++ filesOf rest := rfl

/-- What is found in the entries of a directory is found below one of them. -/
theorem exists_names_of_mem_filesOf {entries : List (String × FileTree)} {f : Found}
    (h : f ∈ filesOf entries) :
    ∃ name ∈ entries.map Prod.fst, ∃ names, f.names = name :: names := by
  induction entries with
  | nil => cases h
  | cons entry rest ih =>
    obtain ⟨name, t⟩ := entry
    rcases List.mem_append.mp h with hmem | hmem
    · obtain ⟨g, -, rfl⟩ := List.mem_map.mp hmem
      exact ⟨name, List.mem_cons_self, g.names, rfl⟩
    · obtain ⟨other, hother, names, hnames⟩ := ih hmem
      exact ⟨other, List.mem_cons_of_mem _ hother, names, hnames⟩

theorem names_ne_nil_of_mem_filesOf {entries : List (String × FileTree)} {f : Found}
    (h : f ∈ filesOf entries) : f.names ≠ [] := by
  obtain ⟨name, -, names, hnames⟩ := exists_names_of_mem_filesOf h
  exact hnames ▸ List.cons_ne_nil name names

mutual

/-- All names that lead to a found file are names. -/
theorem isName_of_mem_files {t : FileTree} (h : t.WellFormed) {f : Found} (hf : f ∈ t.files) :
    ∀ name ∈ f.names, Path.IsName name := by
  match t with
  | .file bytes =>
    obtain rfl := List.mem_singleton.mp hf
    intro name hname
    cases hname
  | .directory entries => exact isName_of_mem_filesOf h.2 hf
  | .link target => cases hf

theorem isName_of_mem_filesOf {entries : List (String × FileTree)} (h : EntriesWellFormed entries)
    {f : Found} (hf : f ∈ filesOf entries) : ∀ name ∈ f.names, Path.IsName name := by
  match entries with
  | [] => cases hf
  | (name, t) :: rest =>
    obtain ⟨hname, ht, hrest⟩ := h
    rcases List.mem_append.mp hf with hmem | hmem
    · obtain ⟨g, hg, rfl⟩ := List.mem_map.mp hmem
      exact List.forall_mem_cons.mpr ⟨hname, isName_of_mem_files ht hg⟩
    · exact isName_of_mem_filesOf hrest hmem

end

mutual

theorem nodup_names_files {t : FileTree} (h : t.WellFormed) :
    (t.files.map Found.names).Nodup := by
  match t with
  | .file bytes => exact List.nodup_singleton _
  | .directory entries => exact nodup_names_filesOf h.1 h.2
  | .link target => exact List.nodup_nil

/-- No two files are found under the same names. -/
theorem nodup_names_filesOf {entries : List (String × FileTree)}
    (hkeys : (entries.map Prod.fst).Nodup) (h : EntriesWellFormed entries) :
    ((filesOf entries).map Found.names).Nodup := by
  match entries with
  | [] => exact List.nodup_nil
  | (name, t) :: rest =>
    obtain ⟨hnotin, hkeysRest⟩ := List.nodup_cons.mp hkeys
    obtain ⟨-, ht, hrest⟩ := h
    have hbelow : (t.files.map (·.below name)).map Found.names
        = (t.files.map Found.names).map (name :: ·) := by
      rw [List.map_map, List.map_map]
      rfl
    rw [filesOf_cons, List.map_append, hbelow]
    refine List.nodup_append.mpr ⟨?_, nodup_names_filesOf hkeysRest hrest, ?_⟩
    · exact (nodup_names_files ht).map List.cons_injective
    · -- Names that start with `name` lead into its entry, and no other entry has this name.
      rintro names hleft names' hright rfl
      obtain ⟨ns, -, rfl⟩ := List.mem_map.mp hleft
      obtain ⟨g, hg, hnames⟩ := List.mem_map.mp hright
      obtain ⟨other, hother, ns', heq⟩ := exists_names_of_mem_filesOf hg
      rw [hnames] at heq
      exact hnotin ((List.cons.inj heq).1 ▸ hother)

end

/-! ## Paths -/

theorem Found.parts_ne_nil {f : Found} (h : f.names ≠ []) : f.parts ≠ [] := by
  rwa [Found.parts, ne_eq, List.map_eq_nil_iff]

theorem Found.parts_path {f : Found} (h : ∀ name ∈ f.names, Path.IsName name) (root : Path) :
    (f.path root).parts = root.parts ++ f.parts :=
  Path.parts_foldl_join h root

/-- The parts of the path of a found file behind those of the root. -/
theorem Found.partsFrom_path {f : Found} (h : ∀ name ∈ f.names, Path.IsName name) (root : Path) :
    Path.partsFrom root (f.path root) = f.parts :=
  Path.partsFrom_of_append (f.parts_path h root)

theorem part_name_injective : Function.Injective Path.Part.name :=
  fun _ _ h => Path.Part.name.inj h

/-- No two files are found under paths with the same parts. -/
theorem nodup_parts_filesOf {entries : List (String × FileTree)}
    (h : (FileTree.directory entries).WellFormed) (root : Path) :
    ((filesOf entries).map fun f => (f.path root).parts).Nodup := by
  have hparts : ((filesOf entries).map fun f => (f.path root).parts)
      = ((filesOf entries).map Found.names).map fun names =>
          root.parts ++ names.map Path.Part.name := by
    rw [List.map_map]
    exact List.map_congr_left fun f hf => f.parts_path (isName_of_mem_filesOf h.2 hf) root
  rw [hparts]
  refine (nodup_names_filesOf h.1 h.2).map ?_
  intro names names' he
  exact List.map_injective_iff.mpr part_name_injective (List.append_cancel_left he)

end ContractFixtures.FileTree
