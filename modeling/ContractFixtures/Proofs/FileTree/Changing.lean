import ContractFixtures.Proofs.FileTree.Writing

/-!
# Changes keep file systems well formed

Whatever is made, written or removed, a well-formed file system stays well formed: what is put into
it has a name of its own, and the place from which relative paths are followed stays a directory.

Results:
1. `WellFormed.writeFile`: writing, whether it succeeds or not.
2. `WellFormed.putDirectory`, `WellFormed.putFile`, `WellFormed.putLink`: making entries.
3. `WellFormed.remove`: removing entries.
-/

namespace ContractFixtures.FileSystem

open FileTree (Place Target)

variable {fs : FileSystem}

/-- A change at a place of names leaves a file system well formed, unless relative paths are
followed from there or from below. -/
theorem WellFormed.change {node : Option FileTree} {place : Place} (h : fs.WellFormed)
    (hplace : ∀ name ∈ place, Path.IsName name) (hnode : ∀ t, node = some t → t.WellFormed)
    (hhere : ¬ place <+: fs.here) : (fs.change node place).WellFormed where
  tree := h.tree.change hplace hnode
  here := by
    refine FileTree.nodeAt?_eq_directory_iff.mp ?_
    rw [← h.nodeAt?_here]
    exact FileTree.nodeAt?_change_of_not_prefix node hhere

/-- What is no directory is not on the way to the place from which relative paths are followed. -/
theorem WellFormed.not_prefix_here {place : Place} (h : fs.WellFormed)
    (hplace : ∀ entries, fs.tree.at? place ≠ some (.directory entries)) : ¬ place <+: fs.here := by
  rintro ⟨rest, hrest⟩
  have hhere : fs.tree.nodeAt? (place ++ rest) = some .directory := hrest ▸ h.nodeAt?_here
  have hdirectory : fs.tree.nodeAt? place = some .directory := by
    by_cases hnil : rest = []
    · rwa [hnil, List.append_nil] at hhere
    · exact FileTree.nodeAt?_of_append hnil hhere
  obtain ⟨entries, hat⟩ := FileTree.nodeAt?_eq_directory_iff.mp hdirectory
  exact hplace entries hat

/-! ## Writing -/

/-- Writing a file keeps a file system well formed, whatever the storage does. -/
theorem WellFormed.writeFile (h : fs.WellFormed) (storage : Storage) (p : Path)
    (bytes : List UInt8) : (after (writeFile storage p bytes) fs).WellFormed := by
  rw [after, run_writeFile]
  cases hplace : fs.locateForWriting p with
  | error fault => exact h
  | ok place =>
    obtain ⟨target, hlocate, rfl, hwritable⟩ := exists_target_of_locateForWriting h hplace
    have hleaf : ∀ entries, fs.tree.at? target.place ≠ some (.directory entries) := by
      intro entries hat
      rcases hwritable.free with hnone | ⟨old, hold⟩
      · cases hnone.symm.trans hat
      · cases hold.symm.trans hat
    have hfile (bytes : List UInt8) :
        (fs.change (some (.file bytes)) target.place).WellFormed := by
      refine h.change (isName_of_locate h hlocate) ?_ (h.not_prefix_here hleaf)
      rintro _ ⟨⟩
      exact FileTree.wellFormed_file bytes
    cases storage bytes with
    | none => exact hfile bytes
    | some failure => exact hfile (bytes.take failure.1)

/-! ## Making -/

theorem WellFormed.makeDirectories {place : Place} {pieces : List (List Char)}
    (h : fs.WellFormed) (hpieces : ∀ piece ∈ pieces, '/' ∉ piece)
    (hplace : ∀ name ∈ place, Path.IsName name) :
    (fs.makeDirectories place pieces).WellFormed := by
  induction pieces generalizing fs place with
  | nil => exact h
  | cons piece rest ih =>
    obtain ⟨hpiece, hrest⟩ := List.forall_mem_cons.mp hpieces
    have hone : ∀ p ∈ [piece], '/' ∉ p := List.forall_mem_singleton.mpr hpiece
    rw [FileSystem.makeDirectories]
    split
    · next next hnext => exact ih h hrest (FileTree.isName_of_followPieces hone hplace hnext)
    · next holder name hnext =>
      have hnames := FileTree.isName_of_followPieces hone hplace hnext
      have hfree := (FileTree.holder_of_followPieces hnext).1
      refine ih (h.change hnames ?_ (h.not_prefix_here fun entries hat => ?_)) hrest hnames
      · rintro _ ⟨⟩
        exact ⟨List.nodup_nil, trivial⟩
      · cases hfree.symm.trans hat
    · exact h

theorem WellFormed.makeAll (h : fs.WellFormed) (cs : List Char) : (fs.makeAll cs).WellFormed :=
  h.makeDirectories (fun _ => Text.not_mem_of_mem_splitAll) (h.isName_startOf cs)

/-- Making directories keeps a file system well formed. -/
theorem WellFormed.putDirectory (h : fs.WellFormed) (p : Path) : (fs.putDirectory p).WellFormed :=
  h.makeAll p.text.toList

theorem WellFormed.putParents (h : fs.WellFormed) (p : Path) : (fs.putParents p).WellFormed :=
  h.makeAll (parentChars p.text.toList)

/-- Adding a file keeps a file system well formed. -/
theorem WellFormed.putFile (h : fs.WellFormed) (p : Path) (bytes : List UInt8) :
    (fs.putFile p bytes).WellFormed :=
  (h.putParents p).writeFile .sound p bytes

theorem WellFormed.replace {node : Option FileTree} {place : Place} (h : fs.WellFormed)
    (hplace : ∀ name ∈ place, Path.IsName name) (hnode : ∀ t, node = some t → t.WellFormed) :
    (fs.replace node place).WellFormed := by
  unfold FileSystem.replace
  split
  · exact h
  · next hhere => exact h.change hplace hnode (by rwa [List.isPrefixOf_iff_prefix] at hhere)

/-- Adding a link keeps a file system well formed. -/
theorem WellFormed.putLink (h : fs.WellFormed) (p : Path) (target : String) :
    (fs.putLink p target).WellFormed := by
  have hlink : ∀ t, some (FileTree.link target) = some t → t.WellFormed := by
    rintro _ ⟨⟩
    exact FileTree.wellFormed_link target
  have hparents := h.putParents p
  simp only [FileSystem.putLink]
  split
  · split
    · next holder name hlocate => exact hparents.replace (isName_of_locate hparents hlocate) hlink
    · next place hlocate => exact hparents.replace (isName_of_locate hparents hlocate) hlink
    · exact hparents
  · exact hparents

/-! ## Removing -/

/-- Removing keeps a file system well formed. -/
theorem WellFormed.remove (h : fs.WellFormed) (p : Path) : (fs.remove p).WellFormed := by
  unfold FileSystem.remove
  split
  · next place hlocate => exact h.replace (isName_of_locate h hlocate) (fun _ he => by cases he)
  · exact h

end ContractFixtures.FileSystem
