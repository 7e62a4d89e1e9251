import ContractFixtures.FileTree.Edit
import ContractFixtures.Proofs.Path.Parts
import Mathlib.Data.List.Nodup

/-!
# Well-formed trees of files

In a well-formed tree the entries of a directory have names, and different ones. What is at a
place of a well-formed tree is well formed, and so is a tree in which something well-formed is put
at a place of names. Paths lead to such places only.

* `FileTree.WellFormed`, `FileSystem.WellFormed`: what every file system guarantees.

Results:
1. `WellFormed.change`: a change keeps a tree well formed.
2. `isName_of_followPieces`: paths lead to places of names.
3. `FileSystem.WellFormed.find`: what a path leads to is well formed.
-/

namespace ContractFixtures

namespace FileTree

mutual

/-- Whether all directories of a tree have entries with names, and with different ones. -/
def WellFormed : FileTree → Prop
  | .file _ => True
  | .directory entries => (entries.map Prod.fst).Nodup ∧ EntriesWellFormed entries
  | .link _ => True

/-- Whether all entries of a directory have names and hold well-formed trees. -/
def EntriesWellFormed : List (String × FileTree) → Prop
  | [] => True
  | (name, t) :: rest => Path.IsName name ∧ t.WellFormed ∧ EntriesWellFormed rest

end

@[simp] theorem wellFormed_file (bytes : List UInt8) : (FileTree.file bytes).WellFormed :=
  trivial

@[simp] theorem wellFormed_link (target : String) : (FileTree.link target).WellFormed :=
  trivial

@[simp] theorem wellFormed_directory (entries : List (String × FileTree)) :
    (FileTree.directory entries).WellFormed ↔
      (entries.map Prod.fst).Nodup ∧ EntriesWellFormed entries := Iff.rfl

@[simp] theorem entriesWellFormed_nil : EntriesWellFormed [] := trivial

@[simp] theorem entriesWellFormed_cons (name : String) (t : FileTree)
    (rest : List (String × FileTree)) :
    EntriesWellFormed ((name, t) :: rest) ↔
      Path.IsName name ∧ t.WellFormed ∧ EntriesWellFormed rest := Iff.rfl

mutual

instance decidableWellFormed : (t : FileTree) → Decidable t.WellFormed
  | .file _ => .isTrue trivial
  | .directory entries =>
    have := decidableEntriesWellFormed entries
    inferInstanceAs (Decidable ((entries.map Prod.fst).Nodup ∧ EntriesWellFormed entries))
  | .link _ => .isTrue trivial

instance decidableEntriesWellFormed :
    (entries : List (String × FileTree)) → Decidable (EntriesWellFormed entries)
  | [] => .isTrue trivial
  | (name, t) :: rest =>
    have := decidableWellFormed t
    have := decidableEntriesWellFormed rest
    inferInstanceAs (Decidable (Path.IsName name ∧ t.WellFormed ∧ EntriesWellFormed rest))

end

/-! ## Places -/

theorem EntriesWellFormed.of_mem {entries : List (String × FileTree)} {name : String}
    {t : FileTree} (h : EntriesWellFormed entries) (hmem : (name, t) ∈ entries) :
    Path.IsName name ∧ t.WellFormed := by
  induction entries with
  | nil => cases hmem
  | cons entry rest ih =>
    obtain ⟨hname, ht, hrest⟩ := h
    rcases List.mem_cons.mp hmem with rfl | hmem
    · exact ⟨hname, ht⟩
    · exact ih hrest hmem

theorem mem_of_lookup {entries : List (String × FileTree)} {name : String} {t : FileTree}
    (h : entries.lookup name = some t) : (name, t) ∈ entries := by
  obtain ⟨before, behind, rfl, -⟩ := List.lookup_eq_some_iff.mp h
  exact List.mem_append_right _ List.mem_cons_self

theorem EntriesWellFormed.lookup {entries : List (String × FileTree)} {name : String}
    {t : FileTree} (h : EntriesWellFormed entries) (ht : entries.lookup name = some t) :
    Path.IsName name ∧ t.WellFormed :=
  h.of_mem (mem_of_lookup ht)

/-- What is at a place of a well-formed tree is well formed. -/
theorem WellFormed.at? {tree t : FileTree} {place : Place} (h : tree.WellFormed)
    (ht : tree.at? place = some t) : t.WellFormed := by
  induction place generalizing tree with
  | nil =>
    rw [FileTree.at?] at ht
    cases ht
    exact h
  | cons name rest ih =>
    cases tree with
    | directory entries =>
      rw [FileTree.at?] at ht
      obtain ⟨node, hnode, hrest⟩ := Option.bind_eq_some_iff.mp ht
      exact ih (h.2.lookup hnode).2 hrest
    | file bytes => cases ht
    | link target => cases ht

/-- A place of a well-formed tree consists of names. -/
theorem WellFormed.isName_of_at? {tree t : FileTree} {place : Place} (h : tree.WellFormed)
    (ht : tree.at? place = some t) : ∀ name ∈ place, Path.IsName name := by
  induction place generalizing tree with
  | nil => exact fun _ hname => absurd hname List.not_mem_nil
  | cons name rest ih =>
    cases tree with
    | directory entries =>
      rw [FileTree.at?] at ht
      obtain ⟨node, hnode, hrest⟩ := Option.bind_eq_some_iff.mp ht
      obtain ⟨hname, hwell⟩ := h.2.lookup hnode
      exact List.forall_mem_cons.mpr ⟨hname, ih hwell hrest⟩
    | file bytes => cases ht
    | link target => cases ht

/-! ## Changed trees -/

theorem mem_keys_changeEntry {name key : String} {node : Option FileTree}
    {entries : List (String × FileTree)}
    (h : key ∈ (changeEntry name node entries).map Prod.fst) :
    key = name ∨ key ∈ entries.map Prod.fst := by
  fun_induction changeEntry name node entries with
  | case1 => cases node <;> simp_all
  | case2 t rest => cases node <;> simp_all
  | case3 other t rest hne ih =>
    rcases List.mem_cons.mp h with rfl | hmem
    · exact .inr List.mem_cons_self
    · exact (ih hmem).imp_right (List.mem_cons_of_mem _)

theorem nodup_keys_changeEntry (name : String) (node : Option FileTree)
    {entries : List (String × FileTree)} (h : (entries.map Prod.fst).Nodup) :
    ((changeEntry name node entries).map Prod.fst).Nodup := by
  fun_induction changeEntry name node entries with
  | case1 => cases node <;> simp
  | case2 t rest => cases node <;> simp_all
  | case3 other t rest hne ih =>
    obtain ⟨hnotin, hrest⟩ := List.nodup_cons.mp h
    refine List.nodup_cons.mpr ⟨fun hmem => ?_, ih hrest⟩
    exact (mem_keys_changeEntry hmem).elim hne hnotin

theorem EntriesWellFormed.changeEntry {name : String} {node : Option FileTree}
    {entries : List (String × FileTree)} (h : EntriesWellFormed entries)
    (hname : Path.IsName name) (hnode : ∀ t, node = some t → t.WellFormed) :
    EntriesWellFormed (changeEntry name node entries) := by
  fun_induction FileTree.changeEntry name node entries with
  | case1 => cases node <;> simp_all
  | case2 t rest => cases node <;> simp_all
  | case3 other t rest hne ih => exact ⟨h.1, h.2.1, ih h.2.2⟩

/-- A tree stays well formed if something well-formed, or nothing, is put at a place of names. -/
theorem WellFormed.change {tree : FileTree} {node : Option FileTree} {place : Place}
    (h : tree.WellFormed) (hplace : ∀ name ∈ place, Path.IsName name)
    (hnode : ∀ t, node = some t → t.WellFormed) : (tree.change node place).WellFormed := by
  fun_induction FileTree.change node place tree with
  | case1 name entries =>
    exact ⟨nodup_keys_changeEntry name node h.1,
      h.2.changeEntry (hplace name List.mem_cons_self) hnode⟩
  | case2 name rest entries hrest t ht ih =>
    obtain ⟨hname, hnames⟩ := List.forall_mem_cons.mp hplace
    refine ⟨nodup_keys_changeEntry name _ h.1, h.2.changeEntry hname ?_⟩
    rintro _ ⟨⟩
    exact ih (h.2.lookup ht).2 hnames
  | case3 => exact h
  | case4 => exact h

/-! ## Places that paths lead to -/

/-- A piece of few characters is no name that is too long. -/
theorem not_tooLong_of_length {piece : List Char} (h : piece.length < 64) :
    ¬ maxNameBytes < Text.byteLength piece := by
  have hbytes : Text.byteLength piece ≤ 4 * piece.length := by
    clear h
    induction piece with
    | nil => exact Nat.le_refl 0
    | cons c cs ih =>
      have hc := c.utf8Size_le_four
      rw [Text.byteLength_cons, List.length_cons]
      omega
  rw [maxNameBytes]
  omega

/-- The place that a target names, whether something is there or not. -/
def Target.place : Target → Place
  | .present place => place
  | .absent holder name => holder ++ [name]

theorem isName_startOf {here : Place} (h : ∀ name ∈ here, Path.IsName name) (cs : List Char) :
    ∀ name ∈ startOf here cs, Path.IsName name := by
  unfold startOf
  split
  · exact fun _ hname => absurd hname List.not_mem_nil
  · exact h

/-- A place that pieces of a path lead to from a place of names consists of names. -/
theorem isName_of_followPieces {tree : FileTree} {purpose : Purpose} {links : Nat} {here : Place}
    {pieces : List (List Char)} {target : Target} (hpieces : ∀ piece ∈ pieces, '/' ∉ piece)
    (hhere : ∀ name ∈ here, Path.IsName name)
    (h : tree.followPieces purpose links here pieces = .ok target) :
    ∀ name ∈ target.place, Path.IsName name := by
  have hnext : ∀ {here : Place} {piece : List Char}, (∀ name ∈ here, Path.IsName name) →
      '/' ∉ piece → ¬ (piece = [] ∨ piece = ['.']) → piece ≠ ['.', '.'] →
      ∀ name ∈ here ++ [String.ofList piece], Path.IsName name := by
    intro here piece hhere hslash hstay hup
    rw [List.forall_mem_append, List.forall_mem_singleton]
    exact ⟨hhere, Path.isName_ofList hslash hstay hup⟩
  -- In the cases that are left out at the end the path leads nowhere.
  fun_induction followPieces tree purpose links here pieces with
  | case1 links here =>
    cases h
    exact hhere
  | case2 links here piece rest hstay ih =>
    exact ih (List.forall_mem_cons.mp hpieces).2 hhere h
  | case3 links here rest hstay ih =>
    exact ih (List.forall_mem_cons.mp hpieces).2
      (fun name hname => hhere name (List.mem_of_mem_dropLast hname)) h
  | case6 links here piece hstay hup hlong name hat hslash =>
    cases h
    exact hnext hhere (List.forall_mem_cons.mp hpieces).1 hstay hup
  | case8 links here piece hstay hup hlong name bytes hat hslash =>
    cases h
    exact hnext hhere (List.forall_mem_cons.mp hpieces).1 hstay hup
  | case10 links here piece rest hstay hup hslash hlong name entries hat ih =>
    obtain ⟨hpiece, hrest⟩ := List.forall_mem_cons.mp hpieces
    exact ih hrest (hnext hhere hpiece hstay hup) h
  | case11 links here piece rest hstay hup hslash hlong name text hat hlast =>
    cases h
    exact hnext hhere (List.forall_mem_cons.mp hpieces).1 hstay hup
  | case13 here piece rest hstay hup hslash hlong name text hat hlast links ih =>
    refine ih (List.forall_mem_append.mpr ⟨?_, (List.forall_mem_cons.mp hpieces).2⟩)
      (isName_startOf hhere _) h
    exact fun piece => Text.not_mem_of_mem_splitAll
  | _ => cases h

end FileTree

/-! ## File systems -/

namespace FileSystem

open FileTree (Purpose Target Place Fault maxPathBytes maxLinks startOf)

/-- Whether the tree of a file system is well formed, with a directory where relative paths are
followed from. -/
structure WellFormed (fs : FileSystem) : Prop where
  tree : fs.tree.WellFormed
  here : ∃ entries, fs.tree.at? fs.here = some (.directory entries)

variable {fs : FileSystem} {purpose : Purpose} {p : Path}

theorem WellFormed.isName_startOf (h : fs.WellFormed) (cs : List Char) :
    ∀ name ∈ startOf fs.here cs, Path.IsName name := by
  obtain ⟨entries, hat⟩ := h.here
  exact FileTree.isName_startOf (h.tree.isName_of_at? hat) cs

/-- A path leads somewhere if it can be followed at all and its pieces lead there. -/
theorem locate_eq_ok_iff {target : Target} :
    fs.locate purpose p = .ok target ↔
      ('\x00' ∉ p.text.toList ∧ Text.byteLength p.text.toList < maxPathBytes ∧
        p.text.toList ≠ []) ∧
      fs.tree.followPieces purpose maxLinks (startOf fs.here p.text.toList)
        (Text.splitAll '/' p.text.toList) = .ok target := by
  rw [locate, locateChars]
  constructor
  · intro h
    split at h
    · cases h
    next hzero =>
    split at h
    · cases h
    next hlong =>
    split at h
    · cases h
    next hempty =>
    rw [List.contains_iff_mem] at hzero
    exact ⟨⟨hzero, Nat.lt_of_not_le hlong, hempty⟩, h⟩
  · rintro ⟨⟨hzero, hlong, hempty⟩, h⟩
    rw [if_neg (by rwa [List.contains_iff_mem]), if_neg (Nat.not_le_of_lt hlong), if_neg hempty, h]

/-- A path of too many bytes leads nowhere. -/
theorem find_of_tooLong (hzero : '\x00' ∉ p.text.toList)
    (hlong : maxPathBytes ≤ Text.byteLength p.text.toList) :
    fs.find purpose p = .error .nameTooLong := by
  have hlocate : fs.locate purpose p = .error .nameTooLong := by
    rw [locate, locateChars, if_neg (by rwa [List.contains_iff_mem]), if_pos hlong]
  rw [find, hlocate]

theorem exists_place_of_find {t : FileTree} (h : fs.find purpose p = .ok t) :
    ∃ place, fs.locate purpose p = .ok (.present place) ∧ fs.tree.at? place = some t := by
  unfold find at h
  split at h
  · cases h
  · cases h
  · next place hlocate =>
    split at h
    · next t' hat =>
      cases h
      exact ⟨place, hlocate, hat⟩
    · cases h

theorem find_of_at? {place : Place} {t : FileTree}
    (hlocate : fs.locate purpose p = .ok (.present place)) (hat : fs.tree.at? place = some t) :
    fs.find purpose p = .ok t := by
  rw [find, hlocate]
  simp only [hat]

/-- What a path leads to in a well-formed file system is well formed. -/
theorem WellFormed.find {t : FileTree} (h : fs.WellFormed) (ht : fs.find purpose p = .ok t) :
    t.WellFormed := by
  obtain ⟨place, -, hat⟩ := exists_place_of_find ht
  exact h.tree.at? hat

theorem isName_of_locate (hw : fs.WellFormed) {target : Target}
    (h : fs.locate purpose p = .ok target) : ∀ name ∈ target.place, Path.IsName name :=
  FileTree.isName_of_followPieces (fun _ => Text.not_mem_of_mem_splitAll)
    (hw.isName_startOf p.text.toList) (locate_eq_ok_iff.mp h).2

end FileSystem

end ContractFixtures
