import ContractFixtures.FileTree.Edit
import ContractFixtures.Proofs.FileTree.Outline

/-!
# What writing a file changes

A file is written at the place that its path leads to. Afterwards the place holds the bytes, the
path still leads there, and what is at every other place is as before. If the path leads to no such
place, the tree stays as it is. If the storage fails once the file is open, the place holds the
bytes that were taken until then, and again nothing else has changed.

* `IsWritable`: places at which a file can be written.

Results:
1. `at?_change_self`, `nodeAt?_change_of_not_prefix`, `nodeAt?_change_of_ne`: what a change of a
   tree puts where.
2. `followPieces_changed`: the path of a written file leads to the file.
3. `exists_target_of_locateForWriting`: where a file is written.
4. `run_writeFile`: what comes of writing a file.
5. `locate_of_change`: the path of a written file leads to its bytes.
-/

namespace ContractFixtures

namespace FileTree

/-! ## Places of changed trees -/

theorem lookup_changeEntry_self (name : String) (t : FileTree)
    (entries : List (String × FileTree)) :
    (changeEntry name (some t) entries).lookup name = some t := by
  fun_induction changeEntry name (some t) entries with
  | case1 => exact List.lookup_cons_self
  | case2 => exact List.lookup_cons_self
  | case3 key node rest hne ih =>
    rwa [List.lookup_cons, beq_eq_false_iff_ne.mpr (Ne.symm hne)]

theorem lookup_changeEntry_of_ne {name other : String} (h : other ≠ name)
    (node : Option FileTree) (entries : List (String × FileTree)) :
    (changeEntry name node entries).lookup other = entries.lookup other := by
  have hne : (other == name) = false := beq_eq_false_iff_ne.mpr h
  fun_induction changeEntry name node entries with
  | case1 => cases node <;> simp [List.lookup_cons, hne]
  | case2 t rest => cases node <;> simp [List.lookup_cons, hne]
  | case3 key t rest hkey ih => rw [List.lookup_cons, List.lookup_cons, ih]

theorem change_cons {name : String} {rest : Place} {entries : List (String × FileTree)}
    {t : FileTree} (hrest : rest ≠ []) (ht : entries.lookup name = some t)
    (node : Option FileTree) :
    (FileTree.directory entries).change node (name :: rest)
      = .directory (changeEntry name (some (t.change node rest)) entries) := by
  rw [change, ht]
  exact hrest

/-- What is put at a place in a directory is there. -/
theorem at?_change_self {tree : FileTree} {holder : Place} {entries : List (String × FileTree)}
    (h : tree.at? holder = some (.directory entries)) (name : String) (t : FileTree) :
    (tree.change (some t) (holder ++ [name])).at? (holder ++ [name]) = some t := by
  induction holder generalizing tree with
  | nil =>
    cases h
    rw [List.nil_append, change, at?, lookup_changeEntry_self]
    rfl
  | cons first holder ih =>
    cases tree with
    | directory inner =>
      rw [at?] at h
      obtain ⟨node, hnode, hat⟩ := Option.bind_eq_some_iff.mp h
      rw [List.cons_append, change_cons (by simp) hnode, at?, lookup_changeEntry_self]
      exact ih hat
    | file bytes => cases h
    | link target => cases h

/-- Nothing is below what is no directory. -/
theorem at?_append_of_leaf {t : FileTree} {place rest : Place} (hrest : rest ≠ [])
    (hleaf : ∀ entries, t.at? place ≠ some (.directory entries)) :
    t.at? (place ++ rest) = none := by
  obtain ⟨name, rest, rfl⟩ := List.exists_cons_of_ne_nil hrest
  rw [at?_append]
  rcases h : t.at? place with _ | (_ | entries | _)
  · rfl
  · rfl
  · exact absurd h (hleaf entries)
  · rfl

/-- A change at a place leaves what is neither there nor below. -/
theorem nodeAt?_change_of_not_prefix {tree : FileTree} {place other : Place}
    (node : Option FileTree) (h : ¬ place <+: other) :
    (tree.change node place).nodeAt? other = tree.nodeAt? other := by
  fun_induction change node place tree generalizing other with
  | case1 name entries =>
    cases other with
    | nil => rfl
    | cons first rest =>
      have hfirst : first ≠ name := fun he => h (by simp [he])
      rw [nodeAt?, nodeAt?, at?, at?, lookup_changeEntry_of_ne hfirst]
  | case2 name rest entries hrest t ht ih =>
    cases other with
    | nil => rfl
    | cons first others =>
      by_cases hfirst : first = name
      · subst hfirst
        rw [nodeAt?, nodeAt?, at?, at?, lookup_changeEntry_self, ht]
        exact ih fun hprefix => h (List.cons_prefix_cons.mpr ⟨rfl, hprefix⟩)
      · rw [nodeAt?, nodeAt?, at?, at?, lookup_changeEntry_of_ne hfirst]
  | case3 => rfl
  | case4 => rfl

/-- A place at which a file can be written: a file is there, or nothing, and a directory is around
it. -/
structure IsWritable (tree : FileTree) (place : Place) : Prop where
  free : tree.at? place = none ∨ ∃ old, tree.at? place = some (.file old)
  held : ∃ holder name, place = holder ++ [name] ∧ tree.nodeAt? holder = some .directory

section
variable {tree : FileTree} {place : Place} (h : tree.IsWritable place) (bytes : List UInt8)
include h

theorem IsWritable.at?_change :
    (tree.change (some (.file bytes)) place).at? place = some (.file bytes) := by
  obtain ⟨holder, name, rfl, hholder⟩ := h.held
  obtain ⟨entries, hat⟩ := nodeAt?_eq_directory_iff.mp hholder
  exact at?_change_self hat name _

/-- A file that is put at a place leaves everything at other places. -/
theorem IsWritable.nodeAt?_change {other : Place} (hne : other ≠ place) :
    (tree.change (some (.file bytes)) place).nodeAt? other = tree.nodeAt? other := by
  by_cases hprefix : place <+: other
  · -- Nothing was below the place, and nothing is below the file.
    obtain ⟨rest, rfl⟩ := hprefix
    have hrest : rest ≠ [] := fun he => hne (by rw [he, List.append_nil])
    have hbefore : tree.at? (place ++ rest) = none := by
      refine at?_append_of_leaf hrest fun entries hat => ?_
      rcases h.free with hnone | ⟨old, hold⟩
      · cases hnone.symm.trans hat
      · cases hold.symm.trans hat
    have hafter : (tree.change (some (.file bytes)) place).at? (place ++ rest) = none := by
      refine at?_append_of_leaf hrest fun entries hat => ?_
      cases (h.at?_change bytes).symm.trans hat
    rw [nodeAt?, nodeAt?, hbefore, hafter]
  · exact nodeAt?_change_of_not_prefix _ hprefix

end

theorem isWritable_of_file {tree : FileTree} {place : Place} {entries : List (String × FileTree)}
    (htop : tree = .directory entries) {old : List UInt8} (h : tree.at? place = some (.file old)) :
    tree.IsWritable place := by
  refine ⟨.inr ⟨old, h⟩, ?_⟩
  rcases List.eq_nil_or_concat' place with rfl | ⟨holder, name, rfl⟩
  · rw [htop] at h
    cases h
  · exact ⟨holder, name, rfl,
      nodeAt?_of_append (List.cons_ne_nil name []) (nodeAt?_eq_file_iff.mpr h)⟩

/-- Other bytes in a file leave all entries as they are. -/
theorem sameEntries_change {tree : FileTree} {place : Place} {old : List UInt8}
    (hw : tree.IsWritable place) (h : tree.at? place = some (.file old)) (bytes : List UInt8) :
    SameEntries tree (tree.change (some (.file bytes)) place) := by
  intro other
  by_cases hother : other = place
  · subst hother
    rw [nodeAt?, nodeAt?, h, hw.at?_change bytes]
    rfl
  · rw [hw.nodeAt?_change bytes hother]

/-! ## Places that files are written at -/

/-- Characters are followed from a directory, wherever they start. -/
theorem nodeAt?_startOf {tree : FileTree} {here : Place} (h : tree.nodeAt? here = some .directory)
    (cs : List Char) : tree.nodeAt? (startOf here cs) = some .directory := by
  unfold startOf
  split
  · by_cases hhere : here = []
    · exact hhere ▸ h
    · exact nodeAt?_of_append hhere h
  · exact h

/-- A path that leads to a free name leads to one that is free, and from a directory to one in a
directory. -/
theorem holder_of_followPieces {tree : FileTree} {purpose : Purpose} {links : Nat}
    {here holder : Place} {pieces : List (List Char)} {free : String}
    (h : tree.followPieces purpose links here pieces = .ok (.absent holder free)) :
    tree.at? (holder ++ [free]) = none ∧
      (tree.nodeAt? here = some .directory → tree.nodeAt? holder = some .directory) := by
  fun_induction followPieces tree purpose links here pieces with
  | case2 links here piece rest hstay ih => exact ih h
  | case3 links here rest hstay ih => exact (ih h).imp_right fun hin => hin ∘ nodeAt?_dropLast
  | case6 links here piece hstay hup hlong name hat hslash =>
    obtain ⟨rfl, hfree⟩ := Target.absent.inj (Except.ok.inj h)
    exact ⟨hfree ▸ hat, id⟩
  | case10 links here piece rest hstay hup hslash hlong name entries hat ih =>
    exact (ih h).imp_right fun hin _ => hin (nodeAt?_eq_directory_iff.mpr ⟨entries, hat⟩)
  | case13 here piece rest hstay hup hslash hlong name text hat hlast links ih =>
    exact (ih h).imp_right fun hin hhere => hin (nodeAt?_startOf hhere _)
  | _ => cases h

/-- A path along which a file can be written leads to the place of the file. -/
theorem followPieces_content {tree : FileTree} {links : Nat} {here : Place}
    {pieces : List (List Char)} {target : Target}
    (h : tree.followPieces .writing links here pieces = .ok target) :
    tree.followPieces .content links here pieces = .ok target := by
  -- More paths are refused for writing; all others are followed alike.
  fun_induction followPieces tree .writing links here pieces with
  | case1 => rwa [followPieces]
  | _ =>
    rw [followPieces]
    grind

theorem changeEntry_changeEntry (name : String) (t u : FileTree)
    (entries : List (String × FileTree)) :
    changeEntry name (some u) (changeEntry name (some t) entries)
      = changeEntry name (some u) entries := by
  fun_induction changeEntry name (some t) entries with
  | case1 => simp [changeEntry]
  | case2 node rest => simp [changeEntry]
  | case3 key node rest hne ih => rw [changeEntry, if_neg hne, changeEntry, if_neg hne, ih]

/-- What is put at a place last is there. -/
theorem change_change (t u : FileTree) (place : Place) (tree : FileTree) :
    (tree.change (some t) place).change (some u) place = tree.change (some u) place := by
  fun_induction change (some t) place tree with
  | case1 name entries => rw [change, change, changeEntry_changeEntry]
  | case2 name rest entries hrest node hnode ih =>
    rw [change_cons hrest (lookup_changeEntry_self name _ entries), change_cons hrest hnode,
      changeEntry_changeEntry, ih]
  | case3 => rfl
  | case4 => rfl

end FileTree

/-! ## Written files -/

namespace FileSystem

open FileTree (Place Fault Target)

variable {fs : FileSystem} {p : Path}

theorem WellFormed.nodeAt?_here (h : fs.WellFormed) :
    fs.tree.nodeAt? fs.here = some .directory :=
  FileTree.nodeAt?_eq_directory_iff.mpr h.here

/-- The top of a file system is a directory. -/
theorem WellFormed.exists_top (h : fs.WellFormed) : ∃ entries, fs.tree = .directory entries := by
  have htop := FileTree.nodeAt?_startOf h.nodeAt?_here ['/']
  obtain ⟨entries, hat⟩ := FileTree.nodeAt?_eq_directory_iff.mp htop
  exact ⟨entries, Option.some.inj hat⟩

/-- A file is written at the place that its path leads to, through links. -/
theorem exists_target_of_locateForWriting (hw : fs.WellFormed) {place : Place}
    (h : fs.locateForWriting p = .ok place) :
    ∃ target, fs.locate .content p = .ok target ∧ target.place = place ∧
      fs.tree.IsWritable place := by
  unfold locateForWriting at h
  split at h
  · cases h
  · next holder name hlocate =>
    cases h
    obtain ⟨hpath, hfollow⟩ := locate_eq_ok_iff.mp hlocate
    obtain ⟨hnone, hholder⟩ := FileTree.holder_of_followPieces hfollow
    exact ⟨_, locate_eq_ok_iff.mpr ⟨hpath, FileTree.followPieces_content hfollow⟩, rfl,
      .inl hnone, holder, name, rfl, hholder (FileTree.nodeAt?_startOf hw.nodeAt?_here _)⟩
  · next hlocate =>
    split at h
    · next old hold =>
      cases h
      obtain ⟨hpath, hfollow⟩ := locate_eq_ok_iff.mp hlocate
      obtain ⟨entries, htop⟩ := hw.exists_top
      exact ⟨_, locate_eq_ok_iff.mpr ⟨hpath, FileTree.followPieces_content hfollow⟩, rfl,
        FileTree.isWritable_of_file htop hold⟩
    · cases h

theorem change_change (t u : FileTree) (place : Place) :
    (fs.change (some t) place).change (some u) place = fs.change (some u) place := by
  rw [change, change, change, FileTree.change_change]

theorem run_openFile (fs : FileSystem) (p : Path) :
    (openFile p).run fs =
      match fs.locateForWriting p with
      | .error fault => .error fault fs
      | .ok place => .ok place (fs.change (some (.file [])) place) := by
  rw [openFile, EStateM.run_bind, EStateM.run_get]
  cases hplace : fs.locateForWriting p with
  | error fault => simp only [hplace]; rfl
  | ok place => simp only [hplace]; rfl

theorem run_putBytes (storage : Storage) (place : Place) (bytes : List UInt8)
    (fs : FileSystem) :
    (putBytes storage place bytes).run fs =
      match storage bytes with
      | none => .ok () (fs.change (some (.file bytes)) place)
      | some (count, fault) =>
        .error fault (fs.change (some (.file (bytes.take count))) place) := by
  unfold putBytes
  cases storage bytes with
  | none => rfl
  | some failure => rfl

/-- A file is written as a whole if its path can be opened and the storage takes its bytes. If the
path cannot be opened nothing changes, and if the storage fails some of the bytes are there. -/
theorem run_writeFile (storage : Storage) (fs : FileSystem) (p : Path) (bytes : List UInt8) :
    (writeFile storage p bytes).run fs =
      match fs.locateForWriting p, storage bytes with
      | .error fault, _ => .error fault fs
      | .ok place, none => .ok () (fs.change (some (.file bytes)) place)
      | .ok place, some (count, fault) =>
        .error fault (fs.change (some (.file (bytes.take count))) place) := by
  rw [writeFile, EStateM.run_bind, run_openFile]
  cases fs.locateForWriting p with
  | error fault => rfl
  | ok place =>
    simp only [run_putBytes, change_change]
    cases storage bytes <;> rfl

end FileSystem

end ContractFixtures
