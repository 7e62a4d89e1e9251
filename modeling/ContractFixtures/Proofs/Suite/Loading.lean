import ContractFixtures.Proofs.FileTree.Reading
import ContractFixtures.Proofs.Record.Documents
import ContractFixtures.Suite.Basic
import Mathlib.Data.List.Perm.Basic

/-!
# Loading suites

A suite loads if every kept file can be opened by its path and holds groups. It then has one file
for each of them, in the order of their paths, whatever the order is in which the walk finds them;
otherwise the fault is that of a kept file.

* `Holds`: bytes that are the text of groups.
* `CanLoad`: files that can be opened by their paths and hold groups.
* `Loaded`: what a skip list leaves of the groups that a file holds.

Results:
1. `FixtureFile.load_path_eq_ok_iff`: what a found file is loaded as.
2. `FixtureFile.cases_filtered`: the cases that a skip list leaves of a file.
3. `loadAll_eq_ok_iff`: files are loaded one for one.
4. `pairwise_sortFiles`: files of different paths are sorted without ties.
5. `load_kept_files`: what loading a suite gives.
-/

namespace ContractFixtures

/-! ## Files -/

/-- The path that a fault is about. -/
def LoadFault.path : LoadFault → Path
  | .unusable path _ => path
  | .unwalkable path _ => path
  | .notDirectory path => path
  | .malformed path _ => path

namespace FixtureFile

/-- Whether bytes are a text that denotes groups. -/
def Holds (bytes : List UInt8) (groups : List Group) : Prop :=
  ∃ text, Text.ofBytes? bytes = some text ∧ Group.decodeList text = .ok groups

/-- The groups that bytes hold are settled by the bytes. -/
theorem groups_of_holds {bytes : List UInt8} {groups groups' : List Group}
    (h : Holds bytes groups) (h' : Holds bytes groups') : groups = groups' := by
  obtain ⟨text, htext, hgroups⟩ := h
  obtain ⟨text', htext', hgroups'⟩ := h'
  rw [htext] at htext'
  cases htext'
  exact Except.ok.inj (hgroups.symm.trans hgroups')

/-- The indented text of groups holds the groups. -/
theorem holds_text (f : FixtureFile) : Holds (Text.bytesOf f.text.toList) f.groups :=
  ⟨f.text, Text.ofBytes?_bytesOf f.text, Group.decodeList_encodeListPretty f.groups⟩

/-- A path that leads to bytes is loaded as the groups that they hold. -/
theorem load_eq_ok_iff_of_find {fs : FileSystem} {path : Path} {bytes : List UInt8}
    (hfind : fs.find .content path = .ok (.file bytes)) {file : FixtureFile} :
    load fs path = .ok file ↔ ∃ groups, Holds bytes groups ∧ file = ⟨path, groups⟩ := by
  unfold load ofText Holds FileSystem.readText
  simp only [hfind]
  cases htext : Text.ofBytes? bytes with
  | none => simp
  | some text => cases hdecode : Group.decodeList text <;> simp [hdecode, eq_comm]

/-- A path that cannot be loaded is refused with its own name. -/
theorem path_of_load_error {fs : FileSystem} {path : Path} {fault : LoadFault}
    (h : load fs path = .error fault) : fault.path = path := by
  unfold load ofText at h
  split at h
  · cases h
    rfl
  · split at h
    · cases h
      rfl
    · cases h

section
variable {fs : FileSystem} {root : Path} {entries : List (String × FileTree)}
  (hw : (FileTree.directory entries).WellFormed)
  (hroot : fs.find .content root = .ok (.directory entries)) {f : FileTree.Found}
  (hf : f ∈ FileTree.filesOf entries)
include hw hroot hf

theorem find_path_of_pathExists (hexists : fs.pathExists (f.path root) = true) :
    fs.find .content (f.path root) = .ok (.file f.bytes) :=
  FileSystem.find_join_of_pathExists hw hroot (FileTree.at?_of_mem_filesOf hw.1 hw.2 hf)
    (fun _ => FileTree.noConfusion) hexists

/-- A found file is loaded by its path if that can be opened, and then as the groups that its bytes
hold. -/
theorem load_path_eq_ok_iff {file : FixtureFile} :
    load fs (f.path root) = .ok file ↔
      fs.pathExists (f.path root) = true ∧
        ∃ groups, Holds f.bytes groups ∧ file = ⟨f.path root, groups⟩ := by
  cases hexists : fs.pathExists (f.path root) with
  | true =>
    rw [load_eq_ok_iff_of_find (find_path_of_pathExists hw hroot hf hexists), eq_self, true_and]
  | false =>
    refine iff_of_false (fun h => ?_) (fun h => Bool.false_ne_true h.1)
    unfold FileSystem.pathExists at hexists
    unfold load FileSystem.readText at h
    cases hfind : fs.find .content (f.path root) with
    | error fault =>
      rw [hfind] at h
      cases h
    | ok t =>
      rw [hfind] at hexists
      cases hexists

end

/-- A skip list leaves the cases of a file that it does not name, in their order. -/
theorem cases_filtered (skip : SkipList) (f : FixtureFile) :
    (f.filtered skip).cases = f.cases.filter fun c => !skip.skipsCase f.path c.method := by
  unfold filtered cases
  rw [List.filter_flatten]
  exact List.flatten_filter_not_isEmpty

end FixtureFile

namespace Suite

/-- The files that a skip list keeps of the files found from a root. -/
def kept (root : Path) (skip : SkipList) (found : List FileTree.Found) : List FileTree.Found :=
  found.filter fun f => !skip.skipsParts (Path.partsFrom root (f.path root))

theorem kept_sublist (root : Path) (skip : SkipList) (found : List FileTree.Found) :
    (kept root skip found).Sublist found :=
  List.filter_sublist

theorem kept_perm (root : Path) (skip : SkipList) {order found : List FileTree.Found}
    (h : order.Perm found) : (kept root skip order).Perm (kept root skip found) :=
  h.filter _

/-- Whether a file that was found from a root can be opened by its path and holds groups. -/
def CanLoad (fs : FileSystem) (root : Path) (f : FileTree.Found) : Prop :=
  fs.pathExists (f.path root) = true ∧ ∃ groups, FixtureFile.Holds f.bytes groups

/-- Whether a file that was found from a root is loaded as a fixture file: its groups are those
that it holds, without the cases that the skip list names and without the groups in which no case
is left. -/
def Loaded (root : Path) (skip : SkipList) (f : FileTree.Found) (file : FixtureFile) : Prop :=
  file.path = f.path root ∧
    ∃ groups, FixtureFile.Holds f.bytes groups ∧
      file.groups = (groups.map fun group =>
        group.filter fun c => !skip.skipsCase file.path c.method).filter (· ≠ [])

theorem decide_ne_nil (group : Group) : decide (group ≠ []) = !group.isEmpty := by
  cases group <;> rfl

theorem loaded_iff {root : Path} {skip : SkipList} {f : FileTree.Found} {file : FixtureFile} :
    Loaded root skip f file ↔
      ∃ groups, FixtureFile.Holds f.bytes groups ∧
        file = FixtureFile.filtered skip ⟨f.path root, groups⟩ := by
  constructor
  · rintro ⟨hpath, groups, hholds, hgroups⟩
    refine ⟨groups, hholds, ?_⟩
    obtain ⟨path, kept⟩ := file
    cases hpath
    rw [FixtureFile.filtered, FixtureFile.mk.injEq]
    refine ⟨rfl, hgroups.trans ?_⟩
    exact List.filter_congr fun group _ => decide_ne_nil group
  · rintro ⟨groups, hholds, rfl⟩
    refine ⟨rfl, groups, hholds, ?_⟩
    exact List.filter_congr fun group _ => (decide_ne_nil group).symm

/-! ## Loading files one after the other -/

variable {fs : FileSystem} {root : Path} {skip : SkipList} {found : List FileTree.Found}

/-- Files are loaded one for one. -/
theorem loadAll_eq_ok_iff_load {files : List FixtureFile} :
    (∃ events, loadAll fs root skip found = .ok (files, events)) ↔
      List.Forall₂ (fun f file => ∃ whole, FixtureFile.load fs (f.path root) = .ok whole ∧
        file = whole.filtered skip) found files := by
  induction found generalizing files with
  | nil => simp [loadAll]
  | cons f rest ih =>
    rw [List.forall₂_cons_left_iff]
    constructor
    · rintro ⟨events, h⟩
      rw [loadAll] at h
      split at h
      · cases h
      · next whole hwhole =>
        split at h
        · cases h
        · next others said hrest =>
          cases h
          exact ⟨_, _, ⟨whole, hwhole, rfl⟩, ih.mp ⟨said, hrest⟩, rfl⟩
    · rintro ⟨file, others, ⟨whole, hwhole, rfl⟩, hothers, rfl⟩
      obtain ⟨said, hrest⟩ := ih.mpr hothers
      refine ⟨whole.skippedCases skip ++ said, ?_⟩
      simp only [loadAll, hwhole, hrest]

/-- Files fail to load with the fault of one of them. -/
theorem exists_of_loadAll_error {fault : LoadFault}
    (h : loadAll fs root skip found = .error fault) :
    ∃ f ∈ found, FixtureFile.load fs (f.path root) = .error fault := by
  induction found with
  | nil => cases h
  | cons f rest ih =>
    rw [loadAll] at h
    split at h
    · next fault' hfault =>
      cases h
      exact ⟨f, List.mem_cons_self, hfault⟩
    · split at h
      · next fault' hrest =>
        cases h
        obtain ⟨g, hg, hfault⟩ := ih hrest
        exact ⟨g, List.mem_cons_of_mem _ hg, hfault⟩
      · cases h

section
variable {entries : List (String × FileTree)} (hw : (FileTree.directory entries).WellFormed)
  (hroot : fs.find .content root = .ok (.directory entries))
include hw hroot

/-- A found file is loaded if it can be opened, and then as what the skip list leaves of it. -/
theorem exists_load_filtered_iff {f : FileTree.Found} (hf : f ∈ FileTree.filesOf entries)
    {file : FixtureFile} :
    (∃ whole, FixtureFile.load fs (f.path root) = .ok whole ∧ file = whole.filtered skip) ↔
      fs.pathExists (f.path root) = true ∧ Loaded root skip f file := by
  simp only [FixtureFile.load_path_eq_ok_iff hw hroot hf, loaded_iff]
  constructor
  · rintro ⟨whole, ⟨hexists, groups, hholds, rfl⟩, rfl⟩
    exact ⟨hexists, groups, hholds, rfl⟩
  · rintro ⟨hexists, groups, hholds, rfl⟩
    exact ⟨_, ⟨hexists, groups, hholds, rfl⟩, rfl⟩

theorem canLoad_iff {f : FileTree.Found} (hf : f ∈ FileTree.filesOf entries) :
    CanLoad fs root f ↔ ∃ whole, FixtureFile.load fs (f.path root) = .ok whole := by
  simp only [FixtureFile.load_path_eq_ok_iff hw hroot hf]
  constructor
  · rintro ⟨hexists, groups, hholds⟩
    exact ⟨_, hexists, groups, hholds, rfl⟩
  · rintro ⟨whole, hexists, groups, hholds, -⟩
    exact ⟨hexists, groups, hholds⟩

variable (hfound : ∀ f ∈ found, f ∈ FileTree.filesOf entries)
include hfound

/-- Found files are loaded one for one if all of them can be opened. -/
theorem loadAll_eq_ok_iff {files : List FixtureFile} :
    (∃ events, loadAll fs root skip found = .ok (files, events)) ↔
      (∀ f ∈ found, fs.pathExists (f.path root) = true) ∧
        List.Forall₂ (Loaded root skip) found files := by
  rw [loadAll_eq_ok_iff_load]
  induction found generalizing files with
  | nil => simp
  | cons f rest ih =>
    obtain ⟨hf, hrest⟩ := List.forall_mem_cons.mp hfound
    simp only [List.forall₂_cons_left_iff, ih hrest, exists_load_filtered_iff hw hroot hf,
      List.forall_mem_cons]
    constructor
    · rintro ⟨file, others, ⟨hexists, hfile⟩, ⟨hall, hothers⟩, rfl⟩
      exact ⟨⟨hexists, hall⟩, file, others, hfile, hothers, rfl⟩
    · rintro ⟨⟨hexists, hall⟩, file, others, hfile, hothers, rfl⟩
      exact ⟨file, others, ⟨hexists, hfile⟩, ⟨hall, hothers⟩, rfl⟩

variable (skip) in
/-- Found files load if each of them can be opened and holds groups. -/
theorem exists_loadAll_iff :
    (∃ files events, loadAll fs root skip found = .ok (files, events)) ↔
      ∀ f ∈ found, CanLoad fs root f := by
  simp only [loadAll_eq_ok_iff_load]
  induction found with
  | nil => simp
  | cons f rest ih =>
    obtain ⟨hf, hrest⟩ := List.forall_mem_cons.mp hfound
    rw [List.forall_mem_cons, ← ih hrest, canLoad_iff hw hroot hf]
    constructor
    · rintro ⟨files, h⟩
      obtain ⟨file, others, ⟨whole, hwhole, -⟩, hothers, -⟩ := List.forall₂_cons_left_iff.mp h
      exact ⟨⟨whole, hwhole⟩, ⟨others, hothers⟩⟩
    · rintro ⟨⟨whole, hwhole⟩, ⟨others, hothers⟩⟩
      exact ⟨_ :: others, .cons ⟨whole, hwhole, rfl⟩ hothers⟩

end

/-! ## The order of files -/

theorem sortFiles_perm (files : List FixtureFile) : (sortFiles files).Perm files :=
  List.mergeSort_perm files _

theorem pairwise_isLE_sortFiles (files : List FixtureFile) :
    (sortFiles files).Pairwise fun a b => (compare a.path b.path).isLE := by
  refine List.pairwise_mergeSort ?_ ?_ files
  · intro a b c hab hbc
    exact Path.compare_isLE_trans hab hbc
  · intro a b
    rw [Bool.or_eq_true]
    exact Path.compare_isLE_total a.path b.path

/-- Files of different paths are sorted without ties. -/
theorem pairwise_sortFiles {files : List FixtureFile} (h : (files.map (·.path.parts)).Nodup) :
    (sortFiles files).Pairwise fun a b => compare a.path b.path = .lt := by
  have hdiffer : (sortFiles files).Pairwise fun a b => a.path.parts ≠ b.path.parts :=
    List.pairwise_map.mp (((sortFiles_perm files).map _).nodup_iff.mpr h)
  refine ((pairwise_isLE_sortFiles files).and hdiffer).imp ?_
  rintro a b ⟨hle, hne⟩
  exact Path.compare_eq_lt_of_isLE hle hne

/-- Lists of the same elements are equal if both ascend by the same parts. -/
theorem eq_of_perm_of_ascending {α : Type} (parts : α → List Path.Part) {as bs : List α}
    (h : as.Perm bs) (has : as.Pairwise fun a b => compare (parts a) (parts b) = .lt)
    (hbs : bs.Pairwise fun a b => compare (parts a) (parts b) = .lt) : as = bs := by
  refine h.eq_of_pairwise ?_ has hbs
  intro a b _ _ hlt hgt
  rw [Std.OrientedOrd.eq_swap (a := parts a), hgt] at hlt
  cases hlt

/-- Files that are in the order of their paths are what sorting gives. -/
theorem sortFiles_eq {files sorted : List FixtureFile} (hperm : sorted.Perm files)
    (hsorted : sorted.Pairwise fun a b => compare a.path b.path = .lt) :
    sortFiles files = sorted := by
  have hdiffer : sorted.Pairwise fun a b => a.path.parts ≠ b.path.parts := by
    refine hsorted.imp fun {a b} hlt he => ?_
    have hself : compare a.path.parts b.path.parts = .lt := hlt
    rw [he, Std.ReflOrd.compare_self] at hself
    cases hself
  have hnodup : (files.map (·.path.parts)).Nodup :=
    (hperm.map _).nodup_iff.mp (List.pairwise_map.mpr hdiffer)
  exact eq_of_perm_of_ascending (·.path.parts) ((sortFiles_perm files).trans hperm.symm)
    (pairwise_sortFiles hnodup) hsorted

/-- Loaded files have the paths of the files that were found. -/
theorem map_path_of_forall₂ {files : List FixtureFile}
    (h : List.Forall₂ (Loaded root skip) found files) :
    files.map (·.path) = found.map (·.path root) := by
  induction h with
  | nil => rfl
  | cons hfile _ ih =>
    rw [List.map_cons, List.map_cons, hfile.1, ih]

theorem map_parts_of_forall₂ {files : List FixtureFile}
    (h : List.Forall₂ (Loaded root skip) found files) :
    files.map (·.path.parts) = found.map fun f => (f.path root).parts := by
  have hparts := congrArg (List.map Path.parts) (map_path_of_forall₂ h)
  rw [List.map_map, List.map_map] at hparts
  exact hparts

/-- Sorting loaded files matches them with the files that were found in another order. -/
theorem exists_perm_sortFiles {files : List FixtureFile}
    (h : List.Forall₂ (Loaded root skip) found files) :
    ∃ sorted, sorted.Perm found ∧ List.Forall₂ (Loaded root skip) sorted (sortFiles files) := by
  have hcomp : Relation.Comp (List.Forall₂ (Loaded root skip)) List.Perm found (sortFiles files) :=
    ⟨files, h, (sortFiles_perm files).symm⟩
  rw [List.forall₂_comp_perm_eq_perm_comp_forall₂] at hcomp
  obtain ⟨sorted, hperm, hloaded⟩ := hcomp
  exact ⟨sorted, hperm.symm, hloaded⟩

/-! ## Loading what was found -/

section
variable {entries : List (String × FileTree)} (hw : (FileTree.directory entries).WellFormed)
  (hroot : fs.find .content root = .ok (.directory entries))
  (hfound : ∀ f ∈ found, f ∈ FileTree.filesOf entries)
include hw hfound

variable (root skip) in
theorem kept_eq :
    (found.filter fun f => !skip.skipsParts f.parts) = kept root skip found :=
  List.filter_congr fun f hf => by
    rw [f.partsFrom_path (FileTree.isName_of_mem_filesOf hw.2 (hfound f hf))]

theorem exists_of_loadFound_error {fault : LoadFault}
    (h : loadFound fs root skip found = .error fault) :
    ∃ f ∈ kept root skip found, FixtureFile.load fs (f.path root) = .error fault := by
  simp only [loadFound, kept_eq root skip hw hfound] at h
  split at h
  · next fault' hload =>
    cases h
    exact exists_of_loadAll_error hload
  · cases h

include hroot

theorem exists_of_loadFound_ok {suite : Suite} {events : List Event}
    (h : loadFound fs root skip found = .ok (suite, events)) :
    ∃ files, (∀ f ∈ kept root skip found, fs.pathExists (f.path root) = true) ∧
      List.Forall₂ (Loaded root skip) (kept root skip found) files ∧
      suite = ⟨root, sortFiles files⟩ := by
  have hkept : ∀ f ∈ kept root skip found, f ∈ FileTree.filesOf entries := fun f hf =>
    hfound f ((kept_sublist root skip found).subset hf)
  simp only [loadFound, kept_eq root skip hw hfound] at h
  split at h
  · cases h
  · next files said hload =>
    cases h
    obtain ⟨hexists, hloaded⟩ := (loadAll_eq_ok_iff hw hroot hkept).mp ⟨said, hload⟩
    exact ⟨files, hexists, hloaded, rfl⟩

theorem exists_loadFound_iff :
    (∃ suite events, loadFound fs root skip found = .ok (suite, events)) ↔
      ∀ f ∈ kept root skip found, CanLoad fs root f := by
  have hkept : ∀ f ∈ kept root skip found, f ∈ FileTree.filesOf entries := fun f hf =>
    hfound f ((kept_sublist root skip found).subset hf)
  rw [← exists_loadAll_iff skip hw hroot hkept]
  simp only [loadFound, kept_eq root skip hw hfound]
  cases loadAll fs root skip (kept root skip found) with
  | error fault => simp
  | ok result => exact iff_of_true ⟨_, _, rfl⟩ ⟨result.1, result.2, rfl⟩

end

/-! ## Suites -/

theorem load_eq_loadFound (h : fs.isDirectory root = true)
    (hfound : fixturesBelow fs root = .ok found) :
    load fs root skip = loadFound fs root skip found := by
  simp [load, h, hfound]

theorem load_of_walk_error {obstacle : FileSystem.Obstacle} (h : fs.isDirectory root = true)
    (hwalk : fs.walk root = .error obstacle) :
    load fs root skip = .error (.unwalkable obstacle.path obstacle.fault) := by
  simp [load, h, fixturesBelow, hwalk]

/-- The fixture files that a walk from a directory finds if it gets to its end. -/
theorem fixturesBelow_eq_ok_iff {entries : List (String × FileTree)}
    (hroot : fs.find .content root = .ok (.directory entries)) :
    fixturesBelow fs root = .ok found ↔
      fs.Opens root (.directory entries) ∧
        found = (FileTree.filesOf entries).filter (isFixture root) := by
  have hwalk (files : List FileTree.Found) :
      fs.walk root = .ok files ↔
        fs.Opens root (.directory entries) ∧ files = FileTree.filesOf entries :=
    FileSystem.walk_eq_ok_iff_of_find hroot
  unfold fixturesBelow
  cases h : fs.walk root with
  | error obstacle =>
    simp only [h, reduceCtorEq, false_iff] at hwalk ⊢
    exact fun ⟨hopens, _⟩ => hwalk _ ⟨hopens, rfl⟩
  | ok files =>
    obtain ⟨hopens, rfl⟩ := (hwalk files).mp h
    simp [hopens, eq_comm]

/-- Loading a suite from a directory whose walk meets nothing that cannot be opened, neither a
directory nor a kept fixture file, succeeds exactly if all kept files hold groups, in whatever order
the walk finds them. The suite then has one file for each kept one, in the order of paths. Otherwise
the fault is that of a kept file that holds no groups. -/
theorem load_kept_files (hw : fs.WellFormed) (hd : fs.isDirectory root = true)
    {fixtures : List FileTree.Found} (hwalk : fixturesBelow fs root = .ok fixtures)
    (skip : SkipList)
    (hopen : ∀ f ∈ kept root skip fixtures, fs.pathExists (f.path root) = true) :
    load fs root skip = loadFound fs root skip fixtures ∧
      ∀ order, order.Perm fixtures →
        ((∃ suite events, loadFound fs root skip order = .ok (suite, events)) ↔
          ∀ f ∈ kept root skip fixtures, ∃ groups, FixtureFile.Holds f.bytes groups) ∧
        (∀ suite events, loadFound fs root skip order = .ok (suite, events) →
          suite.root = root ∧
          suite.files.Pairwise (fun a b => compare a.path b.path = .lt) ∧
          ∃ sorted, sorted.Perm (kept root skip fixtures) ∧
            List.Forall₂ (Loaded root skip) sorted suite.files) ∧
        ∀ fault, loadFound fs root skip order = .error fault →
          ∃ f ∈ kept root skip fixtures,
            (¬ ∃ groups, FixtureFile.Holds f.bytes groups) ∧
            FixtureFile.load fs (f.path root) = .error fault ∧ fault.path = f.path root := by
  obtain ⟨entries, hfind⟩ := FileSystem.isDirectory_iff.mp hd
  have hentries : (FileTree.directory entries).WellFormed := hw.find hfind
  refine ⟨load_eq_loadFound hd hwalk, ?_⟩
  obtain ⟨-, rfl⟩ := (fixturesBelow_eq_ok_iff hfind).mp hwalk
  intro order horder
  have hmem : ∀ f ∈ order, f ∈ FileTree.filesOf entries := fun f hf =>
    (List.mem_filter.mp (horder.mem_iff.mp hf)).1
  -- The results about what was found hold of `order`; this carries them over to `fixtures`.
  have hkept := kept_perm root skip horder
  refine ⟨?_, ?_, ?_⟩
  · rw [exists_loadFound_iff hentries hfind hmem]
    refine forall_congr' fun f => ?_
    rw [hkept.mem_iff]
    exact imp_congr_right fun hf => and_iff_right (hopen f hf)
  · intro suite events h
    obtain ⟨files, -, hloaded, rfl⟩ := exists_of_loadFound_ok hentries hfind hmem h
    obtain ⟨sorted, hperm, hsorted⟩ := exists_perm_sortFiles hloaded
    refine ⟨rfl, pairwise_sortFiles ?_, sorted, hperm.trans hkept, hsorted⟩
    rw [map_parts_of_forall₂ hloaded, (hkept.map _).nodup_iff]
    exact (FileTree.nodup_parts_filesOf hentries root).sublist
      (((kept_sublist root skip _).trans List.filter_sublist).map _)
  · intro fault h
    obtain ⟨f, hf, hfault⟩ := exists_of_loadFound_error hentries hmem h
    refine ⟨f, hkept.mem_iff.mp hf, fun hholds => ?_, hfault,
      FixtureFile.path_of_load_error hfault⟩
    have hf' := hmem f ((kept_sublist root skip order).subset hf)
    obtain ⟨whole, hwhole⟩ :=
      (canLoad_iff hentries hfind hf').mp ⟨hopen f (hkept.mem_iff.mp hf), hholds⟩
    cases hwhole.symm.trans hfault

/-! ## A directory of fixtures -/

/-- A case that calls a method. -/
def calling (method : String) : Case := { method }

/-- The bytes of the text of groups. -/
def bytesOfGroups (groups : List Group) : List UInt8 :=
  Text.bytesOf (Group.encodeListPretty groups).toList

/-- Fixtures beside a directory with the name of their stem, a text, and a directory that holds a
broken fixture. -/
def arithmeticEntries : List (String × FileTree) :=
  [("arith.json", .file (bytesOfGroups [[calling "add", calling "sub"], [calling "sub"]])),
    ("arith", .directory [("mul.json", .file (bytesOfGroups [[calling "mul"]]))]),
    ("notes.txt", .file []), ("old", .directory [("b.json", .file [0x5b])])]

/-- The directory at the top, and a second time in a directory with the name of an inner one.
Relative paths are followed from a directory beside both. -/
def arithmetic : FileSystem where
  tree := .directory [("home", .directory []), ("d", .directory arithmeticEntries),
    ("old", .directory [("copy", .directory arithmeticEntries)])]
  here := ["home"]

/-- The skip list that leaves out old files, and one method of one file. -/
def skipsOld : SkipList :=
  { rules := { directories := ["old"], method := .ofList [("arith", ["sub"])] } }

/-- The fixture files in the directory. -/
def arithmeticFixtures : List FileTree.Found :=
  [⟨["arith.json"], bytesOfGroups [[calling "add", calling "sub"], [calling "sub"]]⟩,
    ⟨["arith", "mul.json"], bytesOfGroups [[calling "mul"]]⟩, ⟨["old", "b.json"], [0x5b]⟩]

/-- The suite that the skip list leaves: the files in the order of their paths, without the group in
which no case is left. -/
def arithmeticSuite : Suite where
  root := ⟨"/d"⟩
  files := [⟨⟨"/d/arith/mul.json"⟩, [[calling "mul"]]⟩, ⟨⟨"/d/arith.json"⟩, [[calling "add"]]⟩]

/-- What is said while the suite is loaded. -/
def arithmeticEvents : List Event :=
  [.skippedFile ⟨"/d/old/b.json"⟩, .skippedCase ⟨"/d/arith.json"⟩ "sub",
    .skippedCase ⟨"/d/arith.json"⟩ "sub", .loaded 2 2 ⟨"/d"⟩]

theorem wellFormed_arithmetic : arithmetic.WellFormed :=
  ⟨by decide, [], rfl⟩

theorem locate_arithmetic : arithmetic.locate .content ⟨"/d"⟩ = .ok (.present ["d"]) := by
  have hpieces : Text.splitAll '/' "/d".toList = [[], ['d']] := rfl
  have hname : String.ofList ['d'] = "d" := rfl
  refine FileSystem.locate_eq_ok_iff.mpr ⟨by decide, ?_⟩
  rw [hpieces]
  simp [arithmetic, FileTree.followPieces, FileTree.startOf, FileTree.at?, List.lookup_cons, hname,
    FileTree.not_tooLong_of_length, -Text.byteLength_cons]

theorem find_arithmetic :
    arithmetic.find .content ⟨"/d"⟩ = .ok (.directory arithmeticEntries) :=
  FileSystem.find_of_at? locate_arithmetic rfl

section
variable {root : Path}
  (hroot : arithmetic.find .content root = .ok (.directory arithmeticEntries))
include hroot

theorem find_join_arithmetic (names : List String) {t : FileTree}
    (hat : (FileTree.directory arithmeticEntries).at? names = some t)
    (ht : ∀ target, t ≠ .link target) (h : FileSystem.Followable root names) :
    arithmetic.find .content (names.foldl Path.join root) = .ok t :=
  FileSystem.find_join_of_followable (wellFormed_arithmetic.find hroot) hroot hat ht h

theorem opens_arithmetic (harith : FileSystem.Followable root ["arith"])
    (hold : FileSystem.Followable root ["old"]) :
    arithmetic.Opens root (.directory arithmeticEntries) := by
  have hfile (path : Path) (bytes : List UInt8) : arithmetic.Opens path (.file bytes) :=
    FileSystem.opens_of_leaf fun _ => FileTree.noConfusion
  have harithExists : arithmetic.pathExists (root.join "arith") = true :=
    FileSystem.pathExists_of_find
      (find_join_arithmetic hroot ["arith"] rfl (fun _ => FileTree.noConfusion) harith)
  have holdExists : arithmetic.pathExists (root.join "old") = true :=
    FileSystem.pathExists_of_find
      (find_join_arithmetic hroot ["old"] rfl (fun _ => FileTree.noConfusion) hold)
  rw [FileSystem.opens_directory_iff]
  refine ⟨FileSystem.pathExists_of_find hroot, ?_⟩
  simp [arithmeticEntries, FileSystem.opens_directory_iff, hfile, harithExists, holdExists]

end

theorem fixturesBelow_arithmetic : fixturesBelow arithmetic ⟨"/d"⟩ = .ok arithmeticFixtures := by
  have hfixture (names : List String) (bytes : List UInt8) :
      isFixture ⟨"/d"⟩ ⟨names, bytes⟩
        = (Path.extension? (names.foldl Path.join ⟨"/d"⟩).parts == some fixtureExtension) := rfl
  have hadd : Path.extension? (["arith.json"].foldl Path.join ⟨"/d"⟩).parts
      = some fixtureExtension := by decide +kernel
  have hmul : Path.extension? (["arith", "mul.json"].foldl Path.join ⟨"/d"⟩).parts
      = some fixtureExtension := by decide +kernel
  have hnotes : Path.extension? (["notes.txt"].foldl Path.join ⟨"/d"⟩).parts
      ≠ some fixtureExtension := by decide +kernel
  have hold : Path.extension? (["old", "b.json"].foldl Path.join ⟨"/d"⟩).parts
      = some fixtureExtension := by decide +kernel
  refine (fixturesBelow_eq_ok_iff find_arithmetic).mpr ⟨opens_arithmetic find_arithmetic
    (by decide) (by decide), ?_⟩
  simp [arithmeticFixtures, arithmeticEntries, FileTree.filesOf, FileTree.files,
    FileTree.Found.below, hfixture, hadd, hmul, hnotes, hold, -List.foldl_cons]

theorem skipsParts_arithmetic :
    skipsOld.skipsParts [.name "arith.json"] = false ∧
      skipsOld.skipsParts [.name "arith", .name "mul.json"] = false ∧
      skipsOld.skipsParts [.name "old", .name "b.json"] = true := by
  decide +kernel

theorem path_arithmetic :
    ["arith.json"].foldl Path.join ⟨"/d"⟩ = ⟨"/d/arith.json"⟩ ∧
      ["arith", "mul.json"].foldl Path.join ⟨"/d"⟩ = ⟨"/d/arith/mul.json"⟩ ∧
      ["old", "b.json"].foldl Path.join ⟨"/d"⟩ = ⟨"/d/old/b.json"⟩ := by
  decide +kernel

/-- The fixtures that are not left out are loaded as their groups. -/
theorem load_path_arithmetic :
    FixtureFile.load arithmetic ⟨"/d/arith.json"⟩
        = .ok ⟨⟨"/d/arith.json"⟩, [[calling "add", calling "sub"], [calling "sub"]]⟩ ∧
      FixtureFile.load arithmetic ⟨"/d/arith/mul.json"⟩
        = .ok ⟨⟨"/d/arith/mul.json"⟩, [[calling "mul"]]⟩ := by
  have hload {names : List String} {groups : List Group}
      (hat : (FileTree.directory arithmeticEntries).at? names
        = some (.file (bytesOfGroups groups)))
      (h : FileSystem.Followable ⟨"/d"⟩ names) :
      FixtureFile.load arithmetic (names.foldl Path.join ⟨"/d"⟩)
        = .ok ⟨names.foldl Path.join ⟨"/d"⟩, groups⟩ := by
    have hfind := find_join_arithmetic find_arithmetic names hat (fun _ => FileTree.noConfusion) h
    exact (FixtureFile.load_eq_ok_iff_of_find hfind).mpr
      ⟨groups, FixtureFile.holds_text ⟨⟨""⟩, groups⟩, rfl⟩
  obtain ⟨hadd, hmul, -⟩ := path_arithmetic
  rw [← hadd, ← hmul]
  exact ⟨hload rfl (by decide), hload rfl (by decide)⟩

theorem loadFound_arithmetic :
    loadFound arithmetic ⟨"/d"⟩ skipsOld arithmeticFixtures
      = .ok (arithmeticSuite, arithmeticEvents) := by
  obtain ⟨hadd, hmul, hold⟩ := skipsParts_arithmetic
  obtain ⟨haddPath, hmulPath, holdPath⟩ := path_arithmetic
  obtain ⟨haddLoad, hmulLoad⟩ := load_path_arithmetic
  have haddFiltered : FixtureFile.filtered skipsOld
      ⟨⟨"/d/arith.json"⟩, [[calling "add", calling "sub"], [calling "sub"]]⟩
        = ⟨⟨"/d/arith.json"⟩, [[calling "add"]]⟩ := by decide +kernel
  have hmulFiltered : FixtureFile.filtered skipsOld ⟨⟨"/d/arith/mul.json"⟩, [[calling "mul"]]⟩
      = ⟨⟨"/d/arith/mul.json"⟩, [[calling "mul"]]⟩ := by decide +kernel
  have haddSkipped : FixtureFile.skippedCases skipsOld
      ⟨⟨"/d/arith.json"⟩, [[calling "add", calling "sub"], [calling "sub"]]⟩
        = [.skippedCase ⟨"/d/arith.json"⟩ "sub", .skippedCase ⟨"/d/arith.json"⟩ "sub"] := by
    decide +kernel
  have hmulSkipped : FixtureFile.skippedCases skipsOld
      ⟨⟨"/d/arith/mul.json"⟩, [[calling "mul"]]⟩ = [] := by decide +kernel
  have hsorted : sortFiles [⟨⟨"/d/arith.json"⟩, [[calling "add"]]⟩,
      ⟨⟨"/d/arith/mul.json"⟩, [[calling "mul"]]⟩] = arithmeticSuite.files :=
    sortFiles_eq (.swap _ _ _) (by decide +kernel)
  simp only [loadFound, arithmeticFixtures, List.filter_cons, List.filter_nil,
    FileTree.Found.parts, List.map_cons, List.map_nil, hadd, hmul, hold, Bool.not_true,
    Bool.not_false, loadAll, FileTree.Found.path, haddPath, hmulPath, holdPath, haddLoad, hmulLoad,
    haddFiltered, hmulFiltered, haddSkipped, hmulSkipped, hsorted, if_true, Bool.false_eq_true,
    if_false]
  rfl

theorem load_arithmetic :
    load arithmetic ⟨"/d"⟩ skipsOld = .ok (arithmeticSuite, arithmeticEvents) := by
  have hd := FileSystem.isDirectory_iff.mpr ⟨_, find_arithmetic⟩
  rw [load_eq_loadFound hd fixturesBelow_arithmetic, loadFound_arithmetic]

/-- The fixture files that are not left out can be opened and hold groups. -/
theorem canLoad_kept_arithmetic :
    ∀ f ∈ kept ⟨"/d"⟩ skipsOld arithmeticFixtures, CanLoad arithmetic ⟨"/d"⟩ f := by
  obtain ⟨-, hroot⟩ := (fixturesBelow_eq_ok_iff find_arithmetic).mp fixturesBelow_arithmetic
  have hfound : ∀ f ∈ arithmeticFixtures, f ∈ FileTree.filesOf arithmeticEntries := fun f hf =>
    List.mem_of_mem_filter (hroot ▸ hf)
  exact (exists_loadFound_iff (wellFormed_arithmetic.find find_arithmetic) find_arithmetic
    hfound).mp ⟨_, _, loadFound_arithmetic⟩

theorem load_kept_arithmetic :
    arithmetic.WellFormed ∧ arithmetic.isDirectory ⟨"/d"⟩ = true ∧
      fixturesBelow arithmetic ⟨"/d"⟩ = .ok arithmeticFixtures ∧
      (∀ f ∈ kept ⟨"/d"⟩ skipsOld arithmeticFixtures,
        arithmetic.pathExists (f.path ⟨"/d"⟩) = true) ∧
      load arithmetic ⟨"/d"⟩ skipsOld = .ok (arithmeticSuite, arithmeticEvents) ∧
      (∃ sorted, sorted.Perm (kept ⟨"/d"⟩ skipsOld arithmeticFixtures) ∧
        List.Forall₂ (Loaded ⟨"/d"⟩ skipsOld) sorted arithmeticSuite.files) ∧
      ∃ suite events, loadFound arithmetic ⟨"/d"⟩ skipsOld arithmeticFixtures.reverse
        = .ok (suite, events) := by
  have hd := FileSystem.isDirectory_iff.mpr ⟨_, find_arithmetic⟩
  have hopen := fun f hf => (canLoad_kept_arithmetic f hf).1
  obtain ⟨hload, hall⟩ :=
    load_kept_files wellFormed_arithmetic hd fixturesBelow_arithmetic skipsOld hopen
  obtain ⟨-, hsuite, -⟩ := hall _ (.refl _)
  obtain ⟨-, -, hfiles⟩ := hsuite _ _ loadFound_arithmetic
  refine ⟨wellFormed_arithmetic, hd, fixturesBelow_arithmetic, hopen,
    hload.trans loadFound_arithmetic, hfiles, ?_⟩
  exact (hall _ (List.reverse_perm _)).1.mpr fun f hf => (canLoad_kept_arithmetic f hf).2

end Suite

end ContractFixtures
