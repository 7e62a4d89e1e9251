import ContractFixtures.Proofs.FileTree.Below
import ContractFixtures.Proofs.Suite.Loading

/-!
# What may come of loading a suite

The entries of directories come in any order, and the files of a suite are loaded side by side, in
whatever order they are found. So loading has several outcomes: what is said may come in another
order, and if several files are broken, or several directories cannot be opened, each of them may
be the one that is reported. Everything else is settled, and it is settled by the kept files and by
what their paths are behind the root.

* `MayLoad`: what may come of loading a suite.
* `Moved`: files with the same groups and the same path behind their roots.

Results:
1. `mayLoad_load`: what `load` gives may come of loading.
2. `loadFound_moved`: the same kept files give the same suite below every root.
3. `events_perm`: the same files give the same events.
-/

namespace ContractFixtures.Suite

/-- What may come of loading a suite.

* `notDirectory`: the root leads to no directory.
* `unwalkable`: the walk stops at a directory that cannot be opened.
* `found`: the walk gets to its end, and finds the files in any order. -/
inductive MayLoad (fs : FileSystem) (root : Path) (skip : SkipList) :
    Except LoadFault (Suite × List Event) → Prop
  | notDirectory (h : fs.isDirectory root = false) :
      MayLoad fs root skip (.error (.notDirectory root))
  | unwalkable {entries : List (String × FileTree)} {names : List String}
      {fault : FileTree.Fault} (hfind : fs.find .content root = .ok (.directory entries))
      (h : fs.Blocked root (.directory entries) names fault) :
      MayLoad fs root skip (.error (.unwalkable (names.foldl Path.join root) fault))
  | found {fixtures order : List FileTree.Found} (hd : fs.isDirectory root = true)
      (h : fixturesBelow fs root = .ok fixtures) (horder : order.Perm fixtures) :
      MayLoad fs root skip (loadFound fs root skip order)

/-- What is loaded in the order of the walk may come of loading. -/
theorem mayLoad_load (fs : FileSystem) (root : Path) (skip : SkipList) :
    MayLoad fs root skip (load fs root skip) := by
  cases hd : fs.isDirectory root with
  | false =>
    rw [load, hd]
    exact .notDirectory hd
  | true =>
    obtain ⟨entries, hfind⟩ := FileSystem.isDirectory_iff.mp hd
    cases hwalk : fs.walk root with
    | error obstacle =>
      rw [load_of_walk_error hd hwalk]
      rw [FileSystem.walk_of_find hfind] at hwalk
      obtain ⟨names, hblocked, hpath⟩ := FileSystem.exists_blocked_of_walkTree hwalk
      exact hpath ▸ .unwalkable hfind hblocked
    | ok files =>
      have hfound : fixturesBelow fs root = .ok (files.filter (isFixture root)) := by
        rw [fixturesBelow, hwalk]
      exact load_eq_loadFound hd hfound ▸ .found hd hfound (.refl _)

section
variable {fs : FileSystem} {root : Path} {skip : SkipList}
  {outcome : Except LoadFault (Suite × List Event)}

theorem mayLoad_iff_of_not_isDirectory (hd : fs.isDirectory root = false) :
    MayLoad fs root skip outcome ↔ outcome = .error (.notDirectory root) := by
  constructor
  · intro h
    cases h with
    | notDirectory => rfl
    | unwalkable hfind =>
      exact absurd (hd.symm.trans (FileSystem.isDirectory_iff.mpr ⟨_, hfind⟩)) Bool.false_ne_true
    | found hd' => exact absurd (hd.symm.trans hd') Bool.false_ne_true
  · rintro rfl
    exact .notDirectory hd

/-- What may come of loading a suite from a directory: the walk stops at a directory below, or it
gets to its end, and then the fixture files are loaded in some order. -/
theorem mayLoad_iff {entries : List (String × FileTree)}
    (hfind : fs.find .content root = .ok (.directory entries)) :
    MayLoad fs root skip outcome ↔
      (∃ names fault, fs.Blocked root (.directory entries) names fault ∧
        outcome = .error (.unwalkable (names.foldl Path.join root) fault)) ∨
      fs.Opens root (.directory entries) ∧
        ∃ order, order.Perm ((FileTree.filesOf entries).filter (isFixture root)) ∧
          outcome = loadFound fs root skip order := by
  have hd : fs.isDirectory root = true := FileSystem.isDirectory_iff.mpr ⟨entries, hfind⟩
  constructor
  · intro h
    cases h with
    | notDirectory hd' => exact absurd (hd'.symm.trans hd) Bool.false_ne_true
    | @unwalkable entries' names fault hfind' hblocked =>
      cases hfind.symm.trans hfind'
      exact .inl ⟨names, fault, hblocked, rfl⟩
    | @found fixtures order _ hwalk horder =>
      obtain ⟨hopens, rfl⟩ := (fixturesBelow_eq_ok_iff hfind).mp hwalk
      exact .inr ⟨hopens, order, horder, rfl⟩
  · rintro (⟨names, fault, hblocked, rfl⟩ | ⟨hopens, order, horder, rfl⟩)
    · exact .unwalkable hfind hblocked
    · exact .found hd ((fixturesBelow_eq_ok_iff hfind).mpr ⟨hopens, rfl⟩) horder

/-- If all directories below the root can be opened, the files are loaded in some order. -/
theorem mayLoad_iff_of_opens {entries : List (String × FileTree)}
    (hfind : fs.find .content root = .ok (.directory entries))
    (hopens : fs.Opens root (.directory entries)) :
    MayLoad fs root skip outcome ↔
      ∃ order, order.Perm ((FileTree.filesOf entries).filter (isFixture root)) ∧
        outcome = loadFound fs root skip order := by
  rw [mayLoad_iff hfind]
  constructor
  · rintro (⟨names, fault, hblocked, -⟩ | ⟨-, h⟩)
    · exact absurd hopens hblocked.not_opens
    · exact h
  · exact fun h => .inr ⟨hopens, h⟩

/-- A suite that may come of loading comes of the fixture files below a directory. -/
theorem exists_order_of_mayLoad_ok {suite : Suite} {events : List Event}
    (h : MayLoad fs root skip (.ok (suite, events))) :
    ∃ entries order, fs.find .content root = .ok (.directory entries) ∧
      fs.Opens root (.directory entries) ∧
      order.Perm ((FileTree.filesOf entries).filter (isFixture root)) ∧
      loadFound fs root skip order = .ok (suite, events) := by
  cases hd : fs.isDirectory root with
  | false =>
    rw [mayLoad_iff_of_not_isDirectory hd] at h
    cases h
  | true =>
    obtain ⟨entries, hfind⟩ := FileSystem.isDirectory_iff.mp hd
    rcases (mayLoad_iff hfind).mp h with ⟨names, fault, -, he⟩ | ⟨hopens, order, horder, hok⟩
    · cases he
    · exact ⟨entries, order, hfind, hopens, horder, hok.symm⟩

end

/-! ## Files that are kept -/

/-- Whether a file is loaded that is found under names: whether it is a fixture file that the skip
list keeps. -/
def loads (skip : SkipList) (names : List String) : Bool :=
  Path.extension? (names.map .name) == some fixtureExtension && !skip.skipsParts (names.map .name)

theorem isFixture_eq {root : Path} {f : FileTree.Found}
    (hnames : ∀ name ∈ f.names, Path.IsName name) (hne : f.names ≠ []) :
    isFixture root f = (Path.extension? f.parts == some fixtureExtension) := by
  rw [isFixture, f.parts_path hnames, Path.extension?_append (f.parts_ne_nil hne)]

section
variable {entries : List (String × FileTree)} (hw : (FileTree.directory entries).WellFormed)
include hw

/-- Which files are kept is settled by the names that they are found under. -/
theorem kept_filesOf (root : Path) (skip : SkipList) :
    kept root skip ((FileTree.filesOf entries).filter (isFixture root))
      = (FileTree.filesOf entries).filter (loads skip ·.names) := by
  rw [kept, List.filter_filter]
  refine List.filter_congr fun f hf => ?_
  have hnames := FileTree.isName_of_mem_filesOf hw.2 hf
  rw [f.partsFrom_path hnames, isFixture_eq hnames (FileTree.names_ne_nil_of_mem_filesOf hf),
    Bool.and_comm]
  rfl

end

/-! ## Files below different roots -/

/-- Files with the same groups, and with the same path behind one root and behind another one. -/
def Moved (left right : Path) (f g : FixtureFile) : Prop :=
  ∃ names : List String,
    f.path = names.foldl Path.join left ∧ g.path = names.foldl Path.join right ∧
      f.groups = g.groups

theorem eq_of_moved {root : Path} {f g : FixtureFile} (h : Moved root root f g) : f = g := by
  obtain ⟨names, hf, hg, hgroups⟩ := h
  rw [FixtureFile.mk.injEq]
  exact ⟨hf.trans hg.symm, hgroups⟩

theorem eq_of_forall₂_moved {root : Path} {fs gs : List FixtureFile}
    (h : List.Forall₂ (Moved root root) fs gs) : fs = gs :=
  List.forall₂_eq_eq_eq ▸ h.imp fun _ _ => eq_of_moved

/-- A file is loaded alike below every root: the skip list decides on its cases by its name. -/
theorem moved_of_loaded {left right : Path} {skip : SkipList} {f : FileTree.Found}
    {file file' : FixtureFile} (hnames : ∀ name ∈ f.names, Path.IsName name) (hne : f.names ≠ [])
    (h : Loaded left skip f file) (h' : Loaded right skip f file') :
    Moved left right file file' := by
  obtain ⟨hpath, groups, hholds, hgroups⟩ := h
  obtain ⟨hpath', groups', hholds', hgroups'⟩ := h'
  refine ⟨f.names, hpath, hpath', ?_⟩
  have hparts := f.parts_ne_nil hne
  have hskip : skip.skipsCase file.path = skip.skipsCase file'.path := by
    funext method
    rw [SkipList.skipsCase, SkipList.skipsCase, hpath, hpath', f.parts_path hnames,
      f.parts_path hnames, Path.fileStem_append hparts, Path.fileStem_append hparts]
  rw [hgroups, hgroups', FixtureFile.groups_of_holds hholds hholds', hskip]

theorem forall₂_moved_of_loaded {left right : Path} {skip : SkipList}
    {sorted : List FileTree.Found} {files files' : List FixtureFile}
    (hnames : ∀ f ∈ sorted, (∀ name ∈ f.names, Path.IsName name) ∧ f.names ≠ [])
    (h : List.Forall₂ (Loaded left skip) sorted files)
    (h' : List.Forall₂ (Loaded right skip) sorted files') :
    List.Forall₂ (Moved left right) files files' := by
  induction h generalizing files' with
  | nil =>
    cases h'
    exact .nil
  | cons hfile _ ih =>
    cases h' with
    | cons hfile' hrest' =>
      obtain ⟨⟨hname, hne⟩, hnamesRest⟩ := List.forall_mem_cons.mp hnames
      exact .cons (moved_of_loaded hname hne hfile hfile') (ih hnamesRest hrest')

/-! ## The same files in another order -/

/-- Loaded files are in the order of their paths only if the paths behind the root are in order. -/
theorem pairwise_parts_of_forall₂ {root : Path} {skip : SkipList} {sorted : List FileTree.Found}
    {files : List FixtureFile} (hnames : ∀ f ∈ sorted, ∀ name ∈ f.names, Path.IsName name)
    (h : List.Forall₂ (Loaded root skip) sorted files)
    (hfiles : files.Pairwise fun a b => compare a.path b.path = .lt) :
    sorted.Pairwise fun f g => compare f.parts g.parts = .lt := by
  have hparts : (files.map (·.path.parts)).Pairwise fun a b => compare a b = .lt :=
    List.pairwise_map.mpr hfiles
  rw [map_parts_of_forall₂ h, List.pairwise_map] at hparts
  refine hparts.imp_of_mem fun {f g} hf hg hlt => ?_
  rwa [f.parts_path (hnames f hf), g.parts_path (hnames g hg), Path.compare_append] at hlt

section
variable {fs : FileSystem} {entries : List (String × FileTree)}
  (hw : (FileTree.directory entries).WellFormed) {root : Path} {skip : SkipList}
  (hroot : fs.find .content root = .ok (.directory entries)) {order : List FileTree.Found}
  (horder : order.Perm ((FileTree.filesOf entries).filter (isFixture root)))

include horder in
theorem mem_filesOf_of_mem_order : ∀ f ∈ order, f ∈ FileTree.filesOf entries := fun _ hf =>
  (List.mem_filter.mp (horder.mem_iff.mp hf)).1

include hw horder in
theorem kept_order_perm :
    (kept root skip order).Perm ((FileTree.filesOf entries).filter (loads skip ·.names)) :=
  kept_filesOf hw root skip ▸ kept_perm root skip horder

include hw hroot horder

/-- Fixture files load if all that are kept can be opened and hold groups. -/
theorem exists_loadFound_order_iff :
    (∃ suite events, loadFound fs root skip order = .ok (suite, events)) ↔
      ∀ f ∈ (FileTree.filesOf entries).filter (loads skip ·.names), CanLoad fs root f := by
  rw [exists_loadFound_iff hw hroot (mem_filesOf_of_mem_order horder)]
  exact forall_congr' fun f => imp_congr_left (kept_order_perm hw horder).mem_iff

/-- A loaded suite has the kept files in the order of their paths behind the root. -/
theorem exists_sorted_of_loadFound_ok {suite : Suite} {events : List Event}
    (h : loadFound fs root skip order = .ok (suite, events)) :
    suite.root = root ∧ ∃ sorted,
      sorted.Perm ((FileTree.filesOf entries).filter (loads skip ·.names)) ∧
      sorted.Pairwise (fun f g => compare f.parts g.parts = .lt) ∧
      List.Forall₂ (Loaded root skip) sorted suite.files := by
  obtain ⟨files, -, hloaded, rfl⟩ :=
    exists_of_loadFound_ok hw hroot (mem_filesOf_of_mem_order horder) h
  obtain ⟨sorted, hperm, hsorted⟩ := exists_perm_sortFiles hloaded
  have hkept := hperm.trans (kept_order_perm hw horder)
  have hnodup : (files.map (·.path.parts)).Nodup := by
    rw [map_parts_of_forall₂ hloaded, ((kept_order_perm hw horder).map _).nodup_iff]
    exact (FileTree.nodup_parts_filesOf hw root).sublist (List.filter_sublist.map _)
  refine ⟨rfl, sorted, hkept, ?_, hsorted⟩
  refine pairwise_parts_of_forall₂ (fun f hf => ?_) hsorted (pairwise_sortFiles hnodup)
  exact FileTree.isName_of_mem_filesOf hw.2 (List.mem_filter.mp (hkept.mem_iff.mp hf)).1

end

/-- The same kept files give the same suite below two roots, or none below either of them, if they
can be opened behind one root as behind the other. -/
theorem loadFound_moved {t u : FileSystem} {left right : Path} {skip : SkipList}
    {entries entries' : List (String × FileTree)} {order order' : List FileTree.Found}
    (hw : (FileTree.directory entries).WellFormed)
    (hw' : (FileTree.directory entries').WellFormed)
    (hleft : t.find .content left = .ok (.directory entries))
    (hright : u.find .content right = .ok (.directory entries'))
    (horder : order.Perm ((FileTree.filesOf entries).filter (isFixture left)))
    (horder' : order'.Perm ((FileTree.filesOf entries').filter (isFixture right)))
    (hkept : ((FileTree.filesOf entries).filter (loads skip ·.names)).Perm
      ((FileTree.filesOf entries').filter (loads skip ·.names)))
    (hexists : ∀ f ∈ (FileTree.filesOf entries).filter (loads skip ·.names),
      t.pathExists (f.path left) = u.pathExists (f.path right)) :
    (∃ suite suite' events events',
      loadFound t left skip order = .ok (suite, events) ∧
        loadFound u right skip order' = .ok (suite', events') ∧
        suite.root = left ∧ suite'.root = right ∧
        List.Forall₂ (Moved left right) suite.files suite'.files) ∨
      ∃ fault fault', loadFound t left skip order = .error fault ∧
        loadFound u right skip order' = .error fault' := by
  have hiff : (∃ suite events, loadFound t left skip order = .ok (suite, events)) ↔
      ∃ suite events, loadFound u right skip order' = .ok (suite, events) := by
    rw [exists_loadFound_order_iff hw hleft horder, exists_loadFound_order_iff hw' hright horder']
    refine forall_congr' fun f => ?_
    rw [← hkept.mem_iff]
    exact imp_congr_right fun hf => by rw [CanLoad, CanLoad, hexists f hf]
  cases h : loadFound t left skip order with
  | error fault =>
    cases h' : loadFound u right skip order' with
    | error fault' => exact .inr ⟨fault, fault', rfl, rfl⟩
    | ok result' =>
      obtain ⟨suite, events, hok⟩ := hiff.mpr ⟨result'.1, result'.2, h'⟩
      rw [h] at hok
      cases hok
  | ok result =>
    obtain ⟨suite, events⟩ := result
    obtain ⟨suite', events', h'⟩ := hiff.mp ⟨suite, events, h⟩
    obtain ⟨hroot, sorted, hperm, hsorted, hloaded⟩ :=
      exists_sorted_of_loadFound_ok hw hleft horder h
    obtain ⟨hroot', sorted', hperm', hsorted', hloaded'⟩ :=
      exists_sorted_of_loadFound_ok hw' hright horder' h'
    obtain rfl := eq_of_perm_of_ascending FileTree.Found.parts
      (hperm.trans (hkept.trans hperm'.symm)) hsorted hsorted'
    refine .inl ⟨suite, suite', events, events', rfl, h', hroot, hroot', ?_⟩
    refine forall₂_moved_of_loaded (fun f hf => ?_) hloaded hloaded'
    have hmem := (List.mem_filter.mp (hperm.mem_iff.mp hf)).1
    exact ⟨FileTree.isName_of_mem_filesOf hw.2 hmem, FileTree.names_ne_nil_of_mem_filesOf hmem⟩

/-! ## Events -/

/-- What is said about the cases of a found file. -/
def said (fs : FileSystem) (root : Path) (skip : SkipList) (f : FileTree.Found) : List Event :=
  match FixtureFile.load fs (f.path root) with
  | .ok file => file.skippedCases skip
  | .error _ => []

section
variable {fs : FileSystem} {root : Path} {skip : SkipList} {found found' : List FileTree.Found}

theorem events_of_loadAll {files : List FixtureFile} {events : List Event}
    (h : loadAll fs root skip found = .ok (files, events)) :
    events = found.flatMap (said fs root skip) := by
  induction found generalizing files events with
  | nil =>
    cases h
    rfl
  | cons f rest ih =>
    rw [loadAll] at h
    split at h
    · cases h
    · next whole hwhole =>
      split at h
      · cases h
      · next others said' hrest =>
        cases h
        rw [List.flatMap_cons, ← ih hrest, said, hwhole]

theorem events_of_loadFound {suite : Suite} {events : List Event}
    (h : loadFound fs root skip found = .ok (suite, events)) :
    events =
      (found.filter fun f => skip.skipsParts f.parts).map (fun f => .skippedFile (f.path root))
        ++ (found.filter fun f => !skip.skipsParts f.parts).flatMap (said fs root skip)
        ++ [.loaded suite.cases.length suite.files.length root] := by
  simp only [loadFound] at h
  split at h
  · cases h
  · next files events' hload =>
    cases h
    rw [events_of_loadAll hload]

/-- The same events happen in whatever order files are found. -/
theorem events_perm (hperm : found.Perm found') {suite : Suite} {events events' : List Event}
    (h : loadFound fs root skip found = .ok (suite, events))
    (h' : loadFound fs root skip found' = .ok (suite, events')) : events.Perm events' := by
  rw [events_of_loadFound h, events_of_loadFound h']
  refine (List.Perm.append ?_ ?_).append_right _
  · exact (hperm.filter _).map _
  · exact (hperm.filter _).flatMap_right _

end

end ContractFixtures.Suite
