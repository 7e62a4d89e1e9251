import ContractFixtures.Proofs.FileTree.Writing
import ContractFixtures.Proofs.Suite.Outcomes

/-!
# What a suite depends on

A suite is settled by the kept files below its root. What other files hold does not matter, whether
they are no fixture files or the skip list leaves them out. Neither does it matter where the root
lies or how it is written, as long as the paths behind it can be opened: the system limits how long
they may be.

* `KeptPlace`: the places into whose files a suite looks.
* `SameKept`: file systems that differ in files that no suite looks into.
* `OpenAlike`: roots behind which the same paths can be opened.

Results:
1. `load_of_sameKept`: nothing but the kept files counts.
2. `load_of_sameSubtree`: the root does not count where the same paths can be opened.
   `OpenAlike.of_followable`: they can if names and paths are short.
3. `load_behind_long_root`: a root counts if it is too long for what is below it.
-/

namespace ContractFixtures.Suite

/-! ## Files that do not count -/

/-- A place into whose file a suite looks: one below the root, under the path of a fixture file
that the skip list keeps. -/
def KeptPlace (fs : FileSystem) (root : Path) (skip : SkipList) (place : FileTree.Place) : Prop :=
  ∃ start names, fs.locate .content root = .ok (.present start) ∧ place = start ++ names ∧
    Path.extension? (names.foldl Path.join root).parts = some fixtureExtension ∧
    skip.skipsParts (Path.partsFrom root (names.foldl Path.join root)) = false

/-- File systems with the same entries that hold the same at every place into which a suite
looks. -/
structure SameKept (root : Path) (skip : SkipList) (t u : FileSystem) : Prop where
  entries : FileSystem.SameEntries t u
  kept : ∀ place, KeptPlace t root skip place → t.tree.nodeAt? place = u.tree.nodeAt? place

section
variable {root : Path} {skip : SkipList} {t u : FileSystem}

theorem SameKept.symm (h : SameKept root skip t u) : SameKept root skip u t where
  entries := h.entries.symm
  kept place := by
    rintro ⟨start, names, hlocate, hplace⟩
    rw [← h.entries.locate] at hlocate
    exact (h.kept place ⟨start, names, hlocate, hplace⟩).symm

end

/-- Found files that load alike: they are found under the same names, and they are the same if the
skip list keeps them. -/
def Alike (skip : SkipList) (f g : FileTree.Found) : Prop :=
  f.names = g.names ∧ (skip.skipsParts f.parts = false → f = g)

section
variable {root : Path} {skip : SkipList} {order order' : List FileTree.Found}

theorem Alike.parts_eq {f g : FileTree.Found} (h : Alike skip f g) : f.parts = g.parts :=
  congrArg (List.map Path.Part.name) h.1

theorem kept_eq_of_alike (h : List.Forall₂ (Alike skip) order order') :
    (order.filter fun f => !skip.skipsParts f.parts)
      = order'.filter fun f => !skip.skipsParts f.parts := by
  induction h with
  | nil => rfl
  | @cons f g _ _ hfg _ ih =>
    rw [List.filter_cons, List.filter_cons, ← hfg.parts_eq, ih]
    cases hskip : skip.skipsParts f.parts with
    | true => rfl
    | false => rw [hfg.2 hskip]

theorem skipped_eq_of_alike (h : List.Forall₂ (Alike skip) order order') :
    (order.filter fun f => skip.skipsParts f.parts).map (fun f => Event.skippedFile (f.path root))
      = (order'.filter fun f => skip.skipsParts f.parts).map
          fun f => Event.skippedFile (f.path root) := by
  induction h with
  | nil => rfl
  | @cons f g _ _ hfg _ ih =>
    have hpath : f.path root = g.path root := by
      rw [FileTree.Found.path, FileTree.Found.path, hfg.1]
    rw [List.filter_cons, List.filter_cons, ← hfg.parts_eq]
    cases skip.skipsParts f.parts with
    | true => exact List.cons_eq_cons.mpr ⟨congrArg Event.skippedFile hpath, ih⟩
    | false => exact ih

end

section
variable {root : Path} {skip : SkipList} {t u : FileSystem}
  {found order order' : List FileTree.Found}

theorem loadAll_congr
    (h : ∀ f ∈ found, FixtureFile.load t (f.path root) = FixtureFile.load u (f.path root)) :
    loadAll t root skip found = loadAll u root skip found := by
  induction found with
  | nil => rfl
  | cons f rest ih =>
    obtain ⟨hf, hrest⟩ := List.forall_mem_cons.mp h
    rw [loadAll, loadAll, hf, ih hrest]

/-- Found files that load alike give the same, if their paths load the same. -/
theorem loadFound_eq_of_alike (h : List.Forall₂ (Alike skip) order order')
    (hload : ∀ f ∈ order, f ∈ order' →
      FixtureFile.load t (f.path root) = FixtureFile.load u (f.path root)) :
    loadFound t root skip order = loadFound u root skip order' := by
  have hkept := kept_eq_of_alike h
  have hall : loadAll t root skip (order'.filter fun f => !skip.skipsParts f.parts)
      = loadAll u root skip (order'.filter fun f => !skip.skipsParts f.parts) :=
    loadAll_congr fun f hf =>
      hload f (List.mem_of_mem_filter (hkept ▸ hf)) (List.mem_of_mem_filter hf)
  simp only [loadFound, hkept, skipped_eq_of_alike h, hall]

end

/-- Files that are found under the same names can be put in the same order. -/
theorem exists_order_of_names_perm {order found : List FileTree.Found}
    (h : (order.map FileTree.Found.names).Perm (found.map FileTree.Found.names)) :
    ∃ order' : List FileTree.Found, order'.Perm found ∧
      List.Forall₂ (fun f g => f.names = g.names ∧ g ∈ found) order order' := by
  have hcomp : Relation.Comp List.Perm (List.Forall₂ fun names f => names = f.names ∧ f ∈ found)
      (order.map FileTree.Found.names) found := by
    refine ⟨found.map FileTree.Found.names, h, ?_⟩
    rw [List.forall₂_map_left_iff]
    exact List.forall₂_same.mpr fun _ hf => ⟨rfl, hf⟩
  rw [← List.forall₂_comp_perm_eq_perm_comp_forall₂] at hcomp
  obtain ⟨order', hnames, hperm⟩ := hcomp
  exact ⟨order', hperm, List.forall₂_map_left_iff.mp hnames⟩

section
variable {root : Path} {skip : SkipList} {t u : FileSystem}

/-- Where a path leads to a directory of one system it leads to a directory of a system with the
same kept files, and a walk finds the same kept files in both. -/
theorem SameKept.exists_entries (h : SameKept root skip t u) {entries : List (String × FileTree)}
    (hfind : t.find .content root = .ok (.directory entries)) :
    ∃ entries', u.find .content root = .ok (.directory entries') ∧
      FileTree.SameEntries (.directory entries) (.directory entries') ∧
      ∀ names, (∀ name ∈ names, Path.IsName name) → loads skip names = true →
        (FileTree.directory entries).nodeAt? names
          = (FileTree.directory entries').nodeAt? names := by
  obtain ⟨entries', hfind', start, hlocate, hat, hat'⟩ := h.entries.find_directory hfind
  refine ⟨entries', hfind', fun names => ?_, fun names hnames hloads => ?_⟩
  · rw [← FileTree.nodeAt?_append hat, ← FileTree.nodeAt?_append hat']
    exact h.entries.tree (start ++ names)
  · rw [← FileTree.nodeAt?_append hat, ← FileTree.nodeAt?_append hat']
    refine h.kept _ ⟨start, names, hlocate, rfl, ?_⟩
    have hparts := Path.parts_foldl_join hnames root
    rw [loads, Bool.and_eq_true, beq_iff_eq, Bool.not_eq_true'] at hloads
    obtain ⟨hextension, hskip⟩ := hloads
    have hne : names.map Path.Part.name ≠ [] := by
      intro he
      rw [he] at hextension
      cases hextension
    rw [hparts, Path.extension?_append hne, Path.partsFrom_of_append hparts]
    exact ⟨hextension, hskip⟩

end

section
variable {root : Path} {skip : SkipList} {entries entries' : List (String × FileTree)}
  (hw : (FileTree.directory entries).WellFormed) (hw' : (FileTree.directory entries').WellFormed)
  (hsame : FileTree.SameEntries (.directory entries) (.directory entries'))
include hw hw' hsame

theorem names_fixtures_perm :
    (((FileTree.filesOf entries).filter (isFixture root)).map FileTree.Found.names).Perm
      (((FileTree.filesOf entries').filter (isFixture root)).map FileTree.Found.names) := by
  -- Whether a file is a fixture file is settled by the names that it is found under.
  have hfilter : ∀ found : List FileTree.Found,
      (found.filter (isFixture root)).map FileTree.Found.names
        = (found.map FileTree.Found.names).filter fun names =>
            Path.extension? (names.foldl Path.join root).parts == some fixtureExtension := by
    intro found
    rw [List.filter_map]
    rfl
  rw [hfilter, hfilter]
  exact (FileTree.names_filesOf_perm hw hw' hsame).filter _

/-- The files that a walk finds in one directory load like those that it may find in the other. -/
theorem exists_alike_order
    (hkept : ∀ names, (∀ name ∈ names, Path.IsName name) → loads skip names = true →
      (FileTree.directory entries).nodeAt? names = (FileTree.directory entries').nodeAt? names)
    {order : List FileTree.Found}
    (horder : order.Perm ((FileTree.filesOf entries).filter (isFixture root))) :
    ∃ order', order'.Perm ((FileTree.filesOf entries').filter (isFixture root)) ∧
      List.Forall₂ (Alike skip) order order' := by
  obtain ⟨order', hperm, hnames⟩ := exists_order_of_names_perm
    ((horder.map _).trans (names_fixtures_perm hw hw' hsame))
  refine ⟨order', hperm, ?_⟩
  have hmem : ∀ f ∈ order, f ∈ (FileTree.filesOf entries).filter (isFixture root) :=
    fun f hf => horder.mem_iff.mp hf
  refine ((List.forall₂_and_left _ _).mpr ⟨hmem, hnames⟩).imp ?_
  rintro f g ⟨hf, hfg, hg⟩
  refine ⟨hfg, fun hskip => ?_⟩
  rw [List.mem_filter] at hf hg
  have hname := FileTree.isName_of_mem_filesOf hw.2 hf.1
  have hloads : loads skip f.names = true := by
    have hfixture := hf.2
    rw [isFixture_eq hname (FileTree.names_ne_nil_of_mem_filesOf hf.1)] at hfixture
    rw [loads, Bool.and_eq_true, Bool.not_eq_true']
    exact ⟨hfixture, hskip⟩
  have hfile := (FileTree.mem_filesOf_iff hw).mp hf.1
  rw [hkept f.names hname hloads, hfg, (FileTree.mem_filesOf_iff hw').mp hg.1] at hfile
  rw [FileTree.Found.mk.injEq]
  exact ⟨hfg, (FileTree.Node.file.inj (Option.some.inj hfile)).symm⟩

end

/-- A file that is found in file systems with the same entries is loaded alike from both. -/
theorem load_path_congr {t u : FileSystem} {root : Path} (h : FileSystem.SameEntries t u)
    {entries entries' : List (String × FileTree)}
    (hw : (FileTree.directory entries).WellFormed) (hw' : (FileTree.directory entries').WellFormed)
    (hfind : t.find .content root = .ok (.directory entries))
    (hfind' : u.find .content root = .ok (.directory entries')) {f : FileTree.Found}
    (hf : f ∈ FileTree.filesOf entries) (hf' : f ∈ FileTree.filesOf entries') :
    FixtureFile.load t (f.path root) = FixtureFile.load u (f.path root) := by
  have hsame : t.find .content (f.path root) = u.find .content (f.path root) := by
    rcases h.find .content (f.path root) with ⟨fault, ht, hu⟩ | ⟨_, _, _, -, -, -, ht, hu⟩
    · exact ht.trans hu.symm
    · have hleft := FixtureFile.find_path_of_pathExists hw hfind hf
        (FileSystem.pathExists_of_find ht)
      exact hleft.trans (FixtureFile.find_path_of_pathExists hw' hfind' hf'
        (FileSystem.pathExists_of_find hu)).symm
  simp only [FixtureFile.load, FileSystem.readText, hsame]

/-- What may come of loading a suite may come of it with other bytes in files that do not count. -/
theorem SameKept.mayLoad {root : Path} {skip : SkipList} {t u : FileSystem}
    (h : SameKept root skip t u) (ht : t.WellFormed) (hu : u.WellFormed)
    {outcome : Except LoadFault (Suite × List Event)} (hload : MayLoad t root skip outcome) :
    MayLoad u root skip outcome := by
  cases hd : t.isDirectory root with
  | false =>
    rw [mayLoad_iff_of_not_isDirectory hd] at hload
    rw [h.entries.isDirectory] at hd
    exact (mayLoad_iff_of_not_isDirectory hd).mpr hload
  | true =>
    obtain ⟨entries, hfind⟩ := FileSystem.isDirectory_iff.mp hd
    obtain ⟨entries', hfind', hsame, hkept⟩ := h.exists_entries hfind
    have hw := ht.find hfind
    have hw' := hu.find hfind'
    rw [mayLoad_iff hfind] at hload
    rw [mayLoad_iff hfind']
    rcases hload with ⟨names, fault, hblocked, rfl⟩ | ⟨hopens, order, horder, rfl⟩
    · exact .inl ⟨names, fault, (h.entries.blocked_iff hw hw' hsame).mp hblocked, rfl⟩
    · obtain ⟨order', horder', halike⟩ := exists_alike_order hw hw' hsame hkept horder
      refine .inr ⟨(h.entries.opens_iff hw hw' hsame).mp hopens, order', horder', ?_⟩
      exact loadFound_eq_of_alike halike fun f hf hf' => load_path_congr h.entries hw hw' hfind
        hfind' (mem_filesOf_of_mem_order horder f hf) (mem_filesOf_of_mem_order horder' f hf')

/-! ## Outcomes -/

/-- Whether at most one fault can come up behind a root: at most one directory stops the walk, and
at most one of the files that a suite looks into cannot be opened or holds no groups. -/
structure AtMostOneBroken (fs : FileSystem) (root : Path) (skip : SkipList) : Prop where
  directory : ∀ entries names names' fault fault',
    fs.find .content root = .ok (.directory entries) →
    fs.Blocked root (.directory entries) names fault →
    fs.Blocked root (.directory entries) names' fault' → names = names'
  file : ∀ fixtures, fixturesBelow fs root = .ok fixtures →
    ∀ f ∈ kept root skip fixtures, ∀ g ∈ kept root skip fixtures,
      ¬ CanLoad fs root f → ¬ CanLoad fs root g → f = g

/-- Outcomes that agree: the same suite with the same events, up to their order, or two faults,
which are the same if only one can come up. -/
def Agree (single : Prop) (left right : Except LoadFault (Suite × List Event)) : Prop :=
  (∃ suite events events', left = .ok (suite, events) ∧ right = .ok (suite, events') ∧
    events.Perm events') ∨
  ∃ fault fault', left = .error fault ∧ right = .error fault' ∧ (single → fault = fault')

section
variable {fs : FileSystem} {root : Path} {skip : SkipList} {entries : List (String × FileTree)}
  (hfind : fs.find .content root = .ok (.directory entries))
include hfind

/-- If only one directory stops the walk, it is the one that is reported. -/
theorem AtMostOneBroken.unwalkable_eq (h : AtMostOneBroken fs root skip)
    {names names' : List String} {fault fault' : FileTree.Fault}
    (hblocked : fs.Blocked root (.directory entries) names fault)
    (hblocked' : fs.Blocked root (.directory entries) names' fault') :
    LoadFault.unwalkable (names.foldl Path.join root) fault
      = .unwalkable (names'.foldl Path.join root) fault' := by
  obtain rfl := h.directory entries names names' fault fault' hfind hblocked hblocked'
  rw [Except.error.inj (hblocked.refused.symm.trans hblocked'.refused)]

/-- If only one file is broken, it is the one that is reported, in whatever order files are
found. -/
theorem AtMostOneBroken.fault_eq (h : AtMostOneBroken fs root skip)
    (hw : (FileTree.directory entries).WellFormed) (hopens : fs.Opens root (.directory entries))
    {order order' : List FileTree.Found} {fault fault' : LoadFault}
    (horder : order.Perm ((FileTree.filesOf entries).filter (isFixture root)))
    (horder' : order'.Perm ((FileTree.filesOf entries).filter (isFixture root)))
    (he : loadFound fs root skip order = .error fault)
    (he' : loadFound fs root skip order' = .error fault') : fault = fault' := by
  have hbroken {order : List FileTree.Found} {fault : LoadFault}
      (horder : order.Perm ((FileTree.filesOf entries).filter (isFixture root)))
      (he : loadFound fs root skip order = .error fault) :
      ∃ f ∈ kept root skip ((FileTree.filesOf entries).filter (isFixture root)),
        ¬ CanLoad fs root f ∧ FixtureFile.load fs (f.path root) = .error fault := by
    have hmem := mem_filesOf_of_mem_order horder
    obtain ⟨f, hf, hfault⟩ := exists_of_loadFound_error hw hmem he
    refine ⟨f, (kept_perm root skip horder).mem_iff.mp hf, fun hload => ?_, hfault⟩
    have hf' := hmem f ((kept_sublist root skip order).subset hf)
    obtain ⟨whole, hwhole⟩ := (canLoad_iff hw hfind hf').mp hload
    cases hwhole.symm.trans hfault
  obtain ⟨f, hf, hcannot, hfault⟩ := hbroken horder he
  obtain ⟨g, hg, hcannot', hfault'⟩ := hbroken horder' he'
  have hfixtures := (fixturesBelow_eq_ok_iff hfind).mpr ⟨hopens, rfl⟩
  obtain rfl := h.file _ hfixtures f hf g hg hcannot hcannot'
  exact Except.error.inj (hfault.symm.trans hfault')

end

/-- All that may come of loading a suite agrees. -/
theorem agree_of_mayLoad {fs : FileSystem} (hw : fs.WellFormed) {root : Path} {skip : SkipList}
    {left right : Except LoadFault (Suite × List Event)} (hleft : MayLoad fs root skip left)
    (hright : MayLoad fs root skip right) :
    Agree (AtMostOneBroken fs root skip) left right := by
  cases hd : fs.isDirectory root with
  | false =>
    rw [mayLoad_iff_of_not_isDirectory hd] at hleft hright
    exact .inr ⟨_, _, hleft, hright, fun _ => rfl⟩
  | true =>
    obtain ⟨entries, hfind⟩ := FileSystem.isDirectory_iff.mp hd
    have hentries : (FileTree.directory entries).WellFormed := hw.find hfind
    rcases (mayLoad_iff hfind).mp hleft with ⟨names, fault, hblocked, rfl⟩ |
      ⟨hopens, order, horder, rfl⟩
    · rcases (mayLoad_iff hfind).mp hright with ⟨names', fault', hblocked', rfl⟩ | ⟨hopens, -⟩
      · exact .inr ⟨_, _, rfl, rfl, fun hsingle => hsingle.unwalkable_eq hfind hblocked hblocked'⟩
      · exact absurd hopens hblocked.not_opens
    · obtain ⟨order', horder', rfl⟩ := (mayLoad_iff_of_opens hfind hopens).mp hright
      rcases loadFound_moved hentries hentries hfind hfind horder horder' (.refl _)
        (fun _ _ => rfl) with
        ⟨suite, suite', events, events', hok, hok', hroot, hroot', hmoved⟩ |
        ⟨fault, fault', he, he'⟩
      · have hsuite : suite = suite' := by
          rw [Suite.mk.injEq]
          exact ⟨hroot.trans hroot'.symm, eq_of_forall₂_moved hmoved⟩
        subst hsuite
        exact .inl ⟨suite, events, events', hok, hok',
          events_perm (horder.trans horder'.symm) hok hok'⟩
      · refine .inr ⟨fault, fault', he, he', fun hsingle => ?_⟩
        exact hsingle.fault_eq hfind hentries hopens horder horder' he he'

/-- What other files hold does not matter. If two file systems have the same entries and hold the
same in the files that a suite looks into, the same may come of loading the suite from them: the
same suite with the same events, or a fault, which is the same if only one can come up. -/
theorem load_of_sameKept {t u : FileSystem} (ht : t.WellFormed) (hu : u.WellFormed) {root : Path}
    {skip : SkipList} (h : SameKept root skip t u) :
    MayLoad t root skip (load t root skip) ∧ MayLoad u root skip (load u root skip) ∧
      (∀ outcome, MayLoad t root skip outcome ↔ MayLoad u root skip outcome) ∧
      ∀ left right, MayLoad t root skip left → MayLoad u root skip right →
        Agree (AtMostOneBroken t root skip) left right := by
  refine ⟨mayLoad_load t root skip, mayLoad_load u root skip, fun outcome => ⟨?_, ?_⟩, ?_⟩
  · exact h.mayLoad ht hu
  · exact h.symm.mayLoad hu ht
  · intro left right hleft hright
    exact agree_of_mayLoad ht hleft (h.symm.mayLoad hu ht hright)

/-- The broken file does not count, whatever else is written in its place. -/
theorem sameKept_arithmetic (bytes : List UInt8) :
    SameKept ⟨"/d"⟩ skipsOld arithmetic
      (arithmetic.change (some (.file bytes)) ["d", "old", "b.json"]) := by
  have hat : arithmetic.tree.at? ["d", "old", "b.json"] = some (.file [0x5b]) := rfl
  have hwritable := FileTree.isWritable_of_file rfl hat
  refine ⟨⟨rfl, FileTree.sameEntries_change hwritable hat bytes⟩, fun place => ?_⟩
  rintro ⟨start, names, hlocate, rfl, -, hkept⟩
  rw [locate_arithmetic] at hlocate
  cases hlocate
  refine (hwritable.nodeAt?_change bytes fun he => ?_).symm
  have hnames : names = ["old", "b.json"] := by simpa using he
  subst hnames
  revert hkept
  decide +kernel

theorem load_of_sameKept_arithmetic :
    arithmetic.WellFormed ∧
      (arithmetic.change (some (.file [0x7b])) ["d", "old", "b.json"]).WellFormed ∧
      SameKept ⟨"/d"⟩ skipsOld arithmetic
        (arithmetic.change (some (.file [0x7b])) ["d", "old", "b.json"]) ∧
      load arithmetic ⟨"/d"⟩ skipsOld = .ok (arithmeticSuite, arithmeticEvents) ∧
      ∃ events, load (arithmetic.change (some (.file [0x7b])) ["d", "old", "b.json"]) ⟨"/d"⟩
        skipsOld = .ok (arithmeticSuite, events) ∧ arithmeticEvents.Perm events := by
  have hw : (arithmetic.change (some (.file [0x7b])) ["d", "old", "b.json"]).WellFormed :=
    ⟨by decide, [], rfl⟩
  have hsame := sameKept_arithmetic [0x7b]
  refine ⟨wellFormed_arithmetic, hw, hsame, load_arithmetic, ?_⟩
  obtain ⟨hload, hload', -, hagree⟩ := load_of_sameKept wellFormed_arithmetic hw hsame
  rcases hagree _ _ hload hload' with ⟨suite, events, events', hok, hok', hperm⟩ |
    ⟨fault, fault', he, -⟩
  · rw [load_arithmetic] at hok
    cases hok
    exact ⟨events', hok', hperm⟩
  · rw [load_arithmetic] at he
    cases he

/-! ## Where the root lies -/

/-- Whether the paths that a suite goes by can be opened alike behind two roots: those of the
directories below, and those of the kept files. -/
structure OpenAlike (t u : FileSystem) (left right : Path) (skip : SkipList)
    (entries : List (String × FileTree)) : Prop where
  directory : ∀ names inner,
    (FileTree.directory entries).at? names = some (.directory inner) →
      t.pathExists (names.foldl Path.join left) = u.pathExists (names.foldl Path.join right)
  file : ∀ f ∈ (FileTree.filesOf entries).filter (loads skip ·.names),
    t.pathExists (f.path left) = u.pathExists (f.path right)

section
variable {t u : FileSystem} {left right : Path} {skip : SkipList}
  {entries entries' : List (String × FileTree)}
  (hw : (FileTree.directory entries).WellFormed) (hw' : (FileTree.directory entries').WellFormed)
  (hsame : FileTree.SameEntries (.directory entries) (.directory entries'))
include hw hw' hsame

/-- A walk gets to its end behind one root as behind the other. -/
theorem OpenAlike.opens_iff (h : OpenAlike t u left right skip entries) :
    t.Opens left (.directory entries) ↔ u.Opens right (.directory entries') := by
  have hexists {names : List String} {inner : List (String × FileTree)}
      (hbelow : FileTree.Below (.directory entries) names (.directory inner)) :
      t.pathExists (names.foldl Path.join left) = u.pathExists (names.foldl Path.join right) :=
    h.directory names inner ((FileTree.below_iff_at? hw).mp hbelow)
  constructor
  · intro hopens names inner hbelow
    obtain ⟨inner', hbelow'⟩ :=
      (hsame.exists_below_directory_iff hw hw').mpr ⟨inner, hbelow⟩
    exact hexists hbelow' ▸ hopens names inner' hbelow'
  · intro hopens names inner hbelow
    obtain ⟨inner', hbelow'⟩ :=
      (hsame.exists_below_directory_iff hw hw').mp ⟨inner, hbelow⟩
    exact (hexists hbelow).trans (hopens names inner' hbelow')

end

/-- Short names behind short roots can be opened alike. -/
theorem OpenAlike.of_followable {t u : FileSystem} {left right : Path} {skip : SkipList}
    {entries : List (String × FileTree)} (hw : (FileTree.directory entries).WellFormed)
    (hleft : t.find .content left = .ok (.directory entries))
    (hright : u.find .content right = .ok (.directory entries))
    (h : ∀ names node, (FileTree.directory entries).at? names = some node →
      FileSystem.Followable left names ∧ FileSystem.Followable right names) :
    OpenAlike t u left right skip entries where
  directory names inner hat := by
    have hbelow := (FileTree.below_iff_at? hw).mpr hat
    rw [FileSystem.opens_of_followable hw hleft (fun _ _ hat => (h _ _ hat).1) names inner hbelow,
      FileSystem.opens_of_followable hw hright (fun _ _ hat => (h _ _ hat).2) names inner hbelow]
  file f hf := by
    have hat := FileTree.at?_of_mem_filesOf hw.1 hw.2 (List.mem_of_mem_filter hf)
    obtain ⟨hfollow, hfollow'⟩ := h _ _ hat
    have hfind := FileSystem.find_join_of_followable hw hleft hat
      (fun _ => FileTree.noConfusion) hfollow
    have hfind' := FileSystem.find_join_of_followable hw hright hat
      (fun _ => FileTree.noConfusion) hfollow'
    exact (FileSystem.pathExists_of_find hfind).trans (FileSystem.pathExists_of_find hfind').symm

/-- What comes of loading a suite whose walk cannot get to its end is a fault. -/
theorem exists_fault_of_not_opens {fs : FileSystem} {root : Path} {skip : SkipList}
    {entries : List (String × FileTree)}
    (hfind : fs.find .content root = .ok (.directory entries))
    (hopens : ¬ fs.Opens root (.directory entries))
    {outcome : Except LoadFault (Suite × List Event)} (h : MayLoad fs root skip outcome) :
    ∃ fault, outcome = .error fault := by
  rcases (mayLoad_iff hfind).mp h with ⟨names, fault, -, rfl⟩ | ⟨hopens', -⟩
  · exact ⟨_, rfl⟩
  · exact absurd hopens' hopens

/-- The root does not matter as long as the paths behind it can be opened. If two roots are
directories with the same below them, and what is below can be opened behind one as behind the
other, a suite loads from one exactly if it loads from the other, and then its files are the same,
in the same order and with the same groups. Only the root stands in front of their paths. -/
theorem load_of_sameSubtree {t u : FileSystem} (ht : t.WellFormed) (hu : u.WellFormed)
    {left right : Path} {entries entries' : List (String × FileTree)}
    (hleft : t.find .content left = .ok (.directory entries))
    (hright : u.find .content right = .ok (.directory entries'))
    (hsame : ∀ place,
      (FileTree.directory entries).nodeAt? place = (FileTree.directory entries').nodeAt? place)
    {skip : SkipList} (hopen : OpenAlike t u left right skip entries) :
    MayLoad t left skip (load t left skip) ∧ MayLoad u right skip (load u right skip) ∧
      ∀ outcome outcome', MayLoad t left skip outcome → MayLoad u right skip outcome' →
        (∃ suite suite' events events', outcome = .ok (suite, events) ∧
          outcome' = .ok (suite', events') ∧ suite.root = left ∧ suite'.root = right ∧
          List.Forall₂ (Moved left right) suite.files suite'.files) ∨
        ∃ fault fault', outcome = .error fault ∧ outcome' = .error fault' := by
  refine ⟨mayLoad_load t left skip, mayLoad_load u right skip, ?_⟩
  have hw : (FileTree.directory entries).WellFormed := ht.find hleft
  have hw' : (FileTree.directory entries').WellFormed := hu.find hright
  have hentries : FileTree.SameEntries (.directory entries) (.directory entries') :=
    fun place => congrArg _ (hsame place)
  have hiff := hopen.opens_iff hw hw' hentries
  intro outcome outcome' h h'
  by_cases hopens : t.Opens left (.directory entries)
  · obtain ⟨order, horder, rfl⟩ := (mayLoad_iff_of_opens hleft hopens).mp h
    obtain ⟨order', horder', rfl⟩ := (mayLoad_iff_of_opens hright (hiff.mp hopens)).mp h'
    refine loadFound_moved hw hw' hleft hright horder horder' ?_ hopen.file
    exact FileTree.filter_filesOf_perm hw hw' _ fun names _ => hsame names
  · obtain ⟨fault, hfault⟩ := exists_fault_of_not_opens hleft hopens h
    obtain ⟨fault', hfault'⟩ := exists_fault_of_not_opens hright (mt hiff.mpr hopens) h'
    exact .inr ⟨fault, fault', hfault, hfault'⟩

section
variable {root : Path}
  (hroot : arithmetic.find .content root = .ok (.directory arithmeticEntries))
include hroot

/-- Everything that a suite looks into can be opened behind a root that is short enough. -/
theorem pathExists_arithmetic
    (hfollow : ∀ names ∈ [["arith"], ["arith.json"], ["arith", "mul.json"], ["notes.txt"], ["old"],
      ["old", "b.json"]], FileSystem.Followable root names) :
    arithmetic.Opens root (.directory arithmeticEntries) ∧
      ∀ f ∈ FileTree.filesOf arithmeticEntries, arithmetic.pathExists (f.path root) = true := by
  have hw := wellFormed_arithmetic.find hroot
  refine ⟨opens_arithmetic hroot (hfollow _ (by simp)) (hfollow _ (by simp)), fun f hf => ?_⟩
  have hnames : FileSystem.Followable root f.names := by
    refine hfollow f.names ?_
    simp only [arithmeticEntries, FileTree.filesOf, FileTree.files] at hf
    revert f
    simp [FileTree.Found.below]
  exact FileSystem.pathExists_of_find (find_join_arithmetic hroot f.names
    (FileTree.at?_of_mem_filesOf hw.1 hw.2 hf) (fun _ => FileTree.noConfusion) hnames)

end

theorem find_copy_arithmetic :
    arithmetic.find .content ⟨"../old/copy"⟩ = .ok (.directory arithmeticEntries) := by
  have hpieces : Text.splitAll '/' "../old/copy".toList
      = [['.', '.'], ['o', 'l', 'd'], ['c', 'o', 'p', 'y']] := rfl
  have hold : String.ofList ['o', 'l', 'd'] = "old" := rfl
  have hcopy : String.ofList ['c', 'o', 'p', 'y'] = "copy" := rfl
  have hlocate : arithmetic.locate .content ⟨"../old/copy"⟩ = .ok (.present ["old", "copy"]) := by
    refine FileSystem.locate_eq_ok_iff.mpr ⟨by decide, ?_⟩
    rw [hpieces]
    simp [arithmetic, FileTree.followPieces, FileTree.startOf, FileTree.at?, List.lookup_cons, hold,
      hcopy, FileTree.not_tooLong_of_length, -Text.byteLength_cons]
  exact FileSystem.find_of_at? hlocate rfl

/-- The directory loads alike under its absolute path and under a relative path through a directory
whose name the skip list holds. -/
theorem load_of_sameSubtree_arithmetic :
    arithmetic.WellFormed ∧
      arithmetic.find .content ⟨"/d"⟩ = .ok (.directory arithmeticEntries) ∧
      arithmetic.find .content ⟨"../old/copy"⟩ = .ok (.directory arithmeticEntries) ∧
      OpenAlike arithmetic arithmetic ⟨"/d"⟩ ⟨"../old/copy"⟩ skipsOld arithmeticEntries ∧
      load arithmetic ⟨"/d"⟩ skipsOld = .ok (arithmeticSuite, arithmeticEvents) ∧
      ∃ suite events, load arithmetic ⟨"../old/copy"⟩ skipsOld = .ok (suite, events) ∧
        suite.root = ⟨"../old/copy"⟩ ∧
        List.Forall₂ (Moved ⟨"/d"⟩ ⟨"../old/copy"⟩) arithmeticSuite.files suite.files := by
  obtain ⟨hleft, hleftFiles⟩ := pathExists_arithmetic find_arithmetic (by decide)
  obtain ⟨hright, hrightFiles⟩ := pathExists_arithmetic find_copy_arithmetic (by decide)
  have hopen : OpenAlike arithmetic arithmetic ⟨"/d"⟩ ⟨"../old/copy"⟩ skipsOld
      arithmeticEntries := by
    constructor
    · intro names inner hat
      have hbelow := (FileTree.below_iff_at? (wellFormed_arithmetic.find find_arithmetic)).mpr hat
      rw [hleft names inner hbelow, hright names inner hbelow]
    · intro f hf
      have hmem := List.mem_of_mem_filter hf
      rw [hleftFiles f hmem, hrightFiles f hmem]
  refine ⟨wellFormed_arithmetic, find_arithmetic, find_copy_arithmetic, hopen, load_arithmetic, ?_⟩
  obtain ⟨hload, hload', hall⟩ := load_of_sameSubtree wellFormed_arithmetic wellFormed_arithmetic
    find_arithmetic find_copy_arithmetic (fun _ => rfl) hopen
  rcases hall _ _ hload hload' with ⟨suite, suite', events, events', hok, hok', -, hroot, hmoved⟩ |
    ⟨fault, fault', he, -⟩
  · rw [load_arithmetic] at hok
    cases hok
    exact ⟨suite', events', hok', hroot, hmoved⟩
  · rw [load_arithmetic] at he
    cases he

/-! ## Long roots -/

theorem exists_load_nested :
    ∃ suite events, load FileSystem.nested ⟨"d"⟩ {} = .ok (suite, events) := by
  have hw := FileSystem.wellFormed_nested.find FileSystem.find_nested
  have hfollow (names : List String) {t : FileTree}
      (hat : (FileTree.directory FileSystem.nestedEntries).at? names = some t)
      (ht : ∀ target, t ≠ .link target) (h : FileSystem.Followable ⟨"d"⟩ names) :
      FileSystem.nested.pathExists (names.foldl Path.join ⟨"d"⟩) = true :=
    FileSystem.pathExists_of_find
      (FileSystem.find_join_of_followable hw FileSystem.find_nested hat ht h)
  have hopens : FileSystem.nested.Opens ⟨"d"⟩ (.directory FileSystem.nestedEntries) := by
    have hsub := hfollow ["sub"] rfl (fun _ => FileTree.noConfusion) (by decide)
    have hfile (path : Path) (bytes : List UInt8) : FileSystem.nested.Opens path (.file bytes) :=
      FileSystem.opens_of_leaf fun _ => FileTree.noConfusion
    rw [FileSystem.opens_directory_iff]
    refine ⟨FileSystem.pathExists_of_find FileSystem.find_nested, ?_⟩
    rw [FileSystem.nestedEntries, List.forall_mem_singleton, FileSystem.opens_directory_iff,
      List.forall_mem_singleton]
    exact ⟨hsub, hfile _ _⟩
  have hd := FileSystem.isDirectory_iff.mpr ⟨_, FileSystem.find_nested⟩
  rw [load_eq_loadFound hd ((fixturesBelow_eq_ok_iff FileSystem.find_nested).mpr ⟨hopens, rfl⟩),
    exists_loadFound_iff hw FileSystem.find_nested fun f => List.mem_of_mem_filter]
  intro f hf
  have hmem := List.mem_of_mem_filter (List.mem_of_mem_filter hf)
  obtain rfl : f = ⟨["sub", "x.json"], Text.bytesOf "[]".toList⟩ := by
    simpa [FileSystem.nestedEntries, FileTree.filesOf, FileTree.files, FileTree.Found.below]
      using hmem
  exact ⟨hfollow _ rfl (fun _ => FileTree.noConfusion) (by decide), [],
    FixtureFile.holds_text ⟨⟨""⟩, []⟩⟩

/-- A root counts if it is so long that what is below it cannot be opened. -/
theorem load_behind_long_root :
    FileSystem.nested.WellFormed ∧
      FileSystem.nested.find .content ⟨"d"⟩ = .ok (.directory FileSystem.nestedEntries) ∧
      FileSystem.nested.find .content FileSystem.longRoot
        = .ok (.directory FileSystem.nestedEntries) ∧
      (∃ suite events, load FileSystem.nested ⟨"d"⟩ {} = .ok (suite, events)) ∧
      load FileSystem.nested FileSystem.longRoot {}
        = .error (.unwalkable (FileSystem.longRoot.join "sub") .nameTooLong) := by
  obtain ⟨hroot, hsub⟩ := FileSystem.find_longRoot
  refine ⟨FileSystem.wellFormed_nested, FileSystem.find_nested, hroot, exists_load_nested, ?_⟩
  have hd := FileSystem.isDirectory_iff.mpr ⟨_, hroot⟩
  rw [load_of_walk_error hd (FileSystem.walk_nested hroot hsub)]

end ContractFixtures.Suite
