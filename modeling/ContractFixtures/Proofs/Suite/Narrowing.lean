import ContractFixtures.Proofs.SkipList.Union
import ContractFixtures.Proofs.Suite.Dependence

/-!
# Narrowing suites

More rules only take away. A suite that is loaded with two skip lists taken together is the one
that is loaded with the first of them, without the files and the cases that the second one leaves
out. It loads whenever the other one does, as it looks into fewer files.

* `without`: a suite without what a skip list leaves out.

Results:
1. `filtered_filtered`: leaving out cases in two steps.
2. `loadFound_of_joins`: the files that are found, with two skip lists taken together.
3. `load_append`: rules taken together narrow a suite.
-/

namespace ContractFixtures

/-! ## Files -/

namespace FixtureFile

/-- Groups that are empty from the start need not be dropped before others are emptied. -/
theorem filter_map_filter_not_isEmpty (keeps : Case → Bool) (groups : List Group) :
    ((groups.filter fun g => !g.isEmpty).map (List.filter keeps)).filter (fun g => !g.isEmpty)
      = (groups.map (List.filter keeps)).filter fun g => !g.isEmpty := by
  rw [List.filter_map, List.filter_map, List.filter_filter]
  refine congrArg _ (List.filter_congr fun group _ => ?_)
  cases group with
  | nil => rfl
  | cons c group => exact Bool.and_true _

/-- Cases may be left out in two steps. -/
theorem filtered_filtered {left right both : SkipList} (h : both.Joins left right)
    (file : FixtureFile) : (file.filtered left).filtered right = file.filtered both := by
  unfold filtered
  rw [FixtureFile.mk.injEq]
  refine ⟨rfl, ?_⟩
  have hcomp : ∀ group : Group,
      ((group.filter fun c => !left.skipsCase file.path c.method).filter
          fun c => !right.skipsCase file.path c.method)
        = group.filter fun c => !both.skipsCase file.path c.method := by
    intro group
    rw [List.filter_filter]
    refine List.filter_congr fun c _ => ?_
    rw [h.case, Bool.not_or, Bool.and_comm]
  refine (filter_map_filter_not_isEmpty _ _).trans ?_
  rw [List.map_map]
  exact congrArg _ (List.map_congr_left fun group _ => hcomp group)

theorem filtered_cases_sublist (skip : SkipList) (file : FixtureFile) :
    (file.filtered skip).cases.Sublist file.cases := by
  rw [cases_filtered]
  exact List.filter_sublist

end FixtureFile

namespace Suite

/-- A suite without the files that a skip list leaves out by their path behind the root, and
without the cases that it leaves out of the others. -/
def without (s : Suite) (skip : SkipList) : Suite where
  root := s.root
  files := (s.files.filter fun file => !skip.skipsParts (Path.partsFrom s.root file.path)).map
    (·.filtered skip)

/-- What is left of a suite was in it before. -/
theorem exists_of_mem_without {s : Suite} {skip : SkipList} {file : FixtureFile}
    (h : file ∈ (s.without skip).files) :
    ∃ whole ∈ s.files, file.path = whole.path ∧ file.cases.Sublist whole.cases := by
  obtain ⟨whole, hmem, rfl⟩ := List.mem_map.mp h
  exact ⟨whole, (List.mem_filter.mp hmem).1, rfl, whole.filtered_cases_sublist skip⟩

/-! ## Files that are found -/

section
variable {left right both : SkipList} (h : both.Joins left right) {root : Path}
include h

theorem loads_of_joins (names : List String) :
    loads both names = (loads left names && !right.skipsParts (names.map .name)) := by
  unfold loads
  rw [h.parts, Bool.not_or, Bool.and_assoc]

/-- The files that are kept with both skip lists are found among those that are kept with one. -/
theorem filter_loads_of_joins (found : List FileTree.Found) :
    found.filter (loads both ·.names)
      = (found.filter (loads left ·.names)).filter fun f => !right.skipsParts f.parts := by
  rw [List.filter_filter]
  refine List.filter_congr fun f _ => ?_
  rw [loads_of_joins h, Bool.and_comm]
  rfl

theorem loaded_of_joins {f : FileTree.Found} {file : FixtureFile} (hf : Loaded root left f file) :
    Loaded root both f (file.filtered right) := by
  obtain ⟨groups, hholds, rfl⟩ := loaded_iff.mp hf
  exact loaded_iff.mpr ⟨groups, hholds, FixtureFile.filtered_filtered h _⟩

/-- Files that are loaded with one skip list are loaded with both, if they are kept. -/
theorem forall₂_loaded_of_joins {found : List FileTree.Found} {files : List FixtureFile}
    (hnames : ∀ f ∈ found, ∀ name ∈ f.names, Path.IsName name)
    (hfiles : List.Forall₂ (Loaded root left) found files) :
    List.Forall₂ (Loaded root both) (found.filter fun f => !right.skipsParts f.parts)
      ((files.filter fun file => !right.skipsParts (Path.partsFrom root file.path)).map
        (·.filtered right)) := by
  induction hfiles with
  | nil => exact .nil
  | @cons f file found files hf _ ih =>
    obtain ⟨hname, hrest⟩ := List.forall_mem_cons.mp hnames
    rw [List.filter_cons, List.filter_cons, hf.1, f.partsFrom_path hname]
    cases right.skipsParts f.parts with
    | true => exact ih hrest
    | false => exact .cons (loaded_of_joins h hf) (ih hrest)

/-- Found files load with both skip lists if they load with one of them, and what the other one
leaves out is left out of the suite. -/
theorem loadFound_of_joins {fs : FileSystem} {entries : List (String × FileTree)}
    (hw : (FileTree.directory entries).WellFormed)
    (hfind : fs.find .content root = .ok (.directory entries)) {order order' : List FileTree.Found}
    (horder : order.Perm ((FileTree.filesOf entries).filter (isFixture root)))
    (horder' : order'.Perm ((FileTree.filesOf entries).filter (isFixture root)))
    {suite : Suite} {events : List Event}
    (hok : loadFound fs root left order = .ok (suite, events)) :
    ∃ events', loadFound fs root both order' = .ok (suite.without right, events') := by
  have hfilter := filter_loads_of_joins h (FileTree.filesOf entries)
  -- Fewer files are looked into, so all of them can be loaded.
  have hcan := (exists_loadFound_order_iff hw hfind horder).mp ⟨suite, events, hok⟩
  obtain ⟨suite', events', hok'⟩ := (exists_loadFound_order_iff hw hfind horder').mpr fun f hf =>
    hcan f (List.mem_of_mem_filter (hfilter ▸ hf))
  obtain ⟨hroot, sorted, hperm, hsorted, hloaded⟩ :=
    exists_sorted_of_loadFound_ok hw hfind horder hok
  obtain ⟨hroot', sorted', hperm', hsorted', hloaded'⟩ :=
    exists_sorted_of_loadFound_ok hw hfind horder' hok'
  have heq : sorted' = sorted.filter fun f => !right.skipsParts f.parts := by
    refine eq_of_perm_of_ascending FileTree.Found.parts ?_ hsorted' (hsorted.filter _)
    rw [hfilter] at hperm'
    exact hperm'.trans (hperm.filter _).symm
  have hnames : ∀ f ∈ sorted, (∀ name ∈ f.names, Path.IsName name) ∧ f.names ≠ [] := by
    intro f hf
    have hmem := List.mem_of_mem_filter (hperm.mem_iff.mp hf)
    exact ⟨FileTree.isName_of_mem_filesOf hw.2 hmem, FileTree.names_ne_nil_of_mem_filesOf hmem⟩
  have hnarrowed := forall₂_loaded_of_joins h (fun f hf => (hnames f hf).1) hloaded
  rw [heq] at hloaded'
  have hfiles := eq_of_forall₂_moved <| forall₂_moved_of_loaded
    (fun f hf => hnames f (List.mem_of_mem_filter hf)) hloaded' hnarrowed
  have hsuite : suite' = suite.without right := by
    rw [without, hroot, Suite.mk.injEq]
    exact ⟨hroot', hfiles⟩
  exact ⟨events', hsuite ▸ hok'⟩

end

/-! ## Suites -/

/-- Two sets of rules that compile on their own compile together, and leave out what either of them
leaves out. A suite that loads with the first one loads with both: it then is the same without the
files and the cases that the second one leaves out, so nothing comes back. -/
theorem load_append {f g : SkipRules} {left right : SkipList}
    (hf : SkipList.ofRules f = .ok left) (hg : SkipList.ofRules g = .ok right) :
    ∃ both, SkipList.ofRules (f.append g) = .ok both ∧
      (∀ p, both.skips p = (left.skips p || right.skips p)) ∧
      (∀ p method, both.skipsCase p method
        = (left.skipsCase p method || right.skipsCase p method)) ∧
      ∀ fs : FileSystem, fs.WellFormed → ∀ root suite events,
        MayLoad fs root left (.ok (suite, events)) →
          (∃ events', load fs root both = .ok (suite.without right, events')) ∧
          (∀ outcome, MayLoad fs root both outcome →
            ∃ events', outcome = .ok (suite.without right, events')) ∧
          ∀ file ∈ (suite.without right).files, ∃ whole ∈ suite.files,
            file.path = whole.path ∧ file.cases.Sublist whole.cases := by
  obtain ⟨both, hboth⟩ := SkipList.exists_ofRules_append hf hg
  have hjoins := SkipList.joins_of_append hf hg hboth
  refine ⟨both, hboth, fun p => hjoins.parts p.parts, hjoins.case, ?_⟩
  intro fs hw root suite events hload
  have hall : ∀ outcome, MayLoad fs root both outcome →
      ∃ events', outcome = .ok (suite.without right, events') := by
    intro outcome houtcome
    obtain ⟨entries, order, hfind, hopens, horder, hok⟩ := exists_order_of_mayLoad_ok hload
    obtain ⟨order', horder', rfl⟩ := (mayLoad_iff_of_opens hfind hopens).mp houtcome
    exact loadFound_of_joins hjoins (hw.find hfind) hfind horder horder' hok
  exact ⟨hall _ (mayLoad_load fs root both), hall, fun file => exists_of_mem_without⟩

/-- The skip list that leaves out one file of a directory, and a method of the file beside it. -/
def skipsArith : SkipList :=
  { rules := { filename := .ofList [("arith", ["mul"])], method := .ofList [("arith", ["add"])] } }

/-- Together the skip lists leave one file, in which no case is left. -/
theorem load_append_arithmetic :
    SkipList.ofRules skipsOld.rules = .ok skipsOld ∧
      SkipList.ofRules skipsArith.rules = .ok skipsArith ∧ arithmetic.WellFormed ∧
      ∃ both events, SkipList.ofRules (skipsOld.rules.append skipsArith.rules) = .ok both ∧
        load arithmetic ⟨"/d"⟩ skipsOld = .ok (arithmeticSuite, arithmeticEvents) ∧
        load arithmetic ⟨"/d"⟩ both = .ok (⟨⟨"/d"⟩, [⟨⟨"/d/arith.json"⟩, []⟩]⟩, events) := by
  have hold : SkipList.ofRules skipsOld.rules = .ok skipsOld := rfl
  have harith : SkipList.ofRules skipsArith.rules = .ok skipsArith := rfl
  have hwithout : arithmeticSuite.without skipsArith
      = ⟨⟨"/d"⟩, [⟨⟨"/d/arith.json"⟩, []⟩]⟩ := by decide +kernel
  obtain ⟨both, hboth, -, -, hnarrow⟩ := load_append hold harith
  obtain ⟨⟨events, hload⟩, -⟩ := hnarrow arithmetic wellFormed_arithmetic ⟨"/d"⟩ _ arithmeticEvents
    (load_arithmetic ▸ mayLoad_load arithmetic ⟨"/d"⟩ skipsOld)
  exact ⟨hold, harith, wellFormed_arithmetic, both, events, hboth, load_arithmetic,
    hwithout ▸ hload⟩

end Suite

end ContractFixtures
