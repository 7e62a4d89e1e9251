import ContractFixtures.Proofs.Suite.Narrowing
import ContractFixtures.Proofs.Suite.Walk
import Mathlib.Data.List.Count

/-!
# What is said about what is left out

Loading a suite leaves out files, cases of the other files, and the groups in which no case is
left. None of this happens in silence. What is said to be left out and what the suite has make up
all that was found, as often as it was found: the paths that the walk gives, and the cases that the
files of the suite hold.

* `IsWhole`: a file of the suite before cases are left out.
* `lacking`: the cases that files have lost.
* `skippedPaths`, `skippedMethods`: what events say that is left out.

Results:
1. `forall₂_isWhole_iff`: there is one way to make the files of a suite whole.
2. `kept_append_skipped_perm`, `lacking_append_cases_perm`: no file is lost on the way to the kept
   ones, and no case on the way to those of the suite.
3. `events_account_for`: the events of a load that succeeds.
-/

namespace ContractFixtures

/-- What is left of a list without one part of it is the other part. -/
theorem diff_perm_of_append_perm {α : Type} [DecidableEq α] {left right whole : List α}
    (h : (left ++ right).Perm whole) : (whole.diff left).Perm right := by
  refine List.perm_iff_count.mpr fun a => ?_
  rw [List.count_diff, ← h.count_eq, List.count_append, Nat.add_sub_cancel_left]

/-! ## The cases of a file -/

namespace FixtureFile

variable (skip : SkipList) (whole : FixtureFile)

@[simp] theorem path_filtered : (whole.filtered skip).path = whole.path := rfl

theorem kept_append_skipped_perm :
    ((whole.filtered skip).cases ++
      whole.cases.filter fun c => skip.skipsCase whole.path c.method).Perm whole.cases := by
  rw [cases_filtered]
  exact List.perm_append_comm.trans (List.filter_append_perm _ _)

/-- The cases that a skip list leaves out are those that the file has more than what is left. -/
theorem cases_diff_perm :
    (whole.cases.diff (whole.filtered skip).cases).Perm
      (whole.cases.filter fun c => skip.skipsCase whole.path c.method) :=
  diff_perm_of_append_perm (kept_append_skipped_perm skip whole)

/-- The cases that a skip list leaves out and those that it leaves are all cases of the file. -/
theorem cases_diff_append_perm :
    (whole.cases.diff (whole.filtered skip).cases ++ (whole.filtered skip).cases).Perm
      whole.cases :=
  ((cases_diff_perm skip whole).append_right _).trans
    (List.perm_append_comm.trans (kept_append_skipped_perm skip whole))

theorem skippedCases_perm :
    (whole.skippedCases skip).Perm
      ((whole.cases.diff (whole.filtered skip).cases).map fun c =>
        .skippedCase whole.path c.method) :=
  ((cases_diff_perm skip whole).map _).symm

end FixtureFile

namespace Suite

/-- Whether a file is another one with all its cases: what its path is loaded as. -/
def IsWhole (fs : FileSystem) (file whole : FixtureFile) : Prop :=
  FixtureFile.load fs file.path = .ok whole

/-- The cases that whole files have more than the files that are left of them, each with the path of
its file. -/
def lacking (wholes files : List FixtureFile) : List (Path × Case) :=
  (List.zipWith (fun whole file => (whole.cases.diff file.cases).map fun c => (file.path, c))
    wholes files).flatten

/-- The paths of the files that events say are left out. -/
def skippedPaths (events : List Event) : List Path :=
  events.filterMap fun
    | .skippedFile path => some path
    | _ => none

/-- The paths and the methods of the cases that events say are left out. -/
def skippedMethods (events : List Event) : List (Path × String) :=
  events.filterMap fun
    | .skippedCase path method => some (path, method)
    | _ => none

variable {fs : FileSystem} {root : Path} {skip : SkipList} {entries : List (String × FileTree)}

/-! ## Whole files -/

/-- The whole files of a suite are settled by its files. -/
theorem forall₂_isWhole_iff {files wholes : List FixtureFile}
    (h : List.Forall₂ (IsWhole fs) files wholes) {others : List FixtureFile} :
    List.Forall₂ (IsWhole fs) files others ↔ others = wholes := by
  have hunique : Relator.RightUnique (IsWhole fs) := fun _ _ _ h h' =>
    Except.ok.inj (h.symm.trans h')
  constructor
  · exact fun h' => hunique.forall₂ h' h
  · rintro rfl
    exact h

section
variable (hw : (FileTree.directory entries).WellFormed)
  (hfind : fs.find .content root = .ok (.directory entries))
include hw hfind

/-- A loaded file is what the skip list leaves of a whole one, and what is said while it is loaded
is what the skip list leaves out of that. -/
theorem exists_isWhole {f : FileTree.Found} (hf : f ∈ FileTree.filesOf entries)
    (hexists : fs.pathExists (f.path root) = true) {file : FixtureFile}
    (h : Loaded root skip f file) :
    ∃ whole, IsWhole fs file whole ∧ file = whole.filtered skip ∧
      said fs root skip f = whole.skippedCases skip := by
  obtain ⟨whole, hwhole, hfile⟩ := (exists_load_filtered_iff hw hfind hf).mpr ⟨hexists, h⟩
  refine ⟨whole, ?_, hfile, ?_⟩
  · rwa [IsWhole, h.1]
  · rw [said, hwhole]

theorem exists_wholes {sorted : List FileTree.Found} {files : List FixtureFile}
    (hsorted : ∀ f ∈ sorted, f ∈ FileTree.filesOf entries ∧ fs.pathExists (f.path root) = true)
    (hloaded : List.Forall₂ (Loaded root skip) sorted files) :
    ∃ wholes, List.Forall₂ (IsWhole fs) files wholes ∧ files = wholes.map (·.filtered skip) ∧
      sorted.flatMap (said fs root skip) = wholes.flatMap (·.skippedCases skip) := by
  induction hloaded with
  | nil => exact ⟨[], .nil, rfl, rfl⟩
  | @cons f file sorted files hfile _ ih =>
    obtain ⟨⟨hf, hexists⟩, hrest⟩ := List.forall_mem_cons.mp hsorted
    obtain ⟨whole, hwhole, hfiltered, hsaid⟩ := exists_isWhole hw hfind hf hexists hfile
    obtain ⟨wholes, hwholes, hfiles, hsaidRest⟩ := ih hrest
    refine ⟨whole :: wholes, .cons hwhole hwholes, ?_, ?_⟩
    · rw [List.map_cons, ← hfiltered, ← hfiles]
    · rw [List.flatMap_cons, List.flatMap_cons, hsaid, hsaidRest]

/-- The files of a suite are what the skip list leaves of whole ones. They have the paths of the
kept files, and what is said while they are loaded is what the skip list leaves out. -/
theorem exists_wholes_of_loadFound_ok {order : List FileTree.Found} {suite : Suite}
    {events : List Event}
    (horder : order.Perm ((FileTree.filesOf entries).filter (isFixture root)))
    (h : loadFound fs root skip order = .ok (suite, events)) :
    ∃ wholes, List.Forall₂ (IsWhole fs) suite.files wholes ∧
      suite.files = wholes.map (·.filtered skip) ∧
      (suite.files.map (·.path)).Perm ((kept root skip order).map (·.path root)) ∧
      ((kept root skip order).flatMap (said fs root skip)).Perm
        (wholes.flatMap (·.skippedCases skip)) := by
  have hfound := mem_filesOf_of_mem_order horder
  obtain ⟨files, hexists, hloaded, rfl⟩ := exists_of_loadFound_ok hw hfind hfound h
  obtain ⟨sorted, hkept, hsorted⟩ := exists_perm_sortFiles hloaded
  have hmem : ∀ f ∈ sorted,
      f ∈ FileTree.filesOf entries ∧ fs.pathExists (f.path root) = true := by
    intro f hf
    have hf' := hkept.mem_iff.mp hf
    exact ⟨hfound f ((kept_sublist root skip order).subset hf'), hexists f hf'⟩
  obtain ⟨wholes, hwholes, hfiltered, hsaid⟩ := exists_wholes hw hfind hmem hsorted
  refine ⟨wholes, hwholes, hfiltered, ?_, ?_⟩
  · rw [map_path_of_forall₂ hsorted]
    exact hkept.map _
  · rw [← hsaid]
    exact hkept.symm.flatMap_right _

end

/-! ## Cases that files lack -/

section
variable (skip) (wholes : List FixtureFile)

theorem lacking_filtered :
    lacking wholes (wholes.map (·.filtered skip)) = wholes.flatMap fun whole =>
      (whole.cases.diff (whole.filtered skip).cases).map fun c => (whole.path, c) := by
  rw [lacking, List.zipWith_map_right, List.zipWith_self]
  rfl

/-- What is said while files are loaded are the cases that they lack. -/
theorem skippedCases_perm_lacking :
    (wholes.flatMap (·.skippedCases skip)).Perm
      ((lacking wholes (wholes.map (·.filtered skip))).map fun c =>
        .skippedCase c.1 c.2.method) := by
  rw [lacking_filtered, List.map_flatMap]
  refine List.Perm.flatMap_left _ fun whole _ => ?_
  rw [List.map_map]
  exact whole.skippedCases_perm skip

/-- The cases that files lack and those that they have are all cases. -/
theorem lacking_append_cases_perm (root : Path) :
    (lacking wholes (wholes.map (·.filtered skip)) ++
      (Suite.mk root (wholes.map (·.filtered skip))).cases).Perm (Suite.mk root wholes).cases := by
  rw [lacking_filtered, cases, List.flatMap_map]
  refine (List.flatMap_append_perm _ _ _).trans (List.Perm.flatMap_left _ fun whole _ => ?_)
  rw [FixtureFile.path_filtered, ← List.map_append]
  exact (whole.cases_diff_append_perm skip).map _

end

/-! ## Events -/

section
variable {order : List FileTree.Found} (hw : (FileTree.directory entries).WellFormed)
  (horder : order.Perm ((FileTree.filesOf entries).filter (isFixture root)))
include hw horder

/-- The files that a skip list keeps and those that it leaves out are all files that are found. -/
theorem kept_append_skipped_perm :
    ((kept root skip order).map (·.path root) ++
      (order.filter fun f => skip.skipsParts f.parts).map (·.path root)).Perm
        (((FileTree.filesOf entries).filter (isFixture root)).map (·.path root)) := by
  rw [← kept_eq root skip hw (mem_filesOf_of_mem_order horder), ← List.map_append]
  exact (List.perm_append_comm.trans ((List.filter_append_perm _ _).trans horder)).map _

/-- The events of a load, from the paths that are skipped and what is said about the kept files. -/
theorem events_perm_of_loadFound {suite : Suite} {events cases : List Event} {paths : List Path}
    (h : loadFound fs root skip order = .ok (suite, events))
    (hpaths : ((order.filter fun f => skip.skipsParts f.parts).map (·.path root)).Perm paths)
    (hcases : ((kept root skip order).flatMap (said fs root skip)).Perm cases) :
    events.Perm (paths.map .skippedFile ++ cases ++
      [.loaded suite.cases.length suite.files.length root]) := by
  rw [events_of_loadFound h, kept_eq root skip hw (mem_filesOf_of_mem_order horder)]
  refine (List.Perm.append ?_ hcases).append_right _
  have hevents := hpaths.map Event.skippedFile
  rwa [List.map_map] at hevents

end

section
variable {events : List Event} {paths : List Path} {lacked : List (Path × Case)}
  {cases files : Nat}
  (h : events.Perm (paths.map .skippedFile ++ lacked.map (fun c => .skippedCase c.1 c.2.method)
    ++ [.loaded cases files root]))
include h

theorem skippedPaths_perm : (skippedPaths events).Perm paths := by
  refine (h.filterMap _).trans (List.Perm.of_eq ?_)
  simp [List.filterMap_map]

theorem skippedMethods_perm :
    (skippedMethods events).Perm (lacked.map (Prod.map id (·.method))) := by
  refine (h.filterMap _).trans (List.Perm.of_eq ?_)
  simp [List.filterMap_map]

end

/-- What is said while a suite is loaded, in whatever order its files are found, accounts for
everything that is left out: one event for each path of the walk that no file of the suite has, one
for each case that a file of the suite lacks, as often as it lacks it, and one for what is left. So
what is skipped and what is loaded make up what is found, files as well as cases. -/
theorem events_account_for {suite : Suite} {events : List Event} (hw : fs.WellFormed)
    (h : MayLoad fs root skip (.ok (suite, events))) :
    ∃ paths wholes, pathsBelow fs root = .ok paths ∧
      (∀ files, List.Forall₂ (IsWhole fs) suite.files files ↔ files = wholes) ∧
      events.Perm
        ((paths.filter (· ∉ suite.files.map (·.path))).map .skippedFile
          ++ (lacking wholes suite.files).map (fun c => .skippedCase c.1 c.2.method)
          ++ [.loaded suite.cases.length suite.files.length root]) ∧
      (skippedPaths events ++ suite.files.map (·.path)).Perm paths ∧
      (skippedMethods events ++ suite.cases.map (Prod.map id (·.method))).Perm
        ((Suite.mk root wholes).cases.map (Prod.map id (·.method))) := by
  obtain ⟨entries, order, hfind, hopens, horder, hok⟩ := exists_order_of_mayLoad_ok h
  have hentries : (FileTree.directory entries).WellFormed := hw.find hfind
  have hpaths := pathsBelow_of_opens hfind hopens
  obtain ⟨wholes, hwholes, hfiltered, hkept, hsaid⟩ :=
    exists_wholes_of_loadFound_ok hentries hfind horder hok
  -- The paths of the walk differ, so those that no file has are what the kept ones leave.
  have hfound := (hkept.append_right _).trans (kept_append_skipped_perm hentries horder)
  have hskipped := diff_perm_of_append_perm hfound
  rw [(nodup_parts_pathsBelow hw hpaths).of_map.sdiff_eq_filter] at hskipped
  have hlacking := hsaid.trans (skippedCases_perm_lacking skip wholes)
  have hcases := (lacking_append_cases_perm skip wholes root).map (Prod.map id Case.method)
  rw [← hfiltered] at hlacking hcases
  have hlog := events_perm_of_loadFound hentries horder hok hskipped.symm hlacking
  refine ⟨_, wholes, hpaths, fun _ => forall₂_isWhole_iff hwholes, hlog, ?_, ?_⟩
  · exact (((skippedPaths_perm hlog).trans hskipped).append_right _).trans
      (List.perm_append_comm.trans hfound)
  · rw [List.map_append] at hcases
    exact ((skippedMethods_perm hlog).append_right _).trans hcases

/-- A file is left out, and two occurrences of a method that the file has beside another one. -/
theorem events_arithmetic :
    arithmetic.WellFormed ∧
      MayLoad arithmetic ⟨"/d"⟩ skipsOld (.ok (arithmeticSuite, arithmeticEvents)) ∧
      skippedPaths arithmeticEvents = [⟨"/d/old/b.json"⟩] ∧
      skippedMethods arithmeticEvents
        = [(⟨"/d/arith.json"⟩, "sub"), (⟨"/d/arith.json"⟩, "sub")] ∧
      ∃ paths, pathsBelow arithmetic ⟨"/d"⟩ = .ok paths ∧
        [⟨"/d/old/b.json"⟩, ⟨"/d/arith/mul.json"⟩, ⟨"/d/arith.json"⟩].Perm paths ∧
        arithmeticEvents.Perm
          ((paths.filter (· ∉ arithmeticSuite.files.map (·.path))).map .skippedFile ++
            [.skippedCase ⟨"/d/arith.json"⟩ "sub", .skippedCase ⟨"/d/arith.json"⟩ "sub",
              .loaded 2 2 ⟨"/d"⟩]) := by
  have hmay := load_arithmetic ▸ mayLoad_load arithmetic ⟨"/d"⟩ skipsOld
  obtain ⟨paths, wholes, hpaths, hwholes, hlog, hskipped, -⟩ :=
    events_account_for wellFormed_arithmetic hmay
  obtain ⟨hadd, hmul⟩ := load_path_arithmetic
  obtain rfl := (hwholes _).mp (.cons hmul (.cons hadd .nil))
  have hlacking : (lacking [⟨⟨"/d/arith/mul.json"⟩, [[calling "mul"]]⟩,
        ⟨⟨"/d/arith.json"⟩, [[calling "add", calling "sub"], [calling "sub"]]⟩]
        arithmeticSuite.files).map (fun c => Event.skippedCase c.1 c.2.method)
      = [.skippedCase ⟨"/d/arith.json"⟩ "sub", .skippedCase ⟨"/d/arith.json"⟩ "sub"] := by
    decide +kernel
  rw [hlacking, List.append_assoc] at hlog
  exact ⟨wellFormed_arithmetic, hmay, rfl, rfl, paths, hpaths, hskipped, hlog⟩

end Suite

end ContractFixtures
