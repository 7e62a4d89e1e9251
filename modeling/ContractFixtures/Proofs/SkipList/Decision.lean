import ContractFixtures.Proofs.NameMap.Values
import ContractFixtures.Proofs.Path.Spelling
import ContractFixtures.SkipList.Basic

/-!
# Decisions on files

A file is left out for one of three reasons: a part of its directory is listed, its stem is listed
under the stem of its directory, or a pattern there matches its stem. Each of them is read off the
text of the path or of the directory that is cut off it, and none of them depends on the spelling.

* `LeavesOut`: the reasons to leave a file out.
* `withDirectories`: a skip list with other directories.

Results:
1. `skips_iff_leavesOut`: a file is left out for these reasons only.
2. `skips_by_directory`: what directories leave out.
3. `skips_of_respelled`: all spellings of a path get the same answers.
-/

namespace ContractFixtures.SkipList

/-- The folder under which rules for a file stand: the stem of the directory that is cut off its
path. -/
def folderOf (p : Path) : String :=
  (p.parent?.map fun directory => Path.fileStem directory.parts).getD ""

/-- The reasons to leave a file out: a part of the directory that is cut off its path is listed; its
stem is listed for its folder; a pattern for its folder matches its stem. -/
inductive LeavesOut (s : SkipList) (p : Path) : Prop
  | directory {directory : Path} {part : Path.Part} (hp : p.parent? = some directory)
      (hpart : part ∈ directory.parts) (h : part.text ∈ s.rules.directories)
  | name (h : Path.fileStem p.parts ∈ (s.rules.filename.get? (folderOf p)).getD [])
  | pattern {pattern : Pattern} (hp : pattern ∈ (s.patterns.get? (folderOf p)).getD [])
      (h : pattern.isMatch (Path.fileStem p.parts) = true)

/-- The skip list with other directories. -/
def withDirectories (s : SkipList) (directories : List String) : SkipList :=
  { s with rules := { s.rules with directories } }

theorem directoryStem_parts (p : Path) : Path.directoryStem p.parts = folderOf p := by
  rw [Path.directoryStem, ← Path.parts_parent?, Option.map_map]
  rfl

/-- A path without a directory has no part in front of its last one. -/
theorem dropLast_parts (p : Path) :
    p.parts.dropLast = (Path.parentParts? p.parts).getD [] := by
  unfold Path.parentParts?
  split
  · next h =>
    rw [List.getLast?_eq_none_iff.mp h]
    rfl
  · next h =>
    obtain ⟨front, hfront⟩ := List.getLast?_eq_some_iff.mp h
    have htail := Path.root_not_mem_tail p
    rw [hfront] at htail ⊢
    cases front with
    | nil => rfl
    | cons => exact absurd (List.mem_append_right _ List.mem_cons_self) htail
  · rfl

theorem hitsDirectory_iff (s : SkipList) (p : Path) :
    s.hitsDirectory p.parts = true ↔
      ∃ part ∈ p.parts.dropLast, part.text ∈ s.rules.directories := by
  rw [dropLast_parts]
  unfold hitsDirectory
  split
  · next h => simp [h]
  · next parent h =>
    simp only [h, List.any_eq_true, beq_iff_eq, Option.getD_some]
    constructor
    · rintro ⟨name, hname, part, hpart, rfl⟩
      exact ⟨part, hpart, hname⟩
    · rintro ⟨part, hpart, hname⟩
      exact ⟨part.text, hname, part, hpart, rfl⟩

/-- What is listed for a directory is looked for in the text that is cut off the path. -/
theorem exists_part_iff {s : SkipList} {p : Path} :
    (∃ part ∈ p.parts.dropLast, part.text ∈ s.rules.directories) ↔
      ∃ directory, p.parent? = some directory ∧
        ∃ part ∈ directory.parts, part.text ∈ s.rules.directories := by
  rw [dropLast_parts, ← Path.parts_parent?]
  cases p.parent? <;> simp

theorem skips_iff_leavesOut (s : SkipList) (p : Path) : s.skips p = true ↔ s.LeavesOut p := by
  unfold skips skipsParts
  rw [Bool.or_eq_true, Bool.or_eq_true, hitsDirectory_iff, exists_part_iff, hitsName,
    hitsPattern, directoryStem_parts, List.contains_iff_mem, List.any_eq_true]
  constructor
  · rintro ((⟨directory, hp, part, hpart, h⟩ | h) | ⟨pattern, hp, h⟩)
    · exact .directory hp hpart h
    · exact .name h
    · exact .pattern hp h
  · rintro (⟨hp, hpart, h⟩ | h | ⟨hp, h⟩)
    · exact .inl (.inl ⟨_, hp, _, hpart, h⟩)
    · exact .inl (.inr h)
    · exact .inr ⟨_, hp, h⟩

/-! ## Directories -/

/-- Other directories change nothing else. -/
theorem skips_withDirectories (s : SkipList) (p : Path) {directories : List String}
    (h : (∃ part ∈ p.parts.dropLast, part.text ∈ directories) ↔
      ∃ part ∈ p.parts.dropLast, part.text ∈ s.rules.directories) :
    (s.withDirectories directories).skips p = s.skips p := by
  have hdirectory : (s.withDirectories directories).hitsDirectory p.parts
      = s.hitsDirectory p.parts := by
    rw [Bool.eq_iff_iff, hitsDirectory_iff, hitsDirectory_iff]
    exact h
  unfold skips skipsParts
  rw [hdirectory]
  rfl

/-- A file is left out if a part of its path but the last one is listed as a directory, whatever the
other rules are, and without other rules for files it is left out for this reason only. An entry
that is no such part changes nothing; and but for the slash in front of a path, no part holds a
slash. -/
theorem skips_by_directory (s : SkipList) (p : Path) :
    ((∃ part ∈ p.parts.dropLast, part.text ∈ s.rules.directories) → s.skips p = true) ∧
      (s.rules.filename.isEmpty → s.patterns.isEmpty →
        (s.skips p = true ↔ ∃ part ∈ p.parts.dropLast, part.text ∈ s.rules.directories)) ∧
      (s.withDirectories (s.rules.directories.filter fun entry =>
        p.parts.dropLast.any fun part => part.text == entry)).skips p = s.skips p ∧
      ∀ part ∈ p.parts, part.text = "/" ∨ part.text ≠ "" ∧ '/' ∉ part.text.toList := by
  have hmeets : (∃ part ∈ p.parts.dropLast, part.text ∈ s.rules.directories) →
      s.skips p = true := by
    intro h
    obtain ⟨directory, hp, part, hpart, hentry⟩ := exists_part_iff.mp h
    exact (skips_iff_leavesOut s p).mpr (.directory hp hpart hentry)
  refine ⟨hmeets, ?_, ?_, fun part => Path.text_of_mem_parts⟩
  · intro hnames hpatterns
    refine ⟨fun h => ?_, hmeets⟩
    rcases (skips_iff_leavesOut s p).mp h with ⟨hp, hpart, hentry⟩ | hname | ⟨hpattern, -⟩
    · exact exists_part_iff.mpr ⟨_, hp, _, hpart, hentry⟩
    · rw [NameMap.get?_of_isEmpty hnames] at hname
      cases hname
    · rw [NameMap.get?_of_isEmpty hpatterns] at hpattern
      cases hpattern
  · refine skips_withDirectories s p ⟨?_, ?_⟩
    · rintro ⟨part, hpart, hentry⟩
      exact ⟨part, hpart, (List.mem_filter.mp hentry).1⟩
    · rintro ⟨part, hpart, hentry⟩
      refine ⟨part, hpart, List.mem_filter.mpr ⟨hentry, ?_⟩⟩
      exact List.any_eq_true.mpr ⟨part, hpart, beq_self_eq_true _⟩

/-- A skip list with a directory, and with a file, a stem, a beginning and a path that are none. -/
def skipsDirectories : SkipList :=
  { rules := { directories := ["legacy", "old.json", "old", "leg", "a/legacy"] } }

theorem skips_by_directory_legacy :
    skipsDirectories.rules.filename.isEmpty ∧ skipsDirectories.patterns.isEmpty ∧
      skipsDirectories.skips ⟨"/a//legacy/./b/new.json/"⟩ = true ∧
      skipsDirectories.skips ⟨"a/legacy2/old.json"⟩ = false := by
  obtain ⟨hmeets, -⟩ := skips_by_directory skipsDirectories ⟨"/a//legacy/./b/new.json/"⟩
  obtain ⟨-, honly, -⟩ := skips_by_directory skipsDirectories ⟨"a/legacy2/old.json"⟩
  refine ⟨rfl, rfl, hmeets (by decide +kernel), ?_⟩
  rw [Bool.eq_false_iff, ne_eq, honly rfl rfl]
  decide +kernel

/-! ## Spellings -/

/-- Another spelling of a path has the same folder. -/
theorem folderOf_eq_of_respelled {p q : Path} (h : Path.Respelled p q) :
    folderOf p = folderOf q := by
  have hparent := h.parent?
  unfold folderOf
  generalize p.parent? = left at hparent ⊢
  generalize q.parent? = right at hparent ⊢
  cases hparent with
  | none => rfl
  | some hsame =>
    rw [Option.map_some, Option.map_some, Path.respelled_iff.mp hsame]

/-- What is a reason to leave a file out is one for every spelling of its path. -/
theorem LeavesOut.respelled {s : SkipList} {p q : Path} (h : Path.Respelled p q)
    (hout : s.LeavesOut p) : s.LeavesOut q := by
  have hparts := Path.respelled_iff.mp h
  cases hout with
  | @directory d part hp hpart hentry =>
    have hparent := h.parent?
    rw [hp] at hparent
    generalize hq : q.parent? = right at hparent
    cases hparent with
    | some hsame =>
      rw [Path.respelled_iff.mp hsame] at hpart
      exact .directory hq hpart hentry
  | name hname =>
    rw [hparts, folderOf_eq_of_respelled h] at hname
    exact .name hname
  | pattern hp hmatch =>
    rw [folderOf_eq_of_respelled h] at hp
    rw [hparts] at hmatch
    exact .pattern hp hmatch

/-- Skip lists give the same answers for all spellings of a path. Two texts have the same parts if
they differ in doubled slashes, in dots behind slashes and in slashes at the end only; then there
are the same reasons to leave out what they denote, and the same cases in it. -/
theorem skips_of_respelled (p q : Path) :
    (p.parts = q.parts ↔ Path.Respelled p q) ∧
      (p.parts = q.parts → ∀ s : SkipList, (s.LeavesOut p ↔ s.LeavesOut q) ∧
        s.skips p = s.skips q ∧ ∀ method, s.skipsCase p method = s.skipsCase q method) := by
  refine ⟨Path.respelled_iff.symm, fun h s => ?_⟩
  have hsame : Path.Respelled p q := Path.respelled_iff.mpr h
  have hreasons : s.LeavesOut p ↔ s.LeavesOut q :=
    ⟨.respelled hsame, .respelled (.symm _ _ hsame)⟩
  refine ⟨hreasons, ?_, fun method => ?_⟩
  · rw [Bool.eq_iff_iff, skips_iff_leavesOut, skips_iff_leavesOut]
    exact hreasons
  · rw [skipsCase, skipsCase, h]

theorem skips_of_respelled_legacy :
    Path.parts ⟨"/a//legacy/./b/new.json/"⟩ = Path.parts ⟨"/a/legacy/b/new.json/."⟩ ∧
      skipsDirectories.skips ⟨"/a//legacy/./b/new.json/"⟩
        = skipsDirectories.skips ⟨"/a/legacy/b/new.json/."⟩ := by
  have hparts : Path.parts ⟨"/a//legacy/./b/new.json/"⟩ = Path.parts ⟨"/a/legacy/b/new.json/."⟩ := by
    decide +kernel
  exact ⟨hparts, ((skips_of_respelled _ _).2 hparts skipsDirectories).2.1⟩

end ContractFixtures.SkipList
