import ContractFixtures.Proofs.Path.Stem
import ContractFixtures.Proofs.SkipList.Compiled

/-!
# Rules for the files of a directory

Rules for stems of files stand under the name of a directory, but the directory of a file is looked
up by the stem of its name. So a directory with an extension does not meet the rules that stand
under its own name; it meets those of a directory with another name, its stem.

* `SkipRules.Names`: rules that name a file under a folder.
* `KnownUnder`: the rules for a file are those under a folder.

Results:
1. `skipsParts_iff_names`: the rules that a file meets.
2. `skips_iff_of_directory`: the directories whose files meet the rules under their own names.
-/

namespace ContractFixtures

/-- Rules name a file, known by its stem, under a folder: its stem is listed there, or a pattern
that is written there matches it. -/
def SkipRules.Names (rules : SkipRules) (folder stem : String) : Prop :=
  stem ∈ (rules.filename.get? folder).getD [] ∨
    ∃ text ∈ (rules.regex.get? folder).getD [], ∃ pattern,
      Pattern.compile text = .ok pattern ∧ pattern.isMatch stem = true

/-- The rules that list one file under one folder. -/
def SkipRules.listing (folder stem : String) : SkipRules :=
  { filename := NameMap.empty.insert folder [stem] }

theorem SkipRules.names_listing_iff {folder other stem : String} :
    (SkipRules.listing folder stem).Names other stem ↔ folder = other := by
  rw [Names, listing, NameMap.get?_insert]
  split
  · next h => exact iff_of_true (.inl List.mem_cons_self) h
  · next h =>
    refine iff_of_false ?_ h
    rintro (hmem | ⟨text, hmem, -⟩)
    · cases hmem
    · cases hmem

namespace SkipList

theorem ofRules_listing (folder stem : String) :
    ∃ skip, ofRules (SkipRules.listing folder stem) = .ok skip :=
  ⟨⟨_, .empty⟩, rfl⟩

/-- A pattern of some texts matches if one of the texts denotes a pattern that does. -/
theorem Compiles.any_isMatch_iff {texts : List String} {patterns : List Pattern}
    (h : Compiles texts patterns) (stem : String) :
    patterns.any (·.isMatch stem) = true ↔
      ∃ text ∈ texts, ∃ pattern, Pattern.compile text = .ok pattern ∧
        pattern.isMatch stem = true := by
  induction h with
  | nil => simp
  | @cons text pattern texts patterns hpattern _ ih =>
    rw [List.any_cons, Bool.or_eq_true, ih, List.exists_mem_cons_iff]
    refine or_congr_left ?_
    simp [hpattern]

variable {rules : SkipRules} {skip : SkipList}

/-- A file that no directory leaves out is left out if the rules name it under the stem of its
directory. -/
theorem skipsParts_iff_names (h : ofRules rules = .ok skip) {parts : List Path.Part}
    (hdirectory : skip.hitsDirectory parts = false) :
    skip.skipsParts parts = true ↔
      rules.Names (Path.directoryStem parts) (Path.fileStem parts) := by
  have hpatterns := (compiles_of_ofRules h (Path.directoryStem parts)).any_isMatch_iff
    (Path.fileStem parts)
  rw [skipsParts, hdirectory, Bool.false_or, Bool.or_eq_true, hitsPattern, hpatterns, hitsName,
    rules_of_ofRules h, List.contains_iff_mem]
  rfl

theorem hitsDirectory_append_name (h : ofRules rules = .ok skip) {before : List Path.Part}
    {file : String} :
    skip.hitsDirectory (before ++ [.name file]) = false ↔
      ∀ part ∈ before, part.text ∉ rules.directories := by
  rw [hitsDirectory, Path.parentParts?_append_name, rules_of_ofRules h, List.any_eq_false]
  simp only [List.any_eq_true, beq_iff_eq]
  constructor
  · intro hnone part hpart hmem
    exact hnone _ hmem ⟨part, hpart, rfl⟩
  · rintro hnone name hmem ⟨part, hpart, rfl⟩
    exact hnone part hpart hmem

/-- Whether the rules for a file are those under a folder: whatever the rules are, the file is left
out exactly if they name its stem there, unless they leave out a directory that it lies in. -/
def KnownUnder (p : Path) (above : List Path.Part) (folder stem : String) : Prop :=
  ∀ rules skip, ofRules rules = .ok skip → (∀ part ∈ above, part.text ∉ rules.directories) →
    (skip.skips p = true ↔ rules.Names folder stem)

section
variable {p : Path} {before : List Path.Part} {directory file : String}
  (hp : p.parts = before ++ [.name directory, .name file])
include hp

theorem knownUnder_stem :
    KnownUnder p (before ++ [.name directory]) (Path.stem directory) (Path.stem file) := by
  intro rules skip h hnone
  have hparts : p.parts = (before ++ [.name directory]) ++ [.name file] := by
    rw [hp, List.append_assoc]
    rfl
  have hmiss : skip.hitsDirectory p.parts = false := by
    rw [hparts]
    exact (hitsDirectory_append_name h).mpr hnone
  have hdirectory : Path.directoryStem p.parts = Path.stem directory := by
    rw [hp, Path.directoryStem_append]
  have hfile : Path.fileStem p.parts = Path.stem file := by
    rw [hparts, Path.fileStem_append_name]
  rw [skips, skipsParts_iff_names h hmiss, hdirectory, hfile]

/-- Rules that list a file under another folder do not count. -/
theorem knownUnder_iff {folder : String} :
    KnownUnder p (before ++ [.name directory]) folder (Path.stem file) ↔
      folder = Path.stem directory := by
  constructor
  · intro h
    obtain ⟨skip, hskip⟩ := ofRules_listing folder (Path.stem file)
    have hnone : ∀ part ∈ before ++ [.name directory],
        part.text ∉ (SkipRules.listing folder (Path.stem file)).directories :=
      fun _ _ => List.not_mem_nil
    have hskips := (h _ skip hskip hnone).mpr (SkipRules.names_listing_iff.mpr rfl)
    exact SkipRules.names_listing_iff.mp ((knownUnder_stem hp _ skip hskip hnone).mp hskips)
  · rintro rfl
    exact knownUnder_stem hp

/-- The rules for a file stand under one folder, the stem of the name of its directory. This is the
name itself exactly if no dot stands behind its first character. -/
theorem skips_iff_of_directory :
    (∀ folder, KnownUnder p (before ++ [.name directory]) folder (Path.stem file) ↔
      folder = Path.stem directory) ∧
      (KnownUnder p (before ++ [.name directory]) directory (Path.stem file) ↔
        '.' ∉ directory.toList.tail) := by
  refine ⟨fun folder => knownUnder_iff hp, ?_⟩
  rw [knownUnder_iff hp, eq_comm, Path.stem_eq_self_iff]

end

/-- Rules for two directories, the name of one of which is the stem of the other one's. -/
def releaseRules : SkipRules :=
  { filename := .ofList [("v1.2", ["a"]), ("v1", ["b"])] }

theorem parts_release : Path.parts ⟨"v1.2/a.json"⟩ = [.name "v1.2", .name "a.json"] := by
  decide +kernel

theorem skips_release :
    Path.parts ⟨"v1.2/a.json"⟩ = [.name "v1.2", .name "a.json"] ∧
      KnownUnder ⟨"v1.2/a.json"⟩ [.name "v1.2"] "v1" "a" ∧
      ¬ KnownUnder ⟨"v1.2/a.json"⟩ [.name "v1.2"] "v1.2" "a" := by
  have hdirectory : Path.stem "v1.2" = "v1" := by decide +kernel
  have hfile : Path.stem "a.json" = "a" := by decide +kernel
  have hp : Path.parts ⟨"v1.2/a.json"⟩ = [] ++ [.name "v1.2", .name "a.json"] := parts_release
  obtain ⟨hone, hself⟩ := skips_iff_of_directory hp
  rw [hfile] at hone hself
  exact ⟨parts_release, (hone "v1").mpr hdirectory.symm,
    fun h => absurd (hself.mp h) (by decide)⟩

/-- A file that rules name under the name of its directory may be kept. -/
theorem skips_release_misses :
    ¬ ∀ (p : Path) (before : List Path.Part) (directory file : String),
      p.parts = before ++ [.name directory, .name file] →
      KnownUnder p (before ++ [.name directory]) directory (Path.stem file) := by
  intro h
  have hrules : ofRules releaseRules = .ok ⟨releaseRules, .empty⟩ := rfl
  have hkept : (SkipList.mk releaseRules .empty).skips ⟨"v1.2/a.json"⟩ = false := by
    decide +kernel
  have hnamed : releaseRules.Names "v1.2" (Path.stem "a.json") := .inl (by decide +kernel)
  have hskips := (h _ [] _ _ parts_release _ _ hrules fun _ _ => List.not_mem_nil).mpr hnamed
  exact absurd (hkept.symm.trans hskips) Bool.false_ne_true

end SkipList

end ContractFixtures
