import ContractFixtures.Proofs.SkipList.Compiled
import ContractFixtures.Proofs.Text.ByteOrder
import ContractFixtures.Settings

/-!
# Rules and patterns in step

Patterns are looked up by folder, apart from the texts that they were compiled from. However a skip
list comes about, its patterns stand under the folders of its rules, one for each text and in the
same place. If a text is no pattern there is no skip list, and the first such text is reported, in
the order of the folders and then in the order in which the texts are written.

* `InStep`: the patterns of a skip list are those of its rules.
* `Made`: the skip lists that come about.
* `FirstInvalid`: the report of the first text that is no pattern.

Results:
1. `ofRules_eq_ok_iff_inStep`: what compiled rules are.
2. `ofRules_eq_error_iff`: which text is reported.
3. `ofRules_lockstep`: both, for all skip lists that come about.
-/

namespace ContractFixtures

/-- All texts of patterns, each with its folder, in the order of the folders. -/
def SkipRules.texts (rules : SkipRules) : List (String × String) :=
  rules.regex.entries.flatMap fun e => e.2.map fun text => (e.1, text)

namespace SkipList

/-! ## Patterns -/

/-- The patterns of a skip list stand under the folders of its rules, one for each text and in the
same place. -/
def InStep (s : SkipList) : Prop :=
  List.Forall₂ (fun written compiled => written.1 = compiled.1 ∧ Compiles written.2 compiled.2)
    s.rules.regex.entries s.patterns.entries

/-- How a skip list comes about: without rules, from rules, from a text, and from a file. -/
inductive Made : SkipList → Prop
  | empty : Made .empty
  | rules {rules : SkipRules} {s : SkipList} (h : ofRules rules = .ok s) : Made s
  | text {text : String} {s : SkipList} (h : ofYaml text = .ok s) : Made s
  | file {fs : FileSystem} {path : Path} {s : SkipList} (h : load fs path = .ok s) : Made s

variable {rules : SkipRules} {s : SkipList}

theorem ofRules_eq_ok_iff_inStep : ofRules rules = .ok s ↔ s.rules = rules ∧ s.InStep := by
  rw [ofRules_eq_ok_iff]
  refine and_congr_right ?_
  rintro rfl
  rw [NameMap.traverse_eq_ok_iff, mapM_eq_ok_iff, InStep]
  simp only [NameMap.changeEntry_eq_ok_iff, compileAll_eq_ok_iff, and_comm]

theorem inStep_of_ofYaml {text : String} (h : ofYaml text = .ok s) : s.InStep := by
  unfold ofYaml at h
  split at h
  · cases h
  · exact (ofRules_eq_ok_iff_inStep.mp h).2

theorem exists_ofYaml_of_load {fs : FileSystem} {path : Path} (h : load fs path = .ok s) :
    ∃ text, ofYaml text = .ok s := by
  unfold load at h
  split at h
  · cases h
  · next text _ =>
    refine ⟨text, ?_⟩
    cases hyaml : ofYaml text with
    | error fault =>
      rw [hyaml] at h
      cases h
    | ok =>
      rw [hyaml] at h
      cases h
      rfl

theorem Made.inStep (h : Made s) : s.InStep := by
  cases h with
  | empty => exact .nil
  | rules h => exact (ofRules_eq_ok_iff_inStep.mp h).2
  | text h => exact inStep_of_ofYaml h
  | file h =>
    obtain ⟨text, htext⟩ := exists_ofYaml_of_load h
    exact inStep_of_ofYaml htext

/-! ## Texts that are no patterns -/

/-- Compiles a text of a folder. -/
def compileText (e : String × String) : Except Fault Pattern :=
  (Pattern.compile e.2).mapError (.invalidPattern e.2 e.1)

theorem compileAll_eq_mapM (folder : String) (texts : List String) :
    compileAll folder texts = (texts.map fun text => (folder, text)).mapM compileText := by
  induction texts with
  | nil => rfl
  | cons text texts ih =>
    rw [List.map_cons, List.mapM_cons, compileAll, ih, compileText]
    cases Pattern.compile text <;> rfl

theorem exists_compileText_iff {e : String × String} :
    (∃ p, compileText e = .ok p) ↔ ∃ p, Pattern.compile e.2 = .ok p := by
  unfold compileText
  cases Pattern.compile e.2 <;> simp [Except.mapError]

theorem compileText_eq_error_iff {folder text : String} {fault : Fault} :
    compileText (folder, text) = .error fault ↔
      ∃ why, Pattern.compile text = .error why ∧ fault = .invalidPattern text folder why := by
  unfold compileText
  cases Pattern.compile text <;> simp [Except.mapError, eq_comm]

/-- The report of the first text that is no pattern: all texts in front of it are, and it is named
together with its folder and with what is wrong with it. -/
def FirstInvalid (rules : SkipRules) (fault : Fault) : Prop :=
  ∃ before folder text behind why, rules.texts = before ++ (folder, text) :: behind ∧
    (∀ e ∈ before, ∃ p, Pattern.compile e.2 = .ok p) ∧ Pattern.compile text = .error why ∧
    fault = .invalidPattern text folder why

theorem ofRules_eq_error_iff {fault : Fault} :
    ofRules rules = .error fault ↔ FirstInvalid rules fault := by
  have hentry : ∀ (e : String × List String) (fault : Fault),
      NameMap.changeEntry compileAll e = .error fault ↔
        (e.2.map fun text => (e.1, text)).mapM compileText = .error fault := by
    intro e fault
    rw [NameMap.changeEntry, ← compileAll_eq_mapM]
    cases compileAll e.1 e.2 <;> simp [bind, Except.bind, pure, Except.pure]
  rw [ofRules, map_eq_error_iff, NameMap.traverse_eq_error_iff, mapM_eq_error_iff_flatMap hentry,
    mapM_eq_error_iff]
  constructor
  · rintro ⟨before, ⟨folder, text⟩, behind, htexts, hbefore, herror⟩
    obtain ⟨why, hwhy, hfault⟩ := compileText_eq_error_iff.mp herror
    exact ⟨before, folder, text, behind, why, htexts,
      fun e he => exists_compileText_iff.mp (hbefore e he), hwhy, hfault⟩
  · rintro ⟨before, folder, text, behind, why, htexts, hbefore, hwhy, hfault⟩
    exact ⟨before, (folder, text), behind, htexts,
      fun e he => exists_compileText_iff.mpr (hbefore e he),
      compileText_eq_error_iff.mpr ⟨why, hwhy, hfault⟩⟩

/-- Folders stand in the order of their bytes. -/
theorem pairwise_bytesOf_folders (rules : SkipRules) :
    rules.regex.entries.Pairwise fun a b => Text.bytesOf a.1.toList < Text.bytesOf b.1.toList :=
  rules.regex.ascending.imp fun h => Text.bytesOf_lt h

/-- Rules make a skip list exactly if each of their texts is a pattern, whatever folder it stands
under. It holds the rules as they are and, as every skip list that comes about, a pattern for each
text under the same folder and in the same place. Otherwise the first text that is no pattern is
reported, with folders in the order of their bytes and texts in the order of their list. -/
theorem ofRules_lockstep (rules : SkipRules) :
    ((∃ s, ofRules rules = .ok s) ↔
        ∀ folder texts, rules.regex.get? folder = some texts →
          ∀ text ∈ texts, ∃ p, Pattern.compile text = .ok p) ∧
      (∀ s, ofRules rules = .ok s ↔ s.rules = rules ∧ s.InStep) ∧
      (∀ s, Made s → s.InStep) ∧
      (∀ fault, ofRules rules = .error fault ↔ FirstInvalid rules fault) ∧
      rules.regex.entries.Pairwise fun a b =>
        Text.bytesOf a.1.toList < Text.bytesOf b.1.toList := by
  refine ⟨?_, fun s => ofRules_eq_ok_iff_inStep, fun s => Made.inStep,
    fun fault => ofRules_eq_error_iff, pairwise_bytesOf_folders rules⟩
  rw [exists_ofRules_iff]
  refine forall_congr' fun folder => ?_
  cases rules.regex.get? folder <;> simp

/-- A pattern is searched for in all places of a text, and a group has to be closed. -/
example :
    (Pattern.compile "ab*").toOption.map (·.isMatch "xabb") = some true ∧
      (Pattern.compile "ab*").toOption.map (·.isMatch "xb") = some false ∧
      ofRules { regex := .ofList [("d", ["ab*", "("])] }
        = .error (.invalidPattern "(" "d" .malformed) :=
  ⟨by cbv, by cbv, by cbv⟩

end SkipList

end ContractFixtures
