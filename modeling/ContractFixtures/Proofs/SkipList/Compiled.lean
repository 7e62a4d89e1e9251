import ContractFixtures.Proofs.NameMap.Values
import ContractFixtures.SkipList.Basic

/-!
# Compiled skip lists

Rules compile if each of their texts is a pattern, whatever folder it stands under. The patterns of
a folder are then those of its texts, one for one.

* `Compiles`: texts and their patterns.

Results:
1. `compileAll_eq_ok_iff`, `exists_compiles_iff`: the texts of one folder.
2. `ofRules_eq_ok_iff`, `compiles_of_ofRules`: what compiled rules hold.
3. `exists_ofRules_iff`: which rules compile.
-/

namespace ContractFixtures.SkipList

/-- Texts and the patterns that they denote, one for one. -/
def Compiles (texts : List String) (patterns : List Pattern) : Prop :=
  List.Forall₂ (fun text p => Pattern.compile text = .ok p) texts patterns

variable {folder : String} {texts : List String} {patterns : List Pattern}

theorem compileAll_cons_eq_ok_iff {text : String} :
    compileAll folder (text :: texts) = .ok patterns ↔
      ∃ p rest, Pattern.compile text = .ok p ∧ compileAll folder texts = .ok rest ∧
        patterns = p :: rest := by
  rw [compileAll]
  cases Pattern.compile text with
  | error fault => simp
  | ok p => cases compileAll folder texts <;> simp [Except.map, eq_comm]

/-- The texts of a folder are compiled one for one. -/
theorem compileAll_eq_ok_iff :
    compileAll folder texts = .ok patterns ↔ Compiles texts patterns := by
  induction texts generalizing patterns with
  | nil =>
    rw [compileAll, Except.ok.injEq, Compiles, List.forall₂_nil_left_iff]
    exact eq_comm
  | cons text texts ih =>
    simp only [compileAll_cons_eq_ok_iff, ih, Compiles, List.forall₂_cons_left_iff]

theorem exists_compiles_iff :
    (∃ patterns, Compiles texts patterns) ↔
      ∀ text ∈ texts, ∃ p, Pattern.compile text = .ok p := by
  simp only [Compiles, ← mapM_eq_ok_iff, exists_mapM_iff]

theorem Compiles.append {texts texts' : List String} {patterns patterns' : List Pattern}
    (h : Compiles texts patterns) (h' : Compiles texts' patterns') :
    Compiles (texts ++ texts') (patterns ++ patterns') :=
  List.rel_append h h'

/-- Texts denote one list of patterns. -/
theorem Compiles.unique {patterns' : List Pattern} (h : Compiles texts patterns)
    (h' : Compiles texts patterns') : patterns = patterns' := by
  rw [Compiles, ← mapM_eq_ok_iff] at h h'
  exact Except.ok.inj (h.symm.trans h')

/-! ## Rules -/

variable {rules : SkipRules} {skip : SkipList}

theorem ofRules_eq_ok_iff :
    ofRules rules = .ok skip ↔
      skip.rules = rules ∧ rules.regex.traverse compileAll = .ok skip.patterns := by
  rw [ofRules]
  cases rules.regex.traverse compileAll with
  | error fault => simp [Except.map]
  | ok compiled =>
    obtain ⟨rules', patterns'⟩ := skip
    simp [Except.map, eq_comm]

theorem rules_of_ofRules (h : ofRules rules = .ok skip) : skip.rules = rules :=
  (ofRules_eq_ok_iff.mp h).1

/-- What compiled rules hold for a folder are the patterns of its texts. -/
theorem compiles_of_ofRules (h : ofRules rules = .ok skip) (folder : String) :
    Compiles ((rules.regex.get? folder).getD []) ((skip.patterns.get? folder).getD []) := by
  have hrel := NameMap.rel_of_traverse (ofRules_eq_ok_iff.mp h).2 folder
  generalize rules.regex.get? folder = left at hrel ⊢
  generalize skip.patterns.get? folder = right at hrel ⊢
  cases hrel with
  | none => exact .nil
  | some hps => exact compileAll_eq_ok_iff.mp hps

/-- Rules compile if each of their texts is a pattern. -/
theorem exists_ofRules_iff :
    (∃ skip, ofRules rules = .ok skip) ↔
      ∀ folder, ∀ text ∈ (rules.regex.get? folder).getD [], ∃ p, Pattern.compile text = .ok p := by
  have htraverse : (∃ skip, ofRules rules = .ok skip) ↔
      ∃ patterns, rules.regex.traverse compileAll = .ok patterns := by
    simp only [ofRules_eq_ok_iff]
    exact ⟨fun ⟨skip, _, h⟩ => ⟨_, h⟩, fun ⟨patterns, h⟩ => ⟨⟨rules, patterns⟩, rfl, h⟩⟩
  simp only [htraverse, NameMap.exists_traverse_iff, compileAll_eq_ok_iff, exists_compiles_iff]
  refine forall_congr' fun folder => ?_
  cases rules.regex.get? folder <;> simp

end ContractFixtures.SkipList
