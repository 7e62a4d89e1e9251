import ContractFixtures.Proofs.SkipList.Compiled

/-!
# Skip lists taken together

Rules are taken together name by name: the lists of both stand one behind the other, and a name
that only one of them has keeps its list. Rules that compile on their own compile together, and
what is left out then is what either of them leaves out.

* `SkipRules.append`: two sets of rules taken together.
* `Joins`: a skip list that leaves out what either of two others does.

Results:
1. `exists_ofRules_append`, `getD_patterns_append`: rules are compiled on their own.
2. `joins_of_append`: each kind of rule is met if it is met on either side.
-/

namespace ContractFixtures

/-- All directories of two sets of rules and, name by name, the lists of both. -/
def SkipRules.append (f g : SkipRules) : SkipRules where
  directories := f.directories ++ g.directories
  filename := f.filename.concat g.filename
  regex := f.regex.concat g.regex
  method := f.method.concat g.method

namespace SkipList

/-- A skip list that leaves out what either of two others leaves out. -/
structure Joins (both left right : SkipList) : Prop where
  parts : ∀ parts, both.skipsParts parts = (left.skipsParts parts || right.skipsParts parts)
  case : ∀ p method, both.skipsCase p method = (left.skipsCase p method || right.skipsCase p method)

/-- What stands under a name in two maps taken together stands under it in one of them. -/
theorem contains_concat (a b : NameMap (List String)) (name entry : String) :
    (((a.concat b).get? name).getD []).contains entry
      = (((a.get? name).getD []).contains entry || ((b.get? name).getD []).contains entry) := by
  rw [NameMap.getD_get?_concat, List.contains_eq_any_beq, List.any_append,
    ← List.contains_eq_any_beq, ← List.contains_eq_any_beq]

variable {f g : SkipRules} {left right both : SkipList}

theorem exists_ofRules_append (hf : ofRules f = .ok left) (hg : ofRules g = .ok right) :
    ∃ both, ofRules (f.append g) = .ok both := by
  refine exists_ofRules_iff.mpr fun folder text htext => ?_
  rw [SkipRules.append, NameMap.getD_get?_concat] at htext
  rcases List.mem_append.mp htext with hmem | hmem
  · exact exists_ofRules_iff.mp ⟨left, hf⟩ folder text hmem
  · exact exists_ofRules_iff.mp ⟨right, hg⟩ folder text hmem

section
variable (hf : ofRules f = .ok left) (hg : ofRules g = .ok right)
  (h : ofRules (f.append g) = .ok both)
include hf hg h

theorem getD_patterns_append (folder : String) :
    (both.patterns.get? folder).getD []
      = (left.patterns.get? folder).getD [] ++ (right.patterns.get? folder).getD [] := by
  have hboth := compiles_of_ofRules h folder
  rw [SkipRules.append, NameMap.getD_get?_concat] at hboth
  exact hboth.unique ((compiles_of_ofRules hf folder).append (compiles_of_ofRules hg folder))

theorem hitsDirectory_append (parts : List Path.Part) :
    both.hitsDirectory parts = (left.hitsDirectory parts || right.hitsDirectory parts) := by
  unfold hitsDirectory
  rw [rules_of_ofRules h, rules_of_ofRules hf, rules_of_ofRules hg]
  cases Path.parentParts? parts with
  | none => rfl
  | some parent => exact List.any_append

theorem hitsName_append (parts : List Path.Part) :
    both.hitsName parts = (left.hitsName parts || right.hitsName parts) := by
  unfold hitsName
  rw [rules_of_ofRules h, rules_of_ofRules hf, rules_of_ofRules hg]
  exact contains_concat _ _ _ _

theorem hitsPattern_append (parts : List Path.Part) :
    both.hitsPattern parts = (left.hitsPattern parts || right.hitsPattern parts) := by
  unfold hitsPattern
  rw [getD_patterns_append hf hg h, List.any_append]

theorem skipsCase_append (p : Path) (method : String) :
    both.skipsCase p method = (left.skipsCase p method || right.skipsCase p method) := by
  unfold skipsCase
  rw [rules_of_ofRules h, rules_of_ofRules hf, rules_of_ofRules hg]
  exact contains_concat _ _ _ _

/-- Two sets of rules taken together leave out what either of them leaves out. -/
theorem joins_of_append : both.Joins left right where
  parts parts := by
    unfold skipsParts
    rw [hitsDirectory_append hf hg h, hitsName_append hf hg h, hitsPattern_append hf hg h]
    ac_rfl
  case := skipsCase_append hf hg h

end

end SkipList

end ContractFixtures
