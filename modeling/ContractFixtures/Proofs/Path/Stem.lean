import ContractFixtures.Proofs.Path.Parts
import ContractFixtures.Proofs.Text.Pieces

/-!
# Stems of names

A name has an extension if a dot stands in it behind its first character. The extension is what
stands behind the last dot, and the stem is what stands in front of it.

* `stem`: a name without its extension.

Results:
1. `splitExtension_append_cons`, `splitExtension_of_not_mem`: names with and without an extension.
2. `stem_eq_self_iff`: the names that are their own stems.
3. `extension?_eq_some_iff`: the names with an extension.
4. `directoryStem_append`: the directory of a file is known by the stem of its name.
-/

namespace ContractFixtures.Path

/-- A name is cut at its last dot, if that is not its first character. -/
theorem splitExtension_append_cons {front behind : List Char} (hfront : front ≠ [])
    (hbehind : '.' ∉ behind) : splitExtension (front ++ '.' :: behind) = (front, some behind) := by
  have hreverse : (front ++ '.' :: behind).reverse = behind.reverse ++ '.' :: front.reverse := by
    simp
  have hdot : '.' ∉ behind.reverse := fun h => hbehind (List.mem_reverse.mp h)
  have hne : front.reverse ≠ [] := fun h => hfront (List.reverse_eq_nil_iff.mp h)
  rw [splitExtension, hreverse, Text.splitFirst?_append_cons hdot]
  simp only [if_neg hne, List.reverse_reverse]

/-- A name without a dot behind its first character has no extension. -/
theorem splitExtension_of_not_mem {name : List Char} (h : '.' ∉ name.tail) :
    splitExtension name = (name, none) := by
  rw [splitExtension]
  split
  · next behind before hsplit =>
    obtain ⟨hname, -⟩ := Text.splitFirst?_eq_some_iff.mp hsplit
    have hname : name = before.reverse ++ '.' :: behind.reverse := by
      rw [← List.reverse_reverse name, hname]
      simp
    split
    · rfl
    · next hne =>
      -- Something stands in front of the last dot, so the dot is not the first character.
      obtain ⟨c, cs, hbefore⟩ := List.exists_cons_of_ne_nil fun he =>
        hne (List.reverse_eq_nil_iff.mp he)
      rw [hname, hbefore] at h
      simp at h
  · rfl

/-- A name without its extension. -/
def stem (name : String) : String :=
  fileStem [.name name]

theorem toList_stem (name : String) : (stem name).toList = (splitExtension name.toList).1 :=
  String.toList_ofList

/-- A name with a dot behind its first character has a last one. -/
theorem exists_last_dot {name : List Char} (h : '.' ∈ name.tail) :
    ∃ front behind, name = front ++ '.' :: behind ∧ front ≠ [] ∧ '.' ∉ behind := by
  cases name with
  | nil => cases h
  | cons c cs =>
    rw [List.tail_cons] at h
    obtain ⟨behind, front, hcs, hbehind⟩ := List.eq_append_cons_of_mem (List.mem_reverse.mpr h)
    refine ⟨c :: front.reverse, behind.reverse, ?_, List.cons_ne_nil _ _, ?_⟩
    · rw [← List.reverse_reverse cs, hcs]
      simp
    · exact fun hmem => hbehind (List.mem_reverse.mp hmem)

theorem stem_eq_self_iff {name : String} : stem name = name ↔ '.' ∉ name.toList.tail := by
  rw [← String.toList_inj, toList_stem]
  constructor
  · intro hself hdot
    -- A name with an extension is longer than its stem.
    obtain ⟨front, behind, hname, hfront, hbehind⟩ := exists_last_dot hdot
    rw [hname, splitExtension_append_cons hfront hbehind] at hself
    exact absurd (List.self_eq_append_right.mp hself) (List.cons_ne_nil _ _)
  · intro h
    rw [splitExtension_of_not_mem h]

theorem splitExtension_eq_some_iff {name front behind : List Char} :
    splitExtension name = (front, some behind) ↔
      name = front ++ '.' :: behind ∧ front ≠ [] ∧ '.' ∉ behind := by
  constructor
  · intro h
    by_cases hdot : '.' ∈ name.tail
    · obtain ⟨front', behind', rfl, hfront, hbehind⟩ := exists_last_dot hdot
      rw [splitExtension_append_cons hfront hbehind] at h
      cases h
      exact ⟨rfl, hfront, hbehind⟩
    · rw [splitExtension_of_not_mem hdot] at h
      cases h
  · rintro ⟨rfl, hfront, hbehind⟩
    exact splitExtension_append_cons hfront hbehind

/-- A name has an extension without dots if a dot and the extension stand behind its stem, and the
stem is not empty. -/
theorem extension?_eq_some_iff {parts : List Part} {extension : String}
    (hdot : '.' ∉ extension.toList) :
    extension? parts = some extension ↔
      ∃ stem, stem ≠ "" ∧ fileName? parts = some (stem ++ "." ++ extension) := by
  have hname : ∀ stem : String,
      (stem ++ "." ++ extension).toList = stem.toList ++ '.' :: extension.toList := by simp
  rw [extension?, Option.bind_eq_some_iff]
  constructor
  · rintro ⟨name, hfile, h⟩
    obtain ⟨behind, hbehind, rfl⟩ := Option.map_eq_some_iff.mp h
    obtain ⟨hsplit, hfront, -⟩ := splitExtension_eq_some_iff.mp (Prod.ext rfl hbehind)
    refine ⟨String.ofList (splitExtension name.toList).1, ?_, ?_⟩
    · intro he
      exact hfront (String.ofList_eq_empty_iff.mp he)
    · rw [hfile, Option.some.injEq, ← String.toList_inj, hname]
      simpa using hsplit
  · rintro ⟨stem, hstem, hfile⟩
    refine ⟨_, hfile, ?_⟩
    rw [hname, splitExtension_append_cons (toList_ne_of_ne hstem) hdot]
    exact congrArg some String.ofList_toList

section
variable (before : List Part) (directory file : String)

theorem fileStem_append_name : fileStem (before ++ [.name file]) = stem file :=
  fileStem_append (List.cons_ne_nil _ _) before

theorem parentParts?_append_name :
    parentParts? (before ++ [.name file]) = some before := by
  simp [parentParts?]

/-- The directory of a file is known by the stem of its name. -/
theorem directoryStem_append :
    directoryStem (before ++ [.name directory, .name file]) = stem directory := by
  have happend : before ++ [.name directory, .name file]
      = (before ++ [.name directory]) ++ [.name file] := by
    simp
  rw [directoryStem, happend, parentParts?_append_name, Option.map_some, fileStem_append_name]
  rfl

end

end ContractFixtures.Path
