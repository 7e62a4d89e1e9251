import ContractFixtures.Proofs.Param.Concatenation
import ContractFixtures.Proofs.Param.Grammar

/-!
# Blanks in items

An item is trimmed, then cut at its first colon, then the name in front of the colon is trimmed, and
then the value behind it unless it is a text. The colon is no blank, so the first trim cannot reach
over it: it takes blanks off the front of the name and off the end of the value, and the later ones
take the rest. Only a text keeps blanks, those in front of it.

Results:
1. `readItem_colon_eq_ok_iff`: what an item says, by the parts around its first colon.
2. `denotes_iff_of_trim_eq`: blanks around a value do not count, unless it is a text.
3. `parse_spaced`: which blanks in an item count.
-/

namespace ContractFixtures.Param

variable {ctx : Context}

/-! ## Parts of an item -/

/-- The name of an item loses its blanks, the value the blanks at its end. -/
theorem readItem_colon_eq_ok_iff {name value : List Char} {p : Param} (hname : ':' ∉ name) :
    readItem ctx (name ++ ':' :: value) = .ok p ↔
      Text.Trims name p.tag.name.toList ∧ Denotes ctx (Text.trimEnd value) p := by
  have hstart : ':' ∉ Text.trimStart name := fun h =>
    hname ((List.dropWhile_suffix Text.isBlank).mem h)
  rw [readItem, readTrimmed, Text.trim_around rfl, Text.splitFirst?_append_cons hstart]
  simp only [Text.trim_trimStart]
  rw [← Text.trim_eq_iff]
  constructor
  · intro h
    split at h
    · next tag htag =>
      obtain ⟨rfl, hvalue⟩ := readValue_eq_ok_iff.mp h
      exact ⟨(ofName?_eq_some_iff.mp htag).symm, hvalue⟩
    · cases h
  · rintro ⟨htag, hvalue⟩
    rw [htag, ofName?_name]
    exact readValue_eq_ok_iff.mpr ⟨rfl, hvalue⟩

/-- Values that are the same without the blanks around them denote the same, unless they are
texts. -/
theorem denotes_iff_of_trim_eq {value value' : List Char} {p : Param} (hp : p.tag ≠ .string)
    (h : Text.trim value = Text.trim value') : Denotes ctx value p ↔ Denotes ctx value' p := by
  have hmono : ∀ {text text' : List Char}, Text.trim text = Text.trim text' →
      Denotes ctx text p → Denotes ctx text' p := by
    intro text text' htrim hdenotes
    have hcore : ∀ {core}, Text.Trims text core → Text.Trims text' core := by
      intro core hcore
      exact Text.trim_eq_iff.mp (htrim ▸ Text.trim_eq_iff.mpr hcore)
    cases hdenotes with
    | int htext hn => exact .int (hcore htext) hn
    | int128 htext hn => exact .int128 (hcore htext) hn
    | yes htext => exact .yes (hcore htext)
    | no htext => exact .no (hcore htext)
    | string => exact absurd rfl hp
    | address htext ha => exact .address (hcore htext) ha
    | byteArray htext hbytes => exact .byteArray (hcore htext) hbytes
  exact ⟨hmono h, hmono h.symm⟩

/-! ## Items with more blanks -/

/-- Blanks around the name and the value of an item do not count, unless the value is a text: then
it is what stands behind the colon without the blanks at its end. It keeps those in front of it, and
all that stands behind a further colon. -/
theorem parse_spaced (ctx : Context) {ty v w₁ w₂ w₃ w₄ : String} (hty : ':' ∉ ty.toList)
    (h₁ : IsBlank w₁) (h₂ : IsBlank w₂) (h₃ : IsBlank w₃) (h₄ : IsBlank w₄) :
    (¬ Text.Trims ty.toList "string".toList → ∀ p,
      parse ctx (w₁ ++ ty ++ w₂ ++ ":" ++ w₃ ++ v ++ w₄) = .ok p ↔
        parse ctx (ty ++ ":" ++ v) = .ok p) ∧
    (Text.Trims ty.toList "string".toList → ∃ x blanks,
      w₃ ++ v = x ++ blanks ∧ IsBlank blanks ∧
        (∀ c, x.toList.getLast? = some c → Text.isBlank c = false) ∧
        parse ctx (w₁ ++ ty ++ w₂ ++ ":" ++ w₃ ++ v ++ w₄) = .ok (.string x)) := by
  have hname : ':' ∉ w₁.toList ++ ty.toList ++ w₂.toList := by
    intro h
    rw [List.mem_append, List.mem_append] at h
    rcases h with (h | h) | h
    · exact absurd (h₁ ':' h) (by decide)
    · exact hty h
    · exact absurd (h₂ ':' h) (by decide)
  have hspaced : (w₁ ++ ty ++ w₂ ++ ":" ++ w₃ ++ v ++ w₄).toList =
      (w₁.toList ++ ty.toList ++ w₂.toList) ++ ':' :: (w₃.toList ++ v.toList ++ w₄.toList) := by
    simp
  have hplain : (ty ++ ":" ++ v).toList = ty.toList ++ ':' :: v.toList := by simp
  simp only [parse, hspaced, hplain, readItem_colon_eq_ok_iff hname, readItem_colon_eq_ok_iff hty,
    Text.trims_surround_iff h₁ h₂]
  constructor
  · intro hno p
    refine and_congr_right fun htag => ?_
    have hp : p.tag ≠ .string := by
      intro he
      rw [he] at htag
      exact hno htag
    refine denotes_iff_of_trim_eq hp ?_
    rw [Text.trim_trimEnd, Text.trim_trimEnd, Text.trim_surround h₃ h₄]
  · intro htag
    obtain ⟨blanks, htext, hblanks⟩ := Text.exists_trimEnd_append (w₃.toList ++ v.toList)
    refine ⟨String.ofList (Text.trimEnd (w₃.toList ++ v.toList)), String.ofList blanks, ?_, ?_, ?_,
      htag, ?_⟩
    · rw [← String.toList_inj]
      simpa using htext.symm
    · simpa [IsBlank] using hblanks
    · rw [String.toList_ofList]
      exact Text.trimEnd_eq_self_iff.mp (List.rdropWhile_idempotent Text.isBlank _)
    · rw [Text.trimEnd_append_of_forall h₄]
      exact .string _

/-- An ideographic blank is one like any other: around an integer it does not count, in front of a
text it is kept. -/
theorem parse_spaced_ideographic :
    (¬ Text.Trims " int".toList "string".toList ∧
      parse {} ("\u3000" ++ " int" ++ "\t" ++ ":" ++ "\u2003" ++ "-7" ++ "\n") =
        .ok (.int ⟨-7, by decide, by decide⟩)) ∧
    Text.Trims "string ".toList "string".toList ∧ ∃ x blanks,
      "\u3000" ++ "a: b " = x ++ blanks ∧ IsBlank blanks ∧
        (∀ c, x.toList.getLast? = some c → Text.isBlank c = false) ∧
        parse {} ("" ++ "string " ++ "" ++ ":" ++ "\u3000" ++ "a: b " ++ "\n") =
          .ok (.string x) := by
  have hint : ¬ Text.Trims " int".toList "string".toList := fun h =>
    absurd (Text.trim_eq_iff.mpr h) (by decide)
  have hstring : Text.Trims "string ".toList "string".toList := Text.trim_eq_iff.mp (by decide)
  refine ⟨⟨hint, ?_⟩, hstring, ?_⟩
  · refine ((parse_spaced {} ?_ ?_ ?_ ?_ ?_).1 hint _).mpr ?_
    all_goals decide
  · refine (parse_spaced {} ?_ ?_ ?_ ?_ ?_).2 hstring
    all_goals decide

example : parse {} "string :\u3000a: b \n" = .ok (.string "\u3000a: b") := by
  decide

end ContractFixtures.Param
