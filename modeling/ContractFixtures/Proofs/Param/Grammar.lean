import ContractFixtures.Proofs.Hex.Reading
import ContractFixtures.Proofs.Param.RoundTrip

/-!
# The grammar of parameters

A list of parameters is blank, or a row of items with commas between them. An item is the name of a
type and the text of a value, with a colon between them. Blanks around the item, the name and the
value do not count, but a text is what stands behind the colon of the trimmed item.

* `Denotes`: the text of a value and the parameter that it denotes.
* `IsItem`: a piece between commas and the parameter that it denotes.

Results:
1. `readValue_eq_ok_iff`: which texts are read as values of a type.
2. `readItem_eq_ok_iff`: which pieces are read as items.
3. `parseList_eq_ok_iff`: which texts are read as lists.
-/

namespace ContractFixtures.Param

/-- The text of a value, as it stands behind the colon, and the parameter that it denotes. -/
inductive Denotes (ctx : Context) : List Char → Param → Prop
  | int {text core : List Char} {n : Signed 64} :
      Text.Trims text core → Signed.Decimal core n.value → Denotes ctx text (.int n)
  | int128 {text core : List Char} {n : Signed 128} :
      Text.Trims text core → Signed.Decimal core n.value → Denotes ctx text (.int128 n)
  | yes {text : List Char} : Text.Trims text "true".toList → Denotes ctx text (.bool true)
  | no {text : List Char} : Text.Trims text "false".toList → Denotes ctx text (.bool false)
  | string (text : List Char) : Denotes ctx text (.string (String.ofList text))
  | address {text token : List Char} {a : Address} :
      Text.Trims text token → ctx.resolve? (String.ofList token) = some a →
      Denotes ctx text (.address a)
  | byteArray {text digits : List Char} {bytes : List UInt8} :
      Text.Trims text digits → Hex.Pairs digits bytes → Denotes ctx text (.byteArray bytes)

/-- A piece between commas and the parameter that it denotes. -/
def IsItem (ctx : Context) (piece : List Char) (p : Param) : Prop :=
  ∃ name value, Text.Trims piece (name ++ ':' :: value) ∧ ':' ∉ name ∧
    Text.Trims name p.tag.name.toList ∧ Denotes ctx value p

/-! ## Values -/

theorem ofName?_eq_some_iff {name : List Char} {tag : Tag} :
    Tag.ofName? name = some tag ↔ tag.name.toList = name := by
  constructor
  · intro h
    have hname := List.find?_some h
    exact of_decide_eq_true hname
  · rintro rfl
    exact ofName?_name tag

theorem readBool_eq_ok_iff {cs : List Char} {value : Bool} :
    readBool cs = .ok value ↔ cs = (if value then "true" else "false").toList := by
  unfold readBool
  split
  · next h =>
    subst h
    cases value <;> decide
  split
  · next h =>
    subst h
    cases value <;> decide
  · next ht hf =>
    refine iff_of_false (by simp) ?_
    cases value with
    | true => exact ht
    | false => exact hf

/-- A text is read as a value of a type exactly if it denotes the value and the value is of the
type. -/
theorem readValue_eq_ok_iff {ctx : Context} {item value : List Char} {tag : Tag} {p : Param} :
    readValue ctx item tag value = .ok p ↔ p.tag = tag ∧ Denotes ctx value p := by
  have htrim : Text.Trims value (Text.trim value) := Text.trim_eq_iff.mp rfl
  cases tag with
  | int =>
    simp only [readValue, mapError_map_eq_ok_iff, Signed.ofChars_eq_ok_iff_decimal]
    constructor
    · rintro ⟨n, hn, rfl⟩
      exact ⟨rfl, .int htrim hn⟩
    · rintro ⟨htag, h⟩
      cases h with
      | int hcore hn => exact ⟨_, Text.trim_eq_iff.mpr hcore ▸ hn, rfl⟩
      | _ => cases htag
  | int128 =>
    simp only [readValue, mapError_map_eq_ok_iff, Signed.ofChars_eq_ok_iff_decimal]
    constructor
    · rintro ⟨n, hn, rfl⟩
      exact ⟨rfl, .int128 htrim hn⟩
    · rintro ⟨htag, h⟩
      cases h with
      | int128 hcore hn => exact ⟨_, Text.trim_eq_iff.mpr hcore ▸ hn, rfl⟩
      | _ => cases htag
  | bool =>
    simp only [readValue, mapError_map_eq_ok_iff, readBool_eq_ok_iff, Text.trim_eq_iff]
    constructor
    · rintro ⟨b, hb, rfl⟩
      cases b with
      | true => exact ⟨rfl, .yes hb⟩
      | false => exact ⟨rfl, .no hb⟩
    · rintro ⟨htag, h⟩
      cases h with
      | yes hcore => exact ⟨true, hcore, rfl⟩
      | no hcore => exact ⟨false, hcore, rfl⟩
      | _ => cases htag
  | string =>
    simp only [readValue, Except.ok.injEq]
    constructor
    · rintro rfl
      exact ⟨rfl, .string value⟩
    · rintro ⟨htag, h⟩
      cases h with
      | string => rfl
      | _ => cases htag
  | address =>
    simp only [readValue]
    constructor
    · intro h
      split at h
      · next a ha =>
        cases h
        exact ⟨rfl, .address htrim ha⟩
      · cases h
    · rintro ⟨htag, h⟩
      cases h with
      | address hcore ha =>
        rw [← Text.trim_eq_iff.mpr hcore] at ha
        simp only [ha]
      | _ => cases htag
  | byteArray =>
    simp only [readValue, mapError_map_eq_ok_iff, Hex.decode_eq_ok_iff, String.toList_ofList]
    constructor
    · rintro ⟨bytes, hbytes, rfl⟩
      exact ⟨rfl, .byteArray htrim hbytes⟩
    · rintro ⟨htag, h⟩
      cases h with
      | byteArray hcore hbytes => exact ⟨_, Text.trim_eq_iff.mpr hcore ▸ hbytes, rfl⟩
      | _ => cases htag

/-! ## Items and lists -/

/-- A piece is read as a parameter exactly if it denotes the parameter. -/
theorem readItem_eq_ok_iff {ctx : Context} {piece : List Char} {p : Param} :
    readItem ctx piece = .ok p ↔ IsItem ctx piece p := by
  unfold readItem readTrimmed IsItem
  constructor
  · intro h
    split at h
    · cases h
    next name value hsplit =>
    split at h
    · next tag htag =>
      obtain ⟨hpiece, hcolon⟩ := Text.splitFirst?_eq_some_iff.mp hsplit
      obtain ⟨rfl, hvalue⟩ := readValue_eq_ok_iff.mp h
      exact ⟨name, value, Text.trim_eq_iff.mp hpiece, hcolon,
        Text.trim_eq_iff.mp (ofName?_eq_some_iff.mp htag).symm, hvalue⟩
    · cases h
  · rintro ⟨name, value, hpiece, hcolon, hname, hvalue⟩
    rw [Text.trim_eq_iff.mpr hpiece, Text.splitFirst?_append_cons hcolon]
    simp only [Text.trim_eq_iff.mpr hname, ofName?_name]
    exact readValue_eq_ok_iff.mpr ⟨rfl, hvalue⟩

/-- An item is not blank. -/
theorem IsItem.exists_not_blank {ctx : Context} {piece : List Char} {p : Param}
    (h : IsItem ctx piece p) : ∃ c ∈ piece, Text.isBlank c = false := by
  obtain ⟨name, value, ⟨⟨before, behind, rfl, -, -⟩, -, -⟩, -⟩ := h
  exact ⟨':', by simp, rfl⟩

/-- A text is read as a list of parameters exactly if it is blank and the list is empty, or each
piece between its commas denotes the parameter in its place. -/
theorem parseList_eq_ok_iff (ctx : Context) (text : String) (ps : List Param) :
    parseList ctx text = .ok ps ↔
      (∀ c ∈ text.toList, Text.isBlank c = true) ∧ ps = [] ∨
        ∃ pieces, pieces ≠ [] ∧ Text.joinWith [','] pieces = text.toList ∧
          (∀ piece ∈ pieces, ',' ∉ piece) ∧ List.Forall₂ (IsItem ctx) pieces ps := by
  have hitems : ∀ pieces, readItems ctx pieces = .ok ps ↔
      List.Forall₂ (IsItem ctx) pieces ps := fun pieces => by
    simp only [readItems_eq_ok_iff, readItem_eq_ok_iff]
  have hnotBlank : ∀ pieces, pieces ≠ [] → Text.joinWith [','] pieces = text.toList →
      List.Forall₂ (IsItem ctx) pieces ps → ¬ ∀ c ∈ text.toList, Text.isBlank c = true := by
    rintro pieces hne hjoin hall hblank
    obtain ⟨piece, more, rfl⟩ := List.exists_cons_of_ne_nil hne
    obtain ⟨p, _, hitem, -, -⟩ := List.forall₂_cons_left_iff.mp hall
    obtain ⟨c, hc, hcBlank⟩ := hitem.exists_not_blank
    have hmem := Text.mem_joinWith_cons hc [','] more
    rw [hjoin] at hmem
    exact Bool.false_ne_true (hcBlank.symm.trans (hblank c hmem))
  unfold parseList
  split
  · next hblank =>
    rw [List.all_eq_true] at hblank
    constructor
    · rintro ⟨⟩
      exact .inl ⟨hblank, rfl⟩
    · rintro (⟨-, rfl⟩ | ⟨pieces, hne, hjoin, -, hall⟩)
      · rfl
      · exact absurd hblank (hnotBlank pieces hne hjoin hall)
  · next hblank =>
    rw [List.all_eq_true] at hblank
    rw [hitems]
    constructor
    · intro hall
      obtain ⟨hne, hjoin, hcomma⟩ := Text.splitAll_eq_iff.mp rfl
      exact .inr ⟨_, hne, hjoin, hcomma, hall⟩
    · rintro (⟨hall, -⟩ | ⟨pieces, hne, hjoin, hcomma, hall⟩)
      · exact absurd hall hblank
      · rwa [Text.splitAll_eq_iff.mpr ⟨hne, hjoin, hcomma⟩]

end ContractFixtures.Param
