import ContractFixtures.Param.Notation
import ContractFixtures.Proofs.Address.CheckedText
import ContractFixtures.Proofs.Hex.RoundTrip
import ContractFixtures.Proofs.Param.Integer
import ContractFixtures.Proofs.Text.Pieces
import ContractFixtures.Proofs.Traversal

/-!
# Parameters are read back

Items are trimmed before they are read. So a text value keeps the blanks in front of it, but not
those at its end, and a comma in it ends the item. All other values are written in characters that
are neither blanks nor commas, and are read back in every context.

Results:
1. `readItem_chars`: what the text of a parameter is read as.
2. `readItems_eq_ok_iff`: items are read one for one.
3. `parseList_formatList_of_no_comma`: what lists without commas in their texts are read back as.
4. `parseList_formatList_iff`: which lists are read back.
-/

namespace ContractFixtures

/-- The text of an address stands for that address in every context. -/
theorem Context.resolve?_toBase58 (ctx : Context) (a : Address) :
    ctx.resolve? a.toBase58 = some a := by
  rw [resolve?, Address.parse_toBase58]

namespace Param

/-! ## Types -/

theorem ofName?_name (tag : Tag) : Tag.ofName? tag.name.toList = some tag := by
  cases tag <;> decide

/-- The name of a type consists of letters and digits. -/
theorem isAlphanum_of_mem_name {tag : Tag} {c : Char} (h : c ∈ tag.name.toList) :
    c.isAlphanum = true := by
  have hall : tag.name.toList.all Char.isAlphanum = true := by
    cases tag <;> decide
  exact List.all_eq_true.mp hall c h

theorem ne_of_isAlphanum {c d : Char} (hc : c.isAlphanum = true) (hd : d.isAlphanum = false) :
    c ≠ d := by
  rintro rfl
  exact Bool.false_ne_true (hd.symm.trans hc)

theorem colon_not_mem_name (tag : Tag) : ':' ∉ tag.name.toList := fun h =>
  ne_of_isAlphanum (isAlphanum_of_mem_name h) (by decide) rfl

/-! ## Values -/

/-- The characters that values other than texts are written in. -/
def IsPlain (c : Char) : Prop :=
  c = '-' ∨ c.isAlphanum = true

theorem IsPlain.isBlank {c : Char} (h : IsPlain c) : Text.isBlank c = false := by
  rcases h with rfl | h
  · rfl
  · exact Text.isBlank_of_isAlphanum h

theorem IsPlain.ne_comma {c : Char} (h : IsPlain c) : c ≠ ',' := by
  rcases h with rfl | h
  · decide
  · exact ne_of_isAlphanum h (by decide)

theorem isPlain_of_mem_text {bits : Nat} {n : Signed bits} {c : Char} (h : c ∈ n.text) :
    IsPlain c :=
  (Signed.mem_text h).imp_right fun hd => by rw [Char.isAlphanum, hd, Bool.or_true]

theorem isAlphanum_of_mem_alphabet : ∀ c ∈ Base58.alphabet, c.isAlphanum = true :=
  List.all_eq_true.mp (by decide)

theorem isPlain_of_mem_toBase58 {a : Address} {c : Char} (h : c ∈ a.toBase58.toList) :
    IsPlain c := by
  have hread : Base58.decode a.toBase58 = .ok (a.payload ++ Address.checksum a.payload) :=
    Base58.decode_encode _
  exact .inr (isAlphanum_of_mem_alphabet c (Base58.exists_decode_iff.mp ⟨_, hread⟩ h))

/-- Only texts are written in other characters. -/
theorem isPlain_of_mem_valueText {p : Param} (hp : p.tag ≠ .string) {c : Char}
    (h : c ∈ p.valueText) : IsPlain c := by
  cases p with
  | int n => exact isPlain_of_mem_text h
  | int128 n => exact isPlain_of_mem_text h
  | bool value =>
    refine .inr ?_
    cases value with
    | true => exact List.all_eq_true.mp (by decide : "true".toList.all Char.isAlphanum = true) c h
    | false => exact List.all_eq_true.mp (by decide : "false".toList.all Char.isAlphanum = true) c h
  | string text => exact absurd rfl hp
  | address a => exact isPlain_of_mem_toBase58 h
  | byteArray bytes => exact .inr (Hex.isAlphanum_of_mem_encode h)

/-- The parameter without the blanks at the end of a text. -/
def trimEnd : Param → Param
  | .string text => .string (String.ofList (Text.trimEnd text.toList))
  | p => p

theorem trimEnd_of_tag_ne {p : Param} (hp : p.tag ≠ .string) : p.trimEnd = p := by
  cases p with
  | string text => exact absurd rfl hp
  | int | int128 | bool | address | byteArray => rfl

theorem trimEnd_eq_self_iff {p : Param} :
    p.trimEnd = p ↔
      ∀ text, p = .string text → ∀ c, text.toList.getLast? = some c → Text.isBlank c = false := by
  cases p with
  | string text =>
    rw [trimEnd, Param.string.injEq, ← String.toList_inj, String.toList_ofList,
      Text.trimEnd_eq_self_iff]
    constructor
    · rintro h _ ⟨⟩
      exact h
    · exact fun h => h text rfl
  | int | int128 | bool | address | byteArray =>
    refine iff_of_true rfl ?_
    rintro text ⟨⟩

/-- The text of a value other than a text is read as the value, in every context. -/
theorem readValue_of_tag_ne (ctx : Context) (item : List Char) {p : Param}
    (hp : p.tag ≠ .string) : readValue ctx item p.tag p.valueText = .ok p := by
  have htrim : Text.trim p.valueText = p.valueText :=
    Text.trim_of_forall fun c hc => (isPlain_of_mem_valueText hp hc).isBlank
  unfold readValue
  rw [htrim]
  cases p with
  | int n =>
    simp only [tag, valueText, Signed.ofChars_text]
    rfl
  | int128 n =>
    simp only [tag, valueText, Signed.ofChars_text]
    rfl
  | bool value => cases value <;> rfl
  | string text => exact absurd rfl hp
  | address a =>
    simp only [tag, valueText, String.ofList_toList, ctx.resolve?_toBase58]
  | byteArray bytes =>
    simp only [tag, valueText, String.ofList_toList, Hex.decode_encode]
    rfl

/-- What is left of the text of a value at the end of an item is read as the parameter without
the blanks at its end. -/
theorem readValue_trimEnd (ctx : Context) (item : List Char) (p : Param) :
    readValue ctx item p.tag (Text.trimEnd p.valueText) = .ok p.trimEnd := by
  by_cases hp : p.tag = .string
  · cases p with
    | string text => rfl
    | int | int128 | bool | address | byteArray => cases hp
  · have hkeep : Text.trimEnd p.valueText = p.valueText :=
      Text.trimEnd_of_forall fun c hc => (isPlain_of_mem_valueText hp hc).isBlank
    rw [hkeep, readValue_of_tag_ne ctx item hp, trimEnd_of_tag_ne hp]

/-! ## Items -/

/-- The blanks at the end of the text of a parameter are those at the end of its value. -/
theorem trim_chars (p : Param) :
    Text.trim p.chars = p.tag.name.toList ++ ':' :: Text.trimEnd p.valueText :=
  Text.trim_append_cons
    (fun _ hc => Text.isBlank_of_isAlphanum (isAlphanum_of_mem_name hc)) rfl p.valueText

/-- The text of a parameter is read as the parameter without the blanks at its end. -/
theorem readItem_chars (ctx : Context) (p : Param) : readItem ctx p.chars = .ok p.trimEnd := by
  have hname : Text.trim p.tag.name.toList = p.tag.name.toList :=
    Text.trim_of_forall fun _ hc => Text.isBlank_of_isAlphanum (isAlphanum_of_mem_name hc)
  rw [readItem, trim_chars, readTrimmed,
    Text.splitFirst?_append_cons (colon_not_mem_name p.tag)]
  simp only [hname, ofName?_name]
  exact readValue_trimEnd ctx _ p

/-- A blank in front of an item does not count. -/
theorem readItem_blank_cons (ctx : Context) {c : Char} (h : Text.isBlank c = true)
    (item : List Char) : readItem ctx (c :: item) = readItem ctx item := by
  rw [readItem, Text.trim_blank_cons h, readItem]

theorem readItems_eq_mapM (ctx : Context) (items : List (List Char)) :
    readItems ctx items = items.mapM (readItem ctx) := by
  induction items with
  | nil => rfl
  | cons item items ih => rw [readItems, List.mapM_cons, ih]

/-- Items are read one for one. -/
theorem readItems_eq_ok_iff {ctx : Context} {items : List (List Char)} {ps : List Param} :
    readItems ctx items = .ok ps ↔
      List.Forall₂ (fun item p => readItem ctx item = .ok p) items ps := by
  rw [readItems_eq_mapM, mapM_eq_ok_iff]

/-! ## Lists -/

theorem comma_mem_chars_iff {p : Param} :
    ',' ∈ p.chars ↔ ∃ text, p = .string text ∧ ',' ∈ text.toList := by
  have hname : ',' ∉ p.tag.name.toList := fun h =>
    ne_of_isAlphanum (isAlphanum_of_mem_name h) (by decide) rfl
  rw [chars, List.mem_append, List.mem_cons]
  by_cases hp : p.tag = .string
  · cases p with
    | string text => simp [hname, valueText]
    | int | int128 | bool | address | byteArray => cases hp
  · have hvalue : ',' ∉ p.valueText := fun h => (isPlain_of_mem_valueText hp h).ne_comma rfl
    refine iff_of_false (by simp [hname, hvalue]) ?_
    rintro ⟨text, rfl, -⟩
    exact hp rfl

/-- Some text in a list holds a comma exactly if some item that is written for the list does. -/
theorem comma_not_mem_chars_iff {ps : List Param} :
    (∀ item ∈ ps.map chars, ',' ∉ item) ↔ ∀ text, .string text ∈ ps → ',' ∉ text.toList := by
  rw [List.forall_mem_map]
  constructor
  · intro h text htext hcomma
    exact h _ htext (comma_mem_chars_iff.mpr ⟨text, rfl, hcomma⟩)
  · intro h p hp hcomma
    obtain ⟨text, rfl, hmem⟩ := comma_mem_chars_iff.mp hcomma
    exact h text hp hmem

/-- The text of a list that is not empty is cut into items. -/
theorem parseList_formatList_cons (ctx : Context) (p : Param) (ps : List Param) :
    parseList ctx (formatList (p :: ps)) =
      readItems ctx (Text.splitAll ',' (Text.joinWith [',', ' '] ((p :: ps).map chars))) := by
  have hcolon : ':' ∈ Text.joinWith [',', ' '] ((p :: ps).map chars) :=
    Text.mem_joinWith_cons (List.mem_append_right _ List.mem_cons_self) _ _
  have hblank : ¬ (Text.joinWith [',', ' '] ((p :: ps).map chars)).all Text.isBlank = true :=
    fun h => Bool.false_ne_true (List.all_eq_true.mp h ':' hcolon)
  rw [parseList, formatList, String.toList_ofList, if_neg hblank]

/-- A list without commas in its texts is read back without the blanks at the end of its texts. -/
theorem parseList_formatList_eq_map (ctx : Context) {ps : List Param}
    (h : ∀ item ∈ ps.map chars, ',' ∉ item) :
    parseList ctx (formatList ps) = .ok (ps.map trimEnd) := by
  cases ps with
  | nil => rfl
  | cons p ps =>
    have hpad : ',' ∉ [' '] := by decide
    rw [parseList_formatList_cons, List.map_cons, Text.splitAll_joinWith hpad h,
      readItems_eq_ok_iff, List.map_cons]
    refine .cons (readItem_chars ctx p) ?_
    rw [List.map_map, List.forall₂_map_left_iff, List.forall₂_map_right_iff, List.forall₂_same]
    intro q _
    exact (readItem_blank_cons ctx rfl q.chars).trans (readItem_chars ctx q)

/-- A list is read back only if no item that is written for it holds a comma. -/
theorem comma_not_mem_of_parseList {ctx : Context} {ps : List Param}
    (h : parseList ctx (formatList ps) = .ok ps) : ∀ item ∈ ps.map chars, ',' ∉ item := by
  cases ps with
  | nil => exact fun _ hitem => absurd hitem List.not_mem_nil
  | cons p ps =>
    -- There are as many items as parameters, so there is no comma beyond those that join them.
    rw [parseList_formatList_cons, readItems_eq_ok_iff] at h
    have hlength := h.length_eq
    rw [Text.length_splitAll_joinWith (by decide) (by simp), List.length_map] at hlength
    have hcount : ((p :: ps).map chars).flatten.count ',' = 0 := by omega
    intro item hitem hcomma
    exact List.count_eq_zero.mp hcount (List.mem_flatten_of_mem hitem hcomma)

/-- Trimming leaves a list alone unless one of its texts ends with a blank. -/
theorem map_trimEnd_eq_self_iff {ps : List Param} :
    ps.map trimEnd = ps ↔
      ∀ text, .string text ∈ ps →
        ∀ c, text.toList.getLast? = some c → Text.isBlank c = false := by
  have hmap : ps.map trimEnd = ps ↔ ∀ p ∈ ps, p.trimEnd = p := by
    conv_lhs => rhs; rw [← List.map_id ps]
    exact List.map_inj_left
  rw [hmap]
  constructor
  · intro h text htext
    exact trimEnd_eq_self_iff.mp (h _ htext) text rfl
  · intro h p hp
    refine trimEnd_eq_self_iff.mpr ?_
    rintro text rfl
    exact h text hp

/-- A list without commas in its texts is read back in every context, but its texts lose the blanks
at their ends. So it is read back as it was exactly if no text ends with a blank. -/
theorem parseList_formatList_of_no_comma (ctx : Context) {ps : List Param}
    (h : ∀ text, .string text ∈ ps → ',' ∉ text.toList) :
    parseList ctx (formatList ps) = .ok (ps.map trimEnd) ∧
      (parseList ctx (formatList ps) = .ok ps ↔
        ∀ text, .string text ∈ ps →
          ∀ c, text.toList.getLast? = some c → Text.isBlank c = false) := by
  have hread := parseList_formatList_eq_map ctx (comma_not_mem_chars_iff.mpr h)
  refine ⟨hread, ?_⟩
  rw [hread, Except.ok.injEq]
  exact map_trimEnd_eq_self_iff

/-- A text that keeps its blank and its colon at the front, and one that loses its blank. -/
def blankTexts : List Param :=
  [.string " a: b", .bool true, .string "c "]

theorem parseList_formatList_blankTexts :
    (∀ text, .string text ∈ blankTexts → ',' ∉ text.toList) ∧
      parseList {} (formatList blankTexts) = .ok [.string " a: b", .bool true, .string "c"] := by
  have h : ∀ text, .string text ∈ blankTexts → ',' ∉ text.toList := by
    intro text htext
    simp only [blankTexts, List.mem_cons, Param.string.injEq, List.not_mem_nil, or_false,
      reduceCtorEq, false_or] at htext
    rcases htext with rfl | rfl <;> decide
  exact ⟨h, (parseList_formatList_of_no_comma {} h).1⟩

/-- A text without commas may lose a blank at its end. -/
theorem parseList_formatList_loses_blank :
    ¬ ∀ (ctx : Context) (ps : List Param), (∀ text, .string text ∈ ps → ',' ∉ text.toList) →
      parseList ctx (formatList ps) = .ok ps := by
  intro h
  have hcomma : ∀ text, Param.string text ∈ [Param.string "trail "] → ',' ∉ text.toList := by
    intro text htext
    cases List.mem_singleton.mp htext
    decide
  have hread : parseList {} (formatList [.string "trail "]) = .ok [.string "trail"] := rfl
  have hlost := Except.ok.inj (hread.symm.trans (h {} [.string "trail "] hcomma))
  exact absurd hlost (by decide)

/-- A list is read back, whatever addresses are known, exactly if no text in it holds a comma or
ends with a blank. -/
theorem parseList_formatList_iff (ctx : Context) (ps : List Param) :
    parseList ctx (formatList ps) = .ok ps ↔
      ∀ text, .string text ∈ ps →
        ',' ∉ text.toList ∧ ∀ c, text.toList.getLast? = some c → Text.isBlank c = false := by
  constructor
  · intro h text htext
    have hcomma := comma_not_mem_of_parseList h
    rw [parseList_formatList_eq_map ctx hcomma, Except.ok.injEq] at h
    exact ⟨comma_not_mem_chars_iff.mp hcomma text htext, map_trimEnd_eq_self_iff.mp h text htext⟩
  · intro h
    have hcomma := comma_not_mem_chars_iff.mpr fun text htext => (h text htext).1
    rw [parseList_formatList_eq_map ctx hcomma, Except.ok.injEq]
    exact map_trimEnd_eq_self_iff.mpr fun text htext => (h text htext).2

end Param

end ContractFixtures
