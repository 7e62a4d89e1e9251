import ContractFixtures.Proofs.Param.Concatenation
import ContractFixtures.Proofs.Param.Grammar

/-!
# The normal form of a list

A list that is read and written again says the same as before, but in one way only: without blanks
but those in texts and the one behind each comma, without signs and zeros that a number can do
without, with digits in lower case, and with an address in the place of each name. So it does not
depend on names any more. It can be read because the texts in it come from pieces: they hold no
comma, and the blanks at their ends are lost.

* `Fits`: parameters that an item can hold.
* `reformat`: reads a list and writes it again.

Results:
1. `IsItem.fits`: what is read from a piece fits into an item.
2. `parseList_formatList_of_fits`: lists that fit into items are read back.
3. `formatList_normal`: a list that is written again is in normal form.
4. `reformat_eq_self_iff`: the texts in normal form are those that are written for such lists.
-/

namespace ContractFixtures.Param

/-- A parameter that an item can hold: if it is a text, then one without commas that does not end
with a blank. -/
def Fits (p : Param) : Prop :=
  ∀ text, p = .string text →
    ',' ∉ text.toList ∧ ∀ c, text.toList.getLast? = some c → Text.isBlank c = false

/-- Reads a list and writes it again. -/
def reformat (ctx : Context) (text : String) : Except ParamFault String :=
  (parseList ctx text).map formatList

/-! ## What fits is read back -/

theorem fits_iff {p : Param} : p.Fits ↔ ',' ∉ p.chars ∧ p.trimEnd = p := by
  rw [comma_mem_chars_iff, trimEnd_eq_self_iff]
  constructor
  · intro h
    refine ⟨?_, fun text htext => (h text htext).2⟩
    rintro ⟨text, htext, hcomma⟩
    exact (h text htext).1 hcomma
  · rintro ⟨hcomma, hlast⟩ text htext
    exact ⟨fun hmem => hcomma ⟨text, htext, hmem⟩, hlast text htext⟩

theorem parseList_formatList_of_fits (ctx : Context) {ps : List Param} (h : ∀ p ∈ ps, p.Fits) :
    parseList ctx (formatList ps) = .ok ps := by
  have hcomma : ∀ item ∈ ps.map chars, ',' ∉ item := by
    rw [List.forall_mem_map]
    exact fun p hp => (fits_iff.mp (h p hp)).1
  have htrim : ps.map trimEnd = ps :=
    (List.map_congr_left fun p hp => (fits_iff.mp (h p hp)).2).trans (List.map_id ps)
  rw [parseList_formatList_eq_map ctx hcomma, htrim]

/-! ## What is read fits -/

/-- What is read from a piece fits into an item: a text is what stands at the end of the trimmed
piece. -/
theorem IsItem.fits {ctx : Context} {piece : List Char} {p : Param} (h : IsItem ctx piece p)
    (hcomma : ',' ∉ piece) : p.Fits := by
  rintro text rfl
  obtain ⟨name, value, htrims, -, -, hvalue⟩ := h
  cases hvalue
  rw [String.toList_ofList]
  constructor
  · intro hmem
    obtain ⟨before, behind, rfl, -, -⟩ := htrims.around
    exact hcomma (by simp [hmem])
  · intro c hc
    refine htrims.stop c ?_
    rw [List.getLast?_append, List.getLast?_cons, hc]
    rfl

theorem fits_of_parseList {ctx : Context} {text : String} {ps : List Param}
    (h : parseList ctx text = .ok ps) : ∀ p ∈ ps, p.Fits := by
  intro p hp
  have hne : ps ≠ [] := List.ne_nil_of_mem hp
  obtain ⟨-, pieces, hcut, hpieces⟩ := (parseList_eq_iff (by simpa using hne)).mp h
  obtain ⟨piece, hpiece, hread⟩ := exists_of_mem_mapM hpieces hp
  exact (readItem_eq_ok_iff.mp hread).fits (hcut.whole piece hpiece)

/-! ## Written lists -/

theorem formatList_eq_intercalate (ps : List Param) :
    formatList ps = ", ".intercalate (ps.map text) := by
  rw [formatList, ← String.toList_inj, String.toList_ofList, String.toList_intercalate,
    Text.joinWith_eq_intercalate, List.map_map]
  refine congrArg _ (List.map_congr_left fun p _ => ?_)
  exact (String.toList_ofList).symm

theorem text_address (a : Address) : (Param.address a).text = "address:" ++ a.toBase58 := by
  have hname : "address:".toList = "address".toList ++ [':'] := by decide
  rw [text, ← String.toList_inj, String.toList_ofList, String.toList_append, hname,
    List.append_assoc]
  rfl

/-- A list that is read in one context and written again is read as the same list in every other,
and is written as before. Each name that stood for an address in it has given way to the text of
that address. -/
theorem formatList_normal {ctx : Context} {text : String} {ps : List Param}
    (h : parseList ctx text = .ok ps) :
    (∀ other, parseList other (formatList ps) = .ok ps) ∧
    (∀ other, reformat other (formatList ps) = .ok (formatList ps)) ∧
    ∃ pieces items : List String, IsCut text pieces ∧ formatList ps = ", ".intercalate items ∧
      ∀ (i : Nat) (piece : String) (a : Address), pieces[i]? = some piece →
        parse ctx piece = .ok (.address a) → items[i]? = some ("address:" ++ a.toBase58) := by
  have hread : ∀ other, parseList other (formatList ps) = .ok ps := fun other =>
    parseList_formatList_of_fits other (fits_of_parseList h)
  refine ⟨hread, fun other => ?_, ?_⟩
  · rw [reformat, hread other]
    rfl
  obtain ⟨pieces, hcut⟩ := exists_isCut text
  refine ⟨pieces, ps.map Param.text, hcut, formatList_eq_intercalate ps, ?_⟩
  intro i piece a hpiece hitem
  have hblank := hcut.not_isBlank (List.mem_of_getElem? hpiece) hitem
  rw [hcut.parseList_eq ctx hblank] at h
  rw [List.getElem?_map, getElem?_of_mapM h hpiece hitem, Option.map_some, text_address]

/-- The admin, a number and a text that keeps the blank in front of it. -/
def adminItems : List Param :=
  [.address .empty, .int ⟨7, by decide, by decide⟩, .string " x"]

theorem formatList_normal_adminItems :
    parseList {} " address : ADMIN,int:+007,string: x " = .ok adminItems ∧
      ∀ other, reformat other (formatList adminItems) = .ok (formatList adminItems) := by
  have hread : parseList {} " address : ADMIN,int:+007,string: x " = .ok adminItems := by decide
  exact ⟨hread, (formatList_normal hread).2.1⟩

/-- A text is in normal form exactly if it is the text of a list of parameters that fit into
items. -/
theorem reformat_eq_self_iff {ctx : Context} {text : String} :
    reformat ctx text = .ok text ↔ ∃ ps, (∀ p ∈ ps, p.Fits) ∧ formatList ps = text := by
  constructor
  · intro h
    cases hread : parseList ctx text with
    | error fault =>
      rw [reformat, hread] at h
      cases h
    | ok ps =>
      rw [reformat, hread] at h
      exact ⟨ps, fits_of_parseList hread, Except.ok.inj h⟩
  · rintro ⟨ps, hfits, rfl⟩
    rw [reformat, parseList_formatList_of_fits ctx hfits]
    rfl

end ContractFixtures.Param
