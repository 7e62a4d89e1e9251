import ContractFixtures.Proofs.Hex.Reading
import ContractFixtures.Proofs.Json.Strings
import Mathlib.Data.List.Forall2

/-!
# The form of quoted texts

Inside quotes a character stands for itself, unless it is the quote, the backslash or a control
character. These are written behind a backslash: by a letter if there is one for them, or else by
the four digits of their code. So a quoted text holds no control characters.

* `shortForms`: the characters that have a letter, each with its own.
* `Escaped`: a character and what is written for it.
* `Quoted`: a text and what is written for it.
* `OneLine`: texts without control characters.

Results:
1. `escaped_iff`, `quoted_iff`: what is written has this form, and nothing else has it.
2. `Quoted.oneLine`: a quoted text stands on one line.
-/

namespace ContractFixtures.Json

/-- The characters that have a letter, each with its own. -/
def shortForms : List (Char × Char) :=
  [('"', '"'), ('\\', '\\'), ('\x08', 'b'), ('\t', 't'), ('\n', 'n'), ('\x0c', 'f'), ('\r', 'r')]

/-- A character and what is written for it inside quotes. -/
inductive Escaped : Char → List Char → Prop
  | short {c letter : Char} : (c, letter) ∈ shortForms → Escaped c ['\\', letter]
  | code {c high low : Char} {h l : Nat} :
      c ∉ shortForms.map Prod.fst → c.toNat < 0x20 → c.toNat = 16 * h + l →
      Hex.lowerDigits[h]? = some high → Hex.lowerDigits[l]? = some low →
      Escaped c ['\\', 'u', '0', '0', high, low]
  | plain {c : Char} : c ∉ shortForms.map Prod.fst → 0x20 ≤ c.toNat → Escaped c [c]

/-- A text and what is written for it: its characters one by one, in quotes. -/
def Quoted (text written : String) : Prop :=
  ∃ parts, List.Forall₂ Escaped text.toList parts ∧
    written = "\"" ++ String.ofList parts.flatten ++ "\""

/-- A text without control characters, which stands on one line. -/
def OneLine (text : String) : Prop :=
  ∀ c ∈ text.toList, 0x20 ≤ c.toNat

instance : DecidablePred OneLine :=
  fun text => List.decidableBAll (fun c : Char => 0x20 ≤ c.toNat) text.toList

@[simp] theorem oneLine_append {front back : String} :
    OneLine (front ++ back) ↔ OneLine front ∧ OneLine back := by
  rw [OneLine, String.toList_append, List.forall_mem_append, OneLine, OneLine]

theorem OneLine.intercalate {separator : String} {texts : List String} (hs : OneLine separator)
    (h : ∀ text ∈ texts, OneLine text) : OneLine (separator.intercalate texts) := by
  induction texts with
  | nil => exact fun c hc => absurd hc List.not_mem_nil
  | cons text texts ih =>
    obtain ⟨htext, htexts⟩ := List.forall_mem_cons.mp h
    cases texts with
    | nil => rwa [String.intercalate_singleton]
    | cons next more =>
      rw [String.intercalate_cons_cons, oneLine_append, oneLine_append]
      exact ⟨⟨htext, hs⟩, ih htexts⟩

/-! ## Characters -/

theorem escape_short : ∀ form ∈ shortForms, escape form.1 = ['\\', form.2] := by
  decide

theorem escape_of_not_mem {c : Char} (h : c ∉ shortForms.map Prod.fst) :
    escape c = if c.toNat < 0x20 then
      ['\\', 'u', '0', '0', Hex.digitChar (c.toNat / 16), Hex.digitChar (c.toNat % 16)]
    else [c] := by
  simp only [shortForms, List.map_cons, List.map_nil, List.mem_cons, List.not_mem_nil, or_false,
    not_or] at h
  obtain ⟨hquote, hbackslash, hb, ht, hn, hf, hr⟩ := h
  rw [escape, if_neg hquote, if_neg hbackslash, if_neg hb, if_neg ht, if_neg hn, if_neg hf,
    if_neg hr]

/-- The printer writes a character in its form, and there is no other one. -/
theorem escaped_iff {c : Char} {part : List Char} : Escaped c part ↔ escape c = part := by
  constructor
  · intro h
    cases h with
    | short hform => exact escape_short _ hform
    | @code high low h l hnot hcontrol hcode hhigh hlow =>
      obtain ⟨hh, rfl⟩ := Hex.getElem?_lowerDigits.mp hhigh
      obtain ⟨hl, rfl⟩ := Hex.getElem?_lowerDigits.mp hlow
      have hdiv : c.toNat / 16 = h := by omega
      have hmod : c.toNat % 16 = l := by omega
      rw [escape_of_not_mem hnot, if_pos hcontrol, hdiv, hmod]
    | plain hnot hcontrol => rw [escape_of_not_mem hnot, if_neg (Nat.not_lt.mpr hcontrol)]
  · rintro rfl
    by_cases hmem : c ∈ shortForms.map Prod.fst
    · obtain ⟨form, hform, rfl⟩ := List.mem_map.mp hmem
      rw [escape_short form hform]
      exact .short hform
    rw [escape_of_not_mem hmem]
    split
    · next hcontrol =>
      exact .code hmem hcontrol (Nat.div_add_mod _ 16).symm
        (Hex.getElem?_lowerDigits.mpr ⟨by omega, rfl⟩)
        (Hex.getElem?_lowerDigits.mpr ⟨Nat.mod_lt _ (by decide), rfl⟩)
    · next hcontrol => exact .plain hmem (Nat.not_lt.mp hcontrol)

theorem Escaped.le_toNat {c : Char} {part : List Char} (h : Escaped c part) :
    ∀ d ∈ part, 0x20 ≤ d.toNat := by
  have hletter : ∀ form ∈ shortForms, 0x20 ≤ form.2.toNat := by decide
  have hdigit : ∀ n < 16, 0x20 ≤ (Hex.digitChar n).toNat := by decide
  cases h with
  | short hform => simp [hletter _ hform]
  | code _ _ _ hhigh hlow =>
    obtain ⟨hh, rfl⟩ := Hex.getElem?_lowerDigits.mp hhigh
    obtain ⟨hl, rfl⟩ := Hex.getElem?_lowerDigits.mp hlow
    simp [hdigit _ hh, hdigit _ hl]
  | plain _ hcontrol => exact fun d hd => List.mem_singleton.mp hd ▸ hcontrol

/-! ## Texts -/

theorem forall₂_escaped_iff {cs : List Char} {parts : List (List Char)} :
    List.Forall₂ Escaped cs parts ↔ cs.map escape = parts :=
  forall₂_iff_map_eq fun c part => @escaped_iff c part

/-- The printer writes a text in its form, and there is no other one. -/
theorem quoted_iff {text written : String} :
    Quoted text written ↔ String.ofList (quote text) = written := by
  have hquote : String.ofList (quote text) =
      "\"" ++ String.ofList (text.toList.map escape).flatten ++ "\"" :=
    String.toList_inj.mp (by simp [quote, List.flatMap_def])
  rw [hquote]
  constructor
  · rintro ⟨parts, hparts, rfl⟩
    rw [forall₂_escaped_iff.mp hparts]
  · rintro rfl
    exact ⟨_, forall₂_escaped_iff.mpr rfl, rfl⟩

/-- A line feed has a letter, U+001F has none, and U+007F stands for itself. -/
example : quote "\n\x1f\x7f/" = "\"\\n\\u001f\x7f/\"".toList := by
  decide

/-- A quoted text holds no control characters. -/
theorem Quoted.oneLine {text written : String} (h : Quoted text written) : OneLine written := by
  obtain ⟨parts, hparts, rfl⟩ := h
  obtain rfl := forall₂_escaped_iff.mp hparts
  have hbody : OneLine (String.ofList (text.toList.map escape).flatten) := by
    intro c hc
    rw [String.toList_ofList] at hc
    obtain ⟨part, hpart, hc⟩ := List.mem_flatten.mp hc
    obtain ⟨d, -, rfl⟩ := List.mem_map.mp hpart
    exact (escaped_iff.mpr rfl).le_toNat c hc
  rw [oneLine_append, oneLine_append]
  exact ⟨⟨by decide, hbody⟩, by decide⟩

end ContractFixtures.Json
