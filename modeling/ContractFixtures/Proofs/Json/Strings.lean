import ContractFixtures.Json.Printer
import ContractFixtures.Json.Scalar

/-!
# Strings in documents

Every character of a string is written as itself or as an escape, and each is read as the
character it was written for. So any string is read back, whatever characters it holds.

Results:
1. `escapeSequence_of_escape`: an escape is read as its character.
2. `stringBody_flatMap_escape`: the body of a quoted string is read as the string.
-/

namespace ContractFixtures.Json

/-! ## Escapes -/

theorem codeUnit?_controls : ∀ n < 0x20,
    codeUnit? '0' '0' (Hex.digitChar (n / 16)) (Hex.digitChar (n % 16)) = some n := by
  decide

theorem isLeading_eq_false {n : Nat} (h : n < 0x20) : isLeading n = false := by
  rw [isLeading, Bool.and_eq_false_iff]
  exact Or.inl (decide_eq_false (by omega))

theorem isTrailing_eq_false {n : Nat} (h : n < 0x20) : isTrailing n = false := by
  rw [isTrailing, Bool.and_eq_false_iff]
  exact Or.inl (decide_eq_false (by omega))

/-- A control character is read from its code unit of four digits. -/
theorem unicodeEscape_control {c : Char} (hc : c.toNat < 0x20) (text : List Char) :
    unicodeEscape
      ('0' :: '0' :: Hex.digitChar (c.toNat / 16) :: Hex.digitChar (c.toNat % 16) :: text) =
      .ok (c, text) := by
  have hu : codeUnit
      ('0' :: '0' :: Hex.digitChar (c.toNat / 16) :: Hex.digitChar (c.toNat % 16) :: text) =
      .ok (c.toNat, text) := by
    rw [codeUnit, codeUnit?_controls c.toNat hc]
  rw [unicodeEscape, hu]
  show (if isTrailing c.toNat then _ else if isLeading c.toNat then _ else _) = _
  rw [isTrailing_eq_false hc, isLeading_eq_false hc, Char.ofNat_toNat]
  rfl

/-- Whether a character is written as an escape. -/
def IsEscaped (c : Char) : Prop :=
  c = '"' ∨ c = '\\' ∨ c.toNat < 0x20

/-- An escape is a backslash and a sequence that is read as the character. -/
theorem escapeSequence_of_escape {c : Char} (h : IsEscaped c) :
    ∃ cs, escape c = '\\' :: cs ∧ ∀ text, escapeSequence (cs ++ text) = .ok (c, text) := by
  unfold escape
  split
  · next hc => exact ⟨_, rfl, by rw [hc]; exact fun _ => rfl⟩
  split
  · next hc => exact ⟨_, rfl, by rw [hc]; exact fun _ => rfl⟩
  split
  · next hc => exact ⟨_, rfl, by rw [hc]; exact fun _ => rfl⟩
  split
  · next hc => exact ⟨_, rfl, by rw [hc]; exact fun _ => rfl⟩
  split
  · next hc => exact ⟨_, rfl, by rw [hc]; exact fun _ => rfl⟩
  split
  · next hc => exact ⟨_, rfl, by rw [hc]; exact fun _ => rfl⟩
  split
  · next hc => exact ⟨_, rfl, by rw [hc]; exact fun _ => rfl⟩
  split
  · next hc => exact ⟨_, rfl, fun text => unicodeEscape_control hc text⟩
  · next hq hb _ _ _ _ _ hc => exact absurd h (by simp [IsEscaped, hq, hb, hc])

/-- All other characters are written as themselves. -/
theorem escape_of_not_isEscaped {c : Char} (h : ¬ IsEscaped c) : escape c = [c] := by
  -- All short escapes but those of the quote and the backslash belong to control characters.
  have hlow : ∀ d : Char, d.toNat < 0x20 → c ≠ d := by
    rintro d hd rfl
    exact h (Or.inr (Or.inr hd))
  simp only [IsEscaped, not_or] at h
  rw [escape, if_neg h.1, if_neg h.2.1, if_neg (hlow _ (by decide)), if_neg (hlow _ (by decide)),
    if_neg (hlow _ (by decide)), if_neg (hlow _ (by decide)), if_neg (hlow _ (by decide)),
    if_neg h.2.2]

/-! ## Bodies -/

theorem stringBody_quote (rest : List Char) : stringBody ('"' :: rest) = .ok ([], rest) := by
  rw [stringBody, if_pos rfl]

theorem stringBody_backslash {text next : List Char} {c : Char}
    (h : escapeSequence text = .ok (c, next)) :
    stringBody ('\\' :: text) = (stringBody next).map fun (cs, rest) => (c :: cs, rest) := by
  rw [stringBody, if_neg (by decide), if_pos rfl]
  split
  · next he => cases h.symm.trans he
  · next he =>
    cases h.symm.trans he
    cases stringBody next <;> rfl

theorem stringBody_plain {c : Char} (h : ¬ IsEscaped c) (text : List Char) :
    stringBody (c :: text) = (stringBody text).map fun (cs, rest) => (c :: cs, rest) := by
  simp only [IsEscaped, not_or] at h
  rw [stringBody, if_neg h.1, if_neg h.2.1, if_neg h.2.2]
  cases stringBody text <;> rfl

/-- A written character is read as itself. -/
theorem stringBody_escape (c : Char) (text : List Char) :
    stringBody (escape c ++ text) = (stringBody text).map fun (cs, rest) => (c :: cs, rest) := by
  by_cases h : IsEscaped c
  · obtain ⟨cs, he, hs⟩ := escapeSequence_of_escape h
    rw [he, List.cons_append, stringBody_backslash (hs text)]
  · rw [escape_of_not_isEscaped h, List.singleton_append, stringBody_plain h]

/-- What is written for characters is read as these characters, up to the closing quote. -/
theorem stringBody_flatMap_escape (cs rest : List Char) :
    stringBody (cs.flatMap escape ++ '"' :: rest) = .ok (cs, rest) := by
  induction cs with
  | nil => exact stringBody_quote rest
  | cons c cs ih =>
    rw [List.flatMap_cons, List.append_assoc, stringBody_escape, ih]
    rfl

end ContractFixtures.Json
