import ContractFixtures.Proofs.Json.Layout
import ContractFixtures.Proofs.Traversal

/-!
# Scalars in longer texts

A reader that takes a scalar off a text takes the same one off a longer text and leaves the longer
rest. Words and strings end by themselves, so this holds whatever comes behind the text. A number
ends where no character of numbers follows, so the text must not be followed by one.

* `EndsNumber`: a text that does not go on with a number.

Results:
1. `stringBody_append`: strings in longer texts.
2. `numeral_append`: numbers in longer texts.
3. `scalar_append`: all scalars in longer texts.
-/

namespace ContractFixtures.Json

/-- A text that does not go on with a number in front of it. -/
def EndsNumber (tail : List Char) : Prop :=
  ∀ c ∈ tail.head?, c.isDigit = false ∧ c ≠ '.' ∧ c ≠ 'e' ∧ c ≠ 'E'

theorem endsNumber_nil : EndsNumber [] := by
  rintro c ⟨⟩

theorem endsNumber_cons {c : Char} {tail : List Char} :
    EndsNumber (c :: tail) ↔ c.isDigit = false ∧ c ≠ '.' ∧ c ≠ 'e' ∧ c ≠ 'E' := by
  simp [EndsNumber]

/-! ## Words and strings -/

theorem word_append {cs text rest : List Char} (h : word cs text = .ok rest) (tail : List Char) :
    word cs (text ++ tail) = .ok (rest ++ tail) := by
  induction cs generalizing text with
  | nil =>
    cases h
    rfl
  | cons c cs ih =>
    cases text with
    | nil => cases h
    | cons d text =>
      rw [word] at h
      split at h
      · next hcd =>
        rw [List.cons_append, word, if_pos hcd]
        exact ih h
      · cases h

theorem codeUnit_append {text rest : List Char} {unit : Nat} (h : codeUnit text = .ok (unit, rest))
    (tail : List Char) : codeUnit (text ++ tail) = .ok (unit, rest ++ tail) := by
  unfold codeUnit at h
  split at h
  · split at h
    · next hunit =>
      cases h
      simp only [codeUnit, List.cons_append, hunit]
    · cases h
  · cases h

theorem pairMark_append {c : Char} {text rest : List Char} (h : pairMark c text = .ok rest)
    (tail : List Char) : pairMark c (text ++ tail) = .ok (rest ++ tail) := by
  cases text with
  | nil => cases h
  | cons d text =>
    rw [pairMark] at h
    split at h
    · next hcd =>
      cases h
      rw [List.cons_append, pairMark, if_pos hcd]
    · cases h

theorem unicodeEscape_append {text rest : List Char} {c : Char}
    (h : unicodeEscape text = .ok (c, rest)) (tail : List Char) :
    unicodeEscape (text ++ tail) = .ok (c, rest ++ tail) := by
  obtain ⟨⟨unit, rest₁⟩, hunit, h⟩ := bind_eq_ok_iff.mp h
  refine bind_eq_ok_iff.mpr ⟨_, codeUnit_append hunit tail, ?_⟩
  dsimp only at h ⊢
  split at h
  · cases h
  · next htrailing =>
    rw [if_neg htrailing]
    split at h
    · next hleading =>
      -- The second half of the pair is another code unit, behind its two marks.
      obtain ⟨rest₂, hslash, h⟩ := bind_eq_ok_iff.mp h
      obtain ⟨rest₃, hu, h⟩ := bind_eq_ok_iff.mp h
      obtain ⟨⟨second, rest₄⟩, hsecond, h⟩ := bind_eq_ok_iff.mp h
      rw [if_pos hleading]
      refine bind_eq_ok_iff.mpr ⟨_, pairMark_append hslash tail, ?_⟩
      refine bind_eq_ok_iff.mpr ⟨_, pairMark_append hu tail, ?_⟩
      refine bind_eq_ok_iff.mpr ⟨_, codeUnit_append hsecond tail, ?_⟩
      dsimp only at h ⊢
      split at h
      · next hpair =>
        obtain ⟨rfl, rfl⟩ := Prod.mk.inj (Except.ok.inj h)
        rw [if_pos hpair]
      · cases h
    · next hleading =>
      obtain ⟨rfl, rfl⟩ := Prod.mk.inj (Except.ok.inj h)
      rw [if_neg hleading]

theorem escapeSequence_append {text rest : List Char} {c : Char}
    (h : escapeSequence text = .ok (c, rest)) (tail : List Char) :
    escapeSequence (text ++ tail) = .ok (c, rest ++ tail) := by
  unfold escapeSequence at h
  split at h
  case h_10 => exact unicodeEscape_append h tail
  all_goals
    cases h
    try rfl

/-- A string ends with its quote, whatever comes behind it. -/
theorem stringBody_append {text cs rest : List Char} (h : stringBody text = .ok (cs, rest))
    (tail : List Char) : stringBody (text ++ tail) = .ok (cs, rest ++ tail) := by
  fun_induction stringBody text generalizing cs rest with
  | case1 => cases h
  | case2 rest =>
    cases h
    exact stringBody_quote _
  | case3 => cases h
  | case4 => cases h
  | case5 _ _ _ hescape _ _ hbody _ ih =>
    cases h
    rw [List.cons_append, stringBody_backslash (escapeSequence_append hescape tail), ih hbody]
    rfl
  | case6 => cases h
  | case7 => cases h
  | case8 c rest hquote hslash hcontrol cs rest' hbody ih =>
    cases h
    rw [List.cons_append, stringBody_plain (by simp [IsEscaped, hquote, hslash, hcontrol]), ih hbody]
    rfl

/-! ## Numbers -/

theorem scaled_append {negative : Bool} {significand : Nat} {exponent : Int}
    {text rest : List Char} {n : Number}
    (h : scaled negative significand exponent text = .ok (n, rest)) (tail : List Char) :
    scaled negative significand exponent (text ++ tail) = .ok (n, rest ++ tail) := by
  unfold scaled at h ⊢
  split at h
  · cases h
    rfl
  · cases h

theorem gatherExponent_append_error {exponent : Nat} {text rest : List Char}
    (h : gatherExponent exponent text = .error rest) (tail : List Char) :
    gatherExponent exponent (text ++ tail) = .error (rest ++ tail) := by
  induction text generalizing exponent with
  | nil => cases h
  | cons c text ih =>
    simp only [List.cons_append, gatherExponent] at h ⊢
    split at h
    · next hdigit =>
      rw [if_pos hdigit]
      split at h
      · next hsmall =>
        rw [if_pos hsmall]
        exact ih h
      · next hlarge =>
        cases h
        rw [if_neg hlarge]
    · cases h

theorem exponentSign_append (c : Char) (text tail : List Char) :
    exponentSign (c :: text ++ tail) =
      ((exponentSign (c :: text)).1, (exponentSign (c :: text)).2 ++ tail) := by
  unfold exponentSign
  split <;> simp_all

section
variable {tail : List Char} (ht : EndsNumber tail)
include ht

theorem dropWhile_isDigit_append (text : List Char) :
    (text ++ tail).dropWhile Char.isDigit = text.dropWhile Char.isDigit ++ tail := by
  have hstop : tail.dropWhile Char.isDigit = tail := by
    cases tail with
    | nil => rfl
    | cons c tail => exact List.dropWhile_cons_of_neg (by simp [(endsNumber_cons.mp ht).1])
  rw [List.dropWhile_append, hstop]
  split
  · next hempty => rw [List.isEmpty_iff.mp hempty, List.nil_append]
  · rfl

theorem takeWhile_isDigit_append (text : List Char) :
    (text ++ tail).takeWhile Char.isDigit = text.takeWhile Char.isDigit := by
  have hstop : tail.takeWhile Char.isDigit = [] := by
    cases tail with
    | nil => rfl
    | cons c tail => exact List.takeWhile_cons_of_neg (by simp [(endsNumber_cons.mp ht).1])
  rw [List.takeWhile_append, hstop]
  split
  · next hall => rw [List.append_nil, (List.takeWhile_prefix _).eq_of_length hall]
  · rfl

theorem gather_append (significand : Nat) (text : List Char) :
    gather significand (text ++ tail) =
      ((gather significand text).1, (gather significand text).2.1,
        (gather significand text).2.2 ++ tail) := by
  induction text generalizing significand with
  | nil =>
    cases tail with
    | nil => rfl
    | cons c tail => simp [gather, (endsNumber_cons.mp ht).1]
  | cons c text ih =>
    simp only [List.cons_append, gather, ih]
    split <;> rfl

theorem gatherExponent_append {exponent e : Nat} {text rest : List Char}
    (h : gatherExponent exponent text = .ok (e, rest)) :
    gatherExponent exponent (text ++ tail) = .ok (e, rest ++ tail) := by
  induction text generalizing exponent with
  | nil =>
    cases h
    cases tail with
    | nil => rfl
    | cons c tail => simp [gatherExponent, (endsNumber_cons.mp ht).1]
  | cons c text ih =>
    simp only [List.cons_append, gatherExponent] at h ⊢
    split at h
    · next hdigit =>
      rw [if_pos hdigit]
      split at h
      · next hsmall =>
        rw [if_pos hsmall]
        exact ih h
      · cases h
    · next hdigit =>
      cases h
      rw [if_neg hdigit]
      rfl

theorem exponentPart_append {negative : Bool} {significand : Nat} {exponent : Int}
    {text rest : List Char} {n : Number}
    (h : exponentPart negative significand exponent text = .ok (n, rest)) :
    exponentPart negative significand exponent (text ++ tail) = .ok (n, rest ++ tail) := by
  cases text with
  | nil => cases h
  | cons c text =>
    simp only [exponentPart, exponentSign_append] at h ⊢
    split at h
    · cases h
    · next d more hsign =>
      rw [hsign, List.cons_append]
      dsimp only
      split at h
      · cases h
      · next hdigit =>
        rw [if_neg hdigit]
        split at h
        · next hexp =>
          rw [gatherExponent_append ht hexp]
          exact scaled_append h tail
        · next hexp =>
          rw [gatherExponent_append_error hexp tail]
          dsimp only
          split at h
          · cases h
          · next hzero =>
            cases h
            rw [if_neg hzero, dropWhile_isDigit_append ht]

/-- A text that goes on with no point and no letter of an exponent does not in front of a tail. -/
theorem append_ne_cons {c : Char} (hc : c = '.' ∨ c = 'e' ∨ c = 'E') {text more : List Char}
    (h : ∀ front, text = c :: front → False) : text ++ tail ≠ c :: more := by
  intro he
  cases text with
  | nil =>
    rw [List.nil_append] at he
    subst he
    obtain ⟨-, hpoint, hsmall, hlarge⟩ := endsNumber_cons.mp ht
    rcases hc with rfl | rfl | rfl
    · exact hpoint rfl
    · exact hsmall rfl
    · exact hlarge rfl
  | cons d text =>
    rw [List.cons_append] at he
    exact h text (by rw [(List.cons.inj he).1])

theorem floatEnd_append {negative : Bool} {significand : Nat} {exponent : Int}
    {text rest : List Char} {n : Number}
    (h : floatEnd negative significand exponent text = .ok (n, rest)) :
    floatEnd negative significand exponent (text ++ tail) = .ok (n, rest ++ tail) := by
  unfold floatEnd at h
  split at h
  · exact exponentPart_append ht h
  · exact exponentPart_append ht h
  · next hsmall hlarge =>
    unfold floatEnd
    split
    · next hmore => exact absurd hmore (append_ne_cons ht (by simp) hsmall)
    · next hmore => exact absurd hmore (append_ne_cons ht (by simp) hlarge)
    · exact scaled_append h tail

theorem fraction_append {negative : Bool} {significand : Nat} {exponent : Int}
    {text rest : List Char} {n : Number}
    (h : fraction negative significand exponent text = .ok (n, rest)) :
    fraction negative significand exponent (text ++ tail) = .ok (n, rest ++ tail) := by
  cases text with
  | nil => cases h
  | cons c text =>
    simp only [fraction] at h
    split at h
    · cases h
    · next hdigit =>
      rw [List.cons_append, fraction, if_neg hdigit, ← List.cons_append, gather_append ht]
      dsimp only
      rw [dropWhile_isDigit_append ht]
      exact floatEnd_append ht h

/-- A number ends in front of a text that does not go on with it. -/
theorem numeral_append {negative : Bool} {text rest : List Char} {n : Number}
    (h : numeral negative text = .ok (n, rest)) :
    numeral negative (text ++ tail) = .ok (n, rest ++ tail) := by
  cases text with
  | nil => cases h
  | cons c text =>
    have hzero : zeroFollowed c (text ++ tail) = zeroFollowed c text := by
      cases text with
      | cons d text => rfl
      | nil =>
        cases tail with
        | nil => rfl
        | cons d tail => simp [zeroFollowed, (endsNumber_cons.mp ht).1]
    simp only [numeral, List.cons_append, hzero, gather_append ht, dropWhile_isDigit_append ht,
      takeWhile_isDigit_append ht] at h ⊢
    split at h
    · cases h
    · next hdigit =>
      rw [if_neg hdigit]
      split at h
      · cases h
      · next hnot =>
        rw [if_neg hnot]
        split at h
        · next more hmore =>
          rw [hmore]
          exact fraction_append ht h
        · next more hmore =>
          rw [hmore]
          exact exponentPart_append ht h
        · next more hmore =>
          rw [hmore]
          exact exponentPart_append ht h
        · next hpoint hsmall hlarge =>
          split
          · next hmore => exact absurd hmore (append_ne_cons ht (by simp) hpoint)
          · next hmore => exact absurd hmore (append_ne_cons ht (by simp) hsmall)
          · next hmore => exact absurd hmore (append_ne_cons ht (by simp) hlarge)
          · split at h
            · next hkept =>
              cases h
              rw [if_pos hkept]
            · next hdropped =>
              rw [if_neg hdropped]
              exact scaled_append h tail

/-! ## Scalars -/

/-- Every scalar is taken off a longer text, unless a number goes on there. -/
theorem scalar_append {text rest : List Char} {v : Json} (h : scalar text = .ok (v, rest)) :
    scalar (text ++ tail) = .ok (v, rest ++ tail) := by
  unfold scalar at h
  split at h
  · cases h
  · obtain ⟨r, hr, he⟩ := map_eq_ok_iff.1 h
    cases he
    rw [List.cons_append, scalar, word_append hr]
    rfl
  · obtain ⟨r, hr, he⟩ := map_eq_ok_iff.1 h
    cases he
    rw [List.cons_append, scalar, word_append hr]
    rfl
  · obtain ⟨r, hr, he⟩ := map_eq_ok_iff.1 h
    cases he
    rw [List.cons_append, scalar, word_append hr]
    rfl
  · obtain ⟨⟨cs, r⟩, hr, he⟩ := map_eq_ok_iff.1 h
    cases he
    rw [List.cons_append, scalar, stringBody_append hr]
    rfl
  · obtain ⟨⟨n, r⟩, hr, he⟩ := map_eq_ok_iff.1 h
    cases he
    rw [List.cons_append, scalar, numeral_append ht hr]
    rfl
  · split at h
    · next hdigit =>
      obtain ⟨⟨n, r⟩, hr, he⟩ := map_eq_ok_iff.1 h
      cases he
      rw [List.cons_append, scalar, if_pos hdigit, ← List.cons_append, numeral_append ht hr]
      rfl
      all_goals assumption
    · cases h

end

end ContractFixtures.Json
