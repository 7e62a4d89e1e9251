import ContractFixtures.Param.Integer

/-!
# Integers in decimal

A text is read as an integer if it is an optional sign and one or more digits, and the number that
they denote is in the range of the type. The decimal text of an integer in range is such a text.

Results:
1. `magnitude_eq_ok_iff`: the digits of a magnitude, checked one by one, denote it.
2. `ofChars_eq_ok_iff`: which texts are read as an integer.
3. `ofChars_text`: the text of an integer is read as the integer.
4. `ofChars_eq_ok_iff_decimal`: the same as 2 for a grammar of decimal forms.
-/

namespace ContractFixtures.Signed

/-! ## Magnitudes -/

/-- Digits never make a magnitude smaller. -/
theorem le_ofDigitChars (acc : Nat) (cs : List Char) : acc ≤ Nat.ofDigitChars 10 cs acc := by
  induction cs generalizing acc with
  | nil => exact Nat.le_refl acc
  | cons c cs ih =>
    have hstep : acc ≤ 10 * acc + (c.toNat - '0'.toNat) := by omega
    exact Nat.le_trans hstep (ih _)

/-- The bound is checked at every digit, and that is as good as checking the whole magnitude. -/
theorem magnitude_eq_ok_iff {bits : Nat} {negative : Bool} {acc n : Nat} {cs : List Char}
    (hacc : acc ≤ bound bits negative) :
    magnitude bits negative acc cs = .ok n ↔
      (∀ c ∈ cs, c.isDigit = true) ∧ Nat.ofDigitChars 10 cs acc = n ∧ n ≤ bound bits negative := by
  induction cs generalizing acc with
  | nil =>
    rw [magnitude, Except.ok.injEq]
    constructor
    · rintro rfl
      exact ⟨fun _ h => absurd h List.not_mem_nil, rfl, hacc⟩
    · exact fun h => h.2.1
  | cons c cs ih =>
    have hle := le_ofDigitChars (10 * acc + (c.toNat - '0'.toNat)) cs
    rw [magnitude, List.forall_mem_cons]
    cases hc : c.isDigit with
    | false => simp
    | true =>
      by_cases hnext : bound bits negative < 10 * acc + (c.toNat - '0'.toNat)
      · -- Out of bounds here means out of bounds at the end.
        simp only [Bool.not_true, Bool.false_eq_true, if_false, if_pos hnext, reduceCtorEq,
          false_iff]
        rintro ⟨-, hvalue, hn⟩
        rw [Nat.ofDigitChars_cons] at hvalue
        omega
      · simp only [Bool.not_true, Bool.false_eq_true, if_false, if_neg hnext]
        rw [ih (Nat.le_of_not_lt hnext), Nat.ofDigitChars_cons]
        simp

/-! ## Texts -/

/-- The integer with a sign and the magnitude that digits denote. -/
def denoted (negative : Bool) (digits : List Char) : Int :=
  if negative then -(Nat.ofDigitChars 10 digits 0 : Int) else Nat.ofDigitChars 10 digits 0

/-- The bound of a magnitude is the range of the integers with its sign. -/
theorem le_bound_of_denoted {bits : Nat} {n : Signed bits} {negative : Bool} {digits : List Char}
    (h : n.value = denoted negative digits) :
    Nat.ofDigitChars 10 digits 0 ≤ bound bits negative := by
  have hlower := n.lower
  have hupper := n.upper
  rw [h, denoted] at hlower hupper
  cases negative with
  | true =>
    rw [if_pos rfl] at hlower
    rw [bound_true]
    omega
  | false =>
    rw [if_neg Bool.false_ne_true] at hupper
    rw [bound_false]
    omega

theorem value_ofMagnitude {bits m : Nat} {negative : Bool} (h : m ≤ bound bits negative) :
    (ofMagnitude bits negative m h).value = if negative then -(m : Int) else m := rfl

theorem ext_value {bits : Nat} {a b : Signed bits} (h : a.value = b.value) : a = b := by
  cases a
  cases b
  cases h
  rfl

/-- A text is read as an integer exactly if it is an optional sign and at least one digit, and
denotes the integer. -/
theorem ofChars_eq_ok_iff {bits : Nat} {cs : List Char} {n : Signed bits} :
    ofChars bits cs = .ok n ↔
      (sign cs).2 ≠ [] ∧ (∀ c ∈ (sign cs).2, c.isDigit = true) ∧
        n.value = denoted (sign cs).1 (sign cs).2 := by
  by_cases hcs : cs = []
  · subst hcs
    simp [ofChars, sign]
  by_cases hdigits : (sign cs).2 = []
  · simp [ofChars, hcs, hdigits]
  · simp only [ofChars, if_neg hcs, if_neg hdigits]
    constructor
    · intro h
      split at h
      · cases h
      · next m hm =>
        obtain ⟨hall, hvalue, -⟩ := (magnitude_eq_ok_iff (Nat.zero_le _)).mp hm
        refine ⟨hdigits, hall, ?_⟩
        rw [← Except.ok.inj h, value_ofMagnitude, denoted, hvalue]
    · rintro ⟨-, hall, hvalue⟩
      have hm := (magnitude_eq_ok_iff (Nat.zero_le _)).mpr
        ⟨hall, rfl, le_bound_of_denoted hvalue⟩
      split
      · next fault hfault => cases hfault.symm.trans hm
      · next m hm' =>
        refine congrArg Except.ok (ext_value ?_)
        rw [value_ofMagnitude, hvalue, denoted, Except.ok.inj (hm'.symm.trans hm)]

/-! ## Written integers -/

theorem sign_of_isDigit {c : Char} (h : c.isDigit = true) (cs : List Char) :
    sign (c :: cs) = (false, c :: cs) := by
  rw [sign]
  · rintro rest ⟨⟩
    exact absurd h (by decide)
  · rintro rest ⟨⟩
    exact absurd h (by decide)

/-- The digits of a natural number have no sign. -/
theorem sign_toDigits (m : Nat) : sign (Nat.toDigits 10 m) = (false, Nat.toDigits 10 m) := by
  obtain ⟨c, cs, hcs⟩ := List.exists_cons_of_ne_nil (Nat.toDigits_ne_nil (b := 10) (n := m))
  have hc : c.isDigit = true :=
    Nat.isDigit_of_mem_toDigits (by decide) (by decide) (hcs ▸ List.mem_cons_self)
  rw [hcs, sign_of_isDigit hc]

theorem text_ofNat {bits m : Nat} {n : Signed bits} (h : n.value = Int.ofNat m) :
    n.text = Nat.toDigits 10 m := by
  rw [text, h, Int.toString_eq_repr, Int.repr, Nat.toList_repr]

theorem text_negSucc {bits m : Nat} {n : Signed bits} (h : n.value = Int.negSucc m) :
    n.text = '-' :: Nat.toDigits 10 (m + 1) := by
  rw [text, h, Int.toString_eq_repr, Int.repr, String.toList_append, Nat.toList_repr]
  rfl

/-- The text of an integer is read as the integer. -/
theorem ofChars_text {bits : Nat} (n : Signed bits) : ofChars bits n.text = .ok n := by
  have hdigits : ∀ m : Nat, ∀ c ∈ Nat.toDigits 10 m, c.isDigit = true := fun m c =>
    Nat.isDigit_of_mem_toDigits (by decide) (by decide)
  rw [ofChars_eq_ok_iff]
  cases h : n.value with
  | ofNat m =>
    rw [text_ofNat h, sign_toDigits]
    refine ⟨Nat.toDigits_ne_nil, hdigits m, ?_⟩
    rw [denoted, if_neg Bool.false_ne_true, Nat.ofDigitChars_ten_toDigits]
    rfl
  | negSucc m =>
    rw [text_negSucc h]
    refine ⟨Nat.toDigits_ne_nil, hdigits (m + 1), ?_⟩
    rw [sign, denoted, if_pos rfl, Nat.ofDigitChars_ten_toDigits]
    rfl

/-- The text of an integer holds digits and perhaps a minus. -/
theorem mem_text {bits : Nat} {n : Signed bits} {c : Char} (h : c ∈ n.text) :
    c = '-' ∨ c.isDigit = true := by
  have hdigits : ∀ m : Nat, c ∈ Nat.toDigits 10 m → c.isDigit = true := fun m =>
    Nat.isDigit_of_mem_toDigits (by decide) (by decide)
  cases hv : n.value with
  | ofNat m =>
    rw [text_ofNat hv] at h
    exact .inr (hdigits m h)
  | negSucc m =>
    rw [text_negSucc hv, List.mem_cons] at h
    exact h.imp_right (hdigits (m + 1))

/-! ## Decimal forms -/

/-- One or more ASCII digits. -/
def Digits (cs : List Char) : Prop :=
  cs ≠ [] ∧ ∀ c ∈ cs, c.isDigit = true

/-- An optional sign and digits, and the integer that they denote. -/
inductive Decimal : List Char → Int → Prop
  | unsigned {digits : List Char} : Digits digits → Decimal digits (Nat.ofDigitChars 10 digits 0)
  | plus {digits : List Char} :
      Digits digits → Decimal ('+' :: digits) (Nat.ofDigitChars 10 digits 0)
  | minus {digits : List Char} :
      Digits digits → Decimal ('-' :: digits) (-(Nat.ofDigitChars 10 digits 0 : Int))

theorem decimal_iff {cs : List Char} {value : Int} :
    Decimal cs value ↔ Digits (sign cs).2 ∧ value = denoted (sign cs).1 (sign cs).2 := by
  constructor
  · rintro (hdigits | hdigits | hdigits)
    · obtain ⟨c, rest, rfl⟩ := List.exists_cons_of_ne_nil hdigits.1
      rw [sign_of_isDigit (hdigits.2 c List.mem_cons_self)]
      exact ⟨hdigits, rfl⟩
    · exact ⟨hdigits, rfl⟩
    · exact ⟨hdigits, rfl⟩
  · rintro ⟨hdigits, rfl⟩
    rcases cs with _ | ⟨c, rest⟩
    · exact absurd rfl hdigits.1
    by_cases hplus : c = '+'
    · subst hplus
      exact .plus hdigits
    by_cases hminus : c = '-'
    · subst hminus
      exact .minus hdigits
    · have hsign : sign (c :: rest) = (false, c :: rest) := by simp [sign, hplus, hminus]
      rw [hsign] at hdigits ⊢
      exact .unsigned hdigits

/-- A text is read as an integer exactly if it is a decimal form of it. -/
theorem ofChars_eq_ok_iff_decimal {bits : Nat} {cs : List Char} {n : Signed bits} :
    ofChars bits cs = .ok n ↔ Decimal cs n.value := by
  rw [ofChars_eq_ok_iff, decimal_iff, Digits, and_assoc]

end ContractFixtures.Signed
