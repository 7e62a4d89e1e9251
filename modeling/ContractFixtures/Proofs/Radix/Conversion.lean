import ContractFixtures.Radix
import Mathlib.Data.List.Induction
import Mathlib.Data.List.TakeWhile
import Mathlib.Data.Nat.Digits.Lemmas

/-!
# Conversion between bases

A numeral that is grown digit by digit stays minimal: it is the numeral of the number read so far.
Leading zeros have no part in that number, so they are counted apart; with them no digit is lost.

Results:
1. `push_digits`: growing the numeral of a number gives the numeral of the grown number.
2. `convert_eq_digits`: a conversion gives the minimal numeral of the number that was read.
3. `rebase_rebase`: converting to another base and back gives the digits back, leading zeros
   included.
-/

namespace ContractFixtures.Radix

/-! ## Numerals of numbers -/

theorem digits_eq_natDigits {base : Nat} (hb : 2 ≤ base) (n : Nat) :
    digits base n = Nat.digits base n := by
  fun_induction digits base n with
  | case1 n h =>
    have hn : n = 0 := by omega
    rw [hn, Nat.digits_zero]
  | case2 n h ih =>
    rw [ih, ← Nat.digits_def' (by omega) (by omega)]

theorem value_eq_ofDigits (base : Nat) (ds : List Nat) : value base ds = Nat.ofDigits base ds := by
  induction ds with
  | nil => rfl
  | cons d ds ih => rw [value, ih, Nat.ofDigits_cons]

theorem digits_zero (base : Nat) : digits base 0 = [] := by
  rw [digits, if_pos (Or.inl rfl)]

theorem digits_of_pos {base n : Nat} (hb : 2 ≤ base) (hn : 0 < n) :
    digits base n = n % base :: digits base (n / base) := by
  rw [digits, if_neg (by omega)]

theorem lt_of_mem_digits {base n d : Nat} (hb : 2 ≤ base) (hd : d ∈ digits base n) : d < base := by
  rw [digits_eq_natDigits hb] at hd
  exact Nat.digits_lt_base hb hd

/-- The most significant digit of a numeral is not 0. -/
theorem getLast_digits_ne_zero {base n : Nat} (hb : 2 ≤ base) (h : digits base n ≠ []) :
    (digits base n).getLast h ≠ 0 := by
  simp only [digits_eq_natDigits hb] at h ⊢
  exact Nat.getLast_digit_ne_zero base (Nat.digits_ne_nil_iff_ne_zero.mp h)

/-- A list of digits whose most significant one is not 0 is the numeral of its value. -/
theorem digits_value {base : Nat} (hb : 2 ≤ base) {ds : List Nat} (hlt : ∀ d ∈ ds, d < base)
    (hlast : ∀ h : ds ≠ [], ds.getLast h ≠ 0) : digits base (value base ds) = ds := by
  rw [digits_eq_natDigits hb, value_eq_ofDigits]
  exact Nat.digits_ofDigits base hb ds hlt hlast

/-! ## Growing numerals -/

/-- One step of growth takes the numeral of a number to the numeral of the grown number. -/
theorem push_digits {base scale : Nat} (hb : 2 ≤ base) (hs : 0 < scale) (n carry : Nat) :
    push base scale (digits base n) carry = digits base (carry + scale * n) := by
  induction n using Nat.strong_induction_on generalizing carry with
  | _ n ih =>
    rcases Nat.eq_zero_or_pos n with rfl | hn
    · rw [digits_zero, push, Nat.mul_zero, Nat.add_zero]
    · have hpos : 0 < scale * n := Nat.mul_pos hs hn
      -- The carry passes the lowest digit as if that digit stood alone.
      have hsplit : carry + scale * n = (carry + n % base * scale) + base * (scale * (n / base)) := by
        conv_lhs => rw [← Nat.mod_add_div n base]
        ring
      rw [digits_of_pos hb hn, push, ih (n / base) (Nat.div_lt_self hn hb),
        digits_of_pos hb (by omega : 0 < carry + scale * n), hsplit, Nat.add_mul_mod_self_left,
        Nat.add_mul_div_left _ _ (by omega)]

/-- A conversion gives the numeral of the number whose digits it reads. -/
theorem convert_eq_digits {base scale : Nat} (hb : 2 ≤ base) (hs : 0 < scale) (ds : List Nat) :
    convert base scale ds = digits base (value scale ds.reverse) := by
  induction ds using List.reverseRecOn with
  | nil => exact (digits_zero base).symm
  | append_singleton ds d ih =>
    rw [convert] at ih ⊢
    rw [List.foldl_append, ih, List.reverse_append, List.reverse_singleton, List.singleton_append,
      value]
    exact push_digits hb hs _ d

/-! ## Digits with leading zeros -/

/-- The digits of a number in another base, most significant first. Each leading zero of the given
digits is kept as one leading zero. -/
def rebase (base scale : Nat) (ds : List Nat) : List Nat :=
  ds.takeWhile (· == 0) ++ (convert base scale (ds.dropWhile (· == 0))).reverse

theorem rebase_eq {base scale : Nat} (hb : 2 ≤ base) (hs : 0 < scale) (ds : List Nat) :
    rebase base scale ds = ds.takeWhile (· == 0) ++
      (digits base (value scale (ds.dropWhile (· == 0)).reverse)).reverse := by
  rw [rebase, convert_eq_digits hb hs]

theorem eq_zero_of_mem_zeros {ds : List Nat} {d : Nat} (h : d ∈ ds.takeWhile (· == 0)) : d = 0 := by
  simpa using List.mem_takeWhile_imp h

theorem lt_of_mem_rebase {base scale : Nat} (hb : 2 ≤ base) (hs : 0 < scale) {ds : List Nat}
    {d : Nat} (hd : d ∈ rebase base scale ds) : d < base := by
  rw [rebase_eq hb hs, List.mem_append, List.mem_reverse] at hd
  cases hd with
  | inl hz =>
    rw [eq_zero_of_mem_zeros hz]
    omega
  | inr hm => exact lt_of_mem_digits hb hm

/-- What stands behind the leading zeros, read from its other end, does not end in 0. -/
theorem getLast_reverse_dropWhile_ne_zero (ds : List Nat)
    (h : (ds.dropWhile (· == 0)).reverse ≠ []) :
    (ds.dropWhile (· == 0)).reverse.getLast h ≠ 0 := by
  have hne : ds.dropWhile (· == 0) ≠ [] := by simpa using h
  rw [List.getLast_reverse]
  simpa using List.head_dropWhile_not (· == 0) hne

/-- The leading zeros of a numeral behind zeros are those zeros. -/
theorem split_zeros_append_digits {base : Nat} (hb : 2 ≤ base) (n : Nat) {zs : List Nat}
    (hz : ∀ z ∈ zs, z = 0) :
    (zs ++ (digits base n).reverse).takeWhile (· == 0) = zs ∧
      (zs ++ (digits base n).reverse).dropWhile (· == 0) = (digits base n).reverse := by
  have hz' : ∀ z ∈ zs, (z == 0) = true := fun z hm => by simpa using hz z hm
  rw [List.takeWhile_append_of_pos hz', List.dropWhile_append_of_pos hz']
  cases hr : (digits base n).reverse with
  | nil => simp
  | cons d ds =>
    have hne : digits base n ≠ [] := by
      intro he
      simp [he] at hr
    have hd : d ≠ 0 := by
      have hlast := getLast_digits_ne_zero hb hne
      rw [← List.head_reverse (by simpa using hne)] at hlast
      simpa [hr] using hlast
    simp [hd]

/-- Converting digits to another base and back gives the digits back. -/
theorem rebase_rebase {base scale : Nat} (hb : 2 ≤ base) (hs : 2 ≤ scale) {ds : List Nat}
    (hlt : ∀ d ∈ ds, d < scale) : rebase scale base (rebase base scale ds) = ds := by
  have hz : ∀ z ∈ ds.takeWhile (· == 0), z = 0 := fun z => eq_zero_of_mem_zeros
  have hrest : ∀ d ∈ (ds.dropWhile (· == 0)).reverse, d < scale := by
    intro d hd
    exact hlt d ((List.dropWhile_sublist _).subset (List.mem_reverse.mp hd))
  obtain ⟨htake, hdrop⟩ :=
    split_zeros_append_digits hb (value scale (ds.dropWhile (· == 0)).reverse) hz
  rw [rebase_eq hb (by omega), rebase_eq hs (by omega), htake, hdrop, List.reverse_reverse,
    value_digits hb, digits_value hs hrest (getLast_reverse_dropWhile_ne_zero ds),
    List.reverse_reverse, List.takeWhile_append_dropWhile]

end ContractFixtures.Radix
