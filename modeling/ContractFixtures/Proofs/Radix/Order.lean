import ContractFixtures.Proofs.Radix.Conversion

/-!
# The order of numerals

Numerals with the same number of digits, read from their most significant one on, are ordered as
the numbers that they denote. A conversion to another base keeps this order as long as it gives
numerals of one length.

Results:
1. `compare_map`, `compare_append_of_length_eq`: the lexical order of lists.
2. `compare_value`: numerals of one length are ordered as their numbers.
3. `value_cons_bounds`: the numbers whose numerals start with a given digit.
4. `length_digits_eq`: the numbers whose numerals have a given length.
5. `exists_reverse_digits_eq_cons`: the numbers whose numerals have a given length and first digit.
-/

namespace ContractFixtures

/-! ## Lists in lexical order -/

/-- A map that keeps the order of elements keeps the order of lists. -/
theorem compare_map {α β : Type} [Ord α] [Ord β] {f : α → β} {xs ys : List α}
    (h : ∀ x ∈ xs, ∀ y ∈ ys, compare (f x) (f y) = compare x y) :
    compare (xs.map f) (ys.map f) = compare xs ys := by
  induction xs generalizing ys with
  | nil => cases ys <;> rfl
  | cons x xs ih =>
    cases ys with
    | nil => rfl
    | cons y ys =>
      have hrest : ∀ x ∈ xs, ∀ y ∈ ys, compare (f x) (f y) = compare x y := fun x hx y hy =>
        h x (List.mem_cons_of_mem _ hx) y (List.mem_cons_of_mem _ hy)
      rw [List.map_cons, List.map_cons, List.compare_cons_cons, List.compare_cons_cons, ih hrest,
        h x List.mem_cons_self y List.mem_cons_self]

/-- What stands behind lists of one length counts only if these lists are the same. -/
theorem compare_append_of_length_eq {α : Type} [Ord α] {xs ys : List α}
    (h : xs.length = ys.length) (more others : List α) :
    compare (xs ++ more) (ys ++ others) = (compare xs ys).then (compare more others) := by
  induction xs generalizing ys with
  | nil =>
    cases ys with
    | nil => rfl
    | cons y ys => cases h
  | cons x xs ih =>
    cases ys with
    | nil => cases h
    | cons y ys =>
      rw [List.cons_append, List.cons_append, List.compare_cons_cons, List.compare_cons_cons,
        ih (Nat.succ.inj h), Ordering.then_assoc]

namespace Radix

variable {base : Nat}

/-! ## Digits and numbers -/

theorem compare_add_right (a b c : Nat) : compare (a + c) (b + c) = compare a b := by
  simp only [Nat.compare_eq_ite_lt, Nat.add_lt_add_iff_right]

/-- The more significant part of a number counts first. -/
theorem compare_add_mul {low low' : Nat} (hlow : low < base) (hlow' : low' < base)
    (high high' : Nat) :
    compare (low + base * high) (low' + base * high') =
      (compare high high').then (compare low low') := by
  rcases Nat.lt_trichotomy high high' with hlt | rfl | hgt
  · have hnext : base * (high + 1) ≤ base * high' := Nat.mul_le_mul_left base hlt
    rw [Nat.mul_succ] at hnext
    rw [Nat.compare_eq_lt.mpr hlt, Nat.compare_eq_lt.mpr (by omega)]
    rfl
  · rw [compare_add_right, Std.ReflOrd.compare_self, Ordering.eq_then]
  · have hnext : base * (high' + 1) ≤ base * high := Nat.mul_le_mul_left base hgt
    rw [Nat.mul_succ] at hnext
    rw [Nat.compare_eq_gt.mpr hgt, Nat.compare_eq_gt.mpr (by omega)]
    rfl

theorem value_append (ds es : List Nat) :
    value base (ds ++ es) = value base ds + base ^ ds.length * value base es := by
  simp only [value_eq_ofDigits, Nat.ofDigits_append]

/-- The number of digits whose most significant one is `d`, which stands first. -/
theorem value_reverse_cons (d : Nat) (ds : List Nat) :
    value base (d :: ds).reverse = value base ds.reverse + base ^ ds.length * d := by
  rw [List.reverse_cons, value_append, List.length_reverse, value, value, Nat.mul_zero,
    Nat.add_zero]

theorem value_reverse_lt (hb : 2 ≤ base) {ds : List Nat} (h : ∀ d ∈ ds, d < base) :
    value base ds.reverse < base ^ ds.length := by
  rw [value_eq_ofDigits, ← List.length_reverse]
  exact Nat.ofDigits_lt_base_pow_length hb fun d hd => h d (List.mem_reverse.mp hd)

/-- Numerals of one length, most significant digit first, are ordered as their numbers. -/
theorem compare_value (hb : 2 ≤ base) {ds es : List Nat} (hlen : ds.length = es.length)
    (hds : ∀ d ∈ ds, d < base) (hes : ∀ e ∈ es, e < base) :
    compare (value base ds.reverse) (value base es.reverse) = compare ds es := by
  induction ds generalizing es with
  | nil =>
    cases es with
    | nil => rfl
    | cons e es => cases hlen
  | cons d ds ih =>
    cases es with
    | nil => cases hlen
    | cons e es =>
      have hlen' : ds.length = es.length := Nat.succ.inj hlen
      obtain ⟨-, hds'⟩ := List.forall_mem_cons.mp hds
      obtain ⟨-, hes'⟩ := List.forall_mem_cons.mp hes
      have hlow := value_reverse_lt hb hds'
      have hlow' := value_reverse_lt hb hes'
      rw [← hlen'] at hlow'
      rw [value_reverse_cons, value_reverse_cons, ← hlen', compare_add_mul hlow hlow',
        ih hlen' hds' hes', List.compare_cons_cons]

/-! ## Lengths -/

/-- A numeral that starts with `d` denotes at least `d` and less than `d + 1` of its highest
unit. -/
theorem value_cons_bounds (hb : 2 ≤ base) (d : Nat) {ds : List Nat} (h : ∀ d ∈ ds, d < base) :
    d * base ^ ds.length ≤ value base (d :: ds).reverse ∧
      value base (d :: ds).reverse < (d + 1) * base ^ ds.length := by
  have hlt := value_reverse_lt hb h
  rw [value_reverse_cons, Nat.add_mul, Nat.mul_comm d]
  omega

/-- The numerals of the numbers between two powers have one length. -/
theorem length_digits_eq (hb : 2 ≤ base) {n k : Nat} (hle : base ^ k ≤ n)
    (hlt : n < base ^ (k + 1)) : (digits base n).length = k + 1 := by
  rw [digits_eq_natDigits hb]
  exact Nat.le_antisymm ((Nat.digits_length_le_iff hb n).mpr hlt)
    ((Nat.lt_digits_length_iff hb n).mpr hle)

/-- The numerals of the numbers between two multiples of a power start with one digit. -/
theorem exists_reverse_digits_eq_cons (hb : 2 ≤ base) {n d k : Nat} (hd : 0 < d) (hdb : d < base)
    (hle : d * base ^ k ≤ n) (hlt : n < (d + 1) * base ^ k) :
    ∃ ds, (digits base n).reverse = d :: ds ∧ ds.length = k := by
  have hlen : (digits base n).reverse.length = k + 1 := by
    rw [List.length_reverse]
    refine length_digits_eq hb (Nat.le_trans (Nat.le_mul_of_pos_left _ hd) hle) ?_
    rw [Nat.pow_succ']
    exact Nat.lt_of_lt_of_le hlt (Nat.mul_le_mul_right _ hdb)
  obtain ⟨e, ds, heq⟩ := List.exists_cons_of_length_eq_add_one hlen
  have hdigit : ∀ x ∈ ds, x < base := fun x hx =>
    lt_of_mem_digits hb (List.mem_reverse.mp (heq ▸ List.mem_cons_of_mem e hx))
  obtain rfl : ds.length = k := by simpa [heq] using hlen
  obtain ⟨hle', hlt'⟩ := value_cons_bounds hb e hdigit
  rw [← heq, List.reverse_reverse, value_digits hb] at hle' hlt'
  -- Both digits are the number divided by the same power.
  have hde : d < e + 1 := Nat.lt_of_mul_lt_mul_right (Nat.lt_of_le_of_lt hle hlt')
  have hed : e < d + 1 := Nat.lt_of_mul_lt_mul_right (Nat.lt_of_le_of_lt hle' hlt)
  obtain rfl : e = d := by omega
  exact ⟨ds, heq, rfl⟩

end Radix

end ContractFixtures
