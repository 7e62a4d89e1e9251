import ContractFixtures.Text.Utf8
import Mathlib.Algebra.Group.Nat.Defs
import Mathlib.Data.List.Lex

/-!
# The order of bytes

Texts are ordered by their characters, and so are the bytes of their UTF-8 form. A character is
written as a first byte, which is larger the more bytes follow, and digits to the base 64.

* `tailed`: a number as a first byte and digits behind it.

Results:
1. `utf8EncodeChar_eq_tailed`: the bytes of a character.
2. `utf8EncodeChar_append_lt`, `bytesOf_lt`: the bytes of smaller characters and texts are smaller.
-/

namespace ContractFixtures.Text

/-- A number as a first byte, from a mark on, and some digits to the base 64 behind it. -/
def tailed (mark : Nat) : Nat → Nat → List UInt8
  | 0, number => [UInt8.ofNat (mark + number)]
  | count + 1, number =>
    tailed mark count (number / 64) ++ [UInt8.ofNat (128 + number % 64)]

/-- The mark of the first byte of a character and the number of digits behind it. -/
def formOf (number : Nat) : Nat × Nat :=
  if number ≤ 0x7f then (0, 0)
  else if number ≤ 0x7ff then (192, 1)
  else if number ≤ 0xffff then (224, 2)
  else (240, 3)

theorem ofNat_lt_ofNat {m n : Nat} (h : m < n) (hn : n < 256) : UInt8.ofNat m < UInt8.ofNat n := by
  rw [UInt8.lt_iff_toNat_lt, UInt8.toNat_ofNat', UInt8.toNat_ofNat']
  omega

theorem exists_tailed_eq_cons (mark count number : Nat) :
    ∃ rest, tailed mark count number = UInt8.ofNat (mark + number / 64 ^ count) :: rest := by
  induction count generalizing number with
  | zero => exact ⟨[], by rw [tailed, Nat.pow_zero, Nat.div_one]⟩
  | succ count ih =>
    obtain ⟨rest, hrest⟩ := ih (number / 64)
    refine ⟨rest ++ [UInt8.ofNat (128 + number % 64)], ?_⟩
    rw [tailed, hrest, Nat.div_div_eq_div_mul, ← Nat.pow_succ', List.cons_append]

/-- Numbers with the same mark and as many digits are ordered as their bytes. -/
theorem tailed_append_lt {mark count m n : Nat} (h : m < n) (hn : mark + n / 64 ^ count < 256)
    (xs ys : List UInt8) : tailed mark count m ++ xs < tailed mark count n ++ ys := by
  induction count generalizing m n xs ys with
  | zero =>
    rw [Nat.pow_zero, Nat.div_one] at hn
    exact List.cons_lt_cons_iff.mpr (.inl (ofNat_lt_ofNat (by omega) hn))
  | succ count ih =>
    rw [tailed, tailed, List.append_assoc, List.append_assoc]
    by_cases hfront : m / 64 < n / 64
    · rw [Nat.pow_succ', ← Nat.div_div_eq_div_mul] at hn
      exact ih hfront hn _ _
    · have hsame : m / 64 = n / 64 := by omega
      have hdigit : UInt8.ofNat (128 + m % 64) < UInt8.ofNat (128 + n % 64) :=
        ofNat_lt_ofNat (by omega) (by omega)
      rw [hsame]
      exact List.append_left_lt (List.cons_lt_cons_iff.mpr (.inl hdigit))

/-- The first byte of a character. -/
def firstOf (number : Nat) : Nat :=
  if number ≤ 0x7f then number
  else if number ≤ 0x7ff then 192 + number / 64
  else if number ≤ 0xffff then 224 + number / 4096
  else 240 + number / 262144

theorem firstOf_eq (number : Nat) :
    (formOf number).1 + number / 64 ^ (formOf number).2 = firstOf number := by
  unfold formOf firstOf
  split
  · show 0 + number / 1 = number
    rw [Nat.zero_add, Nat.div_one]
  · split
    · rfl
    · split <;> rfl

theorem firstOf_lt {number : Nat} (h : number < 0x110000) : firstOf number < 256 := by
  unfold firstOf
  split_ifs <;> omega

/-- The first bytes of numbers of different forms are ordered as the numbers are. -/
theorem firstOf_lt_firstOf {m n : Nat} (h : m < n) (hform : formOf m ≠ formOf n) :
    firstOf m < firstOf n := by
  unfold formOf at hform
  unfold firstOf
  split_ifs at hform ⊢ <;> first | exact absurd rfl hform | omega

theorem toNat_val_lt (c : Char) : c.val.toNat < 0x110000 := by
  have hvalid : c.val.toNat < 0xd800 ∨ 0xdfff < c.val.toNat ∧ c.val.toNat < 0x110000 := c.valid
  omega

theorem utf8EncodeChar_eq_tailed (c : Char) :
    String.utf8EncodeChar c
      = tailed (formOf c.val.toNat).1 (formOf c.val.toNat).2 c.val.toNat := by
  have hbound := toNat_val_lt c
  unfold String.utf8EncodeChar formOf
  generalize c.val.toNat = m at *
  dsimp only
  have hdigit : m % 64 + 128 = 128 + m % 64 := Nat.add_comm _ _
  have hsecond : m / 64 % 64 + 128 = 128 + m / 64 % 64 := Nat.add_comm _ _
  have hthird : m / 4096 % 64 + 128 = 128 + m / 64 / 64 % 64 := by omega
  split_ifs
  · rw [tailed, Nat.zero_add]
  · have hfirst : m / 64 % 32 + 192 = 192 + m / 64 := by omega
    rw [hfirst, hdigit]
    rfl
  · have hfirst : m / 4096 % 16 + 224 = 224 + m / 64 / 64 := by omega
    rw [hfirst, hsecond, hdigit]
    rfl
  · have hfirst : m / 262144 % 8 + 240 = 240 + m / 64 / 64 / 64 := by omega
    rw [hfirst, hthird, hsecond, hdigit]
    rfl

/-- The bytes of a smaller character come first, whatever stands behind. -/
theorem utf8EncodeChar_append_lt {c d : Char} (h : c < d) (xs ys : List UInt8) :
    String.utf8EncodeChar c ++ xs < String.utf8EncodeChar d ++ ys := by
  have hlt : c.val.toNat < d.val.toNat := h
  have hbyte := firstOf_lt (toNat_val_lt d)
  rw [utf8EncodeChar_eq_tailed, utf8EncodeChar_eq_tailed]
  by_cases hform : formOf c.val.toNat = formOf d.val.toNat
  · rw [hform]
    rw [← firstOf_eq] at hbyte
    exact tailed_append_lt hlt hbyte xs ys
  · obtain ⟨rest, hc⟩ := exists_tailed_eq_cons (formOf c.val.toNat).1 (formOf c.val.toNat).2
      c.val.toNat
    obtain ⟨rest', hd⟩ := exists_tailed_eq_cons (formOf d.val.toNat).1 (formOf d.val.toNat).2
      d.val.toNat
    rw [hc, hd, firstOf_eq, firstOf_eq]
    exact List.cons_lt_cons_iff.mpr (.inl (ofNat_lt_ofNat (firstOf_lt_firstOf hlt hform) hbyte))

theorem bytesOf_cons_ne_nil (c : Char) (cs : List Char) : bytesOf (c :: cs) ≠ [] := by
  obtain ⟨rest, hrest⟩ := exists_tailed_eq_cons (formOf c.val.toNat).1 (formOf c.val.toNat).2
    c.val.toNat
  rw [bytesOf, List.flatMap_cons, utf8EncodeChar_eq_tailed, hrest]
  exact List.cons_ne_nil _ _

/-- The bytes of a smaller text come first. -/
theorem bytesOf_lt {cs ds : List Char} (h : cs < ds) : bytesOf cs < bytesOf ds := by
  induction h with
  | @nil d ds =>
    obtain ⟨first, rest, hbytes⟩ := List.exists_cons_of_ne_nil (bytesOf_cons_ne_nil d ds)
    rw [hbytes]
    exact List.nil_lt_cons _ _
  | rel h => exact utf8EncodeChar_append_lt h _ _
  | cons _ ih => exact List.append_left_lt ih

end ContractFixtures.Text
