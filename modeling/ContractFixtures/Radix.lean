/-!
# Numerals in a base

Little-endian digit lists. A numeral is grown by one step: multiply it by a scale and add a
number, carrying from digit to digit in place. Growing by the digits of another base converts
between bases.
-/

namespace ContractFixtures.Radix

/-- The digits of a number, least significant first, none for 0. -/
def digits (base n : Nat) : List Nat :=
  if n = 0 ∨ base < 2 then [] else n % base :: digits base (n / base)
termination_by n
decreasing_by exact Nat.div_lt_self (by omega) (by omega)

/-- The number that little-endian digits denote. -/
def value (base : Nat) : List Nat → Nat
  | [] => 0
  | d :: ds => d + base * value base ds

/-- The digits of `scale * value + carry`, formed from the least significant digit up. What is
left of the carry after the last digit is appended. -/
def push (base scale : Nat) : List Nat → Nat → List Nat
  | [], carry => digits base carry
  | d :: ds, carry =>
    let sum := carry + d * scale
    sum % base :: push base scale ds (sum / base)

/-- The numeral in `base` of the number whose digits in base `scale` are given, most significant
first. -/
def convert (base scale : Nat) (ds : List Nat) : List Nat :=
  ds.foldl (push base scale) []

theorem value_digits {base : Nat} (hb : 2 ≤ base) (n : Nat) :
    value base (digits base n) = n := by
  fun_induction digits base n with
  | case1 n h => simp [value]; omega
  | case2 n h ih => simp [value, ih, Nat.mod_add_div]

end ContractFixtures.Radix
