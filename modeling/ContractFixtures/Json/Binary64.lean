/-!
# Binary numbers of 64 bits

Finite nonnegative floating-point numbers, kept as a significand and a power of two. A ratio of
naturals is rounded to the nearest one, a tie to the even significand. The shortest decimal that
rounds back to a number is found by exact arithmetic.
-/

namespace ContractFixtures

/-- The number `significand * 2 ^ exponent`, with a significand below `2 ^ 53`. -/
structure Binary64 where
  significand : Nat
  exponent : Int
deriving DecidableEq, Repr

namespace Binary64

/-- The least exponent. -/
def minExponent : Int := -1074

/-- The greatest exponent. -/
def maxExponent : Int := 971

/-- Significands are below this bound. -/
def significandBound : Nat := Nat.pow 2 53

/-- The number zero. -/
def zero : Binary64 := ⟨0, minExponent⟩

/-- Whether the number is zero. -/
def isZero (x : Binary64) : Bool := x.significand == 0

/-- A power as a ratio of naturals. -/
def powerRatio (base : Nat) (e : Int) : Nat × Nat :=
  if 0 ≤ e then (Nat.pow base e.toNat, 1) else (1, Nat.pow base (-e).toNat)

/-- The quotient of `num / den` by `2 ^ e`, rounded to nearest, a tie to even. -/
def roundAt (num den : Nat) (e : Int) : Nat :=
  let (up, down) := powerRatio 2 e
  let n := num * down
  let d := den * up
  let q := n / d
  let twice := 2 * (n % d)
  if d < twice ∨ (twice = d ∧ q % 2 = 1) then q + 1 else q

/-- The exponent for a positive ratio: the significand gets 53 bits if the range allows it. -/
def exponentFor (num den : Nat) : Int :=
  let low := (num.log2 : Int) - den.log2 - 53
  let (up, down) := powerRatio 2 low
  let e := if num * down < den * up * significandBound then low else low + 1
  max minExponent e

/-- The number nearest to `num / den`, unless it is beyond the greatest one. -/
def ofRatio? (num den : Nat) : Option Binary64 :=
  if num = 0 then some zero
  else
    let e := exponentFor num den
    let m := roundAt num den e
    let (m, e) := if m = significandBound then (significandBound / 2, e + 1) else (m, e)
    if maxExponent < e then none else some ⟨m, e⟩

/-- The value as a ratio of naturals. -/
def ratio (x : Binary64) : Nat × Nat :=
  let (up, down) := powerRatio 2 x.exponent
  (x.significand * up, down)

/-- The number nearest to a power of ten. -/
def powerOfTen? (k : Nat) : Option Binary64 :=
  ofRatio? (Nat.pow 10 k) 1

/-- The nearest number to the product with `10 ^ k`, itself rounded first. -/
def timesPowerOfTen? (x : Binary64) (k : Nat) : Option Binary64 := do
  let power ← powerOfTen? k
  let (n, d) := x.ratio
  let (pn, pd) := power.ratio
  ofRatio? (n * pn) (d * pd)

/-- The nearest number to the quotient by `10 ^ k`, itself rounded first. -/
def overPowerOfTen? (x : Binary64) (k : Nat) : Option Binary64 := do
  let power ← powerOfTen? k
  let (n, d) := x.ratio
  let (pn, pd) := power.ratio
  ofRatio? (n * pd) (d * pn)

/-- The greatest power of ten that is a number. -/
def maxPower : Nat := 308

/-- Divides by powers of ten up to the greatest one at a time, each quotient rounded. -/
def scaleDown (x : Binary64) (k : Nat) : Option Binary64 :=
  if k ≤ maxPower then x.overPowerOfTen? k
  else if x.isZero then some x
  else (x.overPowerOfTen? maxPower).bind fun y => scaleDown y (k - maxPower)
termination_by k
decreasing_by simp only [maxPower] at *; omega

/-- The number read from a significand below `2 ^ 64` and a power of ten: the significand is
rounded, then scaled by rounded steps. None if the result is beyond the greatest number. -/
def ofDecimal? (significand : Nat) (exponent : Int) : Option Binary64 := do
  let x ← ofRatio? significand 1
  if exponent < 0 then x.scaleDown (-exponent).toNat
  else if exponent ≤ maxPower then x.timesPowerOfTen? exponent.toNat
  else if x.isZero then some x
  else none

/-- Whether the decimal `digits * 10 ^ scale` rounds to the number. -/
def isReadFrom (x : Binary64) (digits : Nat) (scale : Int) : Bool :=
  let (up, down) := powerRatio 10 scale
  ofRatio? (digits * up) down == some x

/-- The least `k` from `low` on, at most `steps` further, with `x < 10 ^ k`. -/
def magnitudeFrom (x : Binary64) (low : Int) : Nat → Int
  | 0 => low
  | steps + 1 =>
    let (n, d) := x.ratio
    let (up, down) := powerRatio 10 low
    if n * down < d * up then low else magnitudeFrom x (low + 1) steps

/-- The decimal of `count` digits nearest to the number, if it rounds to it; else one of its two
neighbours on the grid that does. -/
def digitsOf? (x : Binary64) (magnitude : Int) (count : Nat) : Option (Nat × Int) :=
  let scale := magnitude - count
  let (n, d) := x.ratio
  let (up, down) := powerRatio 10 scale
  let num := n * down
  let den := d * up
  let low := num / den
  let twice := 2 * (num % den)
  let high := low + 1
  let (near, far) :=
    if den < twice ∨ (twice = den ∧ low % 2 = 1) then (high, low) else (low, high)
  if x.isReadFrom near scale then some (near, scale)
  else if x.isReadFrom far scale then some (far, scale)
  else none

/-- Moves trailing zeros of the digits into the power of ten. -/
def dropZeros (digits : Nat) (scale : Int) : Nat × Int :=
  if digits = 0 ∨ digits % 10 ≠ 0 then (digits, scale) else dropZeros (digits / 10) (scale + 1)
termination_by digits
decreasing_by omega

/-- The digits and the power of ten of the shortest decimal that rounds to a positive number. -/
def shortest (x : Binary64) : Nat × Int :=
  let magnitude := magnitudeFrom x (-324) 640
  let (digits, scale) :=
    ((List.range 18).findSome? (digitsOf? x magnitude)).getD (x.significand, 0)
  dropZeros digits scale

end Binary64

end ContractFixtures
