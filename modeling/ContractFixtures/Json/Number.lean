import ContractFixtures.Json.Binary64

/-!
# Numbers in documents

A number is an integer that fits in 64 bits, or a floating-point number with a sign of its own.
-/

namespace ContractFixtures

/-- A number of a document. -/
inductive Number where
  | integer (value : Int)
  | float (negative : Bool) (magnitude : Binary64)
deriving DecidableEq, Repr

namespace Number

/-- Lays out digits whose last one stands for `10 ^ scale`: positional with a decimal point from
`10 ^ -5` up to `10 ^ 16`, else with one digit before the point and an exponent with its sign. -/
def layout (digits : Nat) (scale : Int) : List Char :=
  let ds := Nat.toDigits 10 digits
  let point := scale + ds.length
  if 0 ≤ scale ∧ point ≤ 16 then ds ++ List.replicate scale.toNat '0' ++ ['.', '0']
  else if 0 < point ∧ point ≤ 16 then ds.take point.toNat ++ '.' :: ds.drop point.toNat
  else if -5 < point ∧ point ≤ 0 then '0' :: '.' :: List.replicate (-point).toNat '0' ++ ds
  else
    let sign := if point < 1 then '-' else '+'
    let exponent := 'e' :: sign :: Nat.toDigits 10 (point - 1).natAbs
    match ds with
    | [d] => d :: exponent
    | d :: more => d :: '.' :: more ++ exponent
    | [] => exponent

/-- The text of a number: an integer by its digits, a floating-point number by the fewest digits
that read back, with a point or an exponent. -/
def text : Number → List Char
  | .integer value => (toString value).toList
  | .float negative x =>
    let sign := if negative then ['-'] else []
    if x.isZero then sign ++ ['0', '.', '0']
    else sign ++ layout x.shortest.1 x.shortest.2

end Number

end ContractFixtures
