import ContractFixtures.Text.Utf8

/-!
# Ranges of bytes

The UTF-8 forms of a range of characters, as sequences of ranges of bytes: a form has its first
byte in the first range of one of the sequences, its second byte in the second range, and so on.
For that the range is cut until the forms of each piece have the same length and every byte can be
chosen without regard to those before it.
-/

namespace ContractFixtures.Text

/-- Where an incomplete block of `unit` code points, a power of 64, ends or starts in a range of
several blocks: the last code point of the first piece. -/
def cutAtUnit? (unit first last : Nat) : Option Nat :=
  if first / unit = last / unit then none
  else if first % unit ≠ 0 then some (first - first % unit + unit - 1)
  else if last % unit ≠ unit - 1 then some (last - last % unit - 1)
  else none

/-- Where a range has to be cut: the last code point of the first piece. -/
def cut? (first last : Nat) : Option Nat :=
  let lengthEnd? := [0x7f, 0x7ff, 0xffff].find? fun n => first ≤ n && n < last
  lengthEnd?.orElse fun _ =>
    if last ≤ 0x7f then none
    else [64, 4096, 262144].findSome? fun unit => cutAtUnit? unit first last

/-- The pieces of a range without surrogates. -/
def cutAll (first last : Nat) : List (Nat × Nat) :=
  match cut? first last with
  | none => [(first, last)]
  | some n =>
    if _h : first ≤ n ∧ n < last then cutAll first n ++ cutAll (n + 1) last else [(first, last)]
termination_by last - first

/-- The sequence of byte ranges of one piece. -/
def byteRanges (first last : Nat) : List (UInt8 × UInt8) :=
  (bytesOf [Char.ofNat first]).zip (bytesOf [Char.ofNat last])

/-- The sequences of byte ranges of a range of characters, in ascending order. -/
def byteSequences (first last : Nat) : List (List (UInt8 × UInt8)) :=
  let pieces :=
    if first ≤ 0xd7ff ∧ 0xe000 ≤ last then cutAll first 0xd7ff ++ cutAll 0xe000 last
    else cutAll first last
  pieces.map fun (a, b) => byteRanges a b

end ContractFixtures.Text
