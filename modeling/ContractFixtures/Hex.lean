import ContractFixtures.Text.Quoted
import ContractFixtures.Text.Utf8

/-!
# Bytes in base 16

Two digits a byte, most significant first. Digits of either case are read, lower case is written.
-/

namespace ContractFixtures.Hex

/-- Why a text is no list of bytes. -/
inductive Fault where
  /-- The text has an odd number of bytes. -/
  | oddLength
  /-- The byte at `position`, shown as the character of that code point, is no digit. -/
  | invalidCharacter (c : Char) (position : Nat)
deriving DecidableEq, Repr

/-- The wording of a fault. -/
def Fault.message : Fault → String
  | .oddLength => "Odd number of digits"
  | .invalidCharacter c position =>
    "Invalid character " ++ Text.quoteChar c ++ " at position " ++ toString position

/-- The digit below 16 as a lower-case character. -/
def digitChar (n : Nat) : Char :=
  if n < 10 then Char.ofNat ('0'.toNat + n) else Char.ofNat ('a'.toNat + (n - 10))

/-- The two digits of a byte. -/
def encodeByte (b : UInt8) : List Char :=
  [digitChar (b.toNat / 16), digitChar (b.toNat % 16)]

/-- Writes bytes in lower case. -/
def encode (bytes : List UInt8) : String :=
  String.ofList (bytes.flatMap encodeByte)

/-- The value of an ASCII digit of either case. -/
def digit? (b : UInt8) : Option Nat :=
  let n := b.toNat
  if '0'.toNat ≤ n ∧ n ≤ '9'.toNat then some (n - '0'.toNat)
  else if 'a'.toNat ≤ n ∧ n ≤ 'f'.toNat then some (n - 'a'.toNat + 10)
  else if 'A'.toNat ≤ n ∧ n ≤ 'F'.toNat then some (n - 'A'.toNat + 10)
  else none

/-- Reads one digit, or says where it is missing. -/
def readDigit (b : UInt8) (position : Nat) : Except Fault Nat :=
  match digit? b with
  | some d => .ok d
  | none => .error (.invalidCharacter (Char.ofNat b.toNat) position)

/-- Reads pairs of digits from `position` on. A digit without a partner ends the reading. -/
def readPairs (position : Nat) : List UInt8 → Except Fault (List UInt8)
  | high :: low :: rest => do
    let h ← readDigit high position
    let l ← readDigit low (position + 1)
    let bytes ← readPairs (position + 2) rest
    return UInt8.ofNat (16 * h + l) :: bytes
  | _ => .ok []

/-- Reads the bytes that a text of digits denotes. -/
def decode (text : String) : Except Fault (List UInt8) :=
  let bytes := Text.bytesOf text.toList
  if bytes.length % 2 = 1 then .error .oddLength else readPairs 0 bytes

end ContractFixtures.Hex
