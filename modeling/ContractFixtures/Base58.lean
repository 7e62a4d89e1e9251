import ContractFixtures.Radix
import ContractFixtures.Text.Utf8

/-!
# Base 58

Bytes are read as one big-endian number and written with 58 letters and digits. Leading zero
bytes carry no value; each is written as one leading `1`.
-/

namespace ContractFixtures.Base58

/-- The digits in ascending order. The easily confused `0`, `O`, `I` and `l` are left out. -/
def alphabet : List Char :=
  "123456789ABCDEFGHJKLMNPQRSTUVWXYZabcdefghijkmnopqrstuvwxyz".toList

/-- A character outside the alphabet and the byte at which it starts. -/
structure InvalidChar where
  char : Char
  index : Nat
deriving DecidableEq, Repr

/-- The character of a digit. -/
def symbol (digit : Nat) : Char :=
  alphabet.getD digit '1'

/-- The digit of a character. -/
def digit? (c : Char) : Option Nat :=
  alphabet.idxOf? c

/-- Writes bytes. -/
def encode (bytes : List UInt8) : String :=
  let numbers := bytes.map UInt8.toNat
  let zeros := numbers.takeWhile (· == 0)
  let rest := numbers.dropWhile (· == 0)
  String.ofList (zeros.map symbol ++ (Radix.convert 58 256 rest).reverse.map symbol)

/-- The digits of the characters, of which the first starts at byte `index`. -/
def digitsFrom (index : Nat) : List Char → Except InvalidChar (List Nat)
  | [] => .ok []
  | c :: cs =>
    match digit? c with
    | none => .error ⟨c, index⟩
    | some d => (d :: ·) <$> digitsFrom (index + c.utf8Size) cs

/-- The bytes that a list of digits stands for. -/
def bytesOfDigits (ds : List Nat) : List UInt8 :=
  let zeros := ds.takeWhile (· == 0)
  let rest := ds.dropWhile (· == 0)
  (zeros ++ (Radix.convert 256 58 rest).reverse).map UInt8.ofNat

/-- Reads bytes, or finds the first character outside the alphabet. -/
def decode (text : String) : Except InvalidChar (List UInt8) :=
  bytesOfDigits <$> digitsFrom 0 text.toList

end ContractFixtures.Base58
