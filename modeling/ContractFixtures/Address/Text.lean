import ContractFixtures.Address.Basic
import ContractFixtures.Base58
import ContractFixtures.Hex
import ContractFixtures.Sha256

/-!
# Texts of addresses

The checked text of an address is the base-58 form of a version byte, its 20 bytes and the first
four bytes of the double hash of both. Its plain text is the base-16 form of the bytes in
reverse order.
-/

namespace ContractFixtures.Address

/-- Why a text or a list of bytes is no address. -/
inductive Fault where
  | emptyText
  | invalidChar (c : Char) (index : Nat)
  | invalidLength (length : Nat)
  | invalidVersion (version : UInt8)
  | checksumMismatch
  | invalidHex (fault : Hex.Fault)
deriving DecidableEq, Repr

/-- The wording of a fault. -/
def Fault.message : Fault → String
  | .emptyText => "empty address"
  | .invalidChar c index =>
    "invalid base58 character " ++ Text.quoteChar c ++ " at index " ++ toString index
  | .invalidLength length => "invalid address length " ++ toString length
  | .invalidVersion version => "invalid address version 0x" ++ Hex.encode [version]
  | .checksumMismatch => "address checksum mismatch"
  | .invalidHex fault => "invalid hex address: " ++ fault.message

/-- Exactly 20 bytes are an address. -/
def ofBytes (bytes : List UInt8) : Except Fault Address :=
  if h : bytes.length = 20 then .ok ⟨bytes, h⟩ else .error (.invalidLength bytes.length)

/-- The byte in front of every address. It makes every checked text start with `A`. -/
def version : UInt8 := 0x17

/-- The first four bytes of the double hash. -/
def checksum (payload : List UInt8) : List UInt8 :=
  (Sha256.digest (Sha256.digest payload)).take 4

/-- The version byte and the bytes of the address. -/
def payload (a : Address) : List UInt8 :=
  version :: a.bytes

/-- The checked text of an address. -/
def toBase58 (a : Address) : String :=
  Base58.encode (a.payload ++ checksum a.payload)

/-- Checks a decoded payload and its checksum, the version first. -/
def ofChecked (bytes : List UInt8) : Except Fault Address :=
  if bytes.length ≠ 25 then .error (.invalidLength bytes.length)
  else
    let payload := bytes.take 21
    if payload.headD 0 ≠ version then .error (.invalidVersion (payload.headD 0))
    else if checksum payload ≠ bytes.drop 21 then .error .checksumMismatch
    else ofBytes (payload.drop 1)

/-- Reads the checked text of an address. -/
def ofBase58 (text : String) : Except Fault Address :=
  if text = "" then .error .emptyText
  else
    match Base58.decode text with
    | .error ⟨c, index⟩ => .error (.invalidChar c index)
    | .ok bytes => ofChecked bytes

/-- Reads an address where a text may stand for one: its checked text, and no other, does. -/
def parse (text : String) : Except Fault Address :=
  ofBase58 text

/-- The bytes in reverse order, in base 16. -/
def toHex (a : Address) : String :=
  Hex.encode a.bytes.reverse

/-- The characters behind a leading `0x`, or all of them. -/
def withoutHexMark : List Char → List Char
  | '0' :: 'x' :: rest => rest
  | cs => cs

/-- Reads the bytes in reverse order in base 16, with or without a leading `0x`. -/
def ofHex (text : String) : Except Fault Address :=
  match Hex.decode (String.ofList (withoutHexMark text.toList)) with
  | .error fault => .error (.invalidHex fault)
  | .ok bytes => ofBytes bytes.reverse

instance : ToString Address := ⟨toBase58⟩

end ContractFixtures.Address
