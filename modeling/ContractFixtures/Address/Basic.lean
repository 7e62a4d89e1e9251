/-!
# Addresses

An account or a contract is known by 20 bytes. Addresses are ordered by their bytes, the first
byte first.
-/

namespace ContractFixtures

/-- The 20 bytes of an account or contract. -/
structure Address where
  bytes : List UInt8
  length_bytes : bytes.length = 20
deriving DecidableEq, Repr

namespace Address

/-- The address whose bytes are all zero stands for nobody. -/
def empty : Address :=
  ⟨List.replicate 20 0, rfl⟩

instance : Inhabited Address := ⟨empty⟩

/-- Whether this is the address that stands for nobody. -/
def isEmpty (a : Address) : Bool :=
  a == empty

instance : Ord Address where
  compare a b := compare a.bytes b.bytes

@[ext] theorem ext {a b : Address} (h : a.bytes = b.bytes) : a = b := by
  cases a
  cases b
  simpa using h

end Address

end ContractFixtures
