import ContractFixtures.Hex

/-!
# Base 16 loses nothing

A byte is written as two ASCII digits, which are read as the byte again.

Results:
1. `isAlphanum_of_mem_encode`: what is written are ASCII letters and digits.
2. `decode_encode`: what is written for bytes is read as these bytes.
-/

namespace ContractFixtures.Hex

/-! ## Digits -/

theorem isAlphanum_digitChar : ∀ n < 16, (digitChar n).isAlphanum = true := by decide

/-- A digit is one byte of UTF-8. -/
theorem utf8EncodeChar_digitChar :
    ∀ n < 16, String.utf8EncodeChar (digitChar n) = [UInt8.ofNat (digitChar n).toNat] := by
  decide

theorem digit?_digitChar : ∀ n < 16, digit? (UInt8.ofNat (digitChar n).toNat) = some n := by
  decide

theorem readDigit_digitChar {n : Nat} (h : n < 16) (position : Nat) :
    readDigit (UInt8.ofNat (digitChar n).toNat) position = .ok n := by
  rw [readDigit, digit?_digitChar n h]

theorem high_lt (b : UInt8) : b.toNat / 16 < 16 := by
  have := b.toNat_lt
  omega

theorem low_lt (b : UInt8) : b.toNat % 16 < 16 :=
  Nat.mod_lt _ (by decide)

/-! ## Bytes -/

theorem isAlphanum_of_mem_encode {bytes : List UInt8} {c : Char}
    (h : c ∈ (encode bytes).toList) : c.isAlphanum = true := by
  rw [encode, String.toList_ofList, List.mem_flatMap] at h
  obtain ⟨b, _, hc⟩ := h
  rw [encodeByte, List.mem_cons, List.mem_singleton] at hc
  rcases hc with rfl | rfl
  · exact isAlphanum_digitChar _ (high_lt b)
  · exact isAlphanum_digitChar _ (low_lt b)

/-- The UTF-8 form of the two digits of a byte. -/
def digitBytes (b : UInt8) : List UInt8 :=
  [UInt8.ofNat (digitChar (b.toNat / 16)).toNat, UInt8.ofNat (digitChar (b.toNat % 16)).toNat]

theorem bytesOf_encode (bytes : List UInt8) :
    Text.bytesOf (encode bytes).toList = bytes.flatMap digitBytes := by
  rw [encode, String.toList_ofList, Text.bytesOf, List.flatMap_assoc]
  refine congrArg (fun f => bytes.flatMap f) (funext fun b => ?_)
  rw [encodeByte, List.flatMap_cons, List.flatMap_cons, List.flatMap_nil,
    utf8EncodeChar_digitChar _ (high_lt b), utf8EncodeChar_digitChar _ (low_lt b)]
  rfl

theorem length_flatMap_digitBytes (bytes : List UInt8) :
    (bytes.flatMap digitBytes).length = 2 * bytes.length := by
  induction bytes with
  | nil => rfl
  | cons b bytes ih =>
    rw [List.flatMap_cons, List.length_append, ih, List.length_cons, digitBytes]
    simp only [List.length_cons, List.length_nil]
    omega

/-- Pairs of digits are read as the bytes that they were written for, wherever they start. -/
theorem readPairs_flatMap_digitBytes (position : Nat) (bytes : List UInt8) :
    readPairs position (bytes.flatMap digitBytes) = .ok bytes := by
  induction bytes generalizing position with
  | nil => rfl
  | cons b bytes ih =>
    have hb : UInt8.ofNat (16 * (b.toNat / 16) + b.toNat % 16) = b := by
      rw [Nat.div_add_mod, UInt8.ofNat_toNat]
    simp only [List.flatMap_cons, digitBytes, List.cons_append, List.nil_append, readPairs,
      readDigit_digitChar (high_lt b), readDigit_digitChar (low_lt b), ih, bind, Except.bind]
    rw [hb]
    rfl

/-- What is written for bytes is read as these bytes. -/
theorem decode_encode (bytes : List UInt8) : decode (encode bytes) = .ok bytes := by
  have hodd : ¬ (bytes.flatMap digitBytes).length % 2 = 1 := by
    rw [length_flatMap_digitBytes]
    omega
  simp only [decode, bytesOf_encode]
  rw [if_neg hodd]
  exact readPairs_flatMap_digitBytes 0 bytes

end ContractFixtures.Hex
