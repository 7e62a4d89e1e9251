import ContractFixtures.Address.Text
import ContractFixtures.Proofs.Base58.Bijection

/-!
# The checked text of an address

Version, bytes and checksum are laid end to end before they are written, so an address has one
checked text, and only that text is read as the address. Nothing here depends on the hash.

Results:
1. `ofChecked_eq_ok_iff`: which bytes pass the check.
2. `ofBase58_eq_ok_iff`: which text is read as an address.
-/

namespace ContractFixtures.Address

@[simp] theorem length_payload (a : Address) : a.payload.length = 21 := by
  rw [payload, List.length_cons, a.length_bytes]

@[simp] theorem length_checksum (bytes : List UInt8) : (checksum bytes).length = 4 := by
  rw [checksum, List.length_take, Sha256.length_digest]
  rfl

theorem ofBytes_eq_ok_iff {bytes : List UInt8} {a : Address} :
    ofBytes bytes = .ok a ↔ bytes = a.bytes := by
  unfold ofBytes
  split
  · next h =>
    rw [Except.ok.injEq]
    constructor
    · rintro rfl
      rfl
    · intro he
      exact Address.ext he
  · next h =>
    constructor
    · intro he
      cases he
    · rintro rfl
      exact absurd a.length_bytes h

/-- The bytes that pass the check are a version, an address and the checksum of both. -/
theorem ofChecked_eq_ok_iff {bytes : List UInt8} {a : Address} :
    ofChecked bytes = .ok a ↔ bytes = a.payload ++ checksum a.payload := by
  constructor
  · intro h
    simp only [ofChecked] at h
    split at h
    · cases h
    split at h
    · cases h
    split at h
    · cases h
    next hlen hver hsum =>
    -- The three checks fix the length, the first byte and the last four; the bytes are the rest.
    have hver : (bytes.take 21).headD 0 = version := not_not.mp hver
    have hsum : checksum (bytes.take 21) = bytes.drop 21 := not_not.mp hsum
    have hpay : bytes.take 21 = a.payload := by
      cases bytes with
      | nil => exact absurd (by decide) hlen
      | cons b rest =>
        rw [payload, ← ofBytes_eq_ok_iff.mp h, ← hver]
        rfl
    rw [← hpay, hsum, List.take_append_drop]
  · rintro rfl
    have htake : (a.payload ++ checksum a.payload).take 21 = a.payload :=
      List.take_left' (length_payload a)
    have hdrop : (a.payload ++ checksum a.payload).drop 21 = checksum a.payload :=
      List.drop_left' (length_payload a)
    have hver : a.payload.headD 0 = version := rfl
    simp only [ofChecked, htake, hdrop, hver]
    rw [if_neg (by simp), if_neg (not_not.mpr rfl), if_neg (not_not.mpr rfl)]
    exact ofBytes_eq_ok_iff.mpr rfl

theorem toBase58_ne_empty (a : Address) : a.toBase58 ≠ "" := by
  intro h
  have hd := Base58.decode_encode (a.payload ++ checksum a.payload)
  rw [← toBase58, h] at hd
  have he : Base58.decode "" = .ok [] := by decide
  exact absurd (Except.ok.inj (he.symm.trans hd)) (by simp [payload])

/-- A text is read as an address exactly if it is the text written for the address. -/
theorem ofBase58_eq_ok_iff {text : String} {a : Address} :
    ofBase58 text = .ok a ↔ text = a.toBase58 := by
  constructor
  · intro h
    unfold ofBase58 at h
    split at h
    · cases h
    split at h
    · cases h
    · next bytes hd =>
      rw [toBase58, ← ofChecked_eq_ok_iff.mp h, Base58.encode_of_decode hd]
  · rintro rfl
    have hd : Base58.decode a.toBase58 = .ok (a.payload ++ checksum a.payload) :=
      Base58.decode_encode _
    rw [ofBase58, if_neg a.toBase58_ne_empty, hd]
    exact ofChecked_eq_ok_iff.mpr rfl

@[simp] theorem parse_toBase58 (a : Address) : parse a.toBase58 = .ok a :=
  ofBase58_eq_ok_iff.mpr rfl

/-- Addresses and their checked texts belong to each other one to one: a text is read as an address
exactly if it is the text of that address, and different addresses have different texts. -/
theorem toBase58_unique :
    (∀ text a, ofBase58 text = .ok a ↔ text = a.toBase58) ∧
      (∀ text a, parse text = .ok a ↔ text = a.toBase58) ∧ Function.Injective toBase58 := by
  refine ⟨fun _ _ => ofBase58_eq_ok_iff, fun _ _ => ofBase58_eq_ok_iff, fun a b h => ?_⟩
  have ha : ofBase58 a.toBase58 = .ok a := ofBase58_eq_ok_iff.mpr rfl
  have hb : ofBase58 a.toBase58 = .ok b := ofBase58_eq_ok_iff.mpr h
  exact Except.ok.inj (ha.symm.trans hb)

end ContractFixtures.Address
