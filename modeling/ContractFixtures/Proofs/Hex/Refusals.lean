import ContractFixtures.Proofs.Hex.Reading
import Mathlib.Data.List.Induction

/-!
# Texts that are not in base 16

A text is refused if its UTF-8 form has an odd number of bytes, and otherwise for the first byte in
it that is no digit. All other texts are read, and the lower-case form of what is read is what is
written for the bytes.

* `IsDigitByte`: the byte of a digit of either case.
* `Refused`: why characters are no pairs of digits.

Results:
1. `pairs_iff`: pairs of digits are the texts that have a written form in lower case.
2. `readPairs_append_cons`: reading stops at the first byte that is no digit.
3. `decode_eq_error_iff`: which texts are refused, and for what.
-/

namespace ContractFixtures.Hex

/-- The byte of a digit of either case. -/
def IsDigitByte (b : UInt8) : Prop :=
  ∃ c n, IsDigit c n ∧ b.toNat = c.toNat

/-- Why characters are no pairs of digits. -/
inductive Refused (cs : List Char) : Fault → Prop
  | oddLength : Text.byteLength cs % 2 = 1 → Refused cs .oddLength
  | invalidCharacter {before behind : List UInt8} {b : UInt8} :
      Text.byteLength cs % 2 = 0 → Text.bytesOf cs = before ++ b :: behind →
      (∀ x ∈ before, IsDigitByte x) → ¬ IsDigitByte b →
      Refused cs (.invalidCharacter (Char.ofNat b.toNat) before.length)

/-! ## Lower case -/

/-- A digit in lower case is the one that is written for its value. -/
theorem IsDigit.toLower {c : Char} {n : Nat} (h : IsDigit c n) :
    n < 16 ∧ c.toLower = digitChar n := by
  have hall : ∀ digits ∈ [lowerDigits, upperDigits], ∀ (n : Nat) (h : n < digits.length),
      n < 16 ∧ digits[n].toLower = digitChar n := by
    decide
  obtain ⟨digits, hdigits, hc⟩ := h
  obtain ⟨hn, rfl⟩ := List.getElem?_eq_some_iff.mp hc
  exact hall digits hdigits n hn

theorem digitChar_injective {n m : Nat} (hn : n < 16) (hm : m < 16)
    (h : digitChar n = digitChar m) : n = m := by
  have hall : ∀ n < 16, ∀ m < 16, digitChar n = digitChar m → n = m := by decide
  exact hall n hn m hm h

theorem toList_encode_cons (b : UInt8) (bytes : List UInt8) :
    (encode (b :: bytes)).toList =
      digitChar (b.toNat / 16) :: digitChar (b.toNat % 16) :: (encode bytes).toList := by
  simp [encode, encodeByte]

theorem length_toList_encode (bytes : List UInt8) :
    (encode bytes).toList.length = 2 * bytes.length := by
  induction bytes with
  | nil => rfl
  | cons b bytes ih =>
    rw [toList_encode_cons, List.length_cons, List.length_cons, ih, List.length_cons]
    omega

theorem toNat_ofNat_pair {h l : Nat} (hh : h < 16) (hl : l < 16) :
    (UInt8.ofNat (16 * h + l)).toNat = 16 * h + l := by
  rw [UInt8.toNat_ofNat']
  omega

/-- Pairs of digits are what is written for the bytes that they denote, but for the case. -/
theorem pairs_iff {cs : List Char} {bytes : List UInt8} :
    Pairs cs bytes ↔
      (∀ c ∈ cs, ∃ n, IsDigit c n) ∧ cs.map Char.toLower = (encode bytes).toList := by
  constructor
  · intro hpairs
    induction hpairs with
    | nil => exact ⟨fun _ h => absurd h List.not_mem_nil, rfl⟩
    | @cons high low h l rest bytes hhigh hlow _ ih =>
      obtain ⟨hh, hhighLower⟩ := hhigh.toLower
      obtain ⟨hl, hlowLower⟩ := hlow.toLower
      have hdiv : (16 * h + l) / 16 = h := by omega
      have hmod : (16 * h + l) % 16 = l := by omega
      simp only [List.forall_mem_cons, List.map_cons]
      refine ⟨⟨⟨h, hhigh⟩, ⟨l, hlow⟩, ih.1⟩, ?_⟩
      rw [toList_encode_cons, toNat_ofNat_pair hh hl, hdiv, hmod, hhighLower, hlowLower, ih.2]
  · rintro ⟨hdigits, hlower⟩
    induction bytes generalizing cs with
    | nil =>
      obtain rfl := List.map_eq_nil_iff.mp hlower
      exact .nil
    | cons b bytes ih =>
      rw [toList_encode_cons] at hlower
      obtain ⟨high, cs, rfl, hhighLower, hlower⟩ := List.map_eq_cons_iff.mp hlower
      obtain ⟨low, rest, rfl, hlowLower, hlower⟩ := List.map_eq_cons_iff.mp hlower
      simp only [List.forall_mem_cons] at hdigits
      obtain ⟨⟨h, hhigh⟩, ⟨l, hlow⟩, hrest⟩ := hdigits
      have hh : h = b.toNat / 16 :=
        digitChar_injective hhigh.toLower.1 (high_lt b) (hhigh.toLower.2.symm.trans hhighLower)
      have hl : l = b.toNat % 16 :=
        digitChar_injective hlow.toLower.1 (low_lt b) (hlow.toLower.2.symm.trans hlowLower)
      have hb : UInt8.ofNat (16 * h + l) = b := by
        rw [hh, hl, Nat.div_add_mod, UInt8.ofNat_toNat]
      exact hb ▸ .cons hhigh hlow (ih hrest hlower)

/-! ## First faults -/

theorem isDigitByte_iff {b : UInt8} : IsDigitByte b ↔ ∃ n, digit? b = some n := by
  constructor
  · rintro ⟨c, n, hc, hb⟩
    obtain ⟨-, hdigit⟩ := digit?_of_isDigit hc
    rw [← hb, UInt8.ofNat_toNat] at hdigit
    exact ⟨n, hdigit⟩
  · rintro ⟨n, h⟩
    have hcode : ∀ m < 128, m = (Char.ofNat m).toNat := by decide
    exact ⟨_, n, isDigit_ofNat h, hcode _ (lt_of_digit? h)⟩

theorem exists_readDigit {b : UInt8} (h : IsDigitByte b) (position : Nat) :
    ∃ n, readDigit b position = .ok n := by
  obtain ⟨n, hn⟩ := isDigitByte_iff.mp h
  exact ⟨n, readDigit_eq_ok_iff.mpr hn⟩

theorem readDigit_of_not_isDigitByte {b : UInt8} (h : ¬ IsDigitByte b) (position : Nat) :
    readDigit b position = .error (.invalidCharacter (Char.ofNat b.toNat) position) := by
  cases hb : digit? b with
  | none => rw [readDigit, hb]
  | some n => exact absurd (isDigitByte_iff.mpr ⟨n, hb⟩) h

/-- A byte that is no digit is met behind digits. Its partner, if it needs one, is there. -/
theorem readPairs_append_cons {before behind : List UInt8} {b : UInt8}
    (hbefore : ∀ x ∈ before, IsDigitByte x) (hb : ¬ IsDigitByte b)
    (heven : (before ++ b :: behind).length % 2 = 0) (position : Nat) :
    readPairs position (before ++ b :: behind) =
      .error (.invalidCharacter (Char.ofNat b.toNat) (position + before.length)) := by
  induction before using List.twoStepInduction generalizing position with
  | nil =>
    cases behind with
    | nil => cases heven
    | cons low rest =>
      rw [List.nil_append, readPairs, readDigit_of_not_isDigitByte hb]
      rfl
  | singleton x =>
    obtain ⟨n, hn⟩ := exists_readDigit (hbefore x List.mem_cons_self) position
    rw [List.singleton_append, readPairs, hn, readDigit_of_not_isDigitByte hb]
    rfl
  | cons_cons x y before ih _ =>
    simp only [List.forall_mem_cons] at hbefore
    obtain ⟨hx, hy, hbefore⟩ := hbefore
    obtain ⟨h, hh⟩ := exists_readDigit hx position
    obtain ⟨l, hl⟩ := exists_readDigit hy (position + 1)
    have hmore := ih hbefore (by simp only [List.cons_append, List.length_cons] at heven; omega)
      (position + 2)
    have hposition : position + 2 + before.length = position + (x :: y :: before).length := by
      simp only [List.length_cons]
      omega
    rw [List.cons_append, List.cons_append, readPairs, hh, hl, hmore, hposition]
    rfl

/-- Bytes of digits are read. -/
theorem exists_readPairs {bytes : List UInt8} (h : ∀ b ∈ bytes, IsDigitByte b) (position : Nat) :
    ∃ read, readPairs position bytes = .ok read := by
  induction bytes using List.twoStepInduction generalizing position with
  | nil => exact ⟨[], rfl⟩
  | singleton b => exact ⟨[], rfl⟩
  | cons_cons high low rest ih _ =>
    simp only [List.forall_mem_cons, isDigitByte_iff] at h
    obtain ⟨⟨n, hn⟩, ⟨m, hm⟩, hrest⟩ := h
    obtain ⟨read, hread⟩ := ih (fun b hb => isDigitByte_iff.mpr (hrest b hb)) (position + 2)
    exact ⟨_, readPairs_cons_cons_eq_ok_iff.mpr ⟨n, m, read, hn, hm, hread, rfl⟩⟩

/-- A text is refused for its length, or else for the first byte in it that is no digit. -/
theorem decode_eq_error_iff {text : String} {fault : Fault} :
    decode text = .error fault ↔ Refused text.toList fault := by
  simp only [decode, Text.length_bytesOf]
  constructor
  · intro h
    split at h
    · next hodd =>
      obtain rfl := Except.error.inj h
      exact .oddLength hodd
    next hodd =>
    have heven : Text.byteLength text.toList % 2 = 0 := by omega
    have hbad : ∃ b ∈ Text.bytesOf text.toList, ¬ IsDigitByte b := by
      by_contra hall
      have hdigits : ∀ b ∈ Text.bytesOf text.toList, IsDigitByte b := fun b hb =>
        by_contra fun hnot => hall ⟨b, hb, hnot⟩
      obtain ⟨read, hread⟩ := exists_readPairs hdigits 0
      cases h.symm.trans hread
    obtain ⟨before, b, behind, hbytes, hbefore, hb⟩ := exists_first hbad
    have hbefore : ∀ x ∈ before, IsDigitByte x := fun x hx => not_not.mp (hbefore x hx)
    rw [← Text.length_bytesOf, hbytes] at heven
    rw [hbytes, readPairs_append_cons hbefore hb heven] at h
    obtain rfl := Except.error.inj h
    rw [Nat.zero_add]
    exact .invalidCharacter (by rw [← Text.length_bytesOf, hbytes, heven]) hbytes hbefore hb
  · intro h
    cases h with
    | oddLength hodd => exact if_pos hodd
    | invalidCharacter heven hbytes hbefore hb =>
      rw [if_neg (by omega), hbytes]
      rw [← Text.length_bytesOf, hbytes] at heven
      rw [readPairs_append_cons hbefore hb heven, Nat.zero_add]

end ContractFixtures.Hex
