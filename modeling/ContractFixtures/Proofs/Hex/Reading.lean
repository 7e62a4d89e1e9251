import ContractFixtures.Proofs.Hex.RoundTrip
import ContractFixtures.Proofs.Traversal

/-!
# Texts in base 16

A text is read as bytes exactly if it consists of pairs of digits, of either case. The reader goes
through the UTF-8 form of the text; a byte in it that is read as a digit is a whole character.

* `Pairs`: pairs of digits and the bytes that they denote.

Results:
1. `isDigit_of_digit?`: no other character has a byte that is read as a digit.
2. `decode_eq_ok_iff`: which texts are read, and as which bytes.
-/

namespace ContractFixtures.Hex

/-! ## Digits -/

/-- The digits in lower case, each at the position of its value. -/
def lowerDigits : List Char := "0123456789abcdef".toList

/-- The digits in upper case, each at the position of its value. -/
def upperDigits : List Char := "0123456789ABCDEF".toList

/-- A digit of either case and its value. -/
def IsDigit (c : Char) (n : Nat) : Prop :=
  ∃ digits ∈ [lowerDigits, upperDigits], digits[n]? = some c

/-- Pairs of digits and the bytes that they denote. -/
inductive Pairs : List Char → List UInt8 → Prop
  | nil : Pairs [] []
  | cons {high low : Char} {h l : Nat} {rest : List Char} {bytes : List UInt8} :
      IsDigit high h → IsDigit low l → Pairs rest bytes →
      Pairs (high :: low :: rest) (UInt8.ofNat (16 * h + l) :: bytes)

/-- The digits that are written are those in lower case. -/
theorem getElem?_lowerDigits {n : Nat} {c : Char} :
    lowerDigits[n]? = some c ↔ n < 16 ∧ c = digitChar n := by
  have hall : ∀ m < 16, lowerDigits[m]? = some (digitChar m) := by decide
  constructor
  · intro h
    have hn : n < lowerDigits.length := (List.getElem?_eq_some_iff.mp h).1
    exact ⟨hn, Option.some.inj (h.symm.trans (hall n hn))⟩
  · rintro ⟨hn, rfl⟩
    exact hall n hn

/-- A digit is one byte of UTF-8, which is read as its value. -/
theorem digit?_of_isDigit {c : Char} {n : Nat} (h : IsDigit c n) :
    String.utf8EncodeChar c = [UInt8.ofNat c.toNat] ∧ digit? (UInt8.ofNat c.toNat) = some n := by
  have hall : ∀ digits ∈ [lowerDigits, upperDigits], ∀ (n : Nat) (h : n < digits.length),
      String.utf8EncodeChar digits[n] = [UInt8.ofNat digits[n].toNat] ∧
        digit? (UInt8.ofNat digits[n].toNat) = some n := by
    decide
  obtain ⟨digits, hdigits, hc⟩ := h
  obtain ⟨hn, rfl⟩ := List.getElem?_eq_some_iff.mp hc
  exact hall digits hdigits n hn

theorem lt_of_digit? {b : UInt8} {n : Nat} (h : digit? b = some n) : b.toNat < 128 := by
  simp only [digit?, Char.reduceToNat] at h
  split at h
  · omega
  split at h
  · omega
  split at h
  · omega
  · cases h

/-- Only an ASCII character has a UTF-8 form that starts with an ASCII byte. -/
theorem utf8EncodeChar_of_lt {c : Char} {b : UInt8} {bs : List UInt8}
    (hc : String.utf8EncodeChar c = b :: bs) (hb : b.toNat < 128) :
    c.toNat < 128 ∧ b = UInt8.ofNat c.toNat ∧ bs = [] := by
  unfold String.utf8EncodeChar at hc
  simp only [Char.toNat_val] at hc
  split at hc
  · next hle =>
    obtain ⟨rfl, rfl⟩ := List.cons.inj hc
    exact ⟨by omega, rfl, rfl⟩
  -- The first byte of a longer form has its highest bit set.
  split at hc
  · obtain ⟨rfl, -⟩ := List.cons.inj hc
    simp only [UInt8.toNat_ofNat'] at hb
    omega
  split at hc
  · obtain ⟨rfl, -⟩ := List.cons.inj hc
    simp only [UInt8.toNat_ofNat'] at hb
    omega
  · obtain ⟨rfl, -⟩ := List.cons.inj hc
    simp only [UInt8.toNat_ofNat'] at hb
    omega

/-- A byte that is read as a digit is the code of that digit. -/
theorem isDigit_ofNat {b : UInt8} {n : Nat} (h : digit? b = some n) :
    IsDigit (Char.ofNat b.toNat) n := by
  have hall : ∀ m < 128, ∀ n ∈ digit? (UInt8.ofNat m), IsDigit (Char.ofNat m) n := by
    unfold IsDigit
    decide
  have hdigit := hall b.toNat (lt_of_digit? h) n
  rw [UInt8.ofNat_toNat] at hdigit
  exact hdigit h

/-- No character but a digit has a UTF-8 form that starts with a byte that is read as a digit. -/
theorem isDigit_of_digit? {c : Char} {b : UInt8} {bs : List UInt8} {n : Nat}
    (hc : String.utf8EncodeChar c = b :: bs) (h : digit? b = some n) : bs = [] ∧ IsDigit c n := by
  obtain ⟨hlt, rfl, rfl⟩ := utf8EncodeChar_of_lt hc (lt_of_digit? h)
  have hdigit := isDigit_ofNat h
  rw [UInt8.toNat_ofNat_of_lt' (Nat.lt_trans hlt (by decide)), Char.ofNat_toNat] at hdigit
  exact ⟨rfl, hdigit⟩

/-! ## Pairs -/

theorem readDigit_eq_ok_iff {b : UInt8} {position n : Nat} :
    readDigit b position = .ok n ↔ digit? b = some n := by
  unfold readDigit
  cases digit? b <;> simp

theorem readPairs_cons_cons_eq_ok_iff {high low : UInt8} {position : Nat}
    {rest bytes : List UInt8} :
    readPairs position (high :: low :: rest) = .ok bytes ↔
      ∃ h l more, digit? high = some h ∧ digit? low = some l ∧
        readPairs (position + 2) rest = .ok more ∧ bytes = UInt8.ofNat (16 * h + l) :: more := by
  simp only [readPairs, bind_eq_ok_iff, readDigit_eq_ok_iff, pure, Except.pure, Except.ok.injEq]
  grind

/-- Pairs of digits are read as the bytes that they denote, wherever they start. -/
theorem Pairs.readPairs {cs : List Char} {bytes : List UInt8} (h : Pairs cs bytes)
    (position : Nat) :
    (Text.bytesOf cs).length % 2 = 0 ∧
      Hex.readPairs position (Text.bytesOf cs) = .ok bytes := by
  induction h generalizing position with
  | nil => exact ⟨rfl, rfl⟩
  | @cons high low _ _ rest _ hhigh hlow _ ih =>
    obtain ⟨hlength, hread⟩ := ih (position + 2)
    obtain ⟨hhighBytes, hhighDigit⟩ := digit?_of_isDigit hhigh
    obtain ⟨hlowBytes, hlowDigit⟩ := digit?_of_isDigit hlow
    have hbytes : Text.bytesOf (high :: low :: rest)
        = UInt8.ofNat high.toNat :: UInt8.ofNat low.toNat :: Text.bytesOf rest := by
      simp only [Text.bytesOf, List.flatMap_cons, hhighBytes, hlowBytes, List.singleton_append]
    rw [hbytes]
    refine ⟨?_, readPairs_cons_cons_eq_ok_iff.mpr ⟨_, _, _, hhighDigit, hlowDigit, hread, rfl⟩⟩
    simp only [List.length_cons]
    omega

/-- A text whose first byte is read as a digit starts with that digit. -/
theorem exists_isDigit_of_bytesOf {cs : List Char} {b : UInt8} {more : List UInt8} {n : Nat}
    (h : Text.bytesOf cs = b :: more) (hb : digit? b = some n) :
    ∃ c rest, cs = c :: rest ∧ IsDigit c n ∧ Text.bytesOf rest = more := by
  cases cs with
  | nil => cases h
  | cons c rest =>
    obtain ⟨first, bs, hc⟩ := List.exists_cons_of_ne_nil (String.utf8EncodeChar_ne_nil (c := c))
    rw [Text.bytesOf, List.flatMap_cons, hc] at h
    obtain ⟨rfl, hmore⟩ := List.cons.inj h
    obtain ⟨rfl, hdigit⟩ := isDigit_of_digit? hc hb
    exact ⟨c, rest, rfl, hdigit, hmore⟩

/-- What is read as bytes are pairs of digits that denote them. -/
theorem pairs_of_readPairs {cs : List Char} {bytes : List UInt8} {position : Nat}
    (heven : (Text.bytesOf cs).length % 2 = 0)
    (h : readPairs position (Text.bytesOf cs) = .ok bytes) : Pairs cs bytes := by
  generalize hread : Text.bytesOf cs = read at heven h
  fun_induction readPairs position read generalizing cs bytes with
  | case1 position high low rest ih =>
    have hcons : readPairs position (high :: low :: rest) = .ok bytes := by
      simpa only [readPairs] using h
    obtain ⟨n, m, more, hhigh, hlow, hmore, rfl⟩ := readPairs_cons_cons_eq_ok_iff.mp hcons
    obtain ⟨c, behind, rfl, hc, hbehind⟩ := exists_isDigit_of_bytesOf hread hhigh
    obtain ⟨d, others, rfl, hd, hothers⟩ := exists_isDigit_of_bytesOf hbehind hlow
    refine .cons hc hd (ih hothers ?_ hmore)
    simp only [List.length_cons] at heven
    omega
  | case2 read position hshort =>
    cases h
    rcases read with _ | ⟨b, _ | ⟨b', more⟩⟩
    · cases cs with
      | nil => exact .nil
      | cons c rest =>
        rw [Text.bytesOf, List.flatMap_cons, List.append_eq_nil_iff] at hread
        exact absurd hread.1 String.utf8EncodeChar_ne_nil
    · simp at heven
    · exact absurd rfl (hshort b b' more)

/-- A text is read as bytes exactly if it consists of pairs of digits that denote them. -/
theorem decode_eq_ok_iff {text : String} {bytes : List UInt8} :
    decode text = .ok bytes ↔ Pairs text.toList bytes := by
  simp only [decode]
  constructor
  · intro h
    split at h
    · cases h
    · next heven => exact pairs_of_readPairs (by omega) h
  · intro h
    obtain ⟨heven, hread⟩ := h.readPairs 0
    rw [if_neg (by omega), hread]

end ContractFixtures.Hex
