import ContractFixtures.Proofs.Address.CheckedText
import ContractFixtures.Proofs.Hex.Refusals

/-!
# The plain text of an address

The plain text of an address is its bytes in reverse order, in base 16. It is read in either case
and with or without one `0x` in front of it. A text that has another `0x` there, or a `0X`, is
refused like every other text that has a character that is no digit.

* `Unmarked`: what a text says without one `0x` in front of it.
* `NotPlain`: why characters are no plain text of an address.

Results:
1. `ofHex_eq_ok_iff`: which texts are read as an address.
2. `ofHex_eq_error_iff`: which texts are refused, and for what.
3. `ofHex_outcomes`: both together, and that what is written for an address is read as it.
-/

namespace ContractFixtures.Address

/-- What a text says without one `0x` in front of it, if there is one. -/
def Unmarked (text : String) (cs : List Char) : Prop :=
  text.toList = '0' :: 'x' :: cs ∨ text.toList = cs ∧ ∀ rest, cs ≠ '0' :: 'x' :: rest

/-- Why characters are no plain text of an address. The digits are looked at first. -/
inductive NotPlain (cs : List Char) : Fault → Prop
  | digits {fault : Hex.Fault} : Hex.Refused cs fault → NotPlain cs (.invalidHex fault)
  | length {bytes : List UInt8} :
      Hex.Pairs cs bytes → bytes.length ≠ 20 → NotPlain cs (.invalidLength bytes.length)

/-! ## Marks -/

theorem unmarked_iff {text : String} {cs : List Char} :
    Unmarked text cs ↔ withoutHexMark text.toList = cs := by
  unfold Unmarked
  generalize text.toList = marked
  constructor
  · rintro (rfl | ⟨rfl, hno⟩)
    · rfl
    · rw [withoutHexMark]
      exact hno
  · rintro rfl
    unfold withoutHexMark
    split
    · exact .inl rfl
    · next hno => exact .inr ⟨rfl, hno⟩

/-! ## Written texts -/

/-- Two digits a byte, most significant byte last. -/
theorem pairs_toHex (a : Address) : Hex.Pairs a.toHex.toList a.bytes.reverse :=
  Hex.decode_eq_ok_iff.mp (Hex.decode_encode a.bytes.reverse)

theorem length_toHex (a : Address) : a.toHex.toList.length = 40 := by
  rw [toHex, Hex.length_toList_encode, List.length_reverse, a.length_bytes]

theorem unmarked_toHex (a : Address) : Unmarked a.toHex a.toHex.toList := by
  refine .inr ⟨rfl, fun rest h => ?_⟩
  have hx : 'x' ∈ a.toHex.toList := h ▸ List.mem_cons_of_mem _ List.mem_cons_self
  obtain ⟨n, hn⟩ := (Hex.pairs_iff.mp a.pairs_toHex).1 'x' hx
  exact nomatch (Hex.digit?_of_isDigit hn).2

/-! ## Reading -/

theorem ofBytes_eq_error_iff {bytes : List UInt8} {fault : Fault} :
    ofBytes bytes = .error fault ↔ bytes.length ≠ 20 ∧ fault = .invalidLength bytes.length := by
  unfold ofBytes
  split
  · next h => simp [h]
  · next h => simp [h, eq_comm]

theorem ofHex_eq_ok_iff_pairs {text : String} {a : Address} :
    ofHex text = .ok a ↔ Hex.Pairs (withoutHexMark text.toList) a.bytes.reverse := by
  rw [← String.toList_ofList (l := withoutHexMark text.toList), ← Hex.decode_eq_ok_iff, ofHex]
  cases Hex.decode (String.ofList (withoutHexMark text.toList)) with
  | error fault => exact iff_of_false (fun h => nomatch h) fun h => nomatch h
  | ok bytes => rw [Except.ok.injEq, ← List.reverse_eq_iff, ← ofBytes_eq_ok_iff]

theorem ofHex_eq_error_iff_notPlain {text : String} {fault : Fault} :
    ofHex text = .error fault ↔ NotPlain (withoutHexMark text.toList) fault := by
  have hread : (String.ofList (withoutHexMark text.toList)).toList = withoutHexMark text.toList :=
    String.toList_ofList
  rw [ofHex]
  constructor
  · intro h
    split at h
    · next hexFault hd =>
      obtain rfl := Except.error.inj h
      exact .digits (hread ▸ Hex.decode_eq_error_iff.mp hd)
    · next bytes hd =>
      obtain ⟨hlength, rfl⟩ := ofBytes_eq_error_iff.mp h
      rw [List.length_reverse] at hlength ⊢
      exact .length (hread ▸ Hex.decode_eq_ok_iff.mp hd) hlength
  · intro h
    cases h with
    | digits hrefused => rw [Hex.decode_eq_error_iff.mpr (hread.symm ▸ hrefused)]
    | @length bytes hpairs hlength =>
      rw [Hex.decode_eq_ok_iff.mpr (hread.symm ▸ hpairs)]
      rw [← List.length_reverse] at hlength ⊢
      exact ofBytes_eq_error_iff.mpr ⟨hlength, rfl⟩

/-- A text is read as an address exactly if it is the plain text of the address, but for the case
and the mark. -/
theorem ofHex_eq_ok_iff {text : String} {a : Address} :
    ofHex text = .ok a ↔ ∃ cs, Unmarked text cs ∧ cs.length = 40 ∧
      (∀ c ∈ cs, ∃ n, Hex.IsDigit c n) ∧ cs.map Char.toLower = a.toHex.toList := by
  rw [ofHex_eq_ok_iff_pairs, Hex.pairs_iff]
  constructor
  · rintro ⟨hdigits, hlower⟩
    have hlength := congrArg List.length hlower
    rw [List.length_map, ← toHex, a.length_toHex] at hlength
    exact ⟨_, unmarked_iff.mpr rfl, hlength, hdigits, hlower⟩
  · rintro ⟨cs, hmark, -, hdigits, hlower⟩
    rw [unmarked_iff.mp hmark]
    exact ⟨hdigits, hlower⟩

/-- Every other text is refused: for its digits, or else for their number. -/
theorem ofHex_eq_error_iff {text : String} {fault : Fault} :
    ofHex text = .error fault ↔ ∃ cs, Unmarked text cs ∧ NotPlain cs fault := by
  simp only [ofHex_eq_error_iff_notPlain, unmarked_iff, exists_eq_left']

/-- A text is read as an address exactly if it is 40 digits of either case, with or without one `0x`
in front of them, whose lower-case form is the text written for the address: the digits of its bytes
in reverse order. So what is written is read back. Every other text is refused for an odd number of
bytes behind the mark, or else for the first byte there that is no digit, or else for the number of
bytes that the digits denote. -/
theorem ofHex_outcomes :
    (∀ text a, ofHex text = .ok a ↔ ∃ cs, Unmarked text cs ∧ cs.length = 40 ∧
      (∀ c ∈ cs, ∃ n, Hex.IsDigit c n) ∧ cs.map Char.toLower = a.toHex.toList) ∧
    (∀ a : Address, Hex.Pairs a.toHex.toList a.bytes.reverse) ∧
    (∀ a : Address, ofHex a.toHex = .ok a) ∧
    ∀ text fault, ofHex text = .error fault ↔ ∃ cs, Unmarked text cs ∧ NotPlain cs fault := by
  refine ⟨fun _ _ => ofHex_eq_ok_iff, pairs_toHex, fun a => ?_, fun _ _ => ofHex_eq_error_iff⟩
  rw [ofHex_eq_ok_iff_pairs, unmarked_iff.mp a.unmarked_toHex]
  exact a.pairs_toHex

/-- One mark is taken off, and only in lower case. -/
example : ofHex "0x0x" = .error (.invalidHex (.invalidCharacter 'x' 1)) ∧
    ofHex "0X00" = .error (.invalidHex (.invalidCharacter 'X' 1)) ∧
    ofHex "0xé" = .error (.invalidHex (.invalidCharacter 'Ã' 0)) ∧
    ofHex "é0" = .error (.invalidHex .oddLength) ∧ ofHex "0xaB" = .error (.invalidLength 1) := by
  decide

end ContractFixtures.Address
