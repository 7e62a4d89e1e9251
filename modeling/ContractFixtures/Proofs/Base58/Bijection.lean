import ContractFixtures.Base58
import ContractFixtures.Proofs.Radix.Conversion
import Mathlib.Data.List.GetD

/-!
# Base 58 loses nothing

Bytes and characters are digits in two bases. Writing and reading change the base of a list of
digits, leading zeros included, so each undoes the other.

Results:
1. `digitsFrom_eq_ok_iff`: the characters that are read are those of the digits found.
2. `decode_encode`, `encode_of_decode`: writing and reading undo each other.
3. `encode_bijective`: every text over the alphabet is written for exactly one list of bytes.
-/

namespace ContractFixtures.Base58

open Radix (rebase)

/-! ## Digits and characters -/

theorem length_alphabet : alphabet.length = 58 := by decide

theorem nodup_alphabet : alphabet.Nodup := by decide

theorem symbol_eq_getElem {d : Nat} (hd : d < alphabet.length) : symbol d = alphabet[d] := by
  rw [symbol, List.getD_eq_getElem _ _ hd]

theorem digit?_symbol : ∀ d < 58, digit? (symbol d) = some d := by decide

/-- A character has a digit only if it is the character of that digit. -/
theorem symbol_of_digit? {c : Char} {d : Nat} (h : digit? c = some d) : d < 58 ∧ symbol d = c := by
  obtain ⟨hd, hc, _⟩ := List.findIdx?_eq_some_iff_getElem.mp h
  refine ⟨length_alphabet ▸ hd, ?_⟩
  rw [symbol_eq_getElem hd]
  exact eq_of_beq hc

theorem symbol_mem_alphabet {d : Nat} (hd : d < 58) : symbol d ∈ alphabet := by
  rw [symbol_eq_getElem (length_alphabet ▸ hd)]
  exact List.getElem_mem _

/-- The place of a letter in the alphabet is its digit. -/
theorem symbol_idxOf {c : Char} (hc : c ∈ alphabet) :
    alphabet.idxOf c < 58 ∧ symbol (alphabet.idxOf c) = c := by
  have hlt := List.idxOf_lt_length_of_mem hc
  refine ⟨length_alphabet ▸ hlt, ?_⟩
  rw [symbol_eq_getElem hlt]
  exact List.getElem_idxOf hlt

/-! ## Lists of digits -/

/-- Exactly the characters of digits are read, and as those digits. -/
theorem digitsFrom_eq_ok_iff {index : Nat} {cs : List Char} {ds : List Nat} :
    digitsFrom index cs = .ok ds ↔ ds.map symbol = cs ∧ ∀ d ∈ ds, d < 58 := by
  induction cs generalizing index ds with
  | nil =>
    rw [digitsFrom, Except.ok.injEq, List.map_eq_nil_iff]
    constructor
    · rintro rfl
      exact ⟨rfl, fun _ hd => absurd hd List.not_mem_nil⟩
    · exact fun h => h.1.symm
  | cons c cs ih =>
    rw [digitsFrom]
    constructor
    · intro h
      cases hc : digit? c with
      | none => simp [hc] at h
      | some d =>
        cases hm : digitsFrom (index + c.utf8Size) cs with
        | error fault => simp [hc, hm] at h
        | ok more =>
          obtain ⟨hd, hs⟩ := symbol_of_digit? hc
          obtain ⟨hmap, hlt⟩ := ih.mp hm
          have hds : d :: more = ds := by simpa [hc, hm] using h
          rw [← hds, List.map_cons, hs, hmap]
          exact ⟨rfl, List.forall_mem_cons.mpr ⟨hd, hlt⟩⟩
    · rintro ⟨hmap, hlt⟩
      cases ds with
      | nil => exact absurd hmap.symm (List.cons_ne_nil c cs)
      | cons d ds =>
        obtain ⟨rfl, hcs⟩ := List.cons.inj hmap
        obtain ⟨hd, hrest⟩ := List.forall_mem_cons.mp hlt
        have hm : digitsFrom (index + (symbol d).utf8Size) cs = .ok ds := ih.mpr ⟨hcs, hrest⟩
        simp [digit?_symbol d hd, hm]

/-- Characters of the alphabet are the characters of digits. -/
theorem exists_map_symbol_iff {cs : List Char} :
    (∃ ds : List Nat, ds.map symbol = cs ∧ ∀ d ∈ ds, d < 58) ↔ cs ⊆ alphabet := by
  constructor
  · rintro ⟨ds, rfl, hlt⟩ c hc
    obtain ⟨d, hd, rfl⟩ := List.mem_map.mp hc
    exact symbol_mem_alphabet (hlt d hd)
  · intro hcs
    refine ⟨cs.map alphabet.idxOf, ?_, ?_⟩
    · rw [List.map_map]
      exact (List.map_congr_left fun c hc => (symbol_idxOf (hcs hc)).2).trans (List.map_id cs)
    · intro d hd
      obtain ⟨c, hc, rfl⟩ := List.mem_map.mp hd
      exact (symbol_idxOf (hcs hc)).1

/-! ## Bytes -/

theorem lt_of_mem_map_toNat {bytes : List UInt8} {d : Nat} (hd : d ∈ bytes.map UInt8.toNat) :
    d < 256 := by
  obtain ⟨b, _, rfl⟩ := List.mem_map.mp hd
  exact b.toNat_lt

theorem map_ofNat_map_toNat (bytes : List UInt8) :
    (bytes.map UInt8.toNat).map UInt8.ofNat = bytes := by
  rw [List.map_map]
  exact (List.map_congr_left fun b _ => UInt8.ofNat_toNat).trans (List.map_id bytes)

theorem map_toNat_map_ofNat {ds : List Nat} (hlt : ∀ d ∈ ds, d < 256) :
    (ds.map UInt8.ofNat).map UInt8.toNat = ds := by
  rw [List.map_map]
  exact (List.map_congr_left fun d hd => UInt8.toNat_ofNat_of_lt' (hlt d hd)).trans (List.map_id ds)

/-- What is written are the characters of the digits in base 58. -/
theorem toList_encode (bytes : List UInt8) :
    (encode bytes).toList = (rebase 58 256 (bytes.map UInt8.toNat)).map symbol := by
  rw [encode, String.toList_ofList, rebase, List.map_append]

/-- What is read are the bytes whose digits in base 58 are given. -/
theorem bytesOfDigits_eq (ds : List Nat) :
    bytesOfDigits ds = (rebase 256 58 ds).map UInt8.ofNat := rfl

theorem decode_eq_ok_iff_digits {text : String} {bytes : List UInt8} :
    decode text = .ok bytes ↔ ∃ ds, digitsFrom 0 text.toList = .ok ds ∧ bytesOfDigits ds = bytes := by
  rw [decode]
  cases digitsFrom 0 text.toList <;> simp

/-! ## Writing and reading -/

/-- What is written for bytes is read as these bytes. -/
theorem decode_encode (bytes : List UInt8) : decode (encode bytes) = .ok bytes := by
  have hlt : ∀ d ∈ rebase 58 256 (bytes.map UInt8.toNat), d < 58 := fun d =>
    Radix.lt_of_mem_rebase (by decide) (by decide)
  refine decode_eq_ok_iff_digits.mpr ⟨rebase 58 256 (bytes.map UInt8.toNat), ?_, ?_⟩
  · rw [toList_encode]
    exact digitsFrom_eq_ok_iff.mpr ⟨rfl, hlt⟩
  · rw [bytesOfDigits_eq, Radix.rebase_rebase (by decide) (by decide) fun d => lt_of_mem_map_toNat]
    exact map_ofNat_map_toNat bytes

/-- A text that is read as bytes is what is written for them. -/
theorem encode_of_decode {text : String} {bytes : List UInt8} (h : decode text = .ok bytes) :
    encode bytes = text := by
  obtain ⟨ds, hds, rfl⟩ := decode_eq_ok_iff_digits.mp h
  obtain ⟨hmap, hlt⟩ := digitsFrom_eq_ok_iff.mp hds
  have hbytes : ∀ d ∈ rebase 256 58 ds, d < 256 := fun d =>
    Radix.lt_of_mem_rebase (by decide) (by decide)
  rw [← String.toList_inj, toList_encode, bytesOfDigits_eq, map_toNat_map_ofNat hbytes,
    Radix.rebase_rebase (by decide) (by decide) hlt, hmap]

/-- Reading accepts exactly the characters of the alphabet. -/
theorem exists_decode_iff {text : String} :
    (∃ bytes, decode text = .ok bytes) ↔ text.toList ⊆ alphabet := by
  rw [← exists_map_symbol_iff]
  constructor
  · rintro ⟨bytes, h⟩
    obtain ⟨ds, hds, _⟩ := decode_eq_ok_iff_digits.mp h
    exact ⟨ds, digitsFrom_eq_ok_iff.mp hds⟩
  · rintro ⟨ds, hds⟩
    exact ⟨_, decode_eq_ok_iff_digits.mpr ⟨ds, digitsFrom_eq_ok_iff.mpr hds, rfl⟩⟩

/-- Writing and reading are inverse to each other, between all lists of bytes and all texts over
an alphabet of 58 different characters. -/
theorem encode_bijective :
    (∀ bytes, decode (encode bytes) = .ok bytes) ∧
      (∀ text bytes, decode text = .ok bytes ↔ encode bytes = text) ∧
      (∀ text : String, (∃ bytes, encode bytes = text) ↔ text.toList ⊆ alphabet) ∧
      alphabet.length = 58 ∧ alphabet.Nodup := by
  have hiff : ∀ text bytes, decode text = .ok bytes ↔ encode bytes = text := fun text bytes =>
    ⟨encode_of_decode, fun h => h ▸ decode_encode bytes⟩
  refine ⟨decode_encode, hiff, fun text => ?_, length_alphabet, nodup_alphabet⟩
  rw [← exists_decode_iff]
  exact exists_congr fun bytes => (hiff text bytes).symm

end ContractFixtures.Base58
