import ContractFixtures.Proofs.Address.CheckedText
import ContractFixtures.Proofs.Radix.Order
import ContractFixtures.Record.Encoding

/-!
# The order of addresses

Addresses are ordered as the bytes of their checked texts. Base 58 does not keep the order of bytes
in general. Here it does: all texts denote numbers of 25 bytes that start with the version, so all
have 34 digits, the alphabet is ascending, and the checksum stands behind the bytes of the address.
Nothing here depends on the hash.

Results:
1. `compare_letter`: the letters of the alphabet are ordered as their digits.
2. `exists_reverse_digits_versioned`: the numeral of a version and 24 bytes has 34 digits, and it
   starts with one and the same.
3. `compare_bytesOf_toBase58`: addresses are ordered as their texts.
4. `pairwise_sortedSet`, `mem_sortedSet`: a sorted set of addresses.
5. `toBase58_order`: the order of addresses and of the keys of encoded maps.
-/

namespace ContractFixtures

/-! ## Bytes -/

theorem compare_toNat (a b : UInt8) : compare a.toNat b.toNat = compare a b := by
  show compareOfLessAndEq a.toNat b.toNat = compareOfLessAndEq a b
  simp only [compareOfLessAndEq, UInt8.lt_iff_toNat_lt, UInt8.toNat_inj]

namespace Base58

open Radix (digits value)

/-! ## Letters -/

/-- The one byte of the character of a digit. -/
def letter (digit : Nat) : UInt8 :=
  UInt8.ofNat (symbol digit).toNat

theorem utf8EncodeChar_symbol : ∀ d < 58, String.utf8EncodeChar (symbol d) = [letter d] := by
  decide

theorem letter_lt_letter : ∀ e < 58, ∀ d < e, (letter d).toNat < (letter e).toNat := by
  decide

/-- The alphabet is ascending. -/
theorem compare_letter {d e : Nat} (hd : d < 58) (he : e < 58) :
    compare (letter d) (letter e) = compare d e := by
  rw [← compare_toNat]
  rcases Nat.lt_trichotomy d e with hlt | rfl | hgt
  · rw [Nat.compare_eq_lt.mpr hlt, Nat.compare_eq_lt.mpr (letter_lt_letter e he d hlt)]
  · rw [Std.ReflOrd.compare_self, Std.ReflOrd.compare_self]
  · rw [Nat.compare_eq_gt.mpr hgt, Nat.compare_eq_gt.mpr (letter_lt_letter d hd e hgt)]

theorem bytesOf_map_symbol {ds : List Nat} (h : ∀ d ∈ ds, d < 58) :
    Text.bytesOf (ds.map symbol) = ds.map letter := by
  induction ds with
  | nil => rfl
  | cons d ds ih =>
    obtain ⟨hd, hds⟩ := List.forall_mem_cons.mp h
    have hrest := ih hds
    rw [Text.bytesOf] at hrest ⊢
    rw [List.map_cons, List.flatMap_cons, hrest, utf8EncodeChar_symbol d hd]
    rfl

/-- Texts are ordered as their digits. -/
theorem compare_bytesOf_map_symbol {ds es : List Nat} (hds : ∀ d ∈ ds, d < 58)
    (hes : ∀ e ∈ es, e < 58) :
    compare (Text.bytesOf (ds.map symbol)) (Text.bytesOf (es.map symbol)) = compare ds es := by
  rw [bytesOf_map_symbol hds, bytesOf_map_symbol hes]
  exact compare_map fun d hd e he => compare_letter (hds d hd) (hes e he)

/-! ## Numbers with a version -/

/-- The number that bytes denote, the first one counting most. -/
def number (bytes : List UInt8) : Nat :=
  value 256 (bytes.map UInt8.toNat).reverse

/-- Bytes of one length are ordered as their numbers. -/
theorem compare_number {bytes bytes' : List UInt8} (h : bytes.length = bytes'.length) :
    compare (number bytes) (number bytes') = compare bytes bytes' := by
  have hlen : (bytes.map UInt8.toNat).length = (bytes'.map UInt8.toNat).length := by
    rw [List.length_map, List.length_map, h]
  rw [number, number, Radix.compare_value (by decide) hlen (fun _ => lt_of_mem_map_toNat)
    (fun _ => lt_of_mem_map_toNat)]
  exact compare_map fun a _ b _ => compare_toNat a b

/-- Bytes that do not start with zero are written with the digits of their number only. -/
theorem toList_encode_cons {b : UInt8} (hb : b.toNat ≠ 0) (rest : List UInt8) :
    (encode (b :: rest)).toList = (digits 58 (number (b :: rest))).reverse.map symbol := by
  have htake : (b.toNat :: rest.map UInt8.toNat).takeWhile (· == 0) = [] := by
    rw [List.takeWhile_cons, if_neg (by simpa using hb)]
  have hdrop : (b.toNat :: rest.map UInt8.toNat).dropWhile (· == 0)
      = b.toNat :: rest.map UInt8.toNat := by
    rw [List.dropWhile_cons, if_neg (by simpa using hb)]
  rw [toList_encode, List.map_cons, Radix.rebase_eq (by decide) (by decide), htake, hdrop,
    List.nil_append, number, List.map_cons]

/-- The numbers of 25 bytes that start with the version lie between two neighbouring multiples of a
power of 58. -/
theorem exists_reverse_digits_versioned {rest : List UInt8} (h : rest.length = 24) :
    ∃ ds, (digits 58 (number (Address.version :: rest))).reverse = 9 :: ds ∧ ds.length = 33 := by
  have hbytes : ∀ d ∈ rest.map UInt8.toNat, d < 256 := fun _ => lt_of_mem_map_toNat
  obtain ⟨hle, hlt⟩ := Radix.value_cons_bounds (by decide) Address.version.toNat hbytes
  rw [List.length_map, h] at hle hlt
  have hlow : 9 * 58 ^ 33 ≤ Address.version.toNat * 256 ^ 24 := by decide
  have hhigh : (Address.version.toNat + 1) * 256 ^ 24 ≤ (9 + 1) * 58 ^ 33 := by decide
  exact Radix.exists_reverse_digits_eq_cons (by decide) (by decide) (by decide)
    (Nat.le_trans hlow hle) (Nat.lt_of_lt_of_le hlt hhigh)

theorem length_digits_versioned {rest : List UInt8} (h : rest.length = 24) :
    (digits 58 (number (Address.version :: rest))).length = 34 := by
  obtain ⟨ds, hds, hlen⟩ := exists_reverse_digits_versioned h
  rw [← List.length_reverse, hds, List.length_cons, hlen]

end Base58

namespace Address

/-! ## Texts -/

/-- What the text of an address is written for: the version and 24 bytes. -/
theorem exists_rest_of_payload (a : Address) :
    ∃ rest : List UInt8, a.payload ++ checksum a.payload = version :: rest ∧ rest.length = 24 := by
  refine ⟨a.bytes ++ checksum a.payload, rfl, ?_⟩
  rw [List.length_append, a.length_bytes, length_checksum]

/-- The checksum does not count: it is the same if the bytes of the addresses are. -/
theorem compare_checked (a b : Address) :
    compare (a.payload ++ checksum a.payload) (b.payload ++ checksum b.payload) = compare a b := by
  have hpayload : compare a.payload b.payload = compare a b := by
    rw [payload, payload, List.compare_cons_cons, Std.ReflOrd.compare_self, Ordering.eq_then]
    rfl
  rw [compare_append_of_length_eq (by rw [length_payload, length_payload]), hpayload]
  cases hab : compare a b with
  | lt => rfl
  | gt => rfl
  | eq =>
    have hbytes : a.bytes = b.bytes := Std.LawfulEqOrd.eq_of_compare hab
    rw [payload, payload, hbytes, Std.ReflOrd.compare_self]
    rfl

/-- Addresses are ordered as the bytes of their checked texts. -/
theorem compare_bytesOf_toBase58 (a b : Address) :
    compare (Text.bytesOf a.toBase58.toList) (Text.bytesOf b.toBase58.toList) = compare a b := by
  obtain ⟨rest, ha, hrest⟩ := a.exists_rest_of_payload
  obtain ⟨rest', hb, hrest'⟩ := b.exists_rest_of_payload
  have hversion : version.toNat ≠ 0 := by decide
  have hdigits : ∀ n, ∀ d ∈ (Radix.digits 58 n).reverse, d < 58 := fun n d hd =>
    Radix.lt_of_mem_digits (by decide) (List.mem_reverse.mp hd)
  have hlen : (Radix.digits 58 (Base58.number (version :: rest))).reverse.length
      = (Radix.digits 58 (Base58.number (version :: rest'))).reverse.length := by
    rw [List.length_reverse, List.length_reverse, Base58.length_digits_versioned hrest,
      Base58.length_digits_versioned hrest']
  calc
    compare (Text.bytesOf a.toBase58.toList) (Text.bytesOf b.toBase58.toList)
      = compare (Radix.digits 58 (Base58.number (version :: rest))).reverse
          (Radix.digits 58 (Base58.number (version :: rest'))).reverse := by
        rw [toBase58, toBase58, ha, hb, Base58.toList_encode_cons hversion,
          Base58.toList_encode_cons hversion]
        exact Base58.compare_bytesOf_map_symbol (hdigits _) (hdigits _)
    _ = compare (Base58.number (version :: rest)) (Base58.number (version :: rest')) := by
        rw [← Radix.compare_value (by decide) hlen (hdigits _) (hdigits _), List.reverse_reverse,
          List.reverse_reverse, Radix.value_digits (by decide), Radix.value_digits (by decide)]
    _ = compare (version :: rest) (version :: rest') :=
        Base58.compare_number (by rw [List.length_cons, List.length_cons, hrest, hrest'])
    _ = compare a b := by rw [← ha, ← hb, compare_checked]

/-! ## Sorted sets -/

instance : Std.TransOrd Address :=
  inferInstanceAs (Std.TransCmp (compareOn Address.bytes))

instance : Std.LawfulEqOrd Address where
  eq_of_compare h := Address.ext (Std.LawfulEqOrd.eq_of_compare (α := List UInt8) h)

theorem mem_insertSorted {a b : Address} {as : List Address} :
    b ∈ a.insertSorted as ↔ b = a ∨ b ∈ as := by
  induction as with
  | nil => simp [insertSorted]
  | cons c as ih =>
    unfold insertSorted
    split
    · exact List.mem_cons
    · next heq =>
      obtain rfl := Std.LawfulEqOrd.eq_of_compare heq
      simp
    · rw [List.mem_cons, ih, List.mem_cons]
      exact or_left_comm

theorem pairwise_insertSorted (a : Address) {as : List Address}
    (h : as.Pairwise fun a b => compare a b = .lt) :
    (a.insertSorted as).Pairwise fun a b => compare a b = .lt := by
  induction as with
  | nil => exact List.pairwise_singleton _ _
  | cons c as ih =>
    obtain ⟨hc, has⟩ := List.pairwise_cons.mp h
    unfold insertSorted
    split
    · next hlt =>
      refine List.pairwise_cons.mpr ⟨fun b hb => ?_, h⟩
      rcases List.mem_cons.mp hb with rfl | hb
      · exact hlt
      · exact Std.TransCmp.lt_trans hlt (hc b hb)
    · exact h
    · next hgt =>
      refine List.pairwise_cons.mpr ⟨fun b hb => ?_, ih has⟩
      rcases mem_insertSorted.mp hb with rfl | hb
      · exact Std.OrientedCmp.lt_of_gt hgt
      · exact hc b hb

/-- A sorted set holds the addresses that it is made of. -/
theorem mem_sortedSet {a : Address} {as : List Address} : a ∈ sortedSet as ↔ a ∈ as := by
  have hfold : ∀ sorted : List Address,
      a ∈ as.foldl (fun acc a => a.insertSorted acc) sorted ↔ a ∈ as ∨ a ∈ sorted := by
    intro sorted
    induction as generalizing sorted with
    | nil => simp
    | cons b as ih =>
      rw [List.foldl_cons, ih, mem_insertSorted, List.mem_cons, or_assoc, or_left_comm]
  rw [sortedSet, hfold]
  simp

/-- A sorted set is ascending, so it holds each address once. -/
theorem pairwise_sortedSet (as : List Address) :
    (sortedSet as).Pairwise fun a b => compare a b = .lt := by
  have hfold : ∀ sorted : List Address, sorted.Pairwise (fun a b => compare a b = .lt) →
      (as.foldl (fun acc a => a.insertSorted acc) sorted).Pairwise
        fun a b => compare a b = .lt := by
    induction as with
    | nil => exact fun sorted h => h
    | cons a as ih => exact fun sorted h => ih _ (pairwise_insertSorted a h)
  exact hfold [] .nil

/-! ## Encoded maps -/

/-- The members of a map from addresses, which has a value for each address of a set. -/
def members (as : List Address) (value : Address → Json) : List (String × Json) :=
  (sortedSet as).map fun a => (a.toBase58, value a)

theorem membersOfEntries_eq (as : List Address) (value : Address → Json) :
    membersOfEntries (as.map fun a => (.string a.toBase58, value a))
      = .ok (as.map fun a => (a.toBase58, value a)) := by
  induction as with
  | nil => rfl
  | cons a as ih =>
    rw [List.map_cons, membersOfEntries, ih]
    rfl

/-- Addresses are ordered as the bytes of their texts. So a map that is sorted by addresses is
written with its keys, the texts of these addresses, in the order of texts. -/
theorem toBase58_order :
    (∀ a b : Address,
      compare (Text.bytesOf a.toBase58.toList) (Text.bytesOf b.toBase58.toList) = compare a b) ∧
    ∀ (as : List Address) (value : Address → Json),
      encodeEntries ((sortedSet as).map fun a => (.string a.toBase58, value a))
        = .ok (Json.object (members as value)).compact ∧
      (∀ key v, (key, v) ∈ members as value ↔ ∃ a ∈ as, key = a.toBase58 ∧ v = value a) ∧
      ((members as value).map Prod.fst).Pairwise fun key key' =>
        compare (Text.bytesOf key.toList) (Text.bytesOf key'.toList) = .lt := by
  refine ⟨compare_bytesOf_toBase58, fun as value => ⟨?_, fun key v => ?_, ?_⟩⟩
  · rw [encodeEntries, membersOfEntries_eq]
    rfl
  · simp only [members, List.mem_map, mem_sortedSet, Prod.mk.injEq, eq_comm]
  · rw [members, List.map_map, List.pairwise_map]
    exact (pairwise_sortedSet as).imp fun {a b} h => (compare_bytesOf_toBase58 a b).trans h

end Address

end ContractFixtures
