import ContractFixtures.Proofs.Base58.Bijection
import ContractFixtures.Proofs.Radix.Order
import ContractFixtures.Proofs.Traversal

/-!
# What base 58 writes and reads

Behind leading zeros, which are kept one by one, base 58 is the numeral of a number. The numeral has
no zero in front, so there is only one. Reading finds the digit of a character in a table of the
codes of ASCII, and stops at the first character that has none.

* `Radix.bigEndian`, `Radix.IsNumeral`: numbers and their numerals, most significant digit first.
* `Spells`: characters that are written for digits.
* `reverseTable`: the digits by the codes of their characters.

Results:
1. `Radix.isNumeral_iff`: a number has one numeral, and a conversion gives it.
2. `encode_eq_iff_numeral`: what is written for bytes.
3. `digitsFrom_eq_error_iff`: the character at which reading stops.
4. `tableDigit?_eq`: the table gives the digit of every character.
5. `decode_outcomes`: what a text is read as, or why it is not read.
-/

namespace ContractFixtures

namespace Radix

/-! ## Numerals, most significant digit first -/

/-- The number that digits denote, the most significant one first. -/
def bigEndian (base : Nat) (ds : List Nat) : Nat :=
  ds.foldl (fun n d => n * base + d) 0

/-- The digits of a number, the most significant one first, with no zero in front. -/
structure IsNumeral (base n : Nat) (ds : List Nat) : Prop where
  digit_lt : ∀ d ∈ ds, d < base
  head_ne_zero : ds.head? ≠ some 0
  denotes : bigEndian base ds = n

variable {base scale n : Nat} {ds : List Nat}

theorem bigEndian_concat (ds : List Nat) (d : Nat) :
    bigEndian base (ds ++ [d]) = bigEndian base ds * base + d := by
  rw [bigEndian, List.foldl_append]
  rfl

theorem bigEndian_eq_value (ds : List Nat) : bigEndian base ds = value base ds.reverse := by
  induction ds using List.reverseRecOn with
  | nil => rfl
  | append_singleton ds d ih =>
    rw [bigEndian_concat, ih, List.reverse_append, List.reverse_singleton, List.singleton_append,
      value, Nat.mul_comm, Nat.add_comm]

/-- Zeros in front do not count. -/
theorem bigEndian_replicate_append (count : Nat) (ds : List Nat) :
    bigEndian base (List.replicate count 0 ++ ds) = bigEndian base ds := by
  induction count with
  | zero => rfl
  | succ count ih =>
    rw [← ih, List.replicate_succ, List.cons_append, bigEndian, List.foldl_cons, Nat.zero_mul]
    rfl

theorem takeWhile_zeros (ds : List Nat) :
    ds.takeWhile (· == 0) = List.replicate (ds.takeWhile (· == 0)).length 0 :=
  List.eq_replicate_iff.mpr ⟨rfl, fun _ => eq_zero_of_mem_zeros⟩

theorem bigEndian_dropWhile (ds : List Nat) :
    bigEndian base (ds.dropWhile (· == 0)) = bigEndian base ds := by
  conv_rhs => rw [← List.takeWhile_append_dropWhile (p := (· == 0)) (l := ds), takeWhile_zeros ds]
  exact (bigEndian_replicate_append _ _).symm

/-- A number has one numeral. -/
theorem isNumeral_iff (hb : 2 ≤ base) : IsNumeral base n ds ↔ ds = (digits base n).reverse := by
  constructor
  · rintro ⟨hlt, hhead, rfl⟩
    have hlast : ∀ h : ds.reverse ≠ [], ds.reverse.getLast h ≠ 0 := by
      intro h hzero
      rw [List.getLast_reverse] at hzero
      exact hhead (hzero ▸ List.head?_eq_some_head _)
    rw [bigEndian_eq_value, digits_value hb (fun d hd => hlt d (List.mem_reverse.mp hd)) hlast,
      List.reverse_reverse]
  · rintro rfl
    refine ⟨fun d hd => lt_of_mem_digits hb (List.mem_reverse.mp hd), ?_, ?_⟩
    · intro hzero
      rw [List.head?_reverse] at hzero
      have hne : digits base n ≠ [] := List.ne_nil_of_mem (List.mem_of_getLast? hzero)
      rw [List.getLast?_eq_some_getLast hne] at hzero
      exact getLast_digits_ne_zero hb hne (Option.some.inj hzero)
    · rw [bigEndian_eq_value, List.reverse_reverse, value_digits hb]

theorem IsNumeral.unique {es : List Nat} (hb : 2 ≤ base) (hds : IsNumeral base n ds)
    (hes : IsNumeral base n es) : ds = es :=
  ((isNumeral_iff hb).mp hds).trans ((isNumeral_iff hb).mp hes).symm

/-- Only 0 has a numeral without digits. -/
theorem IsNumeral.eq_nil_iff (hb : 2 ≤ base) (h : IsNumeral base n ds) : ds = [] ↔ n = 0 := by
  constructor
  · rintro rfl
    exact h.denotes.symm
  · rintro rfl
    rw [(isNumeral_iff hb).mp h, digits_zero, List.reverse_nil]

/-- A change of base keeps the number and the count of zeros in front. -/
theorem rebase_eq_iff {es : List Nat} (hb : 2 ≤ base) (hs : 0 < scale) :
    rebase base scale ds = es ↔ ∃ ns, IsNumeral base (bigEndian scale ds) ns ∧
      es = List.replicate (ds.takeWhile (· == 0)).length 0 ++ ns := by
  have hvalue : value scale (ds.dropWhile (· == 0)).reverse = bigEndian scale ds := by
    rw [← bigEndian_eq_value, bigEndian_dropWhile]
  simp only [isNumeral_iff hb, exists_eq_left]
  rw [rebase_eq hb hs, hvalue, ← takeWhile_zeros]
  exact eq_comm

end Radix

namespace Base58

open Radix (rebase bigEndian IsNumeral)

/-! ## Letters of digits -/

/-- Characters that are written for digits: the alphabet has them in the places of the digits. -/
def Spells (ds : List Nat) (cs : List Char) : Prop :=
  List.Forall₂ (fun d c => alphabet[d]? = some c) ds cs

theorem getElem?_alphabet_iff {d : Nat} {c : Char} :
    alphabet[d]? = some c ↔ d < 58 ∧ symbol d = c := by
  constructor
  · intro h
    obtain ⟨hd, hc⟩ := List.getElem?_eq_some_iff.mp h
    exact ⟨length_alphabet ▸ hd, (symbol_eq_getElem hd).trans hc⟩
  · rintro ⟨hd, rfl⟩
    have hlt : d < alphabet.length := length_alphabet ▸ hd
    rw [symbol_eq_getElem hlt, List.getElem?_eq_getElem hlt]

theorem spells_iff {ds : List Nat} {cs : List Char} :
    Spells ds cs ↔ ds.map symbol = cs ∧ ∀ d ∈ ds, d < 58 := by
  unfold Spells
  simp only [getElem?_alphabet_iff]
  constructor
  · intro h
    induction h with
    | nil => exact ⟨rfl, fun _ hd => absurd hd List.not_mem_nil⟩
    | cons hdc _ ih =>
      obtain ⟨hd, rfl⟩ := hdc
      obtain ⟨rfl, hds⟩ := ih
      exact ⟨rfl, List.forall_mem_cons.mpr ⟨hd, hds⟩⟩
  · rintro ⟨rfl, hds⟩
    induction ds with
    | nil => exact .nil
    | cons d ds ih =>
      obtain ⟨hd, hds⟩ := List.forall_mem_cons.mp hds
      exact .cons ⟨hd, rfl⟩ (ih hds)

/-- Only the digit 0 is written as `1`, so the ones in front are the zeros in front. -/
theorem symbol_eq_one_iff : ∀ d < 58, symbol d = '1' ↔ d = 0 := by decide

theorem Spells.zeros {ds : List Nat} {cs : List Char} (h : Spells ds cs) :
    (ds.takeWhile (· == 0)).length = (cs.takeWhile (· == '1')).length ∧
      Spells (ds.dropWhile (· == 0)) (cs.dropWhile (· == '1')) := by
  induction h with
  | nil => exact ⟨rfl, .nil⟩
  | @cons d c ds cs hdc hrest ih =>
    obtain ⟨hd, hc⟩ := getElem?_alphabet_iff.mp hdc
    have hsame : (c == '1') = (d == 0) := by
      rw [Bool.eq_iff_iff, beq_iff_eq, beq_iff_eq, ← hc, symbol_eq_one_iff d hd]
    rw [List.takeWhile_cons, List.takeWhile_cons, List.dropWhile_cons, List.dropWhile_cons, hsame]
    split
    · exact ⟨congrArg (· + 1) ih.1, ih.2⟩
    · exact ⟨rfl, .cons hdc hrest⟩

/-- Digits with a 0 in front for each `1` in front of the characters. -/
theorem Spells.of_dropWhile {ds : List Nat} {cs : List Char}
    (h : Spells ds (cs.dropWhile (· == '1'))) :
    Spells (List.replicate (cs.takeWhile (· == '1')).length 0 ++ ds) cs := by
  obtain ⟨hmap, hds⟩ := spells_iff.mp h
  refine spells_iff.mpr ⟨?_, fun d hd => ?_⟩
  · have hones : cs.takeWhile (· == '1') = List.replicate (cs.takeWhile (· == '1')).length '1' :=
      List.eq_replicate_iff.mpr ⟨rfl, fun _ hc => by simpa using List.mem_takeWhile_imp hc⟩
    rw [List.map_append, hmap, List.map_replicate]
    conv_rhs => rw [← List.takeWhile_append_dropWhile (p := (· == '1')) (l := cs), hones]
    rfl
  · rcases List.mem_append.mp hd with hzero | hmem
    · rw [List.eq_of_mem_replicate hzero]
      decide
    · exact hds d hmem

/-! ## Writing -/

theorem length_takeWhile_map_toNat (bytes : List UInt8) :
    ((bytes.map UInt8.toNat).takeWhile (· == 0)).length = (bytes.takeWhile (· == 0)).length := by
  have hzero : ((· == 0) ∘ UInt8.toNat) = fun b : UInt8 => b == 0 := by
    funext b
    rw [Bool.eq_iff_iff, Function.comp_apply, beq_iff_eq, beq_iff_eq, ← UInt8.toNat_inj]
    rfl
  rw [List.takeWhile_map, hzero, List.length_map]

/-- Bytes are written as one `1` for each zero in front and the numeral of their number, which has
no digits if that number is 0. -/
theorem encode_eq_iff_numeral (bytes : List UInt8) (text : String) :
    encode bytes = text ↔ ∃ ds cs,
      IsNumeral 58 (bigEndian 256 (bytes.map UInt8.toNat)) ds ∧
      (ds = [] ↔ bigEndian 256 (bytes.map UInt8.toNat) = 0) ∧ Spells ds cs ∧
      text.toList = List.replicate (bytes.takeWhile (· == 0)).length '1' ++ cs := by
  obtain ⟨ns, hns, hrebase⟩ := (Radix.rebase_eq_iff (by decide) (by decide)).mp
    (rfl : rebase 58 256 (bytes.map UInt8.toNat) = _)
  have hwritten : (encode bytes).toList
      = List.replicate (bytes.takeWhile (· == 0)).length '1' ++ ns.map symbol := by
    rw [toList_encode, hrebase, List.map_append, List.map_replicate, length_takeWhile_map_toNat]
    rfl
  constructor
  · rintro rfl
    exact ⟨ns, ns.map symbol, hns, hns.eq_nil_iff (by decide),
      spells_iff.mpr ⟨rfl, hns.digit_lt⟩, hwritten⟩
  · rintro ⟨ds, cs, hds, -, hspells, htext⟩
    obtain rfl := hds.unique (by decide) hns
    rw [← String.toList_inj, hwritten, htext, (spells_iff.mp hspells).1]

/-! ## Digits by a table -/

/-- Enters digits in the places of the codes of their characters. -/
def enter (table : Vector Nat 128) (entries : List (Char × Nat)) : Vector Nat 128 :=
  entries.foldl (fun table entry => table.setIfInBounds entry.1.toNat entry.2) table

/-- The digits by the ASCII codes of their characters, 255 for a character without a digit. -/
def reverseTable : Vector Nat 128 :=
  enter (Vector.replicate 128 255) alphabet.zipIdx

/-- The digit that the table has for a character. Only the codes of ASCII are looked up. -/
def tableDigit? (c : Char) : Option Nat :=
  if h : c.toNat < 128 then
    if reverseTable[c.toNat] = 255 then none else some reverseTable[c.toNat]
  else none

theorem digit?_eq_none_iff {c : Char} : digit? c = none ↔ c ∉ alphabet :=
  List.idxOf?_eq_none_iff

theorem toNat_symbol_lt : ∀ d < 58, (symbol d).toNat < 128 := by decide

theorem toNat_lt_of_mem_alphabet {c : Char} (hc : c ∈ alphabet) : c.toNat < 128 := by
  obtain ⟨hd, hsymbol⟩ := symbol_idxOf hc
  exact hsymbol ▸ toNat_symbol_lt _ hd

/-- Characters that differ are entered in different places, so an entry is not lost again. -/
theorem getElem_enter {cs : List Char} (hcs : cs.Nodup) (table : Vector Nat 128) (start : Nat)
    {c : Char} (hc : c.toNat < 128) :
    (enter table (cs.zipIdx start))[c.toNat]
      = ((cs.idxOf? c).map (start + ·)).getD table[c.toNat] := by
  induction cs generalizing table start with
  | nil => rfl
  | cons a cs ih =>
    -- The later entries are made in the table that has the first one, and leave it alone.
    obtain ⟨ha, hcs⟩ := List.nodup_cons.mp hcs
    have hrest := ih hcs (table.setIfInBounds a.toNat start) (start + 1)
    rw [List.zipIdx_cons, enter, List.foldl_cons, ← enter, hrest, List.idxOf?_cons]
    by_cases hac : a = c
    · subst hac
      rw [List.idxOf?_eq_none_iff.mpr ha]
      simp
    · have hne : a.toNat ≠ c.toNat := fun h => hac (Char.toNat_inj.mp h)
      rw [Vector.getElem_setIfInBounds_ne hc hne, if_neg (by simpa using hac)]
      cases cs.idxOf? c with
      | none => rfl
      | some d =>
        simp only [Option.map_some, Option.getD_some]
        omega

/-- The table gives the digit of every character. -/
theorem tableDigit?_eq (c : Char) : tableDigit? c = digit? c := by
  unfold tableDigit?
  split
  · next h =>
    have hentry : reverseTable[c.toNat] = ((digit? c).map (0 + ·)).getD 255 := by
      rw [reverseTable, getElem_enter nodup_alphabet _ 0 h, Vector.getElem_replicate]
      rfl
    rw [hentry]
    cases hc : digit? c with
    | none => rfl
    | some d =>
      have hd := (symbol_of_digit? hc).1
      simp [show d ≠ 255 by omega]
  · next h =>
    exact (digit?_eq_none_iff.mpr fun hmem => h (toNat_lt_of_mem_alphabet hmem)).symm

/-! ## Reading -/

/-- A character outside the alphabet is met behind characters of the alphabet. -/
theorem digitsFrom_append_cons {before behind : List Char} {c : Char} (hbefore : before ⊆ alphabet)
    (hc : c ∉ alphabet) (index : Nat) :
    digitsFrom index (before ++ c :: behind)
      = .error ⟨c, index + (Text.bytesOf before).length⟩ := by
  rw [Text.length_bytesOf]
  induction before generalizing index with
  | nil =>
    rw [List.nil_append, digitsFrom, digit?_eq_none_iff.mpr hc]
    rfl
  | cons b before ih =>
    obtain ⟨hb, hrest⟩ := List.cons_subset.mp hbefore
    obtain ⟨d, hd⟩ := Option.ne_none_iff_exists'.mp fun hnone => digit?_eq_none_iff.mp hnone hb
    rw [List.cons_append, digitsFrom, hd, ih hrest, Text.byteLength_cons, Nat.add_assoc]
    rfl

/-- Reading stops at the first character outside the alphabet. -/
theorem digitsFrom_eq_error_iff {index : Nat} {cs : List Char} {fault : InvalidChar} :
    digitsFrom index cs = .error fault ↔ ∃ before behind,
      cs = before ++ fault.char :: behind ∧ before ⊆ alphabet ∧ fault.char ∉ alphabet ∧
      fault.index = index + (Text.bytesOf before).length := by
  constructor
  · intro h
    have hbad : ∃ c ∈ cs, c ∉ alphabet := by
      by_contra hall
      have hcs : cs ⊆ alphabet := fun c hc => by_contra fun hout => hall ⟨c, hc, hout⟩
      obtain ⟨ds, hds⟩ := exists_map_symbol_iff.mpr hcs
      exact nomatch h.symm.trans (digitsFrom_eq_ok_iff.mpr hds)
    obtain ⟨before, c, behind, rfl, hin, hc⟩ := exists_first hbad
    have hbefore : before ⊆ alphabet := fun b hb => not_not.mp (hin b hb)
    rw [digitsFrom_append_cons hbefore hc] at h
    obtain rfl := Except.error.inj h
    exact ⟨before, behind, rfl, hbefore, hc, rfl⟩
  · rintro ⟨before, behind, rfl, hbefore, hc, hindex⟩
    rw [digitsFrom_append_cons hbefore hc, ← hindex]

theorem decode_eq_ok_iff_spells {text : String} {bytes : List UInt8} :
    decode text = .ok bytes ↔ ∃ ds, Spells ds text.toList ∧ bytesOfDigits ds = bytes := by
  simp only [decode_eq_ok_iff_digits, digitsFrom_eq_ok_iff, spells_iff]

theorem decode_eq_error_iff {text : String} {fault : InvalidChar} :
    decode text = .error fault ↔ digitsFrom 0 text.toList = .error fault := by
  rw [decode]
  cases digitsFrom 0 text.toList <;> simp

/-- Digits are read as one zero for each zero in front and the numeral of their number. -/
theorem bytesOfDigits_eq_iff {ds : List Nat} {bytes : List UInt8} :
    bytesOfDigits ds = bytes ↔ ∃ ns, IsNumeral 256 (bigEndian 58 ds) ns ∧
      bytes.map UInt8.toNat = List.replicate (ds.takeWhile (· == 0)).length 0 ++ ns := by
  rw [← Radix.rebase_eq_iff (by decide) (by decide), bytesOfDigits_eq]
  constructor
  · rintro rfl
    exact (map_toNat_map_ofNat fun d => Radix.lt_of_mem_rebase (by decide) (by decide)).symm
  · intro h
    rw [h, map_ofNat_map_toNat]

/-- A text is read unless it has a character outside the alphabet; the fault names the first of them
and the byte at which it stands. What is read is one zero byte for each `1` in front and the numeral
of the number that the other characters are written for. The digits that count are those of the
table. -/
theorem decode_outcomes (text : String) :
    ((∃ fault, decode text = .error fault) ↔ ∃ c ∈ text.toList, c ∉ alphabet) ∧
      (∀ fault, decode text = .error fault ↔ ∃ before behind,
        text.toList = before ++ fault.char :: behind ∧ before ⊆ alphabet ∧
        fault.char ∉ alphabet ∧ fault.index = (Text.bytesOf before).length) ∧
      (∀ bytes, decode text = .ok bytes ↔ ∃ ds ns,
        Spells ds (text.toList.dropWhile (· == '1')) ∧ IsNumeral 256 (bigEndian 58 ds) ns ∧
        bytes.map UInt8.toNat
          = List.replicate (text.toList.takeWhile (· == '1')).length 0 ++ ns) ∧
      ∀ c, tableDigit? c = digit? c := by
  have herror : ∀ fault, decode text = .error fault ↔ ∃ before behind,
      text.toList = before ++ fault.char :: behind ∧ before ⊆ alphabet ∧
      fault.char ∉ alphabet ∧ fault.index = (Text.bytesOf before).length := by
    intro fault
    rw [decode_eq_error_iff, digitsFrom_eq_error_iff]
    simp only [Nat.zero_add]
  refine ⟨?_, herror, fun bytes => ?_, tableDigit?_eq⟩
  · constructor
    · rintro ⟨fault, h⟩
      obtain ⟨before, behind, htext, -, hout, -⟩ := (herror fault).mp h
      exact ⟨fault.char, htext ▸ List.mem_append_right _ List.mem_cons_self, hout⟩
    · rintro ⟨c, hc, hout⟩
      cases hd : decode text with
      | error fault => exact ⟨fault, rfl⟩
      | ok bytes => exact absurd (exists_decode_iff.mp ⟨bytes, hd⟩ hc) hout
  · constructor
    · intro h
      obtain ⟨ds, hds, hbytes⟩ := decode_eq_ok_iff_spells.mp h
      obtain ⟨ns, hns, hbytes⟩ := bytesOfDigits_eq_iff.mp hbytes
      obtain ⟨hzeros, hspells⟩ := hds.zeros
      rw [← Radix.bigEndian_dropWhile] at hns
      exact ⟨_, ns, hspells, hns, hzeros ▸ hbytes⟩
    · rintro ⟨ds, ns, hspells, hns, hbytes⟩
      have hall := hspells.of_dropWhile
      refine decode_eq_ok_iff_spells.mpr ⟨_, hall, bytesOfDigits_eq_iff.mpr ⟨ns, ?_, ?_⟩⟩
      · rwa [Radix.bigEndian_replicate_append]
      · rwa [hall.zeros.1]

/-- The index of a character is that of its first byte. -/
example : decode "11é" = .error ⟨'é', 2⟩ := by decide

end Base58

end ContractFixtures
