import ContractFixtures.Proofs.Base58.Numerals
import ContractFixtures.Proofs.Radix.Soundness

/-!
# Base 58 on machine words

Bytes are written, and characters are read, by loops over a buffer of bytes with a carry of 32 bits.
Both directions have the same product of bases, 58 times 256 or 14848, which no sum reaches.

* `writing`, `reading`: the arithmetic of the two directions.
* `Radix.Moment.InRange`: the bounds on what a turn of the loops computes.
* `Radix.Direction.StaysWithin`: these bounds throughout a conversion.
* `readout`: what is returned when no turn is left.

Results:
1. `Radix.Direction.staysWithin`: two bases set the limits of a conversion between them.
2. `encode_of_stops`, `decode_of_stops`: the loops give what `encode` and `decode` give.
3. `loops_in_range`: the limits for base 58, on inputs of every length.
4. `loops_in_range_attained`: some sum is as high as the limit, in both directions.
-/

namespace ContractFixtures

namespace Radix

/-! ## Bounds -/

/-- The highest carry, the highest word, and the most digits that the closing loop appends. -/
structure Limits where
  carry : Nat
  word : Nat
  pushed : Nat

namespace Moment

variable {α : Type} {dir : Direction α} {input : List α} {m : Moment α}

/-- The words that the next turn of a loop forms, and the carry that enters it. -/
def words (dir : Direction α) (m : Moment α) : List UInt32 :=
  match m.ahead with
  | [] => [m.carry, dir.low m.carry, dir.high m.carry]
  | d :: _ =>
    let sum := m.carry + dir.raise d
    [m.carry, d.toUInt32, dir.raise d, sum, dir.low sum, dir.high sum]

/-- Words and stored digits are bounded, so arithmetic on them is that of numbers.

* `product_exact`, `sum_exact`: a product loses no high bits, and a sum does not wrap around.
* `narrowed_exact`: the part of a sum that is stored fits a byte.
* `minimal`: between two items the buffer is the numeral of what has been read.
* `length_le`: what is counted and stored is bounded by what has been read. -/
structure InRange (dir : Direction α) (limits : Limits) (m : Moment α) : Prop where
  stored_lt : ∀ d ∈ m.buffer, d.toNat < dir.base
  carry_le : m.carry.toNat ≤ limits.carry
  words_le : ∀ w ∈ m.words dir, w.toNat ≤ limits.word
  pushed_le : m.pushed ≤ limits.pushed
  minimal : m.AtRest → IsNumeral dir.base (bigEndian dir.scale (dir.digitsOf m.read))
    (m.buffer.reverse.map UInt8.toNat)
  product_exact : ∀ d ∈ m.ahead.head?, (dir.raise d).toNat = d.toNat * dir.scale
  sum_exact : ∀ d ∈ m.ahead.head?,
    (m.carry + dir.raise d).toNat = m.carry.toNat + (dir.raise d).toNat
  narrowed_exact : (dir.low (m.total dir)).toNat < dir.base ∧
    (dir.low (m.total dir)).toUInt8.toNat = (dir.low (m.total dir)).toNat
  length_le : m.zeros + m.buffer.length ≤ limits.pushed * m.read.length

namespace Sound

/-- All words are parts of a sum that is below the product of the bases. -/
theorem words_lt (h : m.Sound dir input) : ∀ w ∈ m.words dir, w.toNat < dir.base * dir.scale := by
  have hlow : ∀ w, (dir.low w).toNat ≤ w.toNat := fun w => dir.toNat_low w ▸ Nat.mod_le _ _
  have hhigh : ∀ w, (dir.high w).toNat ≤ w.toNat := fun w => dir.toNat_high w ▸ Nat.div_le_self _ _
  have hcarry : m.carry.toNat < dir.base * dir.scale :=
    Nat.lt_of_lt_of_le h.carry_lt_scale (Nat.le_mul_of_pos_left _ dir.base_pos)
  intro w hw
  cases hahead : m.ahead with
  | nil =>
    simp only [words, hahead, List.mem_cons, List.not_mem_nil, or_false] at hw
    rcases hw with rfl | rfl | rfl
    · exact hcarry
    · exact Nat.lt_of_le_of_lt (hlow _) hcarry
    · exact Nat.lt_of_le_of_lt (hhigh _) hcarry
  | cons d ds =>
    have hd : d ∈ m.ahead := hahead ▸ List.mem_cons_self
    have hexact := h.toNat_carry_add_raise hd
    have hsum : (m.carry + dir.raise d).toNat < dir.base * dir.scale := hexact ▸ h.sum_lt hd
    have hdigit : d.toNat ≤ d.toNat * dir.scale := Nat.le_mul_of_pos_right _ dir.scale_pos
    simp only [words, hahead, List.mem_cons, List.not_mem_nil, or_false] at hw
    rcases hw with rfl | rfl | rfl | rfl | rfl | rfl
    · exact hcarry
    · rw [UInt8.toNat_toUInt32]
      omega
    · rw [dir.toNat_raise]
      omega
    · exact hsum
    · exact Nat.lt_of_le_of_lt (hlow _) hsum
    · exact Nat.lt_of_le_of_lt (hhigh _) hsum

theorem isNumeral (h : m.Sound dir input) (hrest : m.AtRest) :
    IsNumeral dir.base (bigEndian dir.scale (dir.digitsOf m.read))
      (m.buffer.reverse.map UInt8.toNat) := by
  rw [isNumeral_iff dir.two_le_base, List.map_reverse, h.buffer_eq hrest, bigEndian_eq_value]
  rfl

/-- Between two items the counted zeros and the buffer are what `rebase` gives for the digits that
have been read. -/
theorem rebase_eq (h : m.Sound dir input) (hrest : m.AtRest) :
    rebase dir.base dir.scale (dir.digitsOf m.read)
      = List.replicate m.zeros 0 ++ m.buffer.reverse.map UInt8.toNat :=
  (rebase_eq_iff dir.two_le_base dir.scale_pos).mpr ⟨_, h.isNumeral hrest, h.zeros_eq ▸ rfl⟩

/-- The bounds follow from the two bases. -/
theorem inRange (h : m.Sound dir input) :
    m.InRange dir ⟨dir.scale - 1, dir.base * dir.scale - 1, dir.width⟩ where
  stored_lt := h.stored_lt
  carry_le := Nat.le_sub_one_of_lt h.carry_lt_scale
  words_le w hw := Nat.le_sub_one_of_lt (h.words_lt w hw)
  pushed_le := h.pushed_le
  minimal := h.isNumeral
  product_exact d _ := dir.toNat_raise d
  sum_exact d hd := by
    rw [h.toNat_carry_add_raise (List.mem_of_mem_head? hd), dir.toNat_raise]
  narrowed_exact := ⟨dir.low_lt _, dir.toNat_toUInt8_low _⟩
  length_le := h.length_le

end Sound

end Moment

/-- The loops keep within the limits throughout. They come to rest behind each item as long as all
have digits, and they end. -/
structure Direction.StaysWithin {α : Type} (dir : Direction α) (limits : Limits)
    (input : List α) : Prop where
  inRange : ∀ m, Run dir input m → m.read <+: input ∧ m.InRange dir limits
  rests : ∀ before, before <+: input → (∀ x ∈ before, dir.digit? x ≠ none) →
    ∃ m, Run dir input m ∧ m.AtRest ∧ m.read = before
  ends : ∃ m, Run dir input m ∧ m.Stops dir

/-- The limits are those that the two bases set. -/
theorem Direction.staysWithin {α : Type} (dir : Direction α) (input : List α) :
    dir.StaysWithin ⟨dir.scale - 1, dir.base * dir.scale - 1, dir.width⟩ input where
  inRange m hrun := ⟨⟨_, hrun.sound.split⟩, hrun.sound.inRange⟩
  rests before hprefix hall := by
    obtain ⟨more, rfl⟩ := hprefix
    exact Run.exists_atRest hall more
  ends := Run.exists_stops dir input

end Radix

namespace Base58

open Radix (Direction Moment Run rebase)

/-! ## The two directions -/

/-- Bytes are read, and digits in base 58 are stored. -/
def writing : Direction UInt8 where
  base := 58
  scale := 256
  width := 2
  digit? := some
  raise d := d.toUInt32 <<< 8
  low w := w % 58
  high w := w / 58
  two_le_base := by decide
  base_le := by decide
  product_le := by decide
  scale_pos := by decide
  width_pos := by decide
  scale_le := by decide
  digit_lt {_ d} _ := d.toNat_lt
  toNat_raise d := by
    have hd := d.toNat_lt
    rw [UInt32.toNat_shiftLeft, UInt8.toNat_toUInt32, Nat.shiftLeft_eq]
    exact Nat.mod_eq_of_lt (by simp; omega)
  toNat_low w := UInt32.toNat_mod w 58
  toNat_high w := UInt32.toNat_div w 58

theorem digit?_of_tableDigit? {c : Char} {d : UInt8}
    (h : (tableDigit? c).map UInt8.ofNat = some d) : digit? c = some d.toNat := by
  rw [tableDigit?_eq] at h
  obtain ⟨n, hn, rfl⟩ := Option.map_eq_some_iff.mp h
  have hlt := (symbol_of_digit? hn).1
  rw [hn, UInt8.toNat_ofNat_of_lt' (Nat.lt_trans hlt (by decide))]

/-- Characters are read by the table of their digits, and bytes are stored. -/
def reading : Direction Char where
  base := 256
  scale := 58
  width := 1
  digit? c := (tableDigit? c).map UInt8.ofNat
  raise d := d.toUInt32 * 58
  low w := w &&& 0xff
  high w := w >>> 8
  two_le_base := by decide
  base_le := by decide
  product_le := by decide
  scale_pos := by decide
  width_pos := by decide
  scale_le := by decide
  digit_lt h := (symbol_of_digit? (digit?_of_tableDigit? h)).1
  toNat_raise d := by
    have hd := d.toNat_lt
    rw [UInt32.toNat_mul, UInt8.toNat_toUInt32]
    exact Nat.mod_eq_of_lt (by simp; omega)
  toNat_low w := (UInt32.toNat_and w 0xff).trans (Nat.and_two_pow_sub_one_eq_mod w.toNat 8)
  toNat_high w := by
    rw [UInt32.toNat_shiftRight]
    exact Nat.shiftRight_eq_div_pow w.toNat 8

theorem reading_digit?_eq_none_iff {c : Char} : reading.digit? c = none ↔ c ∉ alphabet := by
  rw [← digit?_eq_none_iff, ← tableDigit?_eq]
  exact Option.map_eq_none_iff

theorem writing_digit? (b : UInt8) : writing.digit? b = some b := rfl

theorem reading_digit?_symbol (d : Nat) (hd : d < 58) :
    reading.digit? (symbol d) = some (UInt8.ofNat d) :=
  congrArg (Option.map UInt8.ofNat) ((tableDigit?_eq _).trans (digit?_symbol d hd))

theorem writing_digitsOf (bytes : List UInt8) : writing.digitsOf bytes = bytes.map UInt8.toNat := by
  rw [Direction.digitsOf]
  exact congrArg (List.map UInt8.toNat) (List.filterMap_some)

/-- Characters of the alphabet are read as the digits that they are written for. -/
theorem reading_digitsOf {cs : List Char} (hcs : cs ⊆ alphabet) :
    (reading.digitsOf cs).map symbol = cs ∧ ∀ d ∈ reading.digitsOf cs, d < 58 := by
  induction cs with
  | nil => exact ⟨rfl, fun _ hd => absurd hd List.not_mem_nil⟩
  | cons c cs ih =>
    obtain ⟨hc, hcs⟩ := List.cons_subset.mp hcs
    obtain ⟨hmap, hlt⟩ := ih hcs
    obtain ⟨d, hd⟩ := Option.ne_none_iff_exists'.mp fun h => reading_digit?_eq_none_iff.mp h hc
    obtain ⟨hd58, hsymbol⟩ := symbol_of_digit? (digit?_of_tableDigit? hd)
    have hdigits : reading.digitsOf (c :: cs) = d.toNat :: reading.digitsOf cs := by
      rw [Direction.digitsOf, List.filterMap_cons_some hd]
      rfl
    rw [hdigits, List.map_cons, hsymbol, hmap]
    exact ⟨rfl, List.forall_mem_cons.mpr ⟨hd58, hlt⟩⟩

/-! ## What the loops give -/

/-- Writing stops behind the last byte. What is written is one `1` for each zero that was counted,
and the characters that the alphabet has in the places of the stored digits. -/
theorem encode_of_stops {bytes : List UInt8} {m : Moment UInt8} (hrun : Run writing bytes m)
    (hstop : m.Stops writing) :
    m.read = bytes ∧ ∃ cs, Spells (m.buffer.reverse.map UInt8.toNat) cs ∧
      (encode bytes).toList = List.replicate m.zeros '1' ++ cs := by
  have hsound := hrun.sound
  have hrest := (Radix.Moment.stops_iff.mp hstop).1
  have hread : m.read = bytes :=
    hsound.read_eq hstop fun b _ => writing_digit? b ▸ Option.some_ne_none b
  refine ⟨hread, _, spells_iff.mpr ⟨rfl, (hsound.isNumeral hrest).digit_lt⟩, ?_⟩
  have hrebase := hsound.rebase_eq hrest
  rw [writing_digitsOf, hread] at hrebase
  rw [toList_encode, show rebase 58 256 _ = _ from hrebase, List.map_append, List.map_replicate]
  rfl

/-- What is returned when no turn is left: a fault if a character stands there, otherwise one zero
for each that was counted, and the stored bytes, most significant first. -/
def readout (m : Moment Char) : Except InvalidChar (List UInt8) :=
  match m.unread with
  | [] => .ok (List.replicate m.zeros 0 ++ m.buffer.reverse)
  | c :: _ => .error ⟨c, (Text.bytesOf m.read).length⟩

theorem decode_of_stops {text : String} {m : Moment Char} (hrun : Run reading text.toList m)
    (hstop : m.Stops reading) : decode text = readout m := by
  obtain ⟨hrest, hnone⟩ := Radix.Moment.stops_iff.mp hstop
  have hsound := hrun.sound
  have hread : m.read ⊆ alphabet := fun c hc =>
    by_contra fun hout => hsound.readable c hc (reading_digit?_eq_none_iff.mpr hout)
  rw [readout]
  cases hunread : m.unread with
  | nil =>
    have htext : m.read = text.toList := by
      rw [← hsound.split, hunread, List.append_nil]
    have hdigits : digitsFrom 0 text.toList = .ok (reading.digitsOf m.read) :=
      digitsFrom_eq_ok_iff.mpr (htext ▸ reading_digitsOf hread)
    refine decode_eq_ok_iff_digits.mpr ⟨_, hdigits, ?_⟩
    rw [bytesOfDigits_eq, show rebase 256 58 _ = _ from hsound.rebase_eq hrest, List.map_append,
      List.map_replicate, map_ofNat_map_toNat]
    rfl
  | cons c behind =>
    have hc : c ∉ alphabet := reading_digit?_eq_none_iff.mp (hnone c (hunread ▸ rfl))
    rw [decode_eq_error_iff, ← hsound.split, hunread, digitsFrom_append_cons hread hc,
      Nat.zero_add]

/-- Throughout writing and reading, for inputs of every length, no sum wraps around, no narrowing
loses bits, and behind each item the buffer is the minimal numeral of what has been read. In the end
each stored digit has its place in the alphabet, and the result is that of `encode` and `decode`. -/
theorem loops_in_range :
    (∀ bytes, writing.StaysWithin ⟨255, 14847, 2⟩ bytes) ∧
      (∀ cs, reading.StaysWithin ⟨57, 14847, 1⟩ cs) ∧
      (∀ bytes m, Run writing bytes m → m.Stops writing → m.read = bytes ∧
        ∃ cs, Spells (m.buffer.reverse.map UInt8.toNat) cs ∧
          (encode bytes).toList = List.replicate m.zeros '1' ++ cs) ∧
      ∀ (text : String) m, Run reading text.toList m → m.Stops reading → decode text = readout m :=
  ⟨writing.staysWithin, reading.staysWithin, fun _ _ => encode_of_stops, fun _ _ => decode_of_stops⟩

/-- The byte 115 has become two digits, and the next byte meets the lower one, the highest there
is. -/
def fullWriting : Moment UInt8 :=
  ⟨[115, 255], [], 0, false, [], 255, [57, 1], 0⟩

theorem run_fullWriting : Run writing [115, 255] fullWriting := by
  have hread : Run writing [115, 255] ⟨[115], [255], 0, false, [], 115, [], 0⟩ :=
    .single (.item ⟨rfl, rfl⟩ rfl (writing_digit? 115) (by decide))
  have hlow : Run writing [115, 255] ⟨[115], [255], 0, false, [57], 1, [], 1⟩ :=
    .tail hread (.append rfl (by decide))
  have hhigh : Run writing [115, 255] ⟨[115], [255], 0, false, [57, 1], 0, [], 2⟩ :=
    .tail hlow (.append rfl (by decide))
  exact .tail hhigh (.item ⟨rfl, rfl⟩ rfl (writing_digit? 255) (by decide))

/-- Two characters have become the byte 255, and the next character is that of the digit 57. -/
def fullReading : Moment Char :=
  ⟨['5', 'Q', 'z'], [], 0, false, [], 57, [255], 0⟩

theorem run_fullReading : Run reading ['5', 'Q', 'z'] fullReading := by
  have hfirst : Run reading ['5', 'Q', 'z'] ⟨['5'], ['Q', 'z'], 0, false, [], 4, [], 0⟩ :=
    .tail .refl (.item ⟨rfl, rfl⟩ rfl (reading_digit?_symbol 4 (by decide)) (by decide))
  have hpushed : Run reading ['5', 'Q', 'z'] ⟨['5'], ['Q', 'z'], 0, false, [4], 0, [], 1⟩ :=
    .tail hfirst (.append rfl (by decide))
  have hsecond : Run reading ['5', 'Q', 'z'] ⟨['5', 'Q'], ['z'], 0, false, [], 23, [4], 0⟩ :=
    .tail hpushed (.item ⟨rfl, rfl⟩ rfl (reading_digit?_symbol 23 (by decide)) (by decide))
  have hvisited : Run reading ['5', 'Q', 'z'] ⟨['5', 'Q'], ['z'], 0, false, [255], 0, [], 0⟩ :=
    .tail hsecond (.visit rfl)
  exact .tail hvisited (.item ⟨rfl, rfl⟩ rfl (reading_digit?_symbol 57 (by decide)) (by decide))

/-- In both directions some carry and some sum are as high as the limits. -/
theorem loops_in_range_attained :
    (Run writing [115, 255] fullWriting ∧ fullWriting.InRange writing ⟨255, 14847, 2⟩ ∧
      fullWriting.total writing = 14847) ∧
    (Run reading ['5', 'Q', 'z'] fullReading ∧ fullReading.InRange reading ⟨57, 14847, 1⟩ ∧
      fullReading.total reading = 14847) :=
  ⟨⟨run_fullWriting, ((loops_in_range.1 _).inRange _ run_fullWriting).2, by decide⟩,
    ⟨run_fullReading, ((loops_in_range.2.1 _).inRange _ run_fullReading).2, by decide⟩⟩

end Base58

end ContractFixtures
