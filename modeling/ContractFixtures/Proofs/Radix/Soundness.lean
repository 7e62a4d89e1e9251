import ContractFixtures.Proofs.Radix.Conversion
import ContractFixtures.Proofs.Radix.Words

/-!
# Words are large enough

In a conversion on machine words the carry stays below the base that is read, so a sum stays below
the product of the two bases. That is less than a word holds: the arithmetic of words is that of
numbers, and a pass over the buffer is a `push` onto the numeral in it.

* `Moment.Sound`: what holds at every moment.

Results:
1. `Moment.Sound.toNat_carry_add_raise`: the inner loop's sum does not wrap around.
2. `Step.sound`, `Run.sound`: a turn of a loop keeps what holds at every moment, so it holds
   throughout a run.
3. `Moment.Sound.length_le`: how much is counted and stored.
4. `Moment.Sound.buffer_eq`: between two items the buffer is the numeral of the number that has been
   read.
5. `Run.exists_atRest`: a run comes between any two items.
-/

namespace ContractFixtures.Radix

variable {α : Type} {dir : Direction α} {input : List α} {m m' : Moment α}

/-! ## Zeros in front -/

theorem length_zeros_concat_zero {ds : List Nat} (h : ∀ d ∈ ds, d = 0) :
    ((ds ++ [0]).takeWhile (· == 0)).length = (ds.takeWhile (· == 0)).length + 1 := by
  have hds : ∀ d ∈ ds, (d == 0) = true := fun d hd => beq_iff_eq.mpr (h d hd)
  rw [List.takeWhile_append_of_pos hds, List.length_append, List.takeWhile_eq_self_iff.mpr hds]
  rfl

/-- A digit is no further zero in front unless it is a zero behind zeros. -/
theorem zeros_concat {ds : List Nat} {d : Nat} (h : ¬((∀ e ∈ ds, e = 0) ∧ d = 0)) :
    (ds ++ [d]).takeWhile (· == 0) = ds.takeWhile (· == 0) := by
  rw [List.takeWhile_append]
  split
  · next hlen =>
    have hds : ds.takeWhile (· == 0) = ds := List.takeWhile_prefix _ |>.eq_of_length hlen
    have hd : d ≠ 0 := fun hd => h ⟨fun e he => eq_zero_of_mem_zeros (hds ▸ he), hd⟩
    rw [List.takeWhile_cons_of_neg (by simpa using hd), List.append_nil, hds]
  · rfl

theorem Direction.number_eq_zero {xs : List α} (h : ∀ d ∈ dir.digitsOf xs, d = 0) :
    dir.number xs = 0 := by
  have hzeros : ∀ d ∈ (dir.digitsOf xs).reverse, d = 0 := fun d hd => h d (List.mem_reverse.mp hd)
  rw [number, value_eq_ofDigits, List.eq_replicate_of_mem hzeros]
  exact Nat.ofDigits_replicate_zero

/-! ## What holds at every moment -/

/-- The digits that are read are those of the items in front, and the stored digits with what is
left of the carry are the numeral of their number.

* `leading_iff`, `resting`: no pass is made for zeros in front.
* `carry_lt`: the carry is below the scale, and by a factor of the base for each digit that the
  closing loop has appended; this is why that loop is short.
* `room`: a digit that is read makes room for `width` digits. Of this room a pass has used up what
  its closing loop has appended.
* `numeral`: what the loops have still to do is a `push` of the carry onto the digits ahead. -/
structure Moment.Sound (dir : Direction α) (input : List α) (m : Moment α) : Prop where
  split : m.read ++ m.unread = input
  readable : ∀ x ∈ m.read, dir.digit? x ≠ none
  zeros_eq : m.zeros = ((dir.digitsOf m.read).takeWhile (· == 0)).length
  leading_iff : m.leading = true ↔ ∀ d ∈ dir.digitsOf m.read, d = 0
  resting : m.leading = true → m.AtRest ∧ m.pushed = 0
  stored_lt : ∀ d ∈ m.buffer, d.toNat < dir.base
  carry_lt : m.carry.toNat * dir.base ^ m.pushed < dir.scale
  pushed_eq : m.ahead ≠ [] → m.pushed = 0
  pushed_le : m.pushed ≤ dir.width
  room : m.zeros + m.buffer.length + (if m.leading then 0 else dir.width)
    ≤ dir.width * m.read.length + m.pushed
  numeral : m.formed.map UInt8.toNat
      ++ push dir.base dir.scale (m.ahead.map UInt8.toNat) m.carry.toNat
    = digits dir.base (dir.number m.read)

namespace Moment.Sound

theorem start (dir : Direction α) (input : List α) : (Moment.start input).Sound dir input where
  split := rfl
  readable _ hx := absurd hx List.not_mem_nil
  zeros_eq := rfl
  leading_iff := ⟨fun _ _ hd => absurd hd List.not_mem_nil, fun _ => rfl⟩
  resting _ := ⟨⟨rfl, rfl⟩, rfl⟩
  stored_lt _ hd := absurd hd List.not_mem_nil
  carry_lt := by simpa [Moment.start] using dir.scale_pos
  pushed_eq h := absurd rfl h
  pushed_le := Nat.zero_le _
  room := Nat.zero_le _
  numeral := (digits_zero dir.base).trans (digits_zero dir.base).symm

/-- A digit that is read makes the counted zeros and the stored digits more by its width at most. -/
theorem length_le (h : m.Sound dir input) :
    m.zeros + m.buffer.length ≤ dir.width * m.read.length := by
  have hroom := h.room
  cases hlead : m.leading with
  | true =>
    have hpushed := (h.resting hlead).2
    simp only [hlead, if_true] at hroom
    omega
  | false =>
    have hpushed := h.pushed_le
    simp only [hlead, Bool.false_eq_true, if_false] at hroom
    omega

theorem carry_lt_scale (h : m.Sound dir input) : m.carry.toNat < dir.scale :=
  Nat.lt_of_le_of_lt (Nat.le_mul_of_pos_right _ (Nat.pow_pos dir.base_pos)) h.carry_lt

/-- Between two items the buffer is the numeral of the number that has been read. -/
theorem buffer_eq (h : m.Sound dir input) (hrest : m.AtRest) :
    m.buffer.map UInt8.toNat = digits dir.base (dir.number m.read) := by
  have hnil : push dir.base dir.scale [] (UInt32.toNat 0) = [] := digits_zero dir.base
  rw [← h.numeral, buffer, hrest.1, hrest.2, List.map_nil, hnil, List.append_nil, List.append_nil]

end Moment.Sound

/-! ## Sums of words -/

namespace Moment.Sound

theorem ahead_lt (h : m.Sound dir input) {d : UInt8} (hd : d ∈ m.ahead) : d.toNat < dir.base :=
  h.stored_lt d (List.mem_append_right _ hd)

/-- The inner loop's sum, made of a digit below the base and a carry below the scale, is below their
product. -/
theorem sum_lt (h : m.Sound dir input) {d : UInt8} (hd : d ∈ m.ahead) :
    m.carry.toNat + d.toNat * dir.scale < dir.base * dir.scale := by
  have hdigit : (d.toNat + 1) * dir.scale ≤ dir.base * dir.scale :=
    Nat.mul_le_mul_right _ (h.ahead_lt hd)
  rw [Nat.succ_mul] at hdigit
  have hcarry := h.carry_lt_scale
  omega

/-- The inner loop's sum does not wrap around. -/
theorem toNat_carry_add_raise (h : m.Sound dir input) {d : UInt8} (hd : d ∈ m.ahead) :
    (m.carry + dir.raise d).toNat = m.carry.toNat + d.toNat * dir.scale := by
  rw [UInt32.toNat_add, dir.toNat_raise]
  exact Nat.mod_eq_of_lt (Nat.lt_of_lt_of_le (h.sum_lt hd) dir.product_le)

/-- What is carried on is below the scale again. -/
theorem high_lt (h : m.Sound dir input) {d : UInt8} {ds : List UInt8} (hahead : m.ahead = d :: ds) :
    (dir.high (m.total dir)).toNat < dir.scale := by
  have hd : d ∈ m.ahead := hahead ▸ List.mem_cons_self
  rw [dir.toNat_high, total_of_cons hahead, h.toNat_carry_add_raise hd]
  exact Nat.div_lt_of_lt_mul (h.sum_lt hd)

end Moment.Sound

/-! ## Turns -/

namespace Moment.Sound

theorem split_concat (h : m.Sound dir input) {x : α} {xs : List α} (hunread : m.unread = x :: xs) :
    m.read ++ [x] ++ xs = input := by
  rw [List.append_assoc, List.singleton_append, ← hunread, h.split]

theorem readable_concat (h : m.Sound dir input) {x : α} {d : UInt8} (hx : dir.digit? x = some d) :
    ∀ y ∈ m.read ++ [x], dir.digit? y ≠ none := by
  intro y hy
  rcases List.mem_append.mp hy with hy | hy
  · exact h.readable y hy
  · rw [List.mem_singleton.mp hy, hx]
    exact Option.some_ne_none d

/-- A turn stores one digit, and its pass has only digits ahead that were ahead before. -/
theorem stored_concat_lt (h : m.Sound dir input) (w : UInt32) {ds : List UInt8}
    (hds : ds ⊆ m.ahead) : ∀ e ∈ m.formed ++ [(dir.low w).toUInt8] ++ ds, e.toNat < dir.base := by
  intro e he
  simp only [List.append_assoc, List.mem_append, List.mem_singleton] at he
  rcases he with he | rfl | he
  · exact h.stored_lt e (List.mem_append_left _ he)
  · exact (dir.toNat_toUInt8_low w).symm ▸ dir.low_lt w
  · exact h.ahead_lt (hds he)

theorem zero (h : m.Sound dir input) {x : α} {xs : List α} (hunread : m.unread = x :: xs)
    (hx : dir.digit? x = some 0) (hlead : m.leading = true) :
    Sound dir input { m with read := m.read ++ [x], unread := xs, zeros := m.zeros + 1 } := by
  have hzeros : ∀ d ∈ dir.digitsOf m.read, d = 0 := h.leading_iff.mp hlead
  have hnumber : dir.number (m.read ++ [x]) = dir.number m.read := by
    rw [Direction.number_concat hx, Direction.number_eq_zero hzeros]
    rfl
  have hdigits := Direction.digitsOf_concat hx m.read
  exact { h with
    split := h.split_concat hunread
    readable := h.readable_concat hx
    zeros_eq := by
      rw [hdigits, h.zeros_eq]
      exact (length_zeros_concat_zero hzeros).symm
    leading_iff := by
      rw [hdigits]
      refine iff_of_true hlead fun d hd => ?_
      rcases List.mem_append.mp hd with hd | hd
      · exact hzeros d hd
      · exact List.mem_singleton.mp hd
    room := by
      have hroom := h.room
      have hwidth := dir.width_pos
      simp only [buffer, hlead, if_true, List.length_append, List.length_singleton,
        Nat.mul_succ] at hroom ⊢
      omega
    numeral := by rw [hnumber]; exact h.numeral }

theorem item (h : m.Sound dir input) (hrest : m.AtRest) {x : α} {xs : List α} {d : UInt8}
    (hunread : m.unread = x :: xs) (hx : dir.digit? x = some d)
    (hlead : ¬(m.leading = true ∧ d = 0)) :
    Sound dir input { m with
      read := m.read ++ [x], unread := xs, leading := false
      formed := [], carry := d.toUInt32, ahead := m.formed, pushed := 0 } := by
  have hdigits := Direction.digitsOf_concat hx m.read
  have hbuffer : m.buffer = m.formed := by rw [buffer, hrest.1, List.append_nil]
  have hnonzero : ¬((∀ e ∈ dir.digitsOf m.read, e = 0) ∧ d.toNat = 0) := by
    rw [← h.leading_iff]
    exact fun hz => hlead ⟨hz.1, UInt8.toNat_inj.mp hz.2⟩
  exact {
    split := h.split_concat hunread
    readable := h.readable_concat hx
    zeros_eq := by
      rw [hdigits, zeros_concat hnonzero]
      exact h.zeros_eq
    leading_iff := by
      rw [hdigits]
      refine iff_of_false Bool.false_ne_true fun hz => hnonzero ?_
      exact (List.forall_mem_append.mp hz).imp_right fun hd => hd _ (List.mem_singleton_self _)
    resting := fun hlead => nomatch hlead
    stored_lt := fun e he => h.stored_lt e (hbuffer ▸ he)
    carry_lt := by
      rw [Nat.pow_zero, Nat.mul_one, UInt8.toNat_toUInt32]
      exact dir.digit_lt hx
    pushed_eq := fun _ => rfl
    pushed_le := Nat.zero_le _
    room := by
      have hlength := h.length_le
      rw [hbuffer] at hlength
      simp only [buffer, List.nil_append, List.length_append, List.length_singleton, Nat.mul_succ]
      exact Nat.add_le_add_right hlength _
    numeral := by
      rw [List.map_nil, List.nil_append, ← hbuffer, h.buffer_eq hrest, UInt8.toNat_toUInt32,
        push_digits dir.two_le_base dir.scale_pos, Direction.number_concat hx] }

/-- A turn of the inner loop does what `push` does with one digit. -/
theorem visit (h : m.Sound dir input) {d : UInt8} {ds : List UInt8} (hahead : m.ahead = d :: ds) :
    Sound dir input { m with
      formed := m.formed ++ [(dir.low (m.total dir)).toUInt8]
      carry := dir.high (m.total dir), ahead := ds } := by
  have hd : d ∈ m.ahead := hahead ▸ List.mem_cons_self
  have hpushed : m.pushed = 0 := h.pushed_eq (hahead ▸ List.cons_ne_nil d ds)
  have htotal : (m.total dir).toNat = m.carry.toNat + d.toNat * dir.scale := by
    rw [total_of_cons hahead, h.toNat_carry_add_raise hd]
  exact { h with
    resting := fun hlead => absurd (h.resting hlead).1.1 (hahead ▸ List.cons_ne_nil d ds)
    stored_lt := h.stored_concat_lt _ (hahead ▸ List.subset_cons_self d ds)
    carry_lt := by
      rw [hpushed, Nat.pow_zero, Nat.mul_one]
      exact h.high_lt hahead
    pushed_eq := fun _ => hpushed
    room := by
      have hroom := h.room
      simp only [buffer, hahead, List.length_append, List.length_cons, List.length_nil] at hroom ⊢
      omega
    numeral := by
      rw [← h.numeral, hahead, List.map_append, List.append_assoc, List.map_cons, List.map_cons,
        List.map_nil, push, dir.toNat_stored, dir.toNat_high, htotal]
      rfl }

/-- A turn of the closing loop writes one digit of what is left of the carry. -/
theorem append (h : m.Sound dir input) (hahead : m.ahead = []) (hcarry : m.carry ≠ 0) :
    Sound dir input { m with
      formed := m.formed ++ [(dir.low (m.total dir)).toUInt8]
      carry := dir.high (m.total dir), pushed := m.pushed + 1 } := by
  have hpos : 0 < m.carry.toNat := toNat_carry_pos hcarry
  -- A carry that is not 0 leaves room for one more digit.
  have hpushed : m.pushed < dir.width := by
    refine (Nat.pow_lt_pow_iff_right dir.two_le_base).mp ?_
    calc dir.base ^ m.pushed
      _ ≤ m.carry.toNat * dir.base ^ m.pushed := Nat.le_mul_of_pos_left _ hpos
      _ < dir.scale := h.carry_lt
      _ ≤ dir.base ^ dir.width := dir.scale_le
  rw [total_of_nil hahead]
  exact { h with
    resting := fun hlead => absurd (h.resting hlead).1.2 hcarry
    stored_lt := h.stored_concat_lt _ (List.Subset.refl _)
    carry_lt := by
      rw [dir.toNat_high, Nat.pow_succ', ← Nat.mul_assoc]
      exact Nat.lt_of_le_of_lt (Nat.mul_le_mul_right _ (Nat.div_mul_le_self _ _)) h.carry_lt
    pushed_eq := fun hne => absurd hahead hne
    pushed_le := hpushed
    room := by
      have hroom := h.room
      simp only [buffer, List.length_append, List.length_singleton] at hroom ⊢
      omega
    numeral := by
      rw [← h.numeral, hahead, List.map_append, List.append_assoc, List.map_nil, push, push,
        digits_of_pos dir.two_le_base hpos, dir.toNat_high]
      exact congrArg (fun e => _ ++ e :: _) (dir.toNat_stored m.carry) }

end Moment.Sound

/-- A turn keeps what holds at every moment. -/
theorem Step.sound (hstep : Step dir m m') (h : m.Sound dir input) : m'.Sound dir input := by
  cases hstep with
  | zero _ hunread hx hlead => exact h.zero hunread hx hlead
  | item hrest hunread hx hlead => exact h.item hrest hunread hx hlead
  | visit hahead => exact h.visit hahead
  | append hahead hcarry => exact h.append hahead hcarry

/-- It holds at every moment that is reached. -/
theorem Run.sound (hrun : Run dir input m) : m.Sound dir input := by
  induction hrun with
  | refl => exact .start dir input
  | tail _ hstep ih => exact hstep.sound ih

/-! ## Items read -/

/-- A conversion that stops has read all items, if all have digits. -/
theorem Moment.Sound.read_eq (h : m.Sound dir input) (hstop : m.Stops dir)
    (hall : ∀ x ∈ input, dir.digit? x ≠ none) : m.read = input := by
  obtain ⟨-, hnone⟩ := Moment.stops_iff.mp hstop
  cases hunread : m.unread with
  | nil => rw [← h.split, hunread, List.append_nil]
  | cons x xs =>
    have hx : x ∈ input := h.split ▸ List.mem_append_right _ (hunread ▸ List.mem_cons_self)
    exact absurd (hnone x (hunread ▸ rfl)) (hall x hx)

/-- A conversion comes to rest behind each of the items in front that have digits. -/
theorem Run.exists_atRest {before : List α} (hall : ∀ x ∈ before, dir.digit? x ≠ none)
    (more : List α) : ∃ m, Run dir (before ++ more) m ∧ m.AtRest ∧ m.read = before := by
  obtain ⟨m, hrun, hstop⟩ := Run.exists_stops dir before
  exact ⟨m.followedBy more, hrun.followedBy more, (Moment.stops_iff.mp hstop).1,
    hrun.sound.read_eq hstop hall⟩

end ContractFixtures.Radix
