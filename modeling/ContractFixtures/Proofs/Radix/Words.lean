import ContractFixtures.Radix
import Mathlib.Algebra.Group.Nat.Defs
import Mathlib.Logic.Relation
import Mathlib.Order.RelClasses

/-!
# Conversion on machine words

A numeral can be grown in place, in a buffer of bytes. Each digit that is read starts a pass: it is
the first carry, an inner loop takes the carry through the stored digits from the least significant
one on, and a closing loop appends digits until nothing is left of the carry. The carry is a word of
32 bits, and what is stored of it is narrowed to a byte. Nothing here says that the words are large
enough: sums wrap around, and narrowing drops high bits.

* `Direction`: the two bases, and the arithmetic of words that stands for that of numbers.
* `Moment`: a conversion between two turns of its loops.
* `Step`, `Run`: one turn of a loop, and what is reached from the start.

Results:
1. `Run.followedBy`: a run on the items in front is the front of a run on all items.
2. `Direction.toNat_toUInt8_low`: what is stored of a word fits a byte.
3. `Moment.stops_iff`: where a run ends.
4. `Run.exists_stops`: every run ends.
-/

namespace ContractFixtures.Radix

/-! ## Loops -/

/-- Digits of base `scale` are read from items, digits of base `base` are stored. The operations on
words stand for a product, a remainder and a quotient of numbers. -/
structure Direction (α : Type) where
  base : Nat
  scale : Nat
  /-- So many stored digits are enough for one digit that is read. -/
  width : Nat
  /-- The digit of an item, if it has one. -/
  digit? : α → Option UInt8
  /-- A stored digit times the scale. -/
  raise : UInt8 → UInt32
  /-- The part of a sum that is stored. -/
  low : UInt32 → UInt32
  /-- The part of a sum that is carried on. -/
  high : UInt32 → UInt32
  two_le_base : 2 ≤ base
  base_le : base ≤ UInt8.size
  product_le : base * scale ≤ UInt32.size
  scale_pos : 0 < scale
  width_pos : 0 < width
  scale_le : scale ≤ base ^ width
  digit_lt : ∀ {x d}, digit? x = some d → d.toNat < scale
  toNat_raise : ∀ d, (raise d).toNat = d.toNat * scale
  toNat_low : ∀ w, (low w).toNat = w.toNat % base
  toNat_high : ∀ w, (high w).toNat = w.toNat / base

/-- A conversion between two turns of its loops. -/
structure Moment (α : Type) where
  /-- The items whose digits have been read, the one of the present pass included. -/
  read : List α
  unread : List α
  /-- The zeros in front, which are counted and not stored. -/
  zeros : Nat
  /-- Only zeros have been read. -/
  leading : Bool
  /-- The digits that the present pass has formed. -/
  formed : List UInt8
  carry : UInt32
  /-- The digits of the last pass that the carry has still to go through. -/
  ahead : List UInt8
  /-- The digits that the closing loop has appended in the present pass. -/
  pushed : Nat

namespace Moment

variable {α : Type} {dir : Direction α} {m : Moment α}

def start (input : List α) : Moment α :=
  ⟨[], input, 0, true, [], 0, [], 0⟩

/-- The stored digits, least significant first. -/
def buffer (m : Moment α) : List UInt8 :=
  m.formed ++ m.ahead

/-- Both loops are over, and the next item has not been read. -/
def AtRest (m : Moment α) : Prop :=
  m.ahead = [] ∧ m.carry = 0

/-- The sum that the next turn splits: the inner loop adds the raised digit to the carry, the
closing loop takes the carry alone. -/
def total (dir : Direction α) (m : Moment α) : UInt32 :=
  match m.ahead with
  | [] => m.carry
  | d :: _ => m.carry + dir.raise d

theorem total_of_nil (hahead : m.ahead = []) : m.total dir = m.carry := by
  rw [total, hahead]

theorem total_of_cons {d : UInt8} {ds : List UInt8} (hahead : m.ahead = d :: ds) :
    m.total dir = m.carry + dir.raise d := by
  rw [total, hahead]

theorem toNat_carry_pos (hcarry : m.carry ≠ 0) : 0 < m.carry.toNat :=
  Nat.pos_of_ne_zero fun hz => hcarry (UInt32.toNat_inj.mp hz)

end Moment

variable {α : Type} {dir : Direction α} {input : List α} {m m' : Moment α}

/-- One turn of a loop. Sums wrap around and narrowing drops high bits, as machine arithmetic
does. -/
inductive Step (dir : Direction α) (m : Moment α) : Moment α → Prop
  /-- A zero in front of all other digits is counted. -/
  | zero {x : α} {xs : List α} : m.AtRest → m.unread = x :: xs → dir.digit? x = some 0 →
      m.leading = true →
      Step dir m { m with read := m.read ++ [x], unread := xs, zeros := m.zeros + 1 }
  /-- Any other digit is the first carry of a pass over what has been formed. -/
  | item {x : α} {xs : List α} {d : UInt8} : m.AtRest → m.unread = x :: xs →
      dir.digit? x = some d → ¬(m.leading = true ∧ d = 0) →
      Step dir m { m with
        read := m.read ++ [x], unread := xs, leading := false
        formed := [], carry := d.toUInt32, ahead := m.formed, pushed := 0 }
  /-- A turn of the inner loop. -/
  | visit {d : UInt8} {ds : List UInt8} : m.ahead = d :: ds →
      Step dir m { m with
        formed := m.formed ++ [(dir.low (m.total dir)).toUInt8]
        carry := dir.high (m.total dir), ahead := ds }
  /-- A turn of the closing loop. -/
  | append : m.ahead = [] → m.carry ≠ 0 →
      Step dir m { m with
        formed := m.formed ++ [(dir.low (m.total dir)).toUInt8]
        carry := dir.high (m.total dir), pushed := m.pushed + 1 }

/-- What is reached from the start. -/
def Run (dir : Direction α) (input : List α) : Moment α → Prop :=
  Relation.ReflTransGen (Step dir) (.start input)

/-- No turn is left. -/
def Moment.Stops (dir : Direction α) (m : Moment α) : Prop :=
  ∀ m', ¬Step dir m m'

/-! ## More items -/

/-- The same moment with more items behind. -/
def Moment.followedBy (m : Moment α) (more : List α) : Moment α :=
  { m with unread := m.unread ++ more }

theorem Step.followedBy (hstep : Step dir m m') (more : List α) :
    Step dir (m.followedBy more) (m'.followedBy more) := by
  cases hstep with
  | zero hrest hunread hx hlead =>
    exact .zero hrest (congrArg (· ++ more) hunread) hx hlead
  | item hrest hunread hx hlead =>
    exact .item hrest (congrArg (· ++ more) hunread) hx hlead
  | visit hahead => exact .visit hahead
  | append hahead hcarry => exact .append hahead hcarry

/-- What is reached does not hang on the items behind. -/
theorem Run.followedBy (hrun : Run dir input m) (more : List α) :
    Run dir (input ++ more) (m.followedBy more) := by
  induction hrun with
  | refl => exact .refl
  | tail _ hstep ih => exact ih.tail (hstep.followedBy more)

/-! ## Directions -/

namespace Direction

/-- The digits of items, those without one left out. -/
def digitsOf (dir : Direction α) (xs : List α) : List Nat :=
  (xs.filterMap dir.digit?).map UInt8.toNat

/-- The number that the digits of items denote, the most significant one first. -/
def number (dir : Direction α) (xs : List α) : Nat :=
  value dir.scale (dir.digitsOf xs).reverse

theorem digitsOf_concat {x : α} {d : UInt8} (h : dir.digit? x = some d) (xs : List α) :
    dir.digitsOf (xs ++ [x]) = dir.digitsOf xs ++ [d.toNat] := by
  rw [digitsOf, List.filterMap_append, List.filterMap_cons_some h, List.map_append]
  rfl

theorem number_concat {x : α} {d : UInt8} (h : dir.digit? x = some d) (xs : List α) :
    dir.number (xs ++ [x]) = d.toNat + dir.scale * dir.number xs := by
  rw [number, digitsOf_concat h, List.reverse_append, List.reverse_singleton, List.singleton_append,
    value]
  rfl

theorem base_pos (dir : Direction α) : 0 < dir.base :=
  Nat.lt_of_lt_of_le Nat.two_pos dir.two_le_base

theorem low_lt (dir : Direction α) (w : UInt32) : (dir.low w).toNat < dir.base := by
  rw [dir.toNat_low]
  exact Nat.mod_lt _ dir.base_pos

/-- What is stored of a sum fits a byte, so narrowing keeps it. -/
theorem toNat_toUInt8_low (dir : Direction α) (w : UInt32) :
    (dir.low w).toUInt8.toNat = (dir.low w).toNat := by
  rw [UInt32.toNat_toUInt8]
  exact Nat.mod_eq_of_lt (Nat.lt_of_lt_of_le (dir.low_lt w) dir.base_le)

theorem toNat_stored (dir : Direction α) (w : UInt32) :
    (dir.low w).toUInt8.toNat = w.toNat % dir.base :=
  (dir.toNat_toUInt8_low w).trans (dir.toNat_low w)

end Direction

/-! ## The end of a run -/

/-- A conversion stops between two items, where the items are used up or the next one has no
digit. -/
theorem Moment.stops_iff :
    m.Stops dir ↔ m.AtRest ∧ ∀ x ∈ m.unread.head?, dir.digit? x = none := by
  constructor
  · intro hstop
    have hahead : m.ahead = [] := by
      cases hm : m.ahead with
      | nil => rfl
      | cons d ds => exact absurd (.visit hm) (hstop _)
    have hcarry : m.carry = 0 := by
      by_contra hne
      exact hstop _ (.append hahead hne)
    refine ⟨⟨hahead, hcarry⟩, fun x hx => ?_⟩
    obtain ⟨xs, hunread⟩ := List.head?_eq_some_iff.mp hx
    cases hd : dir.digit? x with
    | none => rfl
    | some d =>
      by_cases hlead : m.leading = true ∧ d = 0
      · exact absurd (.zero ⟨hahead, hcarry⟩ hunread (hlead.2 ▸ hd) hlead.1) (hstop _)
      · exact absurd (.item ⟨hahead, hcarry⟩ hunread hd hlead) (hstop _)
  · rintro ⟨⟨hahead, hcarry⟩, hnone⟩ m' hstep
    cases hstep with
    | zero _ hunread hx _ => exact nomatch hx.symm.trans (hnone _ (by simp [hunread]))
    | item _ hunread hx _ => exact nomatch hx.symm.trans (hnone _ (by simp [hunread]))
    | visit hcons => exact nomatch hahead.symm.trans hcons
    | append _ hne => exact hne hcarry

/-- The items that are unread, the digits ahead and the carry, in this order, go down. -/
theorem Step.decreases (hstep : Step dir m m') :
    Prod.Lex (· < ·) (Prod.Lex (· < ·) (· < ·))
      (m'.unread.length, m'.ahead.length, m'.carry.toNat)
      (m.unread.length, m.ahead.length, m.carry.toNat) := by
  cases hstep with
  | zero _ hunread _ _ =>
    rw [hunread]
    exact .left _ _ (Nat.lt_succ_self _)
  | item _ hunread _ _ =>
    rw [hunread]
    exact .left _ _ (Nat.lt_succ_self _)
  | visit hahead =>
    rw [hahead]
    exact .right _ (.left _ _ (Nat.lt_succ_self _))
  | append hahead hcarry =>
    refine .right _ (.right _ ?_)
    rw [Moment.total_of_nil hahead, dir.toNat_high]
    exact Nat.div_lt_self (Moment.toNat_carry_pos hcarry) dir.two_le_base

/-- Every run ends. -/
theorem Run.exists_stops (dir : Direction α) (input : List α) :
    ∃ m, Run dir input m ∧ m.Stops dir := by
  suffices h : ∀ m : Moment α, ∃ m', Relation.ReflTransGen (Step dir) m m' ∧ m'.Stops dir from
    h (.start input)
  have hwf : WellFounded fun m' m : Moment α => Step dir m m' :=
    Subrelation.wf Step.decreases (InvImage.wf _ IsWellFounded.wf)
  intro m
  induction m using hwf.induction with
  | _ m ih =>
    by_cases hstop : m.Stops dir
    · exact ⟨m, .refl, hstop⟩
    · obtain ⟨next, hstep⟩ := not_forall_not.mp hstop
      obtain ⟨last, hrun, hlast⟩ := ih next hstep
      exact ⟨last, .head hstep hrun, hlast⟩

end ContractFixtures.Radix
