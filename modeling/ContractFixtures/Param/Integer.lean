/-!
# Integers of a given width

Signed integers that fit in a number of bits, written in decimal.
-/

namespace ContractFixtures

/-- How far signed integers of some bits reach: from minus the limit to below it. -/
def Signed.limit (bits : Nat) : Nat := Nat.pow 2 (bits - 1)

theorem Signed.limit_pos (bits : Nat) : 0 < Signed.limit bits :=
  Nat.pow_pos (by decide)

/-- A signed integer of `bits` bits. -/
structure Signed (bits : Nat) where
  /-- The integer itself. -/
  value : Int
  lower : -(Signed.limit bits : Int) ≤ value
  upper : value < Signed.limit bits
deriving DecidableEq, Repr

namespace Signed

/-- Why a text is no integer. -/
inductive Fault where
  | empty | invalidDigit | tooLarge | tooSmall
deriving DecidableEq, Repr

/-- The wording of a fault. -/
def Fault.message : Fault → String
  | .empty => "cannot parse integer from empty string"
  | .invalidDigit => "invalid digit found in string"
  | .tooLarge => "number too large to fit in target type"
  | .tooSmall => "number too small to fit in target type"

/-- A sign and what stands behind it: whether it is a minus. Without a sign there is none. -/
def sign : List Char → Bool × List Char
  | '+' :: rest => (false, rest)
  | '-' :: rest => (true, rest)
  | rest => (false, rest)

/-- The greatest magnitude of integers with a sign. -/
def bound (bits : Nat) (negative : Bool) : Nat :=
  if negative then limit bits else limit bits - 1

theorem bound_true (bits : Nat) : bound bits true = limit bits := rfl

theorem bound_false (bits : Nat) : bound bits false = limit bits - 1 := rfl

/-- Appends digits to a magnitude. At each of them, a character that is no digit comes before a
magnitude that is out of bounds. -/
def magnitude (bits : Nat) (negative : Bool) (acc : Nat) : List Char → Except Fault Nat
  | [] => .ok acc
  | c :: rest =>
    if !c.isDigit then .error .invalidDigit
    else
      let next := 10 * acc + (c.toNat - '0'.toNat)
      if bound bits negative < next then .error (if negative then .tooSmall else .tooLarge)
      else magnitude bits negative next rest

theorem magnitude_le {bits : Nat} {negative : Bool} {acc n : Nat} {cs : List Char}
    (hacc : acc ≤ bound bits negative) (h : magnitude bits negative acc cs = .ok n) :
    n ≤ bound bits negative := by
  induction cs generalizing acc with
  | nil => simp_all [magnitude]
  | cons c cs ih =>
    simp only [magnitude] at h
    split at h
    · simp at h
    · split at h
      · simp at h
      · exact ih (by omega) h

/-- The integer with a sign and a magnitude that is in bounds. -/
def ofMagnitude (bits : Nat) (negative : Bool) (n : Nat) (h : n ≤ bound bits negative) :
    Signed bits where
  value := if negative then -n else n
  lower := by
    have hp := limit_pos bits
    cases negative
    · rw [if_neg Bool.false_ne_true]
      omega
    · rw [bound_true] at h
      rw [if_pos rfl]
      omega
  upper := by
    have hp := limit_pos bits
    cases negative
    · rw [bound_false] at h
      rw [if_neg Bool.false_ne_true]
      omega
    · rw [if_pos rfl]
      omega

/-- Reads an optional sign and one or more digits. -/
def ofChars (bits : Nat) (cs : List Char) : Except Fault (Signed bits) :=
  if cs = [] then .error .empty
  else
    let (negative, digits) := sign cs
    if digits = [] then .error .invalidDigit
    else
      match h : magnitude bits negative 0 digits with
      | .error fault => .error fault
      | .ok n => .ok (ofMagnitude bits negative n (magnitude_le (Nat.zero_le _) h))

/-- The decimal digits of an integer, behind a minus if it is negative. -/
def text {bits : Nat} (n : Signed bits) : List Char :=
  (toString n.value).toList

end Signed

end ContractFixtures
