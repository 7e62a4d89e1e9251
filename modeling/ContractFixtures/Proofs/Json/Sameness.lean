import ContractFixtures.Json.Basic
import Mathlib.Data.List.Forall2

/-!
# Values that are the same

Members of an object count by their keys: their order does not matter, and of the members of one
key only the last one counts. So two objects are the same if they give the same last value to every
key, whatever the members are that they are written with.

* `Same`: values that are the same.
* `SameAt`: members that give one key the same last value, or both give it none.
* `Edited`: members that are changed without regard to some known keys.

Results:
1. `Same.refl`, `SameAt.of_lookup_eq`, `Same.of_perm`: what is equal up to the order of members is
   the same.
2. `Edited.lookup_eq`: such changes keep the last value of every known key.
-/

namespace ContractFixtures.Json

/-- Values that are the same. The sign of a zero does not count. -/
inductive Same : Json → Json → Prop
  | null : Same .null .null
  | bool (value : Bool) : Same (.bool value) (.bool value)
  | number (value : Number) : Same (.number value) (.number value)
  | zero {x y : Binary64} (negative negative' : Bool) (hx : x.isZero = true)
      (hy : y.isZero = true) :
      Same (.number (.float negative x)) (.number (.float negative' y))
  | string (text : String) : Same (.string text) (.string text)
  | array {vs ws : List Json} (h : List.Forall₂ Same vs ws) : Same (.array vs) (.array ws)
  | object {ms ns : List (String × Json)}
      (h : ∀ key, Option.Rel Same (lookup key ms) (lookup key ns)) :
      Same (.object ms) (.object ns)

/-- Whether members give a key the same last value, or both give it none. -/
def SameAt (key : String) (ms ns : List (String × Json)) : Prop :=
  Option.Rel Same (lookup key ms) (lookup key ns)

theorem lookup_cons (key k : String) (v : Json) (rest : List (String × Json)) :
    lookup key ((k, v) :: rest) = (lookup key rest <|> if k = key then some v else none) := by
  rw [lookup]
  cases lookup key rest <;> rfl

mutual

theorem Same.refl : (v : Json) → Same v v
  | .null => .null
  | .bool value => .bool value
  | .number value => .number value
  | .string text => .string text
  | .array vs => .array (forall₂_same_refl vs)
  | .object ms => .object (SameAt.refl ms)

theorem forall₂_same_refl : (vs : List Json) → List.Forall₂ Same vs vs
  | [] => .nil
  | v :: vs => .cons (Same.refl v) (forall₂_same_refl vs)

theorem SameAt.refl : (ms : List (String × Json)) → ∀ key, SameAt key ms ms
  | [], _ => .none
  | (k, v) :: ms, key => by
    have hrest := SameAt.refl ms key
    rw [SameAt] at hrest ⊢
    rw [lookup_cons]
    cases hlookup : lookup key ms with
    | some w =>
      rw [hlookup] at hrest
      exact hrest
    | none =>
      by_cases hk : k = key
      · rw [if_pos hk]
        exact .some (Same.refl v)
      · rw [if_neg hk]
        exact .none

end

theorem SameAt.of_lookup_eq {key : String} {ms ns : List (String × Json)}
    (h : lookup key ms = lookup key ns) : SameAt key ms ns := by
  rw [SameAt, ← h]
  exact SameAt.refl ms key

/-- The order of members with different keys does not count. -/
theorem lookup_of_perm {ms ns : List (String × Json)} (h : ms.Perm ns)
    (hkeys : (ms.map Prod.fst).Nodup) (key : String) : lookup key ms = lookup key ns := by
  induction h with
  | nil => rfl
  | cons m _ ih => rw [lookup_cons, lookup_cons, ih (List.nodup_cons.mp hkeys).2]
  | swap m n rest =>
    obtain ⟨k, v⟩ := m
    obtain ⟨l, w⟩ := n
    have hne : l ≠ k := fun he => (List.nodup_cons.mp hkeys).1 (he ▸ List.mem_cons_self)
    simp only [lookup_cons]
    cases lookup key rest with
    | some u => rfl
    | none =>
      by_cases hk : k = key
      · subst hk
        simp [hne]
      · simp [hk]
  | trans h _ ih ih' => exact (ih hkeys).trans (ih' ((h.map Prod.fst).nodup hkeys))

theorem Same.of_perm {ms ns : List (String × Json)} (h : ms.Perm ns)
    (hkeys : (ms.map Prod.fst).Nodup) : Same (.object ms) (.object ns) :=
  .object fun key => SameAt.of_lookup_eq (lookup_of_perm h hkeys key)

/-! ## Changes that do not count -/

/-- Members that are changed in ways that do not count where only some keys are known: neighbours
with different keys change places, and a member comes or goes whose key is not known or comes again
further behind. -/
inductive Edited (known : List String) :
    List (String × Json) → List (String × Json) → Prop
  | swap {front back : List (String × Json)} {k l : String} (v w : Json) (h : k ≠ l) :
      Edited known (front ++ (k, v) :: (l, w) :: back) (front ++ (l, w) :: (k, v) :: back)
  | unknown {front back : List (String × Json)} {k : String} (v : Json) (h : k ∉ known) :
      Edited known (front ++ (k, v) :: back) (front ++ back)
  | earlier {front back : List (String × Json)} {k : String} (v : Json)
      (h : k ∈ back.map Prod.fst) : Edited known (front ++ (k, v) :: back) (front ++ back)
  | symm {ms ns : List (String × Json)} : Edited known ms ns → Edited known ns ms
  | trans {ms ns os : List (String × Json)} :
      Edited known ms ns → Edited known ns os → Edited known ms os

theorem exists_lookup_of_mem {key : String} {ms : List (String × Json)}
    (h : key ∈ ms.map Prod.fst) : ∃ v, lookup key ms = some v := by
  induction ms with
  | nil => cases h
  | cons m ms ih =>
    obtain ⟨k, v⟩ := m
    rw [lookup_cons]
    cases hlookup : lookup key ms with
    | some w => exact ⟨w, rfl⟩
    | none =>
      rcases List.mem_cons.mp h with rfl | hmem
      · exact ⟨v, by simp⟩
      · obtain ⟨w, hw⟩ := ih hmem
        rw [hlookup] at hw
        cases hw

/-- Changes that do not count keep the last value of every known key. -/
theorem Edited.lookup_eq {known : List String} {ms ns : List (String × Json)}
    (h : Edited known ms ns) {key : String} (hkey : key ∈ known) :
    lookup key ms = lookup key ns := by
  induction h with
  | @swap front back k l v w hne =>
    simp only [lookup_append, lookup_cons]
    cases lookup key back with
    | some u => rfl
    | none =>
      by_cases hk : k = key
      · subst hk
        simp [hne.symm]
      · simp [hk]
  | @unknown front back k v hk =>
    have hne : k ≠ key := by
      rintro rfl
      exact hk hkey
    simp [lookup_append, lookup_cons, hne]
  | @earlier front back k v hk =>
    simp only [lookup_append, lookup_cons]
    by_cases hne : k = key
    · subst hne
      obtain ⟨w, hw⟩ := exists_lookup_of_mem hk
      simp [hw]
    · simp [hne]
  | symm _ ih => exact ih.symm
  | trans _ _ ih ih' => exact ih.trans ih'

end ContractFixtures.Json
