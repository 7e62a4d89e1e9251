import ContractFixtures.Proofs.Json.Scalars
import Mathlib.Data.List.DropRight

/-!
# Nested values in longer texts

A value is read to a bounded depth. The bound decides whether a value is read, but not which one:
a reader of another bound takes the same value off the text, and off a longer one, if the value is
nested no deeper than its bound.

* `depth`: how deep a value is nested.
* `Form`: the three forms in which a value is read.
* `AgreesBefore`: two readers take the same value off a text and off a longer one.

Results:
1. `value_run_iff`: a value is read in one of three forms.
2. `depth_le_of_run`: no value that is read is nested deeper than the bound.
3. `value_agreesBefore`: readers of different bounds agree on the values that both allow.
4. `value_run_iff_of_le`: what a lesser bound allows.
-/

namespace ContractFixtures.Json

variable {α : Type}

/-! ## Depth -/

mutual

/-- How deep a value is nested. A value that holds no other values has the depth 0. -/
def depth : Json → Nat
  | .array elements => depthElements elements + 1
  | .object members => depthMembers members + 1
  | .null | .bool _ | .number _ | .string _ => 0

/-- The depth of the deepest element. -/
def depthElements : List Json → Nat
  | [] => 0
  | v :: vs => max v.depth (depthElements vs)

/-- The depth of the deepest member. -/
def depthMembers : List (String × Json) → Nat
  | [] => 0
  | (_, v) :: ms => max v.depth (depthMembers ms)

end

theorem depthElements_le_iff {vs : List Json} {d : Nat} :
    depthElements vs ≤ d ↔ ∀ v ∈ vs, v.depth ≤ d := by
  induction vs with
  | nil => simp [depthElements]
  | cons v vs ih => rw [depthElements, Nat.max_le, ih, List.forall_mem_cons]

theorem depthMembers_le_iff {ms : List (String × Json)} {d : Nat} :
    depthMembers ms ≤ d ↔ ∀ m ∈ ms, m.2.depth ≤ d := by
  induction ms with
  | nil => simp [depthMembers]
  | cons m ms ih => rw [depthMembers, Nat.max_le, ih, List.forall_mem_cons]

theorem depth_of_scalar {text rest : List Char} {v : Json} (h : scalar text = .ok (v, rest)) :
    v.depth = 0 := by
  unfold scalar at h
  split at h
  case h_1 => cases h
  case h_7 =>
    split at h
    · obtain ⟨r, -, he⟩ := map_eq_ok_iff.1 h
      cases he
      rfl
    · cases h
  all_goals
    obtain ⟨r, -, he⟩ := map_eq_ok_iff.1 h
    cases he
    rfl

/-! ## Forms of values -/

/-- The forms in which a value is read off a text: a list, an object, or a value that holds no
others. -/
inductive Form (text rest : List Char) : Nat → Json → Prop
  | list {d : Nat} {more : List Char} {xs : List Json} :
      skipSpace text = '[' :: more → enclosed .list (value d) more = .ok (xs, rest) →
      Form text rest (d + 1) (.array xs)
  | object {d : Nat} {more : List Char} {ms : List (String × Json)} :
      skipSpace text = '\x7b' :: more → enclosed .object (member (value d)) more = .ok (ms, rest) →
      Form text rest (d + 1) (.object ms)
  | scalar {d : Nat} {c : Char} {more : List Char} {v : Json} :
      skipSpace text = c :: more → c ≠ '[' → c ≠ '\x7b' → scalar (c :: more) = .ok (v, rest) →
      Form text rest d v

theorem skipSpace_skipSpace (text : List Char) : skipSpace (skipSpace text) = skipSpace text :=
  List.dropWhile_idempotent isSpace text

/-- No blank is left in front of a token. -/
theorem isSpace_of_skipSpace {text more : List Char} {c : Char} (h : skipSpace text = c :: more) :
    isSpace c = false := by
  have hhead := List.head?_dropWhile_not isSpace text
  rw [← skipSpace, h] at hhead
  exact hhead

/-- Blanks in front of a value do not count. -/
theorem value_run_skipSpace (d : Nat) (text : List Char) :
    (value d).run (skipSpace text) = (value d).run text := by
  cases d <;> simp only [value, valueOver, skipSpace_skipSpace]

theorem Form.of_scalar {text rest : List Char} {d : Nat} {v : Json}
    (hlist : ∀ more, skipSpace text = '[' :: more → False)
    (hobject : ∀ more, skipSpace text = '\x7b' :: more → False)
    (h : Json.scalar (skipSpace text) = .ok (v, rest)) : Form text rest d v := by
  cases hskip : skipSpace text with
  | nil =>
    rw [hskip] at h
    cases h
  | cons c more =>
    rw [hskip] at h
    refine .scalar hskip ?_ ?_ h
    · rintro rfl
      exact hlist more hskip
    · rintro rfl
      exact hobject more hskip

/-- A value is read in one of the three forms. -/
theorem value_run_iff {d : Nat} {text rest : List Char} {v : Json} :
    (value d).run text = .ok (v, rest) ↔ Form text rest d v := by
  constructor
  · intro h
    cases d with
    | zero =>
      simp only [value, valueOver] at h
      split at h
      · cases h
      · cases h
      · next hlist hobject => exact .of_scalar hlist hobject h
    | succ d =>
      simp only [value, valueOver] at h
      split at h
      · next more hopen =>
        obtain ⟨⟨xs, rest⟩, hitems, he⟩ := map_eq_ok_iff.1 h
        cases he
        exact .list hopen hitems
      · next more hopen =>
        obtain ⟨⟨ms, rest⟩, hitems, he⟩ := map_eq_ok_iff.1 h
        cases he
        exact .object hopen hitems
      · next hlist hobject => exact .of_scalar hlist hobject h
  · intro h
    cases h with
    | list hopen hitems =>
      simp only [value, valueOver, hopen, hitems]
      rfl
    | object hopen hitems =>
      simp only [value, valueOver, hopen, hitems]
      rfl
    | scalar hskip hlist hobject h =>
      rw [← value_run_skipSpace, hskip,
        value_run_of_scalar (isSpace_of_skipSpace hskip) hlist hobject, h]

/-! ## Depth of what is read -/

/-- The items of a list or an object are what the reader of items reads. -/
theorem forall_mem_of_items {e : Enclosure} {item : Reader α} {text rest : List Char} {xs : List α}
    {P : α → Prop} (hitem : ∀ text x rest, item.run text = .ok (x, rest) → P x)
    (h : items e item text = .ok (xs, rest)) : ∀ x ∈ xs, P x := by
  fun_induction items e item text generalizing xs rest with
  | case1 => cases h
  | case2 => cases h
  | case3 _ _ _ hx _ _ =>
    cases h
    rw [List.forall_mem_singleton]
    exact hitem _ _ _ hx
  | case4 => cases h
  | case5 _ _ _ hx _ _ _ _ hmore ih =>
    cases h
    rw [List.forall_mem_cons]
    exact ⟨hitem _ _ _ hx, ih hmore⟩

theorem forall_mem_of_enclosed {e : Enclosure} {item : Reader α} {text rest : List Char}
    {xs : List α} {P : α → Prop} (hitem : ∀ text x rest, item.run text = .ok (x, rest) → P x)
    (h : enclosed e item text = .ok (xs, rest)) : ∀ x ∈ xs, P x := by
  unfold enclosed at h
  split at h
  · cases h
  · split at h
    · cases h
      exact fun _ hx => absurd hx List.not_mem_nil
    · exact forall_mem_of_items hitem h

/-- A member is a key in quotes, a colon and a value. -/
theorem member_run_iff {value : Reader Json} {text rest : List Char} {key : String} {v : Json} :
    (member value).run text = .ok ((key, v), rest) ↔
      ∃ quoted cs marked valued, text = '"' :: quoted ∧ stringBody quoted = .ok (cs, marked) ∧
        colon marked = .ok valued ∧ value.run valued = .ok (v, rest) ∧ key = String.ofList cs := by
  constructor
  · intro h
    simp only [member] at h
    split at h
    · next quoted =>
      split at h
      · cases h
      · next cs marked hkey =>
        split at h
        · cases h
        · next valued hcolon =>
          split at h
          · cases h
          · next hv =>
            cases h
            exact ⟨quoted, cs, marked, valued, rfl, hkey, hcolon, hv, rfl⟩
    · cases h
  · rintro ⟨quoted, cs, marked, valued, rfl, hkey, hcolon, hv, rfl⟩
    simp only [member, hkey, hcolon, hv]

/-- No value that is read is nested deeper than the bound. -/
theorem depth_le_of_run {d : Nat} {text rest : List Char} {v : Json}
    (h : (value d).run text = .ok (v, rest)) : v.depth ≤ d := by
  induction d using Nat.strongRecOn generalizing text rest v with
  | ind d ih =>
    cases value_run_iff.mp h with
    | @list d _ xs _ hitems =>
      have hall : ∀ x ∈ xs, x.depth ≤ d :=
        forall_mem_of_enclosed (fun _ _ _ => ih d d.lt_succ_self) hitems
      exact Nat.succ_le_succ (depthElements_le_iff.mpr hall)
    | @object d _ ms _ hitems =>
      have hmember : ∀ text m rest, (member (value d)).run text = .ok (m, rest) →
          m.2.depth ≤ d := by
        rintro text ⟨key, w⟩ rest hm
        obtain ⟨_, _, _, _, -, -, -, hw, -⟩ := member_run_iff.mp hm
        exact ih d d.lt_succ_self hw
      exact Nat.succ_le_succ (depthMembers_le_iff.mpr (forall_mem_of_enclosed hmember hitems))
    | scalar _ _ _ hv =>
      rw [depth_of_scalar hv]
      exact Nat.zero_le d

/-! ## Longer texts -/

theorem skipSpace_append_of_cons {text more : List Char} {c : Char} (h : skipSpace text = c :: more)
    (tail : List Char) : skipSpace (text ++ tail) = c :: (more ++ tail) := by
  rw [skipSpace, List.dropWhile_append, ← skipSpace, h]
  rfl

theorem colon_append {text rest : List Char} (h : colon text = .ok rest) (tail : List Char) :
    colon (text ++ tail) = .ok (rest ++ tail) := by
  unfold colon at h
  split at h
  · cases h
  · next more hcolon =>
    cases h
    rw [colon, skipSpace_append_of_cons hcolon tail]
    rfl
  · cases h

theorem continue_append_inl {e : Enclosure} {text rest : List Char}
    (h : e.continue text = .ok (.inl rest)) (tail : List Char) :
    e.continue (text ++ tail) = .ok (.inl (rest ++ tail)) := by
  unfold Enclosure.continue at h
  split at h
  · cases h
  · next c more hskip =>
    split at h
    · next hclose =>
      cases h
      rw [Enclosure.continue, skipSpace_append_of_cons hskip tail]
      exact if_pos hclose
    · split at h
      · split at h
        · cases h
        · split at h <;> cases h
      · cases h

theorem continue_append_inr {e : Enclosure} {text next : List Char}
    (h : e.continue text = .ok (.inr next)) (tail : List Char) :
    e.continue (text ++ tail) = .ok (.inr (next ++ tail)) := by
  unfold Enclosure.continue at h
  split at h
  · cases h
  · next c more hskip =>
    split at h
    · cases h
    · next hclose =>
      split at h
      · next hcomma =>
        split at h
        · cases h
        · next d more' hnext =>
          split at h
          · cases h
          · next hitem =>
            cases h
            rw [Enclosure.continue, skipSpace_append_of_cons hskip tail]
            simp only [if_neg hclose, if_pos hcomma, skipSpace_append_of_cons hnext tail,
              if_neg hitem, List.cons_append]
      · cases h

/-- What one reader takes off a text as `x`, another takes off the text in front of a tail. -/
def AgreesBefore (tail : List Char) (item item' : Reader α) (x : α) : Prop :=
  ∀ text rest, item.run text = .ok (x, rest) → item'.run (text ++ tail) = .ok (x, rest ++ tail)

theorem items_append {e : Enclosure} {item item' : Reader α} {tail text rest : List Char}
    {xs : List α} (hitem : ∀ x ∈ xs, AgreesBefore tail item item' x)
    (h : items e item text = .ok (xs, rest)) :
    items e item' (text ++ tail) = .ok (xs, rest ++ tail) := by
  fun_induction items e item text generalizing xs rest with
  | case1 => cases h
  | case2 => cases h
  | case3 _ _ _ hx _ hc =>
    cases h
    rw [List.forall_mem_singleton] at hitem
    exact items_of_end (hitem _ _ hx) (continue_append_inl hc tail)
  | case4 => cases h
  | case5 _ _ _ hx _ hc _ _ hmore ih =>
    cases h
    rw [List.forall_mem_cons] at hitem
    exact items_of_next (hitem.1 _ _ hx) (continue_append_inr hc tail) (ih hitem.2 hmore)

theorem enclosed_append {e : Enclosure} {item item' : Reader α} {tail text rest : List Char}
    {xs : List α} (hitem : ∀ x ∈ xs, AgreesBefore tail item item' x)
    (h : enclosed e item text = .ok (xs, rest)) :
    enclosed e item' (text ++ tail) = .ok (xs, rest ++ tail) := by
  unfold enclosed at h
  split at h
  · cases h
  · next c more hskip =>
    rw [enclosed, skipSpace_append_of_cons hskip tail]
    dsimp only
    split at h
    · next hclose =>
      cases h
      rw [if_pos hclose]
    · next hclose =>
      rw [if_neg hclose]
      exact items_append hitem h

theorem member_agreesBefore {tail : List Char} {value value' : Reader Json} {m : String × Json}
    (h : AgreesBefore tail value value' m.2) :
    AgreesBefore tail (member value) (member value') m := by
  intro text rest hm
  obtain ⟨quoted, cs, marked, valued, rfl, hkey, hcolon, hv, hcs⟩ := member_run_iff.mp hm
  exact member_run_iff.mpr ⟨quoted ++ tail, cs, marked ++ tail, valued ++ tail, rfl,
    stringBody_append hkey tail, colon_append hcolon tail, h _ _ hv, hcs⟩

/-- Readers of different bounds take the same value off a text, also in front of a tail that ends
numbers, if the second bound allows the value. -/
theorem value_agreesBefore {tail : List Char} (ht : EndsNumber tail) {v : Json} {d e : Nat}
    (hv : v.depth ≤ e) : AgreesBefore tail (value d) (value e) v := by
  -- The bound goes down with every list and object, on both sides.
  induction d using Nat.strongRecOn generalizing v e with
  | ind d ih =>
    intro text rest h
    refine value_run_iff.mpr ?_
    cases value_run_iff.mp h with
    | @list d _ xs hopen hitems =>
      cases e with
      | zero => cases hv
      | succ e =>
        have hall := depthElements_le_iff.mp (Nat.le_of_succ_le_succ hv)
        refine .list (skipSpace_append_of_cons hopen tail) (enclosed_append ?_ hitems)
        exact fun x hx => ih d d.lt_succ_self (hall x hx)
    | @object d _ ms hopen hitems =>
      cases e with
      | zero => cases hv
      | succ e =>
        have hall := depthMembers_le_iff.mp (Nat.le_of_succ_le_succ hv)
        refine .object (skipSpace_append_of_cons hopen tail) (enclosed_append ?_ hitems)
        exact fun m hm => member_agreesBefore (ih d d.lt_succ_self (hall m hm))
    | scalar hskip hlist hobject hscalar =>
      exact .scalar (skipSpace_append_of_cons hskip tail) hlist hobject (scalar_append ht hscalar)

/-- A lesser bound allows the values that are nested no deeper, and reads nothing else. -/
theorem value_run_iff_of_le {d e : Nat} (h : d ≤ e) {text rest : List Char} {v : Json} :
    (value d).run text = .ok (v, rest) ↔ (value e).run text = .ok (v, rest) ∧ v.depth ≤ d := by
  have hagree : ∀ {d e : Nat}, v.depth ≤ e → (value d).run text = .ok (v, rest) →
      (value e).run text = .ok (v, rest) := by
    intro d e hv hrun
    have htail := value_agreesBefore endsNumber_nil hv text rest hrun
    rwa [List.append_nil, List.append_nil] at htail
  constructor
  · intro hrun
    have hv := depth_le_of_run hrun
    exact ⟨hagree (hv.trans h) hrun, hv⟩
  · rintro ⟨hrun, hv⟩
    exact hagree hv hrun

end ContractFixtures.Json
