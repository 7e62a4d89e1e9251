import Mathlib.Data.List.Forall2

/-!
# Steps that may fail

Steps are taken one after the other, up to the first that fails. So a traversal of a list gives
all results, one for each element, or the fault of the first element that has none. The same holds
of a list of lists, whose elements are met in the order of the flat list.

* `FirstOf`: the fault of the first defect in a list of possible defects.
* `FailsBy`: a step that fails by the first of some defects.

Results:
1. `bind_eq_ok_iff`, `bind_eq_error_iff`, `mapError_map_eq_ok_iff`, `mapError_map_eq_error_iff`,
   `map_eq_error_iff`: what comes of a step that is built from others.
2. `mapM_congr`, `mapM_eq_ok_iff`, `exists_of_mem_mapM`, `getElem?_of_mapM`, `forall₂_iff_map_eq`,
   `exists_first`, `exists_mapM_iff`, `mapM_eq_error_iff`, `mapM_eq_error_congr`,
   `mapM_eq_error_iff_flatMap`: traversals of a list.
3. `exists_mapM_mapM_iff`, `exists_of_mapM_mapM_error`: traversals of a list of lists.
4. `FailsBy.bind`: steps one after the other fail by their defects in the same order.
-/

namespace ContractFixtures

variable {ε α β : Type}

theorem bind_eq_ok_iff {x : Except ε α} {f : α → Except ε β} {y : β} :
    (x >>= f) = .ok y ↔ ∃ a, x = .ok a ∧ f a = .ok y := by
  cases x <;> simp [bind, Except.bind]

theorem bind_eq_error_iff {x : Except ε α} {f : α → Except ε β} {fault : ε} :
    (x >>= f) = .error fault ↔ x = .error fault ∨ ∃ a, x = .ok a ∧ f a = .error fault := by
  cases x <;> simp [bind, Except.bind]

/-- A step whose fault is reworded and whose result is wrapped. -/
theorem mapError_map_eq_ok_iff {ε' : Type} {x : Except ε α} {f : ε → ε'} {g : α → β} {y : β} :
    (x.mapError f).map g = .ok y ↔ ∃ a, x = .ok a ∧ y = g a := by
  cases x <;> simp [Except.mapError, Except.map, eq_comm]

/-- The fault of such a step is a reworded one. -/
theorem mapError_map_eq_error_iff {ε' : Type} {x : Except ε α} {f : ε → ε'} {g : α → β}
    {fault : ε'} :
    (x.mapError f).map g = .error fault ↔ ∃ e, x = .error e ∧ fault = f e := by
  cases x <;> simp [Except.mapError, Except.map, eq_comm]

theorem map_eq_error_iff {x : Except ε α} {g : α → β} {fault : ε} :
    x.map g = .error fault ↔ x = .error fault := by
  cases x <;> simp [Except.map]

variable {f : α → Except ε β} {xs : List α}

/-- Traversals by steps that do the same with every element. -/
theorem mapM_congr {g : α → Except ε β} (h : ∀ x ∈ xs, f x = g x) : xs.mapM f = xs.mapM g := by
  induction xs with
  | nil => rfl
  | cons x xs ih =>
    obtain ⟨hx, hxs⟩ := List.forall_mem_cons.mp h
    rw [List.mapM_cons, List.mapM_cons, hx, ih hxs]

theorem mapM_eq_ok_iff {ys : List β} :
    xs.mapM f = .ok ys ↔ List.Forall₂ (fun x y => f x = .ok y) xs ys := by
  induction xs generalizing ys with
  | nil =>
    simp only [List.mapM_nil, pure, Except.pure, Except.ok.injEq, List.forall₂_nil_left_iff]
    exact eq_comm
  | cons x xs ih =>
    simp only [List.mapM_cons, bind_eq_ok_iff, ih, List.forall₂_cons_left_iff, pure,
      Except.pure, Except.ok.injEq]
    constructor
    · rintro ⟨y, hy, ys, hys, rfl⟩
      exact ⟨y, ys, hy, hys, rfl⟩
    · rintro ⟨y, ys, hy, hys, rfl⟩
      exact ⟨y, hy, ys, hys, rfl⟩

/-- Every result is that of an element. -/
theorem exists_of_mem_mapM {ys : List β} (h : xs.mapM f = .ok ys) {y : β} (hy : y ∈ ys) :
    ∃ x ∈ xs, f x = .ok y := by
  have hall := mapM_eq_ok_iff.mp h
  clear h
  induction hall with
  | nil => cases hy
  | cons hx _ ih =>
    rcases List.mem_cons.mp hy with rfl | hy
    · exact ⟨_, List.mem_cons_self, hx⟩
    · obtain ⟨x, hmem, hx⟩ := ih hy
      exact ⟨x, List.mem_cons_of_mem _ hmem, hx⟩

/-- The results stand in the places of the elements. -/
theorem getElem?_of_mapM {ys : List β} (h : xs.mapM f = .ok ys) {i : Nat} {x : α} {y : β}
    (hx : xs[i]? = some x) (hy : f x = .ok y) : ys[i]? = some y := by
  have hall := mapM_eq_ok_iff.mp h
  clear h
  induction hall generalizing i with
  | nil => cases hx
  | cons hhead _ ih =>
    cases i with
    | zero =>
      obtain rfl := Option.some.inj hx
      exact congrArg some (Except.ok.inj (hhead.symm.trans hy))
    | succ i => exact ih hx

/-- Where every element is related to one value only, a list is related to the list of these. -/
theorem forall₂_iff_map_eq {R : α → β → Prop} {g : α → β} (h : ∀ x y, R x y ↔ g x = y)
    {ys : List β} : List.Forall₂ R xs ys ↔ xs.map g = ys := by
  have hR : R = fun x y => g x = y := funext fun x => funext fun y => propext (h x y)
  rw [hR, ← List.forall₂_map_left_iff, List.forall₂_eq_eq_eq]

/-- A list that has an element of a kind has a first one. -/
theorem exists_first {p : α → Prop} (h : ∃ x ∈ xs, p x) :
    ∃ before x behind, xs = before ++ x :: behind ∧ (∀ y ∈ before, ¬ p y) ∧ p x := by
  classical
  have hfound : (xs.find? (p ·)).isSome := List.find?_isSome.mpr (by simpa using h)
  obtain ⟨x, hx⟩ := Option.isSome_iff_exists.mp hfound
  obtain ⟨hp, before, behind, rfl, hbefore⟩ := List.find?_eq_some_iff_append.mp hx
  exact ⟨before, x, behind, rfl, by simpa using hbefore, by simpa using hp⟩

theorem exists_mapM_iff : (∃ ys, xs.mapM f = .ok ys) ↔ ∀ x ∈ xs, ∃ y, f x = .ok y := by
  induction xs with
  | nil => exact iff_of_true ⟨[], rfl⟩ fun _ hx => absurd hx List.not_mem_nil
  | cons x xs ih =>
    simp only [List.mapM_cons, bind_eq_ok_iff, List.forall_mem_cons, ← ih, pure, Except.pure,
      Except.ok.injEq]
    constructor
    · rintro ⟨_, y, hy, ys, hys, rfl⟩
      exact ⟨⟨y, hy⟩, ⟨ys, hys⟩⟩
    · rintro ⟨⟨y, hy⟩, ⟨ys, hys⟩⟩
      exact ⟨_, y, hy, ys, hys, rfl⟩

/-- Only the first refusal counts. -/
theorem exists_of_mapM_error {fault : ε} (h : xs.mapM f = .error fault) :
    ∃ before x behind, xs = before ++ x :: behind ∧ (∀ y ∈ before, ∃ z, f y = .ok z) ∧
      f x = .error fault := by
  induction xs with
  | nil => cases h
  | cons x xs ih =>
    rw [List.mapM_cons] at h
    cases hx : f x with
    | error fault' =>
      rw [hx] at h
      cases h
      exact ⟨[], x, xs, rfl, fun _ hy => absurd hy List.not_mem_nil, hx⟩
    | ok z =>
      cases hxs : xs.mapM f with
      | ok zs => simp [hx, hxs, bind, Except.bind, pure, Except.pure] at h
      | error fault' =>
        simp only [hx, hxs, bind, Except.bind] at h
        cases h
        obtain ⟨before, y, behind, rfl, hbefore, hy⟩ := ih hxs
        exact ⟨x :: before, y, behind, rfl, List.forall_mem_cons.mpr ⟨⟨z, hx⟩, hbefore⟩, hy⟩

/-- A traversal is refused exactly by the first element that is. -/
theorem mapM_eq_error_iff {fault : ε} :
    xs.mapM f = .error fault ↔ ∃ before x behind, xs = before ++ x :: behind ∧
      (∀ y ∈ before, ∃ z, f y = .ok z) ∧ f x = .error fault := by
  constructor
  · exact exists_of_mapM_error
  · rintro ⟨before, x, behind, rfl, hbefore, hx⟩
    obtain ⟨zs, hzs⟩ := exists_mapM_iff.mpr hbefore
    rw [List.mapM_append, List.mapM_cons, hzs, hx]
    rfl

/-- Steps that refuse the same elements succeed for the same ones. -/
theorem exists_ok_congr {γ : Type} {x : Except ε α} {y : Except ε γ}
    (h : ∀ fault, x = .error fault ↔ y = .error fault) : (∃ a, x = .ok a) ↔ ∃ b, y = .ok b := by
  cases x with
  | error fault => simp [(h fault).mp rfl]
  | ok a =>
    cases y with
    | error fault => exact absurd ((h fault).mpr rfl) (fun he => nomatch he)
    | ok b => exact iff_of_true ⟨a, rfl⟩ ⟨b, rfl⟩

/-- Traversals by steps that refuse the same elements are refused alike. -/
theorem mapM_eq_error_congr {γ : Type} {g : α → Except ε γ}
    (h : ∀ x fault, f x = .error fault ↔ g x = .error fault) (fault : ε) :
    xs.mapM f = .error fault ↔ xs.mapM g = .error fault := by
  simp only [mapM_eq_error_iff, h, fun x => exists_ok_congr (h x)]

/-- A traversal whose steps fail as traversals of lists do fails as the traversal of all of these
lists, one behind the other. -/
theorem mapM_eq_error_iff_flatMap {γ δ : Type} {step : γ → Except ε δ} {part : γ → List α}
    (h : ∀ c fault, step c = .error fault ↔ (part c).mapM f = .error fault) {cs : List γ}
    {fault : ε} : cs.mapM step = .error fault ↔ (cs.flatMap part).mapM f = .error fault := by
  induction cs with
  | nil => exact iff_of_false (fun he => nomatch he) (fun he => nomatch he)
  | cons c cs ih =>
    rw [List.mapM_cons, List.flatMap_cons, List.mapM_append, bind_eq_error_iff, bind_eq_error_iff,
      h c]
    refine or_congr_right ?_
    have hpure : ∀ {ι κ : Type} {x : Except ε ι} {g : ι → κ},
        (x >>= fun a => pure (g a)) = .error fault ↔ x = .error fault := by
      intro ι κ x g
      cases x <;> simp [bind, Except.bind, pure, Except.pure]
    simp only [hpure, ih, exists_and_right, exists_ok_congr (h c)]

variable {xss : List (List α)}

theorem exists_mapM_mapM_iff :
    (∃ yss, xss.mapM (List.mapM f) = .ok yss) ↔ ∀ x ∈ xss.flatten, ∃ y, f x = .ok y := by
  simp only [exists_mapM_iff, List.mem_flatten]
  constructor
  · rintro h x ⟨xs, hxs, hx⟩
    exact h xs hxs x hx
  · intro h xs hxs x hx
    exact h x ⟨xs, hxs, hx⟩

/-- The first refusal of the first list that is refused is the first one in the order of all. -/
theorem exists_of_mapM_mapM_error {fault : ε} (h : xss.mapM (List.mapM f) = .error fault) :
    ∃ before x behind, xss.flatten = before ++ x :: behind ∧ (∀ y ∈ before, ∃ z, f y = .ok z) ∧
      f x = .error fault := by
  obtain ⟨front, xs, back, rfl, hfront, hxs⟩ := exists_of_mapM_error h
  obtain ⟨before, x, behind, rfl, hbefore, hx⟩ := exists_of_mapM_error hxs
  refine ⟨front.flatten ++ before, x, behind ++ back.flatten, by simp, ?_, hx⟩
  intro y hy
  rcases List.mem_append.mp hy with hy | hy
  · obtain ⟨ys, hys, hy⟩ := List.mem_flatten.mp hy
    exact exists_mapM_iff.mp (hfront ys hys) y hy
  · exact hbefore y hy

/-! ## The first of several defects -/

/-- The fault of the first defect that there is, in the order of a list of possible defects. A
defect is the set of the faults that report it, which is empty if there is no such defect. -/
inductive FirstOf : List (ε → Prop) → ε → Prop
  | here {defect : ε → Prop} {rest : List (ε → Prop)} {fault : ε} (h : defect fault) :
      FirstOf (defect :: rest) fault
  | later {defect : ε → Prop} {rest : List (ε → Prop)} {fault : ε} (hno : ∀ other, ¬ defect other)
      (h : FirstOf rest fault) : FirstOf (defect :: rest) fault

/-- A step that fails exactly by the first of some defects. -/
def FailsBy (x : Except ε α) (defects : List (ε → Prop)) : Prop :=
  ∀ fault, x = .error fault ↔ FirstOf defects fault

theorem firstOf_nil {fault : ε} : ¬ FirstOf [] fault := by
  intro h
  cases h

theorem firstOf_cons {defect : ε → Prop} {rest : List (ε → Prop)} {fault : ε} :
    FirstOf (defect :: rest) fault ↔
      defect fault ∨ (∀ other, ¬ defect other) ∧ FirstOf rest fault := by
  constructor
  · intro h
    cases h with
    | here h => exact .inl h
    | later hno h => exact .inr ⟨hno, h⟩
  · rintro (h | ⟨hno, h⟩)
    · exact .here h
    · exact .later hno h

theorem FirstOf.exists_mem {defects : List (ε → Prop)} {fault : ε} (h : FirstOf defects fault) :
    ∃ defect ∈ defects, defect fault := by
  induction h with
  | here h => exact ⟨_, List.mem_cons_self, h⟩
  | later _ _ ih =>
    obtain ⟨defect, hmem, h⟩ := ih
    exact ⟨defect, List.mem_cons_of_mem _ hmem, h⟩

/-- Where there is a defect, there is a first one. -/
theorem exists_firstOf {defects : List (ε → Prop)} {defect : ε → Prop} {fault : ε}
    (hmem : defect ∈ defects) (h : defect fault) : ∃ first, FirstOf defects first := by
  induction defects with
  | nil => cases hmem
  | cons head rest ih =>
    by_cases hhead : ∃ other, head other
    · obtain ⟨other, hother⟩ := hhead
      exact ⟨other, .here hother⟩
    · rcases List.mem_cons.mp hmem with rfl | hrest
      · exact absurd ⟨fault, h⟩ hhead
      · obtain ⟨first, hfirst⟩ := ih hrest
        exact ⟨first, .later (fun other hother => hhead ⟨other, hother⟩) hfirst⟩

theorem firstOf_append {front back : List (ε → Prop)} {fault : ε} :
    FirstOf (front ++ back) fault ↔ FirstOf front fault ∨
      (∀ defect ∈ front, ∀ other, ¬ defect other) ∧ FirstOf back fault := by
  induction front with
  | nil => simp [firstOf_nil]
  | cons defect front ih =>
    rw [List.cons_append, firstOf_cons, firstOf_cons, ih, List.forall_mem_cons, and_or_left,
      or_assoc, and_assoc]

theorem failsBy_ok (a : α) : FailsBy (.ok a : Except ε α) [] := fun _ =>
  iff_of_false (fun h => nomatch h) firstOf_nil

theorem failsBy_singleton {x : Except ε α} {defect : ε → Prop} :
    FailsBy x [defect] ↔ ∀ fault, x = .error fault ↔ defect fault := by
  simp only [FailsBy, firstOf_cons, firstOf_nil, and_false, or_false]

/-- Steps that are taken one after the other fail by the defects of the first, then by those of the
second. -/
theorem FailsBy.bind {x : Except ε α} {f : α → Except ε β} {front back : List (ε → Prop)}
    (hx : FailsBy x front) (hf : ∀ a, x = .ok a → FailsBy (f a) back) :
    FailsBy (x >>= f) (front ++ back) := by
  intro fault
  rw [firstOf_append]
  cases hstep : x with
  | error fault' =>
    have hfirst : FirstOf front fault' := (hx fault').mp hstep
    constructor
    · intro h
      exact .inl (Except.error.inj h ▸ hfirst)
    · rintro (h | ⟨hno, -⟩)
      · obtain rfl := Except.error.inj (hstep.symm.trans ((hx fault).mpr h))
        rfl
      · obtain ⟨defect, hmem, hdefect⟩ := hfirst.exists_mem
        exact absurd hdefect (hno defect hmem fault')
  | ok a =>
    -- A step that succeeds has none of its defects, or it would have failed by the first of them.
    have hnone : ∀ first, ¬ FirstOf front first := fun first h =>
      nomatch hstep.symm.trans ((hx first).mpr h)
    have hno : ∀ defect ∈ front, ∀ other, ¬ defect other := by
      intro defect hmem other hother
      obtain ⟨first, hfirst⟩ := exists_firstOf hmem hother
      exact hnone first hfirst
    constructor
    · intro h
      exact .inr ⟨hno, (hf a hstep fault).mp h⟩
    · rintro (h | ⟨-, h⟩)
      · exact absurd h (hnone fault)
      · exact (hf a hstep fault).mpr h

end ContractFixtures
