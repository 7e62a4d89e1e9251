import ContractFixtures.NameMap
import ContractFixtures.Proofs.Traversal

/-!
# The values of maps from names

A map from names is known by the value that it gives to each name. A traversal changes each value
on its own and succeeds if it can change all of them.

* `concat`: two maps to lists, taken together name by name.

Results:
1. `mem_entries_iff`, `get?_of_isEmpty`, `ext_get?`: the entries of a map are the names that have
   values, so the values make the map.
2. `insert_comm`: values can be given to two names in either order.
3. `get?_concat`: the value of a name in two maps taken together.
4. `traverse_eq_ok_iff`, `traverse_eq_error_iff`, `rel_of_traverse`, `exists_traverse_iff`: what a
   traversal gives, and when.
-/

namespace ContractFixtures.NameMap

variable {α β ε : Type}

/-! ## Entries -/

theorem find_eq_none {name : String} {entries : List (String × α)}
    (h : ∀ e ∈ entries, e.1 ≠ name) : find name entries = none := by
  induction entries with
  | nil => rfl
  | cons e entries ih =>
    obtain ⟨hne, hrest⟩ := List.forall_mem_cons.mp h
    rw [find, if_neg hne, ih hrest]

theorem find_of_lt {name : String} {entries : List (String × α)}
    (h : ∀ e ∈ entries, name < e.1) : find name entries = none :=
  find_eq_none fun e he heq => String.lt_irrefl _ (heq ▸ h e he)

theorem find_eq_some_iff {name : String} {value : α} {entries : List (String × α)}
    (h : entries.Pairwise fun a b => a.1 < b.1) :
    find name entries = some value ↔ (name, value) ∈ entries := by
  induction entries with
  | nil => simp [find]
  | cons e entries ih =>
    obtain ⟨k, v⟩ := e
    obtain ⟨hk, hrest⟩ := List.pairwise_cons.mp h
    rw [find, List.mem_cons, Prod.mk.injEq]
    split
    · next heq =>
      subst heq
      rw [Option.some.injEq]
      constructor
      · rintro rfl
        exact .inl ⟨rfl, rfl⟩
      · rintro (⟨-, rfl⟩ | hmem)
        · rfl
        · exact absurd (hk _ hmem) (String.lt_irrefl _)
    · next hne =>
      rw [ih hrest]
      constructor
      · exact .inr
      · rintro (⟨rfl, -⟩ | hmem)
        · exact absurd rfl hne
        · exact hmem

/-- The entries of a map are the names that have values, each with its value. -/
theorem mem_entries_iff {m : NameMap α} {name : String} {value : α} :
    (name, value) ∈ m.entries ↔ m.get? name = some value :=
  (find_eq_some_iff m.ascending).symm

/-- No name has a value in a map without entries. -/
theorem get?_of_isEmpty {m : NameMap α} (h : m.isEmpty) (name : String) : m.get? name = none := by
  have hnil : m.entries = [] := List.isEmpty_iff.mp h
  rw [get?, hnil]
  rfl

/-- Two maps are equal if they give the same value to every name. -/
theorem ext_get? {m n : NameMap α} (h : ∀ name, m.get? name = n.get? name) : m = n := by
  have hnodup : ∀ k : NameMap α, k.entries.Nodup := by
    intro k
    show List.Pairwise (· ≠ ·) k.entries
    refine k.ascending.imp ?_
    rintro e _ hlt rfl
    exact String.lt_irrefl _ hlt
  have hperm : m.entries.Perm n.entries := by
    refine (List.perm_ext_iff_of_nodup (hnodup m) (hnodup n)).mpr ?_
    rintro ⟨name, value⟩
    rw [mem_entries_iff, mem_entries_iff, h name]
  have hentries : m.entries = n.entries := by
    refine hperm.eq_of_pairwise ?_ m.ascending n.ascending
    intro a b _ _ hlt hgt
    exact absurd (String.lt_trans hlt hgt) (String.lt_irrefl _)
  cases m
  cases n
  cases hentries
  rfl

/-- Values can be given to two names in either order. -/
theorem insert_comm (m : NameMap α) {a b : String} (h : a ≠ b) (x y : α) :
    (m.insert a x).insert b y = (m.insert b y).insert a x := by
  refine ext_get? fun name => ?_
  simp only [get?_insert]
  split
  · next hb =>
    split
    · next ha => exact absurd (ha.trans hb.symm) h
    · rfl
  · rfl

/-! ## Two maps taken together -/

/-- The map that gives each name what two maps give it, one list behind the other. -/
def concat (a b : NameMap (List α)) : NameMap (List α) :=
  b.entries.foldl (fun m e => m.insert e.1 ((m.get? e.1).getD [] ++ e.2)) a

theorem get?_concat (a b : NameMap (List α)) (name : String) :
    (a.concat b).get? name = Option.merge (· ++ ·) (a.get? name) (b.get? name) := by
  have hfold : ∀ (entries : List (String × List α)) (m : NameMap (List α)),
      entries.Pairwise (fun a b => a.1 < b.1) →
      (entries.foldl (fun m e => m.insert e.1 ((m.get? e.1).getD [] ++ e.2)) m).get? name
        = Option.merge (· ++ ·) (m.get? name) (find name entries) := by
    intro entries
    induction entries with
    | nil =>
      intro m _
      simp [find]
    | cons e entries ih =>
      intro m h
      obtain ⟨k, v⟩ := e
      obtain ⟨hk, hrest⟩ := List.pairwise_cons.mp h
      rw [List.foldl_cons, ih _ hrest, get?_insert, find]
      -- A name has one entry, so no later one adds to what `k` is given.
      by_cases heq : k = name
      · subst heq
        rw [if_pos rfl, if_pos rfl, find_of_lt hk]
        cases m.get? k <;> rfl
      · rw [if_neg heq, if_neg heq]
  exact hfold b.entries a b.ascending

theorem getD_get?_concat (a b : NameMap (List α)) (name : String) :
    ((a.concat b).get? name).getD [] = (a.get? name).getD [] ++ (b.get? name).getD [] := by
  rw [get?_concat]
  cases a.get? name <;> cases b.get? name <;> simp

/-! ## Traversals -/

variable {f : String → α → Except ε β}

/-- Changes the value of an entry. -/
def changeEntry (f : String → α → Except ε β) (e : String × α) : Except ε (String × β) := do
  let w ← f e.1 e.2
  return (e.1, w)

theorem changeEntry_eq_ok_iff {e : String × α} {e' : String × β} :
    changeEntry f e = .ok e' ↔ f e.1 e.2 = .ok e'.2 ∧ e.1 = e'.1 := by
  obtain ⟨k', w'⟩ := e'
  simp only [changeEntry, bind_eq_ok_iff, pure, Except.pure, Except.ok.injEq, Prod.mk.injEq]
  constructor
  · rintro ⟨w, hw, hk, rfl⟩
    exact ⟨hw, hk⟩
  · rintro ⟨hw, hk⟩
    exact ⟨w', hw, hk, rfl⟩

theorem traverseEntries_eq_mapM (entries : List (String × α)) :
    traverseEntries f entries = entries.mapM (changeEntry f) := by
  induction entries with
  | nil => rfl
  | cons e entries ih =>
    obtain ⟨k, v⟩ := e
    rw [traverseEntries, List.mapM_cons, ih, changeEntry]
    cases f k v <;> rfl

theorem traverse_eq_ok_iff {m : NameMap α} {n : NameMap β} :
    m.traverse f = .ok n ↔ m.entries.mapM (changeEntry f) = .ok n.entries := by
  rw [← traverseEntries_eq_mapM]
  unfold traverse
  split
  · next fault h => simp [h]
  · next out h =>
    constructor
    · rintro ⟨⟩
      exact h
    · intro he
      obtain ⟨entries, ascending⟩ := n
      cases h.symm.trans he
      rfl

theorem traverse_eq_error_iff {m : NameMap α} {fault : ε} :
    m.traverse f = .error fault ↔ m.entries.mapM (changeEntry f) = .error fault := by
  rw [← traverseEntries_eq_mapM]
  unfold traverse
  split
  · next fault' h => rw [h, Except.error.injEq, Except.error.injEq]
  · next out h => simp [h]

theorem exists_traverse_iff_mapM {m : NameMap α} :
    (∃ n, m.traverse f = .ok n) ↔ ∃ out, m.entries.mapM (changeEntry f) = .ok out := by
  constructor
  · rintro ⟨n, h⟩
    exact ⟨n.entries, traverse_eq_ok_iff.mp h⟩
  · rintro ⟨out, h⟩
    have hentries : traverseEntries f m.entries = .ok out := by
      rw [traverseEntries_eq_mapM, h]
    have hkeys := pairwise_of_keys (keys_of_traverseEntries hentries) m.ascending
    exact ⟨⟨out, hkeys⟩, traverse_eq_ok_iff.mpr h⟩

/-- A traversal succeeds if it can change every value. -/
theorem exists_traverse_iff {m : NameMap α} :
    (∃ n, m.traverse f = .ok n) ↔
      ∀ name value, m.get? name = some value → ∃ w, f name value = .ok w := by
  rw [exists_traverse_iff_mapM, exists_mapM_iff]
  constructor
  · intro h name value hvalue
    obtain ⟨e', he'⟩ := h _ (mem_entries_iff.mpr hvalue)
    exact ⟨e'.2, (changeEntry_eq_ok_iff.mp he').1⟩
  · rintro h ⟨name, value⟩ hmem
    obtain ⟨w, hw⟩ := h name value (mem_entries_iff.mp hmem)
    exact ⟨(name, w), changeEntry_eq_ok_iff.mpr ⟨hw, rfl⟩⟩

/-- A traversal gives values to the same names, each of them changed on its own. -/
theorem rel_of_traverse {m : NameMap α} {n : NameMap β} (h : m.traverse f = .ok n)
    (name : String) : Option.Rel (fun v w => f name v = .ok w) (m.get? name) (n.get? name) := by
  have hfind : ∀ {entries : List (String × α)} {out : List (String × β)},
      List.Forall₂ (fun e e' => changeEntry f e = .ok e') entries out →
      Option.Rel (fun v w => f name v = .ok w) (find name entries) (find name out) := by
    intro entries out hout
    induction hout with
    | nil => exact .none
    | @cons e e' _ _ he _ ih =>
      obtain ⟨hw, hk⟩ := changeEntry_eq_ok_iff.mp he
      rw [find, find, ← hk]
      split
      · next heq =>
        rw [heq] at hw
        exact .some hw
      · exact ih
  exact hfind (mapM_eq_ok_iff.mp (traverse_eq_ok_iff.mp h))

end ContractFixtures.NameMap
