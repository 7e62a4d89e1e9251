/-!
# Maps from names

A finite map from names, kept as entries in ascending order of the names, each name once. So two
maps that give the same value to every name are equal.
-/

namespace ContractFixtures

/-- A finite map from names. -/
structure NameMap (α : Type) where
  entries : List (String × α)
  ascending : entries.Pairwise (fun a b => a.1 < b.1)
deriving DecidableEq

namespace NameMap

variable {α : Type}

/-- The map that gives no name a value. -/
def empty : NameMap α := ⟨[], List.Pairwise.nil⟩

instance : Inhabited (NameMap α) := ⟨empty⟩

/-- The value of a name among entries. -/
def find (name : String) : List (String × α) → Option α
  | [] => none
  | (k, v) :: rest => if k = name then some v else find name rest

/-- Puts a value under a name, in the place of any other. -/
def put (name : String) (value : α) : List (String × α) → List (String × α)
  | [] => [(name, value)]
  | (k, v) :: rest =>
    if name < k then (name, value) :: (k, v) :: rest
    else if name = k then (name, value) :: rest
    else (k, v) :: put name value rest

theorem mem_put {name : String} {value : α} {entries : List (String × α)} {e : String × α}
    (h : e ∈ put name value entries) : e = (name, value) ∨ e ∈ entries := by
  induction entries with
  | nil => simpa [put] using h
  | cons a entries ih =>
    simp only [put] at h
    split at h
    · simpa using h
    · split at h
      · simp at h
        rcases h with h | h
        · exact .inl h
        · exact .inr (by simp [h])
      · simp at h
        rcases h with h | h
        · exact .inr (by simp [h])
        · rcases ih h with h | h
          · exact .inl h
          · exact .inr (by simp [h])

theorem eq_or_lt_of_not_lt {a b : String} (h : ¬ a < b) (hne : a ≠ b) : b < a := by
  by_cases hb : b < a
  · exact hb
  · exact absurd (String.le_antisymm (String.not_lt.1 hb) (String.not_lt.1 h)) hne

theorem pairwise_put (name : String) (value : α) {entries : List (String × α)}
    (h : entries.Pairwise (fun a b => a.1 < b.1)) :
    (put name value entries).Pairwise (fun a b => a.1 < b.1) := by
  induction entries with
  | nil => simp [put]
  | cons a entries ih =>
    obtain ⟨k, v⟩ := a
    obtain ⟨hk, hrest⟩ := List.pairwise_cons.1 h
    simp only [put]
    split
    · next hlt =>
      refine List.pairwise_cons.2 ⟨fun e he => ?_, h⟩
      rcases List.mem_cons.1 he with rfl | he
      · exact hlt
      · exact String.lt_trans hlt (hk e he)
    · next hlt =>
      split
      · next heq =>
        subst heq
        exact List.pairwise_cons.2 ⟨hk, hrest⟩
      · next hne =>
        refine List.pairwise_cons.2 ⟨fun e he => ?_, ih hrest⟩
        rcases mem_put he with rfl | he
        · exact eq_or_lt_of_not_lt hlt hne
        · exact hk e he

/-- The value of a name. -/
def get? (m : NameMap α) (name : String) : Option α :=
  find name m.entries

/-- Gives a value to a name, in the place of any other. -/
def insert (m : NameMap α) (name : String) (value : α) : NameMap α :=
  ⟨put name value m.entries, pairwise_put name value m.ascending⟩

/-- The map that gives each name its last value. -/
def ofList (entries : List (String × α)) : NameMap α :=
  entries.foldl (fun m e => m.insert e.1 e.2) empty

/-- Whether no name has a value. -/
def isEmpty (m : NameMap α) : Bool :=
  m.entries.isEmpty

theorem find_put (name other : String) (value : α) {entries : List (String × α)}
    (h : entries.Pairwise (fun a b => a.1 < b.1)) :
    find other (put name value entries) =
      if name = other then some value else find other entries := by
  induction entries with
  | nil => simp [put, find]
  | cons a entries ih =>
    obtain ⟨k, v⟩ := a
    obtain ⟨hk, hrest⟩ := List.pairwise_cons.1 h
    simp only [put]
    split
    · simp [find]
    · split
      · next heq =>
        subst heq
        simp only [find]
        split <;> rfl
      · next hne =>
        simp only [find, ih hrest]
        split
        · next hko =>
          subst hko
          simp [hne]
        · rfl

@[simp] theorem get?_insert (m : NameMap α) (name other : String) (value : α) :
    (m.insert name value).get? other = if name = other then some value else m.get? other :=
  find_put name other value m.ascending

/-- The entries with each value changed by a function that may fail, one after the other. -/
def traverseEntries {ε β : Type} (f : String → α → Except ε β) :
    List (String × α) → Except ε (List (String × β))
  | [] => .ok []
  | (k, v) :: rest => do
    let w ← f k v
    let ws ← traverseEntries f rest
    return (k, w) :: ws

theorem keys_of_traverseEntries {ε β : Type} {f : String → α → Except ε β}
    {entries : List (String × α)} {out : List (String × β)}
    (h : traverseEntries f entries = .ok out) : out.map Prod.fst = entries.map Prod.fst := by
  induction entries generalizing out with
  | nil =>
    simp only [traverseEntries, Except.ok.injEq] at h
    simp [← h]
  | cons e entries ih =>
    obtain ⟨k, v⟩ := e
    simp only [traverseEntries, bind, Except.bind] at h
    split at h
    · simp at h
    · split at h
      · simp at h
      · next hws =>
        simp only [pure, Except.pure, Except.ok.injEq] at h
        simp [← h, ih hws]

theorem pairwise_of_keys {β : Type} {a : List (String × α)} {b : List (String × β)}
    (h : b.map Prod.fst = a.map Prod.fst) (ha : a.Pairwise (fun x y => x.1 < y.1)) :
    b.Pairwise (fun x y => x.1 < y.1) := by
  have hb : (b.map Prod.fst).Pairwise (· < ·) := by
    rw [h]
    exact List.pairwise_map.2 ha
  exact List.pairwise_map.1 hb

/-- The map with each value changed by a function that may fail, in the order of the names. -/
def traverse {ε β : Type} (f : String → α → Except ε β) (m : NameMap α) :
    Except ε (NameMap β) :=
  match h : traverseEntries f m.entries with
  | .error fault => .error fault
  | .ok out => .ok ⟨out, pairwise_of_keys (keys_of_traverseEntries h) m.ascending⟩

end NameMap

end ContractFixtures
