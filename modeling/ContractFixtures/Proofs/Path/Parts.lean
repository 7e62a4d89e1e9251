import ContractFixtures.Path
import Mathlib.Data.List.Infix

/-!
# Parts of paths

Joining a name to a path adds one part, however the path is written. The order of paths is the
lexical order of their parts and tells two paths apart exactly if their parts differ.

Results:
1. `parts_join`, `splitAll_join`: the parts and the pieces of a joined path.
2. `partsFrom_of_append`: the parts of a path behind those of another one.
3. `fileStem_append`, `extension?_append`, `compare_append`: what does not depend on the parts in
   front.
4. `compare_eq_lt_of_isLE`: of two paths with different parts one comes first.
-/

namespace ContractFixtures.Path

/-! ## Names -/

/-- A text that may be the name of an entry of a directory: one part of a path, which leads
neither back to the directory nor out of it. -/
structure IsName (name : String) : Prop where
  noSlash : '/' ∉ name.toList
  notEmpty : name ≠ ""
  notHere : name ≠ "."
  notUp : name ≠ ".."

instance (name : String) : Decidable (IsName name) :=
  decidable_of_iff ('/' ∉ name.toList ∧ name ≠ "" ∧ name ≠ "." ∧ name ≠ "..")
    ⟨fun ⟨hs, he, hh, hu⟩ => ⟨hs, he, hh, hu⟩, fun ⟨hs, he, hh, hu⟩ => ⟨hs, he, hh, hu⟩⟩

theorem toList_ne_of_ne {a b : String} (h : a ≠ b) : a.toList ≠ b.toList :=
  fun he => h (String.toList_inj.mp he)

theorem IsName.notStay {name : String} (h : IsName name) :
    ¬ (name.toList = [] ∨ name.toList = ['.']) :=
  not_or.mpr ⟨toList_ne_of_ne h.notEmpty, toList_ne_of_ne h.notHere⟩

theorem IsName.partOf? {name : String} (h : IsName name) :
    partOf? name.toList = some (.name name) := by
  have hu : name.toList ≠ ['.', '.'] := toList_ne_of_ne h.notUp
  rw [Path.partOf?, if_neg h.notStay, if_neg hu, String.ofList_toList]

theorem IsName.splitAll {name : String} (h : IsName name) :
    Text.splitAll '/' name.toList = [name.toList] :=
  Text.splitAll_eq_singleton h.noSlash

/-- A piece between slashes is a name if it is neither empty nor one of the dots. -/
theorem isName_ofList {piece : List Char} (hslash : '/' ∉ piece)
    (hstay : ¬ (piece = [] ∨ piece = ['.'])) (hup : piece ≠ ['.', '.']) :
    IsName (String.ofList piece) := by
  have hne : ∀ {text : String}, piece ≠ text.toList → String.ofList piece ≠ text := by
    rintro text hne rfl
    exact hne String.toList_ofList.symm
  obtain ⟨hempty, hhere⟩ := not_or.mp hstay
  exact ⟨by rwa [String.toList_ofList], hne hempty, hne hhere, hne hup⟩

/-! ## Joined paths -/

/-- What is written behind a slash adds the parts of its pieces. -/
theorem partsOf_append {cs : List Char} (h : cs ≠ []) (rest : List Char) :
    partsOf (cs ++ '/' :: rest) = partsOf cs ++ (Text.splitAll '/' rest).filterMap partOf? := by
  obtain ⟨p, ps, hp⟩ := List.exists_cons_of_ne_nil (Text.splitAll_ne_nil '/' cs)
  have hhead : (cs ++ '/' :: rest).head? = cs.head? := by
    rw [List.head?_append_of_ne_nil _ h]
  simp only [partsOf, hhead, Text.splitAll_append, hp, List.cons_append, List.head?_cons]
  rw [← List.cons_append, List.filterMap_append, List.append_assoc]

theorem partsOf_slash (rest : List Char) :
    partsOf ('/' :: rest) = .root :: (Text.splitAll '/' rest).filterMap partOf? := by
  have hs : Text.splitAll '/' ('/' :: rest) = [] :: Text.splitAll '/' rest :=
    Text.splitAll_append '/' [] rest
  simp [partsOf, hs, partOf?]

/-- A name alone is a path of one part. -/
theorem partsOf_name {name : String} (h : IsName name) : partsOf name.toList = [.name name] := by
  have hslash : name.toList.head? ≠ some '/' := fun he => h.noSlash (List.mem_of_mem_head? he)
  have hhere : name.toList ≠ ['.'] := toList_ne_of_ne h.notHere
  simp [partsOf, h.splitAll, h.partOf?, hslash, hhere]

/-- A name that is joined to a path adds one part to it. -/
theorem parts_join {name : String} (h : IsName name) (p : Path) :
    (p.join name).parts = p.parts ++ [.name name] := by
  have hname : (Text.splitAll '/' name.toList).filterMap partOf? = [.name name] := by
    rw [h.splitAll, List.filterMap_cons, h.partOf?]
    rfl
  unfold join parts
  split
  · next hp =>
    rw [String.toList_append]
    rcases hp with he | hlast
    · rw [he]
      exact partsOf_name h
    · obtain ⟨cs, hcs⟩ := List.getLast?_eq_some_iff.mp hlast
      rw [hcs, List.append_assoc, List.singleton_append]
      -- The empty piece behind the last slash is no part, but the slash alone is the root.
      by_cases hn : cs = []
      · rw [hn, List.nil_append, List.nil_append, partsOf_slash, partsOf_slash, hname]
        rfl
      · rw [partsOf_append hn, partsOf_append hn, hname]
        simp [Text.splitAll, partOf?]
  · next hp =>
    have hne : p.text.toList ≠ [] := toList_ne_of_ne (not_or.mp hp).1
    have hslash : (p.text ++ "/" ++ name).toList = p.text.toList ++ '/' :: name.toList := by
      rw [String.toList_append, String.toList_append, List.append_assoc]
      rfl
    rw [hslash, partsOf_append hne, hname]

/-- Names that are joined to a path one after the other add their parts to it. -/
theorem parts_foldl_join {names : List String} (h : ∀ name ∈ names, IsName name) (p : Path) :
    (names.foldl join p).parts = p.parts ++ names.map .name := by
  induction names generalizing p with
  | nil => exact (List.append_nil _).symm
  | cons name names ih =>
    obtain ⟨hname, hrest⟩ := List.forall_mem_cons.mp h
    rw [List.foldl_cons, ih hrest, parts_join hname, List.append_assoc]
    rfl

/-- The pieces in front of a name that is joined to a path. -/
def front (p : Path) : List (List Char) :=
  if p.text = "" then []
  else if p.text.toList.getLast? = some '/' then (Text.splitAll '/' p.text.toList).dropLast
  else Text.splitAll '/' p.text.toList

/-- The pieces of a path that ends with a slash. -/
theorem splitAll_slash (cs : List Char) :
    Text.splitAll '/' (cs ++ ['/']) = Text.splitAll '/' cs ++ [[]] :=
  Text.splitAll_append '/' cs []

theorem splitAll_join {name : String} (h : IsName name) (p : Path) :
    Text.splitAll '/' (p.join name).text.toList = p.front ++ [name.toList] := by
  unfold join front
  by_cases he : p.text = ""
  · rw [if_pos (.inl he), if_pos he, he]
    exact h.splitAll
  by_cases hlast : p.text.toList.getLast? = some '/'
  · rw [if_pos (.inr hlast), if_neg he, if_pos hlast, String.toList_append]
    obtain ⟨cs, hcs⟩ := List.getLast?_eq_some_iff.mp hlast
    rw [hcs, splitAll_slash, List.dropLast_concat, List.append_assoc]
    rw [List.singleton_append, Text.splitAll_append, h.splitAll]
  · rw [if_neg (not_or.mpr ⟨he, hlast⟩), if_neg he, if_neg hlast, String.toList_append,
      String.toList_append, List.append_assoc]
    exact (Text.splitAll_append '/' _ name.toList).trans (by rw [h.splitAll])

/-- A path with a name joined to it ends with the name. -/
theorem exists_text_join (p : Path) (name : String) :
    ∃ between, (p.join name).text.toList = p.text.toList ++ between ++ name.toList ∧
      ∀ c ∈ between, c = '/' := by
  unfold join
  split
  · exact ⟨[], by rw [String.toList_append, List.append_nil], by simp⟩
  · exact ⟨['/'], by rw [String.toList_append, String.toList_append]; rfl, by simp⟩

theorem front_join {name : String} (h : IsName name) (p : Path) :
    (p.join name).front = Text.splitAll '/' (p.join name).text.toList := by
  obtain ⟨between, htext, -⟩ := p.exists_text_join name
  have hname : name.toList ≠ [] := toList_ne_of_ne h.notEmpty
  have hne : (p.join name).text ≠ "" := by
    intro he
    rw [he] at htext
    exact hname (List.append_eq_nil_iff.mp htext.symm).2
  have hlast : (p.join name).text.toList.getLast? ≠ some '/' := by
    rw [htext, List.getLast?_append_of_ne_nil _ hname]
    exact fun he => h.noSlash (List.mem_of_getLast? he)
  rw [front, if_neg hne, if_neg hlast]

/-- The pieces of a path with names joined to it are those in front of the names and the names. -/
theorem splitAll_foldl_join {names : List String} (h : ∀ name ∈ names, IsName name)
    (hne : names ≠ []) (p : Path) :
    Text.splitAll '/' (names.foldl join p).text.toList = p.front ++ names.map String.toList := by
  induction names generalizing p with
  | nil => exact absurd rfl hne
  | cons name names ih =>
    obtain ⟨hname, hrest⟩ := List.forall_mem_cons.mp h
    by_cases hlast : names = []
    · rw [hlast]
      exact splitAll_join hname p
    · rw [List.foldl_cons, ih hrest hlast, front_join hname, splitAll_join hname,
        List.append_assoc]
      rfl

/-- A path with names joined to it starts with the path, and slashes and the names follow. -/
theorem exists_text_foldl_join (names : List String) (p : Path) :
    ∃ rest, (names.foldl join p).text.toList = p.text.toList ++ rest ∧
      ∀ c ∈ rest, c = '/' ∨ ∃ name ∈ names, c ∈ name.toList := by
  induction names generalizing p with
  | nil => exact ⟨[], (List.append_nil _).symm, fun c hc => absurd hc List.not_mem_nil⟩
  | cons name names ih =>
    obtain ⟨between, htext, hbetween⟩ := p.exists_text_join name
    obtain ⟨rest, hjoined, hrest⟩ := ih (p.join name)
    refine ⟨between ++ name.toList ++ rest, ?_, ?_⟩
    · rw [List.foldl_cons, hjoined, htext]
      simp only [List.append_assoc]
    · intro c hc
      rcases List.mem_append.mp hc with hfront | hmem
      · rcases List.mem_append.mp hfront with hslash | hname
        · exact .inl (hbetween c hslash)
        · exact .inr ⟨name, List.mem_cons_self, hname⟩
      · rcases hrest c hmem with hslash | ⟨other, hother, hc⟩
        · exact .inl hslash
        · exact .inr ⟨other, List.mem_cons_of_mem _ hother, hc⟩

/-! ## Relative paths -/

/-- The parts of a path behind those of another one, or all of its parts if it does not start with
those of the other one. -/
def partsFrom (root p : Path) : List Part :=
  if root.parts <+: p.parts then p.parts.drop root.parts.length else p.parts

theorem partsFrom_of_append {root p : Path} {parts : List Part}
    (h : p.parts = root.parts ++ parts) : partsFrom root p = parts := by
  rw [partsFrom, h, if_pos (List.prefix_append _ _), List.drop_left]

/-! ## Names behind other parts -/

section
variable {parts : List Part} (h : parts ≠ []) (before : List Part)
include h

theorem fileName?_append : fileName? (before ++ parts) = fileName? parts := by
  rw [fileName?, fileName?, List.getLast?_append_of_ne_nil _ h]

theorem fileStem_append : fileStem (before ++ parts) = fileStem parts := by
  rw [fileStem, fileStem, fileName?_append h]

theorem extension?_append : extension? (before ++ parts) = extension? parts := by
  rw [extension?, extension?, fileName?_append h]

end

/-! ## Order -/

instance : Std.TransOrd Part :=
  inferInstanceAs (Std.TransCmp (compareLex (compareOn Part.rank) (compareOn Part.text)))

instance : Std.LawfulEqOrd Part where
  eq_of_compare {a b} h := by
    have hlex : compareLex (compareOn Part.rank) (compareOn Part.text) a b = .eq := h
    obtain ⟨hr, ht⟩ := compareLex_eq_eq.mp hlex
    have hrank : a.rank = b.rank :=
      Std.LawfulEqOrd.eq_of_compare (show compare a.rank b.rank = .eq from hr)
    have htext : a.text = b.text :=
      Std.LawfulEqOrd.eq_of_compare (show compare a.text b.text = .eq from ht)
    cases a <;> cases b <;> simp_all [Part.rank, Part.text]

/-- Paths are ordered as the lists of their parts are. -/
theorem compare_eq (p q : Path) : compare p q = compare p.parts q.parts := rfl

/-- Paths that start with the same parts are ordered by the parts behind them. -/
theorem compare_append (before left right : List Part) :
    compare (before ++ left) (before ++ right) = compare left right := by
  induction before with
  | nil => rfl
  | cons part before ih =>
    rw [List.cons_append, List.cons_append, List.compare_cons_cons, Std.ReflOrd.compare_self,
      Ordering.eq_then, ih]

theorem compare_isLE_trans {p q r : Path} (hpq : (compare p q).isLE) (hqr : (compare q r).isLE) :
    (compare p r).isLE := by
  rw [compare_eq] at *
  exact Std.TransOrd.isLE_trans hpq hqr

theorem compare_isLE_total (p q : Path) : (compare p q).isLE ∨ (compare q p).isLE := by
  rw [compare_eq, compare_eq q p, Std.OrientedOrd.eq_swap (a := q.parts)]
  cases compare p.parts q.parts <;> decide

/-- Of two paths with different parts one comes before the other. -/
theorem compare_eq_lt_of_isLE {p q : Path} (h : (compare p q).isLE) (hne : p.parts ≠ q.parts) :
    compare p q = .lt := by
  cases hpq : compare p q with
  | lt => rfl
  | eq =>
    rw [compare_eq] at hpq
    exact absurd (Std.LawfulEqOrd.eq_of_compare hpq) hne
  | gt =>
    rw [hpq] at h
    contradiction

end ContractFixtures.Path
