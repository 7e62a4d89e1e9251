import ContractFixtures.Json.Fault

/-!
# Reading in steps

A reader takes a value from the front of a text and leaves a shorter text. Lists and objects are
read by one loop, which differs in the closing bracket and in two causes only.
-/

namespace ContractFixtures.Json

/-- Reads a value from the front of a text. -/
structure Reader (α : Type) where
  run : List Char → Except Fault (α × List Char)
  shrinks : ∀ {text x rest}, run text = .ok (x, rest) → rest.length < text.length

/-- The characters that may stand between tokens. -/
def isSpace (c : Char) : Bool :=
  c == ' ' || c == '\n' || c == '\t' || c == '\r'

/-- Drops the blanks in front of a token. -/
def skipSpace (text : List Char) : List Char :=
  text.dropWhile isSpace

theorem map_eq_ok_iff {ε α β : Type} {f : α → β} {x : Except ε α} {y : β} :
    x.map f = .ok y ↔ ∃ a, x = .ok a ∧ f a = y := by
  cases x <;> simp [Except.map]

theorem length_dropWhile_le {α : Type} (p : α → Bool) (xs : List α) :
    (xs.dropWhile p).length ≤ xs.length :=
  (List.dropWhile_sublist p).length_le

theorem length_skipSpace_le (text : List Char) : (skipSpace text).length ≤ text.length :=
  length_dropWhile_le _ _

/-- How a list or an object ends, and what is wrong if it does not. -/
structure Enclosure where
  close : Char
  unfinished : Cause
  missingComma : Cause

/-- Elements up to a bracket. -/
def Enclosure.list : Enclosure := ⟨']', .endInList, .expectedListComma⟩

/-- Members up to a brace. -/
def Enclosure.object : Enclosure := ⟨'\x7d', .endInObject, .expectedObjectComma⟩

/-- What follows an item: the end, or the text of the next item. -/
def Enclosure.continue (e : Enclosure) (text : List Char) :
    Except Fault (List Char ⊕ List Char) :=
  match skipSpace text with
  | [] => .error (.behind e.unfinished [])
  | c :: rest =>
    if c = e.close then .ok (.inl rest)
    else if c = ',' then
      match skipSpace rest with
      | [] => .error (.behind .endInValue [])
      | d :: more =>
        if d = e.close then .error (.behind .trailingComma (d :: more)) else .ok (.inr (d :: more))
    else .error (.behind e.missingComma (c :: rest))

theorem Enclosure.length_of_continue_end {e : Enclosure} {text rest : List Char}
    (h : e.continue text = .ok (.inl rest)) : rest.length < text.length := by
  have hs := length_skipSpace_le text
  unfold Enclosure.continue at h
  split at h
  · cases h
  · next c cs hc =>
    rw [hc] at hs
    split at h
    · cases h
      exact hs
    split at h
    · split at h
      · cases h
      · split at h <;> cases h
    · cases h

theorem Enclosure.length_of_continue_next {e : Enclosure} {text rest : List Char}
    (h : e.continue text = .ok (.inr rest)) : rest.length < text.length := by
  have hs := length_skipSpace_le text
  unfold Enclosure.continue at h
  split at h
  · simp at h
  · next c cs hc =>
    rw [hc] at hs
    split at h
    · cases h
    split at h
    · split at h
      · cases h
      · next d more hd =>
        split at h
        · cases h
        · cases h
          have ht := length_skipSpace_le cs
          rw [hd] at ht
          exact Nat.lt_of_le_of_lt ht hs
    · cases h

/-- A refused item is placed where its list has taken the bracket or the comma behind it. -/
def Fault.settle : Fault → Fault
  | .located cause left => .located cause left
  | .pending reason rest =>
    .before (.refused reason)
      (match skipSpace rest with
       | ']' :: more => more
       | ',' :: more => skipSpace more
       | other => other)

/-- Reads items from the first one on, up to the end of their enclosure. -/
def items {α : Type} (e : Enclosure) (item : Reader α) (text : List Char) :
    Except Fault (List α × List Char) :=
  match _hx : item.run text with
  | .error fault => .error fault.settle
  | .ok (x, rest) =>
    match _hc : e.continue rest with
    | .error fault => .error fault
    | .ok (.inl rest) => .ok ([x], rest)
    | .ok (.inr next) =>
      match items e item next with
      | .error fault => .error fault
      | .ok (xs, rest) => .ok (x :: xs, rest)
termination_by text.length
decreasing_by
  have := item.shrinks _hx
  have := Enclosure.length_of_continue_next _hc
  omega

/-- Reads all items from behind the opening bracket. -/
def enclosed {α : Type} (e : Enclosure) (item : Reader α) (text : List Char) :
    Except Fault (List α × List Char) :=
  match skipSpace text with
  | [] => .error (.behind e.unfinished [])
  | c :: rest => if c = e.close then .ok ([], rest) else items e item (c :: rest)

theorem length_of_items {α : Type} {e : Enclosure} {item : Reader α} {text rest : List Char}
    {xs : List α} (h : items e item text = .ok (xs, rest)) : rest.length < text.length := by
  fun_induction items e item text generalizing xs rest with
  | case1 => simp at h
  | case2 => simp at h
  | case3 _ _ _ hx _ hc =>
    cases h
    exact Nat.lt_trans (Enclosure.length_of_continue_end hc) (item.shrinks hx)
  | case4 => simp at h
  | case5 _ _ _ hx _ hc _ _ hr ih =>
    cases h
    have hnext := Nat.lt_trans (Enclosure.length_of_continue_next hc) (item.shrinks hx)
    exact Nat.lt_trans (ih hr) hnext

theorem length_of_enclosed {α : Type} {e : Enclosure} {item : Reader α} {text rest : List Char}
    {xs : List α} (h : enclosed e item text = .ok (xs, rest)) : rest.length < text.length := by
  have hs := length_skipSpace_le text
  unfold enclosed at h
  split at h
  · simp at h
  · next c cs hc =>
    rw [hc] at hs
    split at h
    · cases h
      exact hs
    · exact Nat.lt_of_lt_of_le (length_of_items h) hs

/-- Reads a value and refuses it if it does not denote a value of another type. -/
def Reader.refine {α β : Type} (r : Reader α) (f : α → Except String β) : Reader β where
  run text :=
    match r.run text with
    | .error fault => .error fault
    | .ok (x, rest) =>
      match f x with
      | .error reason => .error (.pending reason rest)
      | .ok y => .ok (y, rest)
  shrinks h := by
    split at h
    · simp at h
    · next hr =>
      split at h
      · simp at h
      · have := r.shrinks hr
        simp_all

/-- Reads a whole text, which holds one value and blanks around it. -/
def Reader.document {α : Type} (r : Reader α) (text : String) : Except Error α :=
  match r.run text.toList with
  | .error fault => .error (fault.toError text.toList)
  | .ok (x, rest) =>
    match skipSpace rest with
    | [] => .ok x
    | more => .error ((Fault.behind .trailingCharacters more).toError text.toList)

end ContractFixtures.Json
