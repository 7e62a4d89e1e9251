/-!
# Cutting texts

A text is cut at every occurrence of a character, or at the first one.
-/

namespace ContractFixtures.Text

/-- The pieces between the occurrences of a character. -/
def splitAll (separator : Char) : List Char → List (List Char)
  | [] => [[]]
  | c :: cs =>
    match splitAll separator cs with
    | [] => [[c]]
    | piece :: pieces =>
      if c = separator then [] :: piece :: pieces else (c :: piece) :: pieces

/-- What stands before and behind the first occurrence of a character. -/
def splitFirst? (separator : Char) : List Char → Option (List Char × List Char)
  | [] => none
  | c :: cs =>
    if c = separator then some ([], cs)
    else (splitFirst? separator cs).map fun (before, behind) => (c :: before, behind)

/-- The pieces with a separator between any two. -/
def joinWith (separator : List Char) : List (List Char) → List Char
  | [] => []
  | [piece] => piece
  | piece :: next :: pieces => piece ++ separator ++ joinWith separator (next :: pieces)

theorem splitAll_ne_nil (separator : Char) (cs : List Char) : splitAll separator cs ≠ [] := by
  cases cs with
  | nil => simp [splitAll]
  | cons c cs =>
    simp only [splitAll]
    split
    · simp
    · split <;> simp

/-- The first piece of a text that starts with a piece. -/
theorem splitAll_append_cons {separator : Char} {piece : List Char} (h : separator ∉ piece)
    (rest : List Char) :
    splitAll separator (piece ++ separator :: rest) = piece :: splitAll separator rest := by
  induction piece with
  | nil =>
    obtain ⟨p, ps, hp⟩ := List.exists_cons_of_ne_nil (splitAll_ne_nil separator rest)
    simp [splitAll, hp]
  | cons c piece ih =>
    have hc : c ≠ separator := fun e => h (by simp [e])
    simp [splitAll, ih (fun hm => h (by simp [hm])), hc]

/-- A text without the separator is one piece. -/
theorem splitAll_eq_singleton {separator : Char} {piece : List Char} (h : separator ∉ piece) :
    splitAll separator piece = [piece] := by
  induction piece with
  | nil => rfl
  | cons c piece ih =>
    have hc : c ≠ separator := fun e => h (by simp [e])
    simp [splitAll, ih (fun hm => h (by simp [hm])), hc]

/-- The pieces of two texts with a separator between them are those of both. -/
theorem splitAll_append (separator : Char) (cs rest : List Char) :
    splitAll separator (cs ++ separator :: rest) =
      splitAll separator cs ++ splitAll separator rest := by
  induction cs with
  | nil => exact splitAll_append_cons List.not_mem_nil rest
  | cons c cs ih =>
    obtain ⟨p, ps, hp⟩ := List.exists_cons_of_ne_nil (splitAll_ne_nil separator cs)
    simp only [List.cons_append, splitAll, ih, hp]
    split <;> rfl

theorem not_mem_of_mem_splitAll {separator : Char} {cs piece : List Char}
    (h : piece ∈ splitAll separator cs) : separator ∉ piece := by
  induction cs generalizing piece with
  | nil =>
    rw [List.mem_singleton.mp h]
    exact List.not_mem_nil
  | cons c cs ih =>
    obtain ⟨p, ps, hp⟩ := List.exists_cons_of_ne_nil (splitAll_ne_nil separator cs)
    rw [hp] at ih
    simp only [splitAll, hp] at h
    split at h
    · rcases List.mem_cons.mp h with rfl | hmem
      · exact List.not_mem_nil
      · exact ih hmem
    · next hc =>
      rcases List.mem_cons.mp h with rfl | hmem
      · exact List.not_mem_cons_of_ne_of_not_mem (Ne.symm hc) (ih List.mem_cons_self)
      · exact ih (List.mem_cons_of_mem _ hmem)

/-- The pieces put together again are the text. -/
theorem joinWith_splitAll (separator : Char) (cs : List Char) :
    joinWith [separator] (splitAll separator cs) = cs := by
  induction cs with
  | nil => rfl
  | cons c cs ih =>
    obtain ⟨p, ps, hp⟩ := List.exists_cons_of_ne_nil (splitAll_ne_nil separator cs)
    simp only [splitAll, hp]
    rw [hp] at ih
    split
    · next h => simp [joinWith, ih, h]
    · cases ps <;> simp_all [joinWith]

end ContractFixtures.Text
