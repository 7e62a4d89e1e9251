import ContractFixtures.Text.Blank
import ContractFixtures.Text.Split
import Mathlib.Data.List.DropRight

/-!
# Blanks and pieces

Trimming takes blanks off the ends of a text, up to a character that is none. Cutting a joined text
at the separator gives back the pieces that were joined, unless one of them holds the separator:
then there are more pieces than before.

Results:
1. `trimEnd_append_cons`, `trim_around`: a character that is no blank keeps all in front of it and
   behind it from the blanks on the other side.
2. `trimEnd_eq_self_iff`: which texts have no blanks to lose at the end.
3. `trim_eq_iff`, `trim_surround`: what is left of a trimmed text, and of one with more blanks.
4. `splitAll_joinWith`, `length_splitAll_joinWith`: the pieces of a joined text.
5. `splitAll_eq_iff`, `splitFirst?_eq_some_iff`: which pieces a text is cut into.
-/

namespace ContractFixtures.Text

/-! ## Blanks -/

/-- Letters and digits lie between the blank and the other blanks. -/
theorem isBlank_of_isAlphanum {c : Char} (h : c.isAlphanum = true) : isBlank c = false := by
  have hrange : 48 ≤ c.toNat ∧ c.toNat ≤ 122 := by
    delta Char.isAlphanum Char.isAlpha Char.isUpper Char.isLower Char.isDigit at h
    simp only [Bool.or_eq_true, Bool.and_eq_true, decide_eq_true_eq, UInt32.le_iff_toNat_le,
      ge_iff_le, Char.isValue, Char.reduceVal, UInt32.reduceToNat, Char.toNat_val] at h
    omega
  simp only [isBlank, Bool.or_eq_false_iff, Bool.and_eq_false_iff, decide_eq_false_iff_not,
    beq_eq_false_iff_ne]
  omega

theorem trimStart_cons {c : Char} (h : isBlank c = false) (cs : List Char) :
    trimStart (c :: cs) = c :: cs :=
  List.dropWhile_cons_of_neg (by simp [h])

theorem trimStart_blank_cons {c : Char} (h : isBlank c = true) (cs : List Char) :
    trimStart (c :: cs) = trimStart cs :=
  List.dropWhile_cons_of_pos h

/-- A blank in front of a text is trimmed away. -/
theorem trim_blank_cons {c : Char} (h : isBlank c = true) (cs : List Char) :
    trim (c :: cs) = trim cs := by
  rw [trim, trimStart_blank_cons h, trim]

/-- What stands in front of a character that is no blank is kept. -/
theorem trimEnd_append_cons {c : Char} (h : isBlank c = false) (before behind : List Char) :
    trimEnd (before ++ c :: behind) = before ++ c :: trimEnd behind := by
  have hkeep : (c :: before.reverse).dropWhile isBlank = c :: before.reverse :=
    trimStart_cons h before.reverse
  have hrev : (before ++ c :: behind).reverse = behind.reverse ++ c :: before.reverse := by simp
  rw [trimEnd, trimEnd, hrev, List.dropWhile_append]
  split
  · next hempty => simp [List.isEmpty_iff.mp hempty, hkeep]
  · simp

/-- What stands behind a character that is no blank is kept. -/
theorem trimStart_append_cons {c : Char} (h : isBlank c = false) (before behind : List Char) :
    trimStart (before ++ c :: behind) = trimStart before ++ c :: behind := by
  rw [trimStart, trimStart, List.dropWhile_append]
  split
  · next hempty =>
    rw [List.isEmpty_iff.mp hempty]
    exact trimStart_cons h behind
  · rfl

/-- Each side of a character that is no blank loses the blanks at its far end. -/
theorem trim_around {c : Char} (h : isBlank c = false) (before behind : List Char) :
    trim (before ++ c :: behind) = trimStart before ++ c :: trimEnd behind := by
  rw [trim, trimStart_append_cons h, trimEnd_append_cons h]

/-- A text that starts with no blank loses blanks at its end only. -/
theorem trim_cons {c : Char} (h : isBlank c = false) (cs : List Char) :
    trim (c :: cs) = c :: trimEnd cs := by
  rw [trim, trimStart_cons h]
  exact trimEnd_append_cons h [] cs

theorem trimEnd_eq_rdropWhile (cs : List Char) : trimEnd cs = cs.rdropWhile isBlank := rfl

/-- A text without blanks in front of a character that is none is kept. -/
theorem trim_append_cons {before : List Char} (hbefore : ∀ d ∈ before, isBlank d = false) {c : Char}
    (hc : isBlank c = false) (behind : List Char) :
    trim (before ++ c :: behind) = before ++ c :: trimEnd behind := by
  have hkeep : trimStart before = before := by
    cases before with
    | nil => rfl
    | cons d before => exact trimStart_cons (hbefore d List.mem_cons_self) before
  rw [trim_around hc, hkeep]

/-- A text loses nothing at its end unless it ends with a blank. -/
theorem trimEnd_eq_self_iff {cs : List Char} :
    trimEnd cs = cs ↔ ∀ c, cs.getLast? = some c → isBlank c = false := by
  rw [trimEnd_eq_rdropWhile, List.rdropWhile_eq_self_iff]
  constructor
  · intro h c hc
    have hne : cs ≠ [] := List.ne_nil_of_mem (List.mem_of_getLast? hc)
    rw [← (List.getLast_eq_iff_getLast?_eq_some hne).mpr hc]
    simpa using h hne
  · intro h hne
    simp [h _ (List.getLast?_eq_some_getLast hne)]

theorem trimEnd_of_forall {cs : List Char} (h : ∀ c ∈ cs, isBlank c = false) : trimEnd cs = cs :=
  trimEnd_eq_self_iff.mpr fun c hc => h c (List.mem_of_getLast? hc)

/-- A text without blanks is not changed. -/
theorem trim_of_forall {cs : List Char} (h : ∀ c ∈ cs, isBlank c = false) : trim cs = cs := by
  cases cs with
  | nil => rfl
  | cons c cs =>
    obtain ⟨hc, hcs⟩ := List.forall_mem_cons.mp h
    rw [trim_cons hc, trimEnd_of_forall hcs]

/-! ## Trimmed texts -/

/-- What a text says without the blanks around it. -/
structure Trims (text core : List Char) : Prop where
  around : ∃ before behind, text = before ++ core ++ behind ∧
    (∀ c ∈ before, isBlank c = true) ∧ ∀ c ∈ behind, isBlank c = true
  start : ∀ c, core.head? = some c → isBlank c = false
  stop : ∀ c, core.getLast? = some c → isBlank c = false

/-- Blanks at the end of a text do not matter to what is left of it. -/
theorem trimEnd_append_of_forall {behind : List Char} (h : ∀ c ∈ behind, isBlank c = true)
    (cs : List Char) : trimEnd (cs ++ behind) = trimEnd cs := by
  have hrev : ∀ c ∈ behind.reverse, isBlank c = true := by simpa using h
  rw [trimEnd, List.reverse_append, List.dropWhile_append_of_pos hrev, trimEnd]

/-- Blanks in front of a text do not matter to what is left of it. -/
theorem trim_append_of_forall {before : List Char} (h : ∀ c ∈ before, isBlank c = true)
    (cs : List Char) : trim (before ++ cs) = trim cs := by
  rw [trim, trimStart, List.dropWhile_append_of_pos h, trim, trimStart]

theorem isBlank_head_trimStart {cs : List Char} {c : Char} (h : (trimStart cs).head? = some c) :
    isBlank c = false := by
  have := List.head?_dropWhile_not isBlank cs
  rw [trimStart] at h
  rw [h] at this
  simpa using this

/-- Trimming finds what a text says. -/
theorem trim_eq_iff {text core : List Char} : trim text = core ↔ Trims text core := by
  constructor
  · rintro rfl
    have hstart : trim text <+: trimStart text := List.rdropWhile_prefix isBlank _
    refine ⟨⟨text.takeWhile isBlank, (trimStart text).rtakeWhile isBlank, ?_, ?_, ?_⟩, ?_, ?_⟩
    · rw [List.append_assoc]
      exact (List.takeWhile_append_dropWhile.symm.trans
        (congrArg _ List.rdropWhile_append_rtakeWhile.symm))
    · exact fun c => List.mem_takeWhile_imp
    · exact fun c => List.mem_rtakeWhile_imp
    · intro c hc
      obtain ⟨more, hmore⟩ := hstart
      have hhead : (trimStart text).head? = some c := by
        rw [← hmore, List.head?_append, hc]
        rfl
      exact isBlank_head_trimStart hhead
    · exact trimEnd_eq_self_iff.mp (List.rdropWhile_idempotent isBlank _)
  · rintro ⟨⟨before, behind, rfl, hbefore, hbehind⟩, hstart, hstop⟩
    rw [List.append_assoc, trim_append_of_forall hbefore]
    cases core with
    | nil =>
      rw [List.nil_append, ← List.append_nil behind, trim_append_of_forall hbehind]
      rfl
    | cons c cs =>
      rw [List.cons_append, trim, trimStart_cons (hstart c rfl), ← List.cons_append,
        trimEnd_append_of_forall hbehind, trimEnd_eq_self_iff.mpr hstop]

/-- What a text says does not depend on the blanks around it. -/
theorem Trims.surround {text core before behind : List Char} (h : Trims text core)
    (hbefore : ∀ c ∈ before, isBlank c = true) (hbehind : ∀ c ∈ behind, isBlank c = true) :
    Trims (before ++ text ++ behind) core := by
  obtain ⟨⟨front, back, rfl, hfront, hback⟩, hstart, hstop⟩ := h
  refine ⟨⟨before ++ front, back ++ behind, by simp, ?_, ?_⟩, hstart, hstop⟩
  · exact List.forall_mem_append.mpr ⟨hbefore, hfront⟩
  · exact List.forall_mem_append.mpr ⟨hback, hbehind⟩

/-- More blanks around a text do not change what is left of it. -/
theorem trim_surround {before behind : List Char} (hbefore : ∀ c ∈ before, isBlank c = true)
    (hbehind : ∀ c ∈ behind, isBlank c = true) (text : List Char) :
    trim (before ++ text ++ behind) = trim text := by
  have htext : Trims text (trim text) := trim_eq_iff.mp rfl
  exact trim_eq_iff.mpr (htext.surround hbefore hbehind)

theorem trims_surround_iff {text core before behind : List Char}
    (hbefore : ∀ c ∈ before, isBlank c = true) (hbehind : ∀ c ∈ behind, isBlank c = true) :
    Trims (before ++ text ++ behind) core ↔ Trims text core := by
  rw [← trim_eq_iff, ← trim_eq_iff, trim_surround hbefore hbehind]

/-- What is lost at the end of a text are blanks. -/
theorem exists_trimEnd_append (cs : List Char) :
    ∃ behind, trimEnd cs ++ behind = cs ∧ ∀ c ∈ behind, isBlank c = true :=
  ⟨cs.rtakeWhile isBlank, List.rdropWhile_append_rtakeWhile, fun _ => List.mem_rtakeWhile_imp⟩

theorem trim_trimEnd (cs : List Char) : trim (trimEnd cs) = trim cs := by
  obtain ⟨behind, hcs, hbehind⟩ := exists_trimEnd_append cs
  have h := trim_surround (fun _ hc => absurd hc List.not_mem_nil) hbehind (trimEnd cs)
  rw [List.nil_append, hcs] at h
  exact h.symm

theorem trim_trimStart (cs : List Char) : trim (trimStart cs) = trim cs := by
  have hblank : ∀ c ∈ cs.takeWhile isBlank, isBlank c = true := fun _ => List.mem_takeWhile_imp
  have h := trim_append_of_forall hblank (trimStart cs)
  rw [trimStart, List.takeWhile_append_dropWhile] at h
  exact h.symm

/-! ## Pieces -/

/-- A text is cut at the first separator. -/
theorem splitFirst?_append_cons {separator : Char} {before : List Char} (h : separator ∉ before)
    (behind : List Char) :
    splitFirst? separator (before ++ separator :: behind) = some (before, behind) := by
  induction before with
  | nil => exact if_pos rfl
  | cons c before ih =>
    have hc : c ≠ separator := fun e => h (by simp [e])
    rw [List.cons_append, splitFirst?, if_neg hc, ih fun hm => h (List.mem_cons_of_mem c hm)]
    rfl

/-- What stands around the first separator of a text. -/
theorem splitFirst?_eq_some_iff {separator : Char} {cs before behind : List Char} :
    splitFirst? separator cs = some (before, behind) ↔
      cs = before ++ separator :: behind ∧ separator ∉ before := by
  constructor
  · intro h
    induction cs generalizing before with
    | nil => cases h
    | cons c cs ih =>
      rw [splitFirst?] at h
      split at h
      · next hc =>
        cases h
        exact ⟨by rw [hc, List.nil_append], List.not_mem_nil⟩
      · next hc =>
        obtain ⟨⟨front, back⟩, hfront, he⟩ := Option.map_eq_some_iff.mp h
        cases he
        obtain ⟨rfl, hmem⟩ := ih hfront
        exact ⟨rfl, List.not_mem_cons_of_ne_of_not_mem (Ne.symm hc) hmem⟩
  · rintro ⟨rfl, hmem⟩
    exact splitFirst?_append_cons hmem behind

/-- Each occurrence of the separator makes one more piece. -/
theorem length_splitAll (separator : Char) (cs : List Char) :
    (splitAll separator cs).length = cs.count separator + 1 := by
  induction cs with
  | nil => rfl
  | cons c cs ih =>
    obtain ⟨piece, pieces, hp⟩ := List.exists_cons_of_ne_nil (splitAll_ne_nil separator cs)
    rw [hp, List.length_cons] at ih
    simp only [splitAll, hp]
    split
    · next hc =>
      rw [hc, List.count_cons_self, ← ih]
      rfl
    · next hc =>
      rw [List.count_cons_of_ne hc, ← ih]
      rfl

variable {separator : Char} {pad : List Char}

/-- Joining is the library's one. -/
theorem joinWith_eq_intercalate (between : List Char) (pieces : List (List Char)) :
    joinWith between pieces = between.intercalate pieces := by
  induction pieces with
  | nil => rfl
  | cons piece pieces ih =>
    cases pieces with
    | nil => rw [joinWith, List.intercalate_singleton]
    | cons next pieces => rw [joinWith, ih, List.intercalate_cons_cons]

theorem joinWith_cons_cons (piece next : List Char) (pieces : List (List Char)) :
    joinWith (separator :: pad) (piece :: next :: pieces) =
      piece ++ separator :: (pad ++ joinWith (separator :: pad) (next :: pieces)) := by
  simp [joinWith]

theorem joinWith_concat (between : List Char) {pieces : List (List Char)} (h : pieces ≠ [])
    (piece : List Char) :
    joinWith between (pieces ++ [piece]) = joinWith between pieces ++ between ++ piece := by
  induction pieces with
  | nil => exact absurd rfl h
  | cons head pieces ih =>
    cases pieces with
    | nil => rfl
    | cons next pieces =>
      have hrest := ih (List.cons_ne_nil next pieces)
      rw [List.cons_append] at hrest
      rw [List.cons_append, List.cons_append, joinWith, hrest, joinWith]
      simp only [List.append_assoc]

theorem mem_joinWith_cons {c : Char} {piece : List Char} (h : c ∈ piece) (between : List Char)
    (pieces : List (List Char)) : c ∈ joinWith between (piece :: pieces) := by
  cases pieces with
  | nil => exact h
  | cons next pieces =>
    rw [joinWith, List.append_assoc]
    exact List.mem_append_left _ h

/-- Padding in front of a joined text is padding in front of its first piece. -/
theorem append_joinWith (piece : List Char) (pieces : List (List Char)) :
    pad ++ joinWith (separator :: pad) (piece :: pieces) =
      joinWith (separator :: pad) ((pad ++ piece) :: pieces) := by
  cases pieces with
  | nil => rfl
  | cons next pieces => rw [joinWith_cons_cons, joinWith_cons_cons, List.append_assoc]

/-- Pieces without the separator are found again, with the padding in front of all but the first. -/
theorem splitAll_joinWith (hpad : separator ∉ pad) {piece : List Char} {pieces : List (List Char)}
    (h : ∀ p ∈ piece :: pieces, separator ∉ p) :
    splitAll separator (joinWith (separator :: pad) (piece :: pieces)) =
      piece :: pieces.map (pad ++ ·) := by
  induction pieces generalizing piece with
  | nil => exact splitAll_eq_singleton (h piece List.mem_cons_self)
  | cons next pieces ih =>
    obtain ⟨hpiece, hmore⟩ := List.forall_mem_cons.mp h
    obtain ⟨hnext, hrest⟩ := List.forall_mem_cons.mp hmore
    have hpadded : separator ∉ pad ++ next := by simp [hpad, hnext]
    rw [joinWith_cons_cons, splitAll_append_cons hpiece, append_joinWith,
      ih (List.forall_mem_cons.mpr ⟨hpadded, hrest⟩)]
    rfl

/-- The pieces of a text are the only ones without the separator that the text is joined from. -/
theorem splitAll_eq_iff {cs : List Char} {pieces : List (List Char)} :
    splitAll separator cs = pieces ↔
      pieces ≠ [] ∧ joinWith [separator] pieces = cs ∧ ∀ piece ∈ pieces, separator ∉ piece := by
  constructor
  · rintro rfl
    exact ⟨splitAll_ne_nil separator _, joinWith_splitAll separator _,
      fun _ => not_mem_of_mem_splitAll⟩
  · rintro ⟨hne, rfl, hpieces⟩
    obtain ⟨piece, more, rfl⟩ := List.exists_cons_of_ne_nil hne
    rw [splitAll_joinWith List.not_mem_nil hpieces]
    simp

/-- A joined text has a piece more for every separator that one of the pieces holds. -/
theorem length_splitAll_joinWith (hpad : separator ∉ pad) {pieces : List (List Char)}
    (hne : pieces ≠ []) :
    (splitAll separator (joinWith (separator :: pad) pieces)).length =
      pieces.length + pieces.flatten.count separator := by
  induction pieces with
  | nil => exact absurd rfl hne
  | cons piece pieces ih =>
    cases pieces with
    | nil =>
      rw [joinWith, length_splitAll, List.flatten_singleton, List.length_singleton, Nat.add_comm]
    | cons next pieces =>
      have hrest := ih (List.cons_ne_nil next pieces)
      rw [length_splitAll] at hrest
      rw [joinWith_cons_cons, length_splitAll, List.count_append, List.count_cons_self,
        List.count_append, List.count_eq_zero_of_not_mem hpad, List.flatten_cons,
        List.count_append, List.length_cons]
      omega

end ContractFixtures.Text
