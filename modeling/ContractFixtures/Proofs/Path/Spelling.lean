import ContractFixtures.Proofs.Path.Parts
import ContractFixtures.Proofs.Text.Pieces
import Mathlib.Logic.Relation

/-!
# Spellings of paths

A path may be written in many ways: slashes may be doubled, dots may stand between slashes, and
slashes and dots may stand behind the last part. These are the only ways to write the same parts
differently. The directory of a path is cut off its text, so it is written as the path is; but the
directories of two spellings of a path are spellings of one directory.

* `Respell`: a slash or a dot that does not count is left out.
* `Respelled`: paths that differ in such slashes and dots only.
* `spell`: the shortest text with some parts.
* `parent?`: the directory that holds what a path denotes, cut off its text.

Results:
1. `text_of_mem_parts`, `root_not_mem_tail`: what the parts of a path are.
2. `partsOf_joinWith`, `partsOf_append_slash`: the parts of a text by its pieces.
3. `respelled_iff`: the spellings of a path are the texts with its parts.
4. `parts_parent?`, `Respelled.parent?`: the parts of the directory that is cut off a text.
-/

namespace ContractFixtures.Path

open Relation (EqvGen)

/-! ## Pieces and parts -/

/-- Pieces that are empty or a dot stay in the same place. -/
theorem partOf?_eq_none_iff {piece : List Char} :
    partOf? piece = none ↔ piece = [] ∨ piece = ['.'] := by
  unfold partOf?
  split
  · next h => exact iff_of_true rfl h
  · next h => split <;> exact iff_of_false (Option.some_ne_none _) h

/-- A part is written as the piece that stands for it. -/
theorem toList_text_of_partOf? {piece : List Char} {part : Part} (h : partOf? piece = some part) :
    part.text.toList = piece := by
  unfold partOf? at h
  split at h
  · cases h
  · split at h
    · next hup =>
      cases h
      exact hup.symm
    · cases h
      exact String.toList_ofList

/-- No piece between slashes stands for the slash in front of a path. -/
theorem ne_root_of_partOf? {piece : List Char} {part : Part} (h : partOf? piece = some part) :
    part ≠ .root := by
  intro hroot
  subst hroot
  unfold partOf? at h
  split at h
  · cases h
  · split at h <;> cases h

/-- The part that the first of several pieces stands for. -/
def leadOf (first : List Char) (rest : List (List Char)) : List Part :=
  if first = [] then (if rest = [] then [] else [.root])
  else if first = ['.'] then [.here]
  else (partOf? first).toList

theorem partsOf_piece {piece : List Char} (h : '/' ∉ piece) : partsOf piece = leadOf piece [] := by
  have hslash : piece.head? ≠ some '/' := fun he => h (List.mem_of_mem_head? he)
  simp only [partsOf, leadOf, Text.splitAll_eq_singleton h, if_neg hslash]
  by_cases hempty : piece = []
  · simp [hempty, partOf?]
  · by_cases hhere : piece = ['.']
    · simp [hhere, partOf?]
    · cases hpart : partOf? piece <;> simp [hempty, hhere, hpart]

/-- No part holds a slash, but the slash in front of a path is one. -/
theorem text_of_mem_parts {p : Path} {part : Part} (h : part ∈ p.parts) :
    part.text = "/" ∨ part.text ≠ "" ∧ '/' ∉ part.text.toList := by
  unfold parts partsOf at h
  rcases List.mem_append.mp h with hstart | hpiece
  · split at hstart
    · rw [List.mem_singleton.mp hstart]
      exact .inl rfl
    · split at hstart
      · rw [List.mem_singleton.mp hstart]
        exact .inr (by decide)
      · cases hstart
  · obtain ⟨piece, hmem, hpart⟩ := List.mem_filterMap.mp hpiece
    have htext := toList_text_of_partOf? hpart
    refine .inr ⟨?_, ?_⟩
    · intro hempty
      rw [hempty] at htext
      rw [← htext] at hpart
      cases hpart
    · rw [htext]
      exact Text.not_mem_of_mem_splitAll hmem

/-- The slash in front of a path is its first part only. -/
theorem root_not_mem_tail (p : Path) : Part.root ∉ p.parts.tail := by
  have hpieces : ∀ pieces : List (List Char), Part.root ∉ pieces.filterMap partOf? := by
    intro pieces hmem
    obtain ⟨piece, -, hpart⟩ := List.mem_filterMap.mp hmem
    exact ne_root_of_partOf? hpart rfl
  simp only [parts, partsOf]
  split
  · exact hpieces _
  · split
    · exact hpieces _
    · exact fun hmem => hpieces _ (List.mem_of_mem_tail hmem)

/-- What is written behind a slash adds the parts of its pieces. -/
theorem partsOf_append_slash (front rest : List Char) :
    partsOf (front ++ '/' :: rest) =
      (if front = [] then [.root] else partsOf front)
        ++ (Text.splitAll '/' rest).filterMap partOf? := by
  split
  · next h =>
    rw [h, List.nil_append, partsOf_slash]
    rfl
  · next h => exact partsOf_append h rest

theorem splitAll_joinSlash {first : List Char} {rest : List (List Char)}
    (h : ∀ piece ∈ first :: rest, '/' ∉ piece) :
    Text.splitAll '/' (Text.joinWith ['/'] (first :: rest)) = first :: rest :=
  Text.splitAll_eq_iff.mpr ⟨List.cons_ne_nil _ _, rfl, h⟩

/-- The parts of pieces that are joined by slashes. -/
theorem partsOf_joinWith {first : List Char} {rest : List (List Char)}
    (h : ∀ piece ∈ first :: rest, '/' ∉ piece) :
    partsOf (Text.joinWith ['/'] (first :: rest))
      = leadOf first rest ++ rest.filterMap partOf? := by
  obtain ⟨hfirst, hrest⟩ := List.forall_mem_cons.mp h
  cases rest with
  | nil =>
    rw [List.filterMap_nil, List.append_nil]
    exact partsOf_piece hfirst
  | cons next more =>
    rw [Text.joinWith_cons_cons, List.nil_append, partsOf_append_slash, splitAll_joinSlash hrest]
    congr 1
    split
    · next hempty => simp [hempty, leadOf]
    · next hempty => rw [partsOf_piece hfirst, leadOf, leadOf, if_neg hempty, if_neg hempty]

/-! ## Spellings -/

/-- A slash or a dot that does not count is left out: one of two slashes, a dot between slashes or
behind the last slash, and a slash at the end. -/
inductive Respell : List Char → List Char → Prop
  | slash (front behind : List Char) : Respell (front ++ '/' :: '/' :: behind) (front ++ '/' :: behind)
  | dot (front behind : List Char) :
      Respell (front ++ '/' :: '.' :: '/' :: behind) (front ++ '/' :: behind)
  | lastDot (front : List Char) : Respell (front ++ ['/', '.']) (front ++ ['/'])
  | lastSlash {front : List Char} (h : front ≠ []) : Respell (front ++ ['/']) front

/-- Paths that differ in slashes and dots that do not count. -/
def Respelled (p q : Path) : Prop :=
  EqvGen Respell p.text.toList q.text.toList

theorem Respell.partsOf_eq {cs ds : List Char} (h : Respell cs ds) : partsOf cs = partsOf ds := by
  cases h with
  | slash front behind =>
    rw [partsOf_append_slash, partsOf_append_slash, ← List.nil_append ('/' :: behind),
      Text.splitAll_append]
    rfl
  | dot front behind =>
    have hdot : '.' :: '/' :: behind = ['.'] ++ '/' :: behind := rfl
    rw [partsOf_append_slash, partsOf_append_slash, hdot, Text.splitAll_append]
    rfl
  | lastDot front =>
    rw [partsOf_append_slash, partsOf_append_slash]
    rfl
  | lastSlash h =>
    rw [partsOf_append_slash, if_neg h]
    exact List.append_nil _

/-- Only the empty text is a spelling of the empty text. -/
theorem Respell.ne_nil {cs ds : List Char} (h : Respell cs ds) : cs ≠ [] ∧ ds ≠ [] := by
  cases h with
  | slash | dot | lastDot => simp
  | lastSlash h => simp [h]

/-- What leaving a slash or a dot out keeps is the same for all spellings. -/
theorem eq_of_eqvGen {α : Type} {f : List Char → α}
    (hf : ∀ {cs ds : List Char}, Respell cs ds → f cs = f ds) {cs ds : List Char}
    (h : EqvGen Respell cs ds) : f cs = f ds := by
  induction h with
  | rel _ _ hstep => exact hf hstep
  | refl => rfl
  | symm _ _ _ ih => exact ih.symm
  | trans _ _ _ _ _ ih ih' => exact ih.trans ih'

theorem eq_nil_iff_of_eqvGen {cs ds : List Char} (h : EqvGen Respell cs ds) :
    cs = [] ↔ ds = [] := by
  have hkept {cs ds : List Char} (hstep : Respell cs ds) : (cs = []) = (ds = []) :=
    propext (iff_of_false hstep.ne_nil.1 hstep.ne_nil.2)
  exact iff_of_eq (eq_of_eqvGen hkept h)

/-- Slashes and dots at the end of a text count no more if a slash is written behind them. -/
theorem Respell.append_slash {cs ds : List Char} (h : Respell cs ds) (behind : List Char) :
    EqvGen Respell (cs ++ '/' :: behind) (ds ++ '/' :: behind) := by
  cases h with
  | slash front rest =>
    have hstep := Respell.slash front (rest ++ '/' :: behind)
    exact .rel _ _ (by simpa using hstep)
  | dot front rest =>
    have hstep := Respell.dot front (rest ++ '/' :: behind)
    exact .rel _ _ (by simpa using hstep)
  | lastDot front =>
    have hdot := Respell.dot front behind
    have hslash := Respell.slash front behind
    refine .trans _ (front ++ '/' :: behind) _ (.rel _ _ ?_) (.symm _ _ (.rel _ _ ?_))
    · simpa using hdot
    · simpa using hslash
  | @lastSlash front h =>
    have hslash := Respell.slash ds behind
    exact .rel _ _ (by simpa using hslash)

theorem eqvGen_append_slash {cs ds : List Char} (h : EqvGen Respell cs ds) (behind : List Char) :
    EqvGen Respell (cs ++ '/' :: behind) (ds ++ '/' :: behind) := by
  induction h with
  | rel _ _ hstep => exact hstep.append_slash behind
  | refl => exact .refl _
  | symm _ _ _ ih => exact .symm _ _ ih
  | trans _ _ _ _ _ ih ih' => exact .trans _ _ _ ih ih'

/-- The piece that a part is written as. The slash in front of a path is what stands behind the
empty piece. -/
def pieceOf : Part → List Char
  | .root => []
  | part => part.text.toList

/-- The shortest text with some parts. -/
def spell (parts : List Part) : List Char :=
  if parts = [.root] then ['/'] else Text.joinWith ['/'] (parts.map pieceOf)

theorem pieceOf_of_partOf? {piece : List Char} {part : Part} (h : partOf? piece = some part) :
    pieceOf part = piece := by
  have htext := toList_text_of_partOf? h
  cases part with
  | root => exact absurd rfl (ne_root_of_partOf? h)
  | here | up | name => exact htext

/-- One more part stands behind a slash. The slash in front of a path is such a slash. -/
theorem spell_concat {parts : List Part} (hne : parts ≠ []) (part : Part) :
    spell (parts ++ [part])
      = (if parts = [.root] then [] else spell parts) ++ '/' :: pieceOf part := by
  have hlong : parts ++ [part] ≠ [.root] := by
    intro he
    have hlength := congrArg List.length he
    have hpos := List.length_pos_iff.mpr hne
    rw [List.length_append, List.length_singleton, List.length_singleton] at hlength
    omega
  have hmap : parts.map pieceOf ≠ [] := fun he => hne (List.map_eq_nil_iff.mp he)
  unfold spell
  rw [if_neg hlong, List.map_append, List.map_singleton, Text.joinWith_concat _ hmap,
    List.append_assoc]
  split
  · next hroot =>
    rw [hroot]
    rfl
  · rfl

/-- A piece without slashes is the shortest text with its parts. -/
theorem spell_piece {piece : List Char} (h : '/' ∉ piece) : spell (partsOf piece) = piece := by
  rw [partsOf_piece h, leadOf]
  split
  · next hempty =>
    rw [hempty]
    rfl
  · split
    · next hhere =>
      rw [hhere]
      rfl
    · next hempty hhere =>
      cases hpart : partOf? piece with
      | none => exact absurd (partOf?_eq_none_iff.mp hpart) (not_or.mpr ⟨hempty, hhere⟩)
      | some part =>
        have hroot : [part] ≠ [.root] := fun he =>
          ne_root_of_partOf? hpart (List.singleton_inj.mp he)
        show spell [part] = piece
        rw [spell, if_neg hroot]
        exact pieceOf_of_partOf? hpart

/-- A piece that stands for no part is a spelling of nothing behind the slash. -/
theorem eqvGen_of_partOf?_none {last : List Char} (h : partOf? last = none) (cs : List Char) :
    EqvGen Respell (cs ++ '/' :: last) (cs ++ ['/']) := by
  rcases partOf?_eq_none_iff.mp h with rfl | rfl
  · exact .refl _
  · exact .rel _ _ (.lastDot cs)

/-- What is written behind a slash is a spelling of its part, if it stands for one. -/
theorem eqvGen_spell_append {cs last : List Char} (h : EqvGen Respell cs (spell (partsOf cs)))
    (hlast : '/' ∉ last) :
    EqvGen Respell (cs ++ '/' :: last) (spell (partsOf (cs ++ '/' :: last))) := by
  have hparts := partsOf_append_slash cs last
  rw [Text.splitAll_eq_singleton hlast] at hparts
  cases hpart : partOf? last with
  | none =>
    rw [hparts, List.filterMap_cons_none hpart, List.filterMap_nil, List.append_nil]
    refine .trans _ _ _ (eqvGen_of_partOf?_none hpart cs) ?_
    split
    · next hempty =>
      rw [hempty]
      exact .refl _
    · next hempty => exact .trans _ _ _ (.rel _ _ (.lastSlash hempty)) h
  | some part =>
    rw [hparts, List.filterMap_cons_some hpart, List.filterMap_nil]
    split
    · next hempty =>
      rw [hempty, spell_concat (List.cons_ne_nil _ _), if_pos rfl, pieceOf_of_partOf? hpart]
      exact .refl _
    · next hempty =>
      have hne : partsOf cs ≠ [] := by
        intro hnone
        rw [hnone] at h
        exact hempty ((eq_nil_iff_of_eqvGen h).mpr rfl)
      refine .trans _ _ _ (eqvGen_append_slash h last) ?_
      rw [spell_concat hne, pieceOf_of_partOf? hpart]
      split
      · next hroot =>
        rw [hroot]
        exact .rel _ _ (.slash [] last)
      · exact .refl _

/-- Every text is a spelling of the shortest text with its parts. -/
theorem eqvGen_spell (cs : List Char) : EqvGen Respell cs (spell (partsOf cs)) := by
  obtain ⟨first, rest, hpieces⟩ := List.exists_cons_of_ne_nil (Text.splitAll_ne_nil '/' cs)
  obtain ⟨-, hjoin, hslash⟩ := Text.splitAll_eq_iff.mp hpieces
  rw [← hjoin]
  clear hpieces hjoin
  -- The text grows by one piece at its end.
  induction rest using List.reverseRecOn with
  | nil =>
    show EqvGen Respell first (spell (partsOf first))
    rw [spell_piece (hslash first List.mem_cons_self)]
    exact .refl _
  | append_singleton rest last ih =>
    rw [← List.cons_append, List.forall_mem_append] at hslash
    rw [← List.cons_append, Text.joinWith_concat _ (List.cons_ne_nil _ _), List.append_assoc]
    exact eqvGen_spell_append (ih hslash.1) (hslash.2 last List.mem_cons_self)

/-- The spellings of a path are the texts with its parts. -/
theorem respelled_iff {p q : Path} : Respelled p q ↔ p.parts = q.parts := by
  constructor
  · exact eq_of_eqvGen Respell.partsOf_eq
  · intro h
    have hp := eqvGen_spell p.text.toList
    have hq := eqvGen_spell q.text.toList
    have hparts : partsOf p.text.toList = partsOf q.text.toList := h
    rw [hparts] at hp
    exact .trans _ _ _ hp (.symm _ _ hq)

/-! ## Directories -/

/-- Pieces up to the last one that stands for a part. -/
def upToPart (pieces : List (List Char)) : List (List Char) :=
  pieces.rdropWhile fun piece => partOf? piece = none

/-- The text of a first piece and those behind it. The empty piece alone is in front of a slash. -/
def joinPieces (first : List Char) (front : List (List Char)) : List Char :=
  if first = [] ∧ front = [] then ['/'] else Text.joinWith ['/'] (first :: front)

/-- The text of pieces up to the slash in front of their last part. The first piece is the last part
if no other stands for one. -/
def cutLast? (first : List Char) (rest : List (List Char)) : Option (List Char) :=
  if upToPart rest = [] then (if first = [] then none else some [])
  else some (joinPieces first (upToPart (upToPart rest).dropLast))

/-- The directory that holds what a path denotes, cut off its text: the last part goes, and so do
the slashes and dots around it that do not count. Nothing holds the root. -/
def parent? (p : Path) : Option Path :=
  match Text.splitAll '/' p.text.toList with
  | [] => none
  | first :: rest => (cutLast? first rest).map fun cs => ⟨String.ofList cs⟩

theorem filterMap_upToPart (pieces : List (List Char)) :
    (upToPart pieces).filterMap partOf? = pieces.filterMap partOf? := by
  have hstay : (pieces.rtakeWhile fun piece => partOf? piece = none).filterMap partOf? = [] := by
    refine List.filterMap_eq_nil_iff.mpr fun piece hpiece => ?_
    simpa using List.mem_rtakeWhile_imp hpiece
  have hcut : upToPart pieces ++ pieces.rtakeWhile (fun piece => partOf? piece = none) = pieces :=
    List.rdropWhile_append_rtakeWhile
  rw [← hcut, List.filterMap_append, hstay, List.append_nil, hcut]

theorem exists_upToPart {pieces : List (List Char)} (h : upToPart pieces ≠ []) :
    ∃ front last part, upToPart pieces = front ++ [last] ∧ partOf? last = some part := by
  have hlast := List.rdropWhile_last_not (fun piece => partOf? piece = none) pieces h
  obtain ⟨part, hpart⟩ := Option.ne_none_iff_exists'.mp (by simpa using hlast)
  exact ⟨_, _, part, (List.dropLast_append_getLast h).symm, hpart⟩

theorem mem_upToPart {pieces : List (List Char)} {piece : List Char} (h : piece ∈ upToPart pieces) :
    piece ∈ pieces :=
  (List.rdropWhile_prefix _ pieces).subset h

theorem parentParts?_concat {part : Part} (h : part ≠ .root) (parts : List Part) :
    parentParts? (parts ++ [part]) = some parts := by
  cases part with
  | root => exact absurd rfl h
  | here | up | name => simp [parentParts?]

/-- A piece in front of others stands for one part, unless it is empty. -/
theorem exists_leadOf {first : List Char} (h : first ≠ []) :
    ∃ part, part ≠ .root ∧ ∀ rest, leadOf first rest = [part] := by
  unfold leadOf
  simp only [if_neg h]
  split
  · exact ⟨.here, by decide, fun _ => rfl⟩
  · next hhere =>
    cases hpart : partOf? first with
    | none => exact absurd (partOf?_eq_none_iff.mp hpart) (not_or.mpr ⟨h, hhere⟩)
    | some part => exact ⟨part, ne_root_of_partOf? hpart, fun _ => rfl⟩

theorem partsOf_joinPieces {first : List Char} {front : List (List Char)}
    (h : ∀ piece ∈ first :: front, '/' ∉ piece) {rest : List (List Char)} (hrest : rest ≠ []) :
    partsOf (joinPieces first front) = leadOf first rest ++ front.filterMap partOf? := by
  unfold joinPieces
  split
  · next hempty =>
    rw [hempty.1, hempty.2, leadOf, if_pos rfl, if_neg hrest]
    rfl
  · next hempty =>
    rw [partsOf_joinWith h]
    congr 1
    by_cases hfirst : first = []
    · have hfront : front ≠ [] := fun he => hempty ⟨hfirst, he⟩
      rw [hfirst, leadOf, leadOf, if_neg hfront, if_neg hrest]
    · obtain ⟨part, -, hlead⟩ := exists_leadOf hfirst
      rw [hlead, hlead]

/-- Pieces lose their last part. -/
theorem map_partsOf_cutLast? {first : List Char} {rest : List (List Char)}
    (h : ∀ piece ∈ first :: rest, '/' ∉ piece) :
    (cutLast? first rest).map partsOf
      = parentParts? (leadOf first rest ++ rest.filterMap partOf?) := by
  rw [← filterMap_upToPart rest, cutLast?]
  by_cases hrest : upToPart rest = []
  · rw [if_pos hrest, hrest, List.filterMap_nil, List.append_nil]
    by_cases hfirst : first = []
    · rw [if_pos hfirst, hfirst, leadOf, if_pos rfl]
      split <;> rfl
    · obtain ⟨part, hpart, hlead⟩ := exists_leadOf hfirst
      rw [if_neg hfirst, hlead]
      exact (parentParts?_concat hpart []).symm
  · obtain ⟨front, last, part, hcut, hpart⟩ := exists_upToPart hrest
    have hne : rest ≠ [] := by
      intro he
      rw [he] at hrest
      exact hrest rfl
    have hslash : ∀ piece ∈ first :: upToPart front, '/' ∉ piece := by
      refine List.forall_mem_cons.mpr ⟨h first List.mem_cons_self, fun piece hpiece => ?_⟩
      have hfront : piece ∈ upToPart rest := by
        rw [hcut]
        exact List.mem_append_left _ (mem_upToPart hpiece)
      exact h piece (List.mem_cons_of_mem _ (mem_upToPart hfront))
    rw [if_neg hrest, hcut, List.dropLast_concat, Option.map_some,
      partsOf_joinPieces hslash hne, filterMap_upToPart, List.filterMap_append,
      List.filterMap_cons_some hpart, List.filterMap_nil, ← List.append_assoc,
      parentParts?_concat (ne_root_of_partOf? hpart)]

/-- The directory that is cut off a text has the parts of the text but the last. -/
theorem parts_parent? (p : Path) : p.parent?.map parts = parentParts? p.parts := by
  obtain ⟨first, rest, hpieces⟩ := List.exists_cons_of_ne_nil
    (Text.splitAll_ne_nil '/' p.text.toList)
  obtain ⟨-, hjoin, hslash⟩ := Text.splitAll_eq_iff.mp hpieces
  have hparts : p.parts = leadOf first rest ++ rest.filterMap partOf? := by
    rw [parts, ← hjoin]
    exact partsOf_joinWith hslash
  rw [hparts, ← map_partsOf_cutLast? hslash, parent?, hpieces, Option.map_map]
  refine congrArg (fun f => Option.map f (cutLast? first rest)) (funext fun cs => ?_)
  show partsOf (String.ofList cs).toList = partsOf cs
  rw [String.toList_ofList]

/-- The directories of two spellings of a path are spellings of one directory. -/
theorem Respelled.parent? {p q : Path} (h : Respelled p q) :
    Option.Rel Respelled p.parent? q.parent? := by
  have hparts : p.parent?.map parts = q.parent?.map parts := by
    rw [parts_parent?, parts_parent?, respelled_iff.mp h]
  generalize p.parent? = left at hparts ⊢
  generalize q.parent? = right at hparts ⊢
  cases left with
  | none =>
    cases right with
    | none => exact .none
    | some => cases hparts
  | some =>
    cases right with
    | none => cases hparts
    | some => exact .some (respelled_iff.mpr (Option.some.inj hparts))

end ContractFixtures.Path
