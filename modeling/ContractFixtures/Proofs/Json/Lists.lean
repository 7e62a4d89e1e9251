import ContractFixtures.Proofs.Json.Nesting
import ContractFixtures.Text.Split
import Mathlib.Data.List.Forall2

/-!
# Typed lists

A list whose items are read one by one is refused for the first item that is refused, and reported
where the list has come to. So a list of texts, each of which stands for an item or for a reason to
refuse one, stands for the list of all items or for the first of the reasons. This may be nested.

* `IsListOf`: texts between brackets, with commas between them and blanks anywhere around them.
* `Outcome`: what reading a text gives, in front of a tail.
* `Stands`: a text that a reader reads with the same outcome wherever it stands.

Results:
1. `stands_refine`: the text of a value stands for what a typed reader makes of the value.
2. `stands_listOf`: a list of texts stands for all items or for the first reason.
3. `document_of_stands_ok`, `document_of_stands_error`: what a whole document stands for.
-/

namespace ContractFixtures.Json

variable {α : Type}

/-- A text that writes other texts as a list. -/
def IsListOf (texts : List (List Char)) (text : List Char) : Prop :=
  ∃ before inside behind, Blank before ∧ Blank inside ∧ Blank behind ∧
    text = before ++ '[' :: (inside ++ (Text.joinWith [','] texts ++ ']' :: behind))

/-- What reading a text that stands for a result gives in front of a tail: an item, with only
blanks left of the text, or a fault that a list reports for the reason. -/
inductive Outcome (tail : List Char) : Except String α → Except Fault (α × List Char) → Prop
  | item {x : α} {blanks : List Char} : Blank blanks → Outcome tail (.ok x) (.ok (x, blanks ++ tail))
  | refusal {reason : String} {fault : Fault} {left : Nat} :
      fault.settle = .located (.refused reason) left → Outcome tail (.error reason) (.error fault)

/-- A text that stands for a result: it starts an item, and is read so in front of every tail that
ends it, whether or not the blanks in front of it are gone. -/
structure Stands (item : Reader α) (result : Except String α) (text : List Char) : Prop where
  starts : StartsItem (skipSpace text)
  skips : ∀ tail, item.run (skipSpace (text ++ tail)) = item.run (text ++ tail)
  run : ∀ tail, EndsNumber tail → Outcome tail result (item.run (text ++ tail))

theorem Blank.append {blanks more : List Char} (h : Blank blanks) (hmore : Blank more) :
    Blank (blanks ++ more) := by
  intro c hc
  rcases List.mem_append.mp hc with hc | hc
  · exact h c hc
  · exact hmore c hc

theorem blank_iff {text : List Char} : Blank text ↔ skipSpace text = [] := by
  rw [skipSpace, List.dropWhile_eq_nil_iff]
  rfl

theorem Outcome.of_blank_append {blanks tail : List Char} (hb : Blank blanks)
    {result : Except String α} {read : Except Fault (α × List Char)}
    (h : Outcome (blanks ++ tail) result read) : Outcome tail result read := by
  cases h with
  | item hblanks =>
    rw [← List.append_assoc]
    exact .item (hblanks.append hb)
  | refusal hsettle => exact .refusal hsettle

/-! ## Values -/

/-- A value does not start with a closing bracket. -/
theorem startsItem_of_run {d : Nat} {text rest : List Char} {v : Json}
    (h : (value d).run text = .ok (v, rest)) : StartsItem (skipSpace text) := by
  cases value_run_iff.mp h with
  | list hopen _ => exact ⟨_, _, hopen, rfl, by decide⟩
  | object hopen _ => exact ⟨_, _, hopen, rfl, by decide⟩
  | scalar hskip _ _ hscalar =>
    refine ⟨_, _, hskip, isSpace_of_skipSpace hskip, ?_⟩
    rintro (rfl | rfl)
    · cases hscalar
    · cases hscalar

theorem parse_eq_ok_iff {text : String} {v : Json} :
    parse text = .ok v ↔
      ∃ blanks, (value maxDepth).run text.toList = .ok (v, blanks) ∧ Blank blanks := by
  simp only [parse, Reader.document, blank_iff]
  constructor
  · intro h
    split at h
    · cases h
    · next w rest hrun =>
      split at h
      · next hblank =>
        cases h
        exact ⟨rest, hrun, hblank⟩
      · cases h
  · rintro ⟨blanks, hrun, hblank⟩
    simp only [hrun, hblank]

/-- The text of a value stands for what a typed reader makes of the value, if its bound allows the
value. -/
theorem stands_refine {text : String} {v : Json} {d : Nat} (h : parse text = .ok v)
    (hv : v.depth ≤ d) (f : Json → Except String α) :
    Stands ((value d).refine f) (f v) text.toList := by
  obtain ⟨blanks, hrun, hblank⟩ := parse_eq_ok_iff.mp h
  refine ⟨startsItem_of_run hrun, ?_, ?_⟩
  · intro tail
    simp only [Reader.refine, value_run_skipSpace]
  · intro tail htail
    have hd := value_agreesBefore htail hv _ _ hrun
    simp only [Reader.refine, hd]
    cases f v with
    | error reason => exact .refusal rfl
    | ok x => exact .item hblank

/-! ## Lists -/

theorem items_of_error {e : Enclosure} {item : Reader α} {text : List Char} {fault : Fault}
    (h : item.run text = .error fault) : items e item text = .error fault.settle := by
  rw [items]
  split
  · next he =>
    cases h.symm.trans he
    rfl
  · next he => cases h.symm.trans he

section
variable {item : Reader α} {result : Except String α} {text : List Char}

theorem startsItem_joinWith (h : Stands item result text) (texts : List (List Char))
    (tail : List Char) : StartsItem (skipSpace (Text.joinWith [','] (text :: texts) ++ tail)) := by
  obtain ⟨c, more, hc, hspace, hclose⟩ := h.starts
  cases texts with
  | nil => exact ⟨c, _, skipSpace_append_of_cons hc tail, hspace, hclose⟩
  | cons next texts =>
    rw [Text.joinWith, List.append_assoc, List.append_assoc]
    exact ⟨c, _, skipSpace_append_of_cons hc _, hspace, hclose⟩

/-- The last text of a list ends at the bracket. -/
theorem outcome_items_last (h : Stands item result text) (tail : List Char) :
    Outcome tail ([result].mapM id) (items .list item (skipSpace (text ++ ']' :: tail))) := by
  have houtcome := h.run (']' :: tail) (endsNumber_cons.mpr (by decide))
  rw [← h.skips] at houtcome
  rw [List.mapM_cons, List.mapM_nil]
  generalize hread : item.run _ = read at houtcome
  cases houtcome with
  | item hblank =>
    rw [items_of_end hread (continue_close isClosing_list hblank tail)]
    exact .item blank_nil
  | refusal hsettle =>
    rw [items_of_error hread, hsettle]
    exact .refusal rfl

/-- A text in front of a comma comes before what stands behind the comma. -/
theorem outcome_items_next (h : Stands item result text) {more tail : List Char}
    (hstarts : StartsItem (skipSpace more)) {results : List (Except String α)}
    (hmore : Outcome tail (results.mapM id) (items .list item (skipSpace more))) :
    Outcome tail ((result :: results).mapM id)
      (items .list item (skipSpace (text ++ ',' :: more))) := by
  have houtcome := h.run (',' :: more) (endsNumber_cons.mpr (by decide))
  rw [← h.skips] at houtcome
  rw [List.mapM_cons]
  generalize hread : item.run _ = read at houtcome
  cases houtcome with
  | item hblank =>
    rw [items_eq_map_of_next hread (continue_comma isClosing_list hblank hstarts)]
    generalize items .list item _ = read at hmore ⊢
    generalize List.mapM id results = all at hmore ⊢
    cases hmore with
    | item hblanks => exact .item hblanks
    | refusal hsettle => exact .refusal hsettle
  | refusal hsettle =>
    -- What stands behind a refused text is not read.
    rw [items_of_error hread, hsettle]
    exact .refusal rfl

/-- Texts with commas between them are read as all items or refused for the first reason. -/
theorem outcome_items {results : List (Except String α)} {texts : List (List Char)}
    (h : Stands item result text) (hmore : List.Forall₂ (Stands item) results texts)
    (tail : List Char) :
    Outcome tail ((result :: results).mapM id)
      (items .list item (skipSpace (Text.joinWith [','] (text :: texts) ++ ']' :: tail))) := by
  induction hmore generalizing result text with
  | nil => exact outcome_items_last h tail
  | @cons next nextText results texts hnext _ ih =>
    have hjoin : Text.joinWith [','] (text :: nextText :: texts) ++ ']' :: tail =
        text ++ ',' :: (Text.joinWith [','] (nextText :: texts) ++ ']' :: tail) := by
      simp [Text.joinWith]
    rw [hjoin]
    exact outcome_items_next h (startsItem_joinWith hnext texts _) (ih hnext)

end

/-- A list of texts stands for all items or for the first reason to refuse one. -/
theorem stands_listOf {item : Reader α} {results : List (Except String α)}
    {texts : List (List Char)} {text : List Char} (h : List.Forall₂ (Stands item) results texts)
    (htext : IsListOf texts text) : Stands (listOf item) (results.mapM id) text := by
  obtain ⟨before, inside, behind, hbefore, hinside, hbehind, rfl⟩ := htext
  have hopen : ∀ more, skipSpace (before ++ '[' :: more) = '[' :: more := by
    intro more
    rw [skipSpace_append hbefore]
    exact skipSpace_cons rfl _
  refine ⟨?_, ?_, ?_⟩
  · rw [hopen]
    exact ⟨'[', _, rfl, rfl, by decide⟩
  · intro tail
    simp only [listOf, skipSpace_skipSpace]
  · intro tail _
    refine .of_blank_append hbehind ?_
    simp only [listOf, List.append_assoc, List.cons_append, hopen]
    rw [enclosed, skipSpace_append hinside]
    cases h with
    | nil =>
      rw [Text.joinWith, List.nil_append, skipSpace_cons rfl]
      exact .item blank_nil
    | @cons result text results texts hfirst hmore =>
      obtain ⟨c, more, hc, -, hclose⟩ := startsItem_joinWith hfirst texts (']' :: (behind ++ tail))
      have hitems := outcome_items hfirst hmore (behind ++ tail)
      have hne : c ≠ Enclosure.list.close := fun hend => hclose (hend ▸ isClosing_list)
      rw [hc] at hitems ⊢
      simp only [if_neg hne]
      exact hitems

/-! ## Documents -/

theorem document_of_stands_ok {item : Reader α} {x : α} {text : String}
    (h : Stands item (.ok x) text.toList) : item.document text = .ok x := by
  have houtcome := h.run [] endsNumber_nil
  rw [List.append_nil] at houtcome
  generalize hread : item.run text.toList = read at houtcome
  cases houtcome with
  | @item _ blanks hblank =>
    rw [Reader.document, hread, List.append_nil]
    simp only [blank_iff.mp hblank]

/-- A document that stands for a reason is refused for it, at some place. -/
theorem document_of_stands_error {item : Reader α} {reason : String} {text : String}
    (h : Stands item (.error reason) text.toList) :
    ∃ position, item.document text = .error ⟨.refused reason, position⟩ := by
  have houtcome := h.run [] endsNumber_nil
  rw [List.append_nil] at houtcome
  generalize hread : item.run text.toList = read at houtcome
  cases houtcome with
  | @refusal _ fault left hsettle =>
    rw [Reader.document, hread]
    cases fault with
    | located cause left =>
      cases hsettle
      exact ⟨_, rfl⟩
    | pending reason rest =>
      cases hsettle
      exact ⟨_, rfl⟩

end ContractFixtures.Json
