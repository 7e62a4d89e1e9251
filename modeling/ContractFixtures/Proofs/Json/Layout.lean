import ContractFixtures.Json.Parser
import ContractFixtures.Proofs.Json.Strings

/-!
# Layouts of documents

A text is laid out in tokens with blanks between them. What a reader makes of it does not depend
on the blanks: a row of items is read as the items, wherever blanks stand around the items and
around the commas.

* `Reads`: a reader takes a text off the front of every longer text.
* `Row`, `Bracketed`: items with blanks around them, commas between them and a bracket behind.

Results:
1. `enclosed_of_bracketed`: a layout of items is read as the items.
2. `reads_string`, `reads_array`, `reads_object`: layouts of values are read as the values.
-/

namespace ContractFixtures.Json

variable {α : Type}

/-- Blanks and nothing else. -/
def Blank (cs : List Char) : Prop :=
  ∀ c ∈ cs, isSpace c = true

/-- A bracket or a brace that closes. -/
def IsClosing (c : Char) : Prop :=
  c = ']' ∨ c = '\x7d'

instance : DecidablePred IsClosing :=
  fun c => inferInstanceAs (Decidable (c = ']' ∨ c = '\x7d'))

/-- The first character of an item: neither a blank nor a closing bracket. -/
def StartsItem (text : List Char) : Prop :=
  ∃ c more, text = c :: more ∧ isSpace c = false ∧ ¬ IsClosing c

/-- A reader takes a text off the front of every longer text, as a value. -/
structure Reads (item : Reader α) (x : α) (text : List Char) : Prop where
  starts : StartsItem text
  run : ∀ rest, item.run (text ++ rest) = .ok (x, rest)

/-- Items with blanks around each of them and commas between them. -/
inductive Row (item : Reader α) : List α → List Char → Prop
  | last {x : α} {before text behind : List Char} :
      Blank before → Reads item x text → Blank behind →
      Row item [x] (before ++ (text ++ behind))
  | next {x : α} {xs : List α} {before text behind more : List Char} :
      Blank before → Reads item x text → Blank behind → Row item xs more →
      Row item (x :: xs) (before ++ (text ++ (behind ++ ',' :: more)))

/-- Items, or none of them, in front of the bracket that closes their enclosure. -/
inductive Bracketed (e : Enclosure) (item : Reader α) : List α → List Char → Prop
  | none {blanks : List Char} : Blank blanks → Bracketed e item [] (blanks ++ [e.close])
  | some {xs : List α} {text : List Char} : Row item xs text → Bracketed e item xs (text ++ [e.close])

/-! ## Blanks -/

theorem blank_nil : Blank [] :=
  fun _ h => absurd h List.not_mem_nil

theorem skipSpace_append {blanks : List Char} (h : Blank blanks) (text : List Char) :
    skipSpace (blanks ++ text) = skipSpace text :=
  List.dropWhile_append_of_pos h

theorem skipSpace_cons {c : Char} (h : isSpace c = false) (text : List Char) :
    skipSpace (c :: text) = c :: text := by
  rw [skipSpace, List.dropWhile_cons_of_neg (by simp [h])]

theorem isSpace_of_isClosing {c : Char} (h : IsClosing c) : isSpace c = false := by
  rcases h with rfl | rfl <;> rfl

theorem StartsItem.skipSpace_append {text : List Char} (h : StartsItem text) (rest : List Char) :
    skipSpace (text ++ rest) = text ++ rest := by
  obtain ⟨c, more, rfl, hc, _⟩ := h
  exact skipSpace_cons hc _

/-! ## Rows of items -/

theorem continue_close {e : Enclosure} (he : IsClosing e.close) {blanks : List Char}
    (h : Blank blanks) (rest : List Char) :
    e.continue (blanks ++ e.close :: rest) = .ok (.inl rest) := by
  rw [Enclosure.continue, skipSpace_append h, skipSpace_cons (isSpace_of_isClosing he)]
  exact if_pos rfl

theorem continue_comma {e : Enclosure} (he : IsClosing e.close) {blanks text : List Char}
    (h : Blank blanks) (ht : StartsItem (skipSpace text)) :
    e.continue (blanks ++ ',' :: text) = .ok (.inr (skipSpace text)) := by
  obtain ⟨d, more, hd, _, hclose⟩ := ht
  have hcomma : ',' ≠ e.close := by
    rcases he with he | he <;> rw [he] <;> decide
  have hne : d ≠ e.close := fun h => hclose (h ▸ he)
  rw [Enclosure.continue, skipSpace_append h, skipSpace_cons rfl]
  simp only [if_neg hcomma, if_true, hd, if_neg hne]

theorem items_of_end {e : Enclosure} {item : Reader α} {text rest rest' : List Char} {x : α}
    (hx : item.run text = .ok (x, rest)) (hc : e.continue rest = .ok (.inl rest')) :
    items e item text = .ok ([x], rest') := by
  rw [items]
  split
  · next h => cases h.symm.trans hx
  · next h =>
    cases h.symm.trans hx
    split
    · next h => cases h.symm.trans hc
    · next h =>
      cases h.symm.trans hc
      rfl
    · next h => cases h.symm.trans hc

/-- Behind a comma the items go on as they would from the first one on. -/
theorem items_eq_map_of_next {e : Enclosure} {item : Reader α} {text rest next : List Char} {x : α}
    (hx : item.run text = .ok (x, rest)) (hc : e.continue rest = .ok (.inr next)) :
    items e item text = (items e item next).map fun r => (x :: r.1, r.2) := by
  rw [items]
  split
  · next h => cases h.symm.trans hx
  · next h =>
    cases h.symm.trans hx
    split
    · next h => cases h.symm.trans hc
    · next h => cases h.symm.trans hc
    · next h =>
      cases h.symm.trans hc
      cases items e item next <;> rfl

theorem items_of_next {e : Enclosure} {item : Reader α} {text rest next rest' : List Char} {x : α}
    {xs : List α} (hx : item.run text = .ok (x, rest)) (hc : e.continue rest = .ok (.inr next))
    (hxs : items e item next = .ok (xs, rest')) :
    items e item text = .ok (x :: xs, rest') := by
  rw [items_eq_map_of_next hx hc, hxs]
  rfl

/-- A row starts with its first item once the blanks in front are gone. -/
theorem Row.startsItem {item : Reader α} {xs : List α} {text : List Char} (h : Row item xs text)
    (rest : List Char) : StartsItem (skipSpace (text ++ rest)) := by
  cases h with
  | last hb hx _ | next hb hx _ _ =>
    rw [List.append_assoc, List.append_assoc, skipSpace_append hb, hx.starts.skipSpace_append]
    obtain ⟨c, more, rfl, hc⟩ := hx.starts
    exact ⟨c, _, rfl, hc⟩

/-- A row of items is read as the items, up to the bracket behind it. -/
theorem items_of_row {e : Enclosure} (he : IsClosing e.close) {item : Reader α} {xs : List α}
    {text : List Char} (h : Row item xs text) (rest : List Char) :
    items e item (skipSpace (text ++ e.close :: rest)) = .ok (xs, rest) := by
  induction h with
  | last hb hx hbehind =>
    rw [List.append_assoc, List.append_assoc, skipSpace_append hb, hx.starts.skipSpace_append]
    exact items_of_end (hx.run _) (continue_close he hbehind rest)
  | next hb hx hbehind hmore ih =>
    -- The comma takes the blanks in front of the next item with it, as `ih` has them.
    rw [List.append_assoc, List.append_assoc, skipSpace_append hb, hx.starts.skipSpace_append,
      List.append_assoc, List.cons_append]
    exact items_of_next (hx.run _) (continue_comma he hbehind (hmore.startsItem _)) ih

/-- The items of an enclosure are read from behind the opening bracket. -/
theorem enclosed_of_bracketed {e : Enclosure} (he : IsClosing e.close) {item : Reader α}
    {xs : List α} {text : List Char} (h : Bracketed e item xs text) (rest : List Char) :
    enclosed e item (text ++ rest) = .ok (xs, rest) := by
  cases h with
  | none hb =>
    rw [List.append_assoc, enclosed, skipSpace_append hb, List.singleton_append,
      skipSpace_cons (isSpace_of_isClosing he)]
    exact if_pos rfl
  | some hrow =>
    rw [List.append_assoc, List.singleton_append]
    obtain ⟨c, more, hc, _, hclose⟩ := hrow.startsItem (e.close :: rest)
    have hne : c ≠ e.close := fun h => hclose (h ▸ he)
    rw [enclosed, hc]
    simp only [if_neg hne]
    rw [← hc]
    exact items_of_row he hrow rest

/-! ## Values -/

theorem isClosing_list : IsClosing Enclosure.list.close :=
  Or.inl rfl

theorem isClosing_object : IsClosing Enclosure.object.close :=
  Or.inr rfl

theorem value_run_append {blanks : List Char} (h : Blank blanks) (depth : Nat) (text : List Char) :
    (value depth).run (blanks ++ text) = (value depth).run text := by
  cases depth <;> simp only [value, valueOver, skipSpace_append h]

/-- A text that starts with no opening bracket and with no blank is read as a scalar. -/
theorem value_run_of_scalar {c : Char} {text : List Char} (hs : isSpace c = false) (hl : c ≠ '[')
    (ho : c ≠ '\x7b') (depth : Nat) : (value depth).run (c :: text) = scalar (c :: text) := by
  cases depth <;> simp only [value, valueOver, skipSpace_cons hs] <;> split <;> simp_all

theorem reads_scalar {c : Char} {text : List Char} {v : Json} (hs : isSpace c = false)
    (hc : ¬ IsClosing c) (hl : c ≠ '[') (ho : c ≠ '\x7b')
    (h : ∀ rest, scalar (c :: (text ++ rest)) = .ok (v, rest)) (depth : Nat) :
    Reads (value depth) v (c :: text) := by
  refine ⟨⟨c, text, rfl, hs, hc⟩, fun rest => ?_⟩
  rw [List.cons_append, value_run_of_scalar hs hl ho]
  exact h rest

theorem reads_null (depth : Nat) : Reads (value depth) .null ['n', 'u', 'l', 'l'] :=
  reads_scalar rfl (by decide) (by decide) (by decide) (fun _ => rfl) depth

theorem reads_bool (depth : Nat) (b : Bool) :
    Reads (value depth) (.bool b) (compactChars (.bool b)) := by
  cases b with
  | true => exact reads_scalar rfl (by decide) (by decide) (by decide) (fun _ => rfl) depth
  | false => exact reads_scalar rfl (by decide) (by decide) (by decide) (fun _ => rfl) depth

theorem stringBody_of_quote (s : String) (rest : List Char) :
    stringBody (s.toList.flatMap escape ++ ['"'] ++ rest) = .ok (s.toList, rest) := by
  rw [List.append_assoc, List.singleton_append, stringBody_flatMap_escape]

theorem reads_string (depth : Nat) (s : String) : Reads (value depth) (.string s) (quote s) := by
  refine reads_scalar rfl (by decide) (by decide) (by decide) (fun rest => ?_) depth
  rw [scalar, stringBody_of_quote]
  simp [Except.map]

theorem reads_array {depth : Nat} {xs : List Json} {text : List Char}
    (h : Bracketed .list (value depth) xs text) :
    Reads (value (depth + 1)) (.array xs) ('[' :: text) := by
  refine ⟨⟨_, _, rfl, rfl, by decide⟩, fun rest => ?_⟩
  show (enclosed .list (value depth) (text ++ rest)).map (fun r => (Json.array r.1, r.2)) = _
  rw [enclosed_of_bracketed isClosing_list h]
  rfl

theorem reads_object {depth : Nat} {ms : List (String × Json)} {text : List Char}
    (h : Bracketed .object (member (value depth)) ms text) :
    Reads (value (depth + 1)) (.object ms) ('\x7b' :: text) := by
  refine ⟨⟨_, _, rfl, rfl, by decide⟩, fun rest => ?_⟩
  show (enclosed .object (member (value depth)) (text ++ rest)).map
    (fun r => (Json.object r.1, r.2)) = _
  rw [enclosed_of_bracketed isClosing_object h]
  rfl

/-- A member is its key in quotes, a colon and its value, which blanks may stand in front of. -/
theorem reads_member {depth : Nat} {v : Json} {blanks text : List Char} (hb : Blank blanks)
    (h : Reads (value depth) v text) (key : String) :
    Reads (member (value depth)) (key, v) (quote key ++ ':' :: (blanks ++ text)) := by
  refine ⟨⟨_, _, rfl, rfl, by decide⟩, fun rest => ?_⟩
  have hkey : stringBody (key.toList.flatMap escape ++ ['"'] ++ ':' :: (blanks ++ text) ++ rest) =
      .ok (key.toList, ':' :: (blanks ++ (text ++ rest))) := by
    rw [List.append_assoc, stringBody_of_quote, List.cons_append, List.append_assoc]
  have hcolon : colon (':' :: (blanks ++ (text ++ rest))) = .ok (blanks ++ (text ++ rest)) := by
    rw [colon, skipSpace_cons rfl]
    rfl
  have hv : (value depth).run (blanks ++ (text ++ rest)) = .ok (v, rest) := by
    rw [value_run_append hb, h.run]
  rw [quote, List.cons_append, List.cons_append]
  simp only [member, hkey, hcolon, hv, String.ofList_toList]

end ContractFixtures.Json
