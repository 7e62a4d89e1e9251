import ContractFixtures.Proofs.Json.Quoting
import ContractFixtures.Proofs.Json.Written

/-!
# What indentation adds

The indented text of a value is its text on one line with line feeds and spaces between the tokens.
Whether a character stands between tokens or in a string is decided from the front of a text: a
quote opens a string and closes it again, unless it stands behind a backslash.

* `Place`: where a character stands.
* `placed`: the characters of a text with the places where they stand.
* `withoutLayout`: a text without the spaces and line feeds that stand outside of strings.
* `inStrings`: the characters of a text that stand in strings.
* `LaysOut`: a text that says the same as another one, with such characters added.

Results:
1. `placed_withoutLayout`: what is left of a text stands where it stood before.
2. `laysOut_prettyChars`: the indented text of any value lays its text on one line out.
3. `withoutLayout_pretty`, `inStrings_pretty`: what is left of the indented text, and that its
   strings are the same.
-/

namespace ContractFixtures.Json

/-- Where a character stands: outside of all strings, in a string, or behind a backslash in one. -/
inductive Place where
  | outside | inside | escaped
deriving DecidableEq, Repr

/-- The place behind a character. -/
def Place.next : Place → Char → Place
  | .outside, c => if c = '"' then .inside else .outside
  | .inside, c => if c = '"' then .outside else if c = '\\' then .escaped else .inside
  | .escaped, _ => .inside

/-- The characters of a text with the places where they stand, of which the first is known. -/
def placed (p : Place) : List Char → List (Place × Char)
  | [] => []
  | c :: cs => (p, c) :: placed (p.next c) cs

/-- A space or a line feed outside of strings. -/
def IsLayout (x : Place × Char) : Prop :=
  x.1 = .outside ∧ (x.2 = ' ' ∨ x.2 = '\n')

instance : DecidablePred IsLayout :=
  fun x => inferInstanceAs (Decidable (x.1 = .outside ∧ (x.2 = ' ' ∨ x.2 = '\n')))

/-- The characters of a text that are no layout. -/
def bareChars (p : Place) (cs : List Char) : List Char :=
  ((placed p cs).filter fun x => ¬ IsLayout x).map Prod.snd

/-- A text without the spaces and line feeds that stand outside of strings. -/
def withoutLayout (text : String) : String :=
  String.ofList (bareChars .outside text.toList)

/-- The characters of a text that stand in strings, with the quote that closes each string. -/
def inStrings (text : String) : List (Place × Char) :=
  (placed .outside text.toList).filter fun x => x.1 ≠ .outside

/-- A text that ends outside of strings and says the same as another one without layout. -/
structure LaysOut (text bare : List Char) : Prop where
  stop : text.foldl Place.next .outside = .outside
  bareChars : bareChars .outside text = bare

/-! ## Places -/

theorem placed_append (p : Place) (front back : List Char) :
    placed p (front ++ back) = placed p front ++ placed (front.foldl Place.next p) back := by
  induction front generalizing p with
  | nil => rfl
  | cons c front ih => rw [List.cons_append, placed, placed, ih, List.foldl_cons, List.cons_append]

theorem map_snd_placed (p : Place) (cs : List Char) : (placed p cs).map Prod.snd = cs := by
  induction cs generalizing p with
  | nil => rfl
  | cons c cs ih => rw [placed, List.map_cons, ih]

theorem bareChars_append (p : Place) (front back : List Char) :
    bareChars p (front ++ back) =
      bareChars p front ++ bareChars (front.foldl Place.next p) back := by
  rw [bareChars, placed_append, List.filter_append, List.map_append, bareChars, bareChars]

/-- Layout does not change the places of the characters behind it. -/
theorem placed_bareChars (p : Place) (cs : List Char) :
    placed p (bareChars p cs) = (placed p cs).filter fun x => ¬ IsLayout x := by
  induction cs generalizing p with
  | nil => rfl
  | cons c cs ih =>
    rw [bareChars, placed]
    by_cases h : IsLayout (p, c)
    · have hp : p.next c = p := by
        obtain ⟨rfl, rfl | rfl⟩ := h <;> rfl
      rw [List.filter_cons_of_neg (by simpa using h), hp]
      exact ih p
    · rw [List.filter_cons_of_pos (by simpa using h), List.map_cons, placed]
      exact congrArg _ (ih (p.next c))

theorem placed_withoutLayout (text : String) :
    placed .outside (withoutLayout text).toList =
      (placed .outside text.toList).filter fun x => ¬ IsLayout x := by
  rw [withoutLayout, String.toList_ofList, placed_bareChars]

/-- No character of a string is layout. -/
theorem inStrings_withoutLayout (text : String) :
    inStrings (withoutLayout text) = inStrings text := by
  rw [inStrings, placed_withoutLayout, List.filter_filter, inStrings]
  refine List.filter_congr fun x _ => ?_
  by_cases h : x.1 = .outside
  · simp [h]
  · simp [h, IsLayout]

/-! ## Laying out -/

theorem LaysOut.nil : LaysOut [] [] :=
  ⟨rfl, rfl⟩

theorem LaysOut.append {front bare back bare' : List Char} (h : LaysOut front bare)
    (h' : LaysOut back bare') : LaysOut (front ++ back) (bare ++ bare') := by
  refine ⟨?_, ?_⟩
  · rw [List.foldl_append, h.stop, h'.stop]
  · rw [bareChars_append, h.stop, h.bareChars, h'.bareChars]

/-- Whether a character is kept wherever it stands outside of strings, and opens none. -/
def isToken (c : Char) : Bool :=
  c != '"' && c != ' ' && c != '\n'

theorem LaysOut.cons {c : Char} (hc : isToken c = true) {text bare : List Char}
    (h : LaysOut text bare) : LaysOut (c :: text) (c :: bare) := by
  simp only [isToken, Bool.and_eq_true, bne_iff_ne] at hc
  obtain ⟨⟨hquote, hspace⟩, hfeed⟩ := hc
  have hchar : LaysOut [c] [c] := by
    refine ⟨if_neg hquote, ?_⟩
    simp [Json.bareChars, placed, IsLayout, hspace, hfeed]
  exact hchar.append h

theorem LaysOut.concat {c : Char} (hc : isToken c = true) {text bare : List Char}
    (h : LaysOut text bare) : LaysOut (text ++ [c]) (bare ++ [c]) :=
  h.append (.cons hc .nil)

theorem laysOut_tokens {cs : List Char} (h : cs.all isToken = true) : LaysOut cs cs := by
  induction cs with
  | nil => exact .nil
  | cons c cs ih =>
    rw [List.all_cons, Bool.and_eq_true] at h
    exact .cons h.1 (ih h.2)

theorem LaysOut.layout_cons {c : Char} (hc : c = ' ' ∨ c = '\n') {text bare : List Char}
    (h : LaysOut text bare) : LaysOut (c :: text) bare := by
  have hchar : LaysOut [c] [] := by
    rcases hc with rfl | rfl <;> exact ⟨rfl, rfl⟩
  exact hchar.append h

theorem laysOut_newLine (level : Nat) : LaysOut (newLine level) [] := by
  have hspaces : ∀ n, LaysOut (List.replicate n ' ') [] := by
    intro n
    induction n with
    | zero => exact .nil
    | succ n ih => exact .layout_cons (.inl rfl) ih
  exact .layout_cons (.inr rfl) (hspaces (2 * level))

/-! ## Strings -/

/-- A text within a string, which goes on behind it. -/
structure Within (body : List Char) : Prop where
  stop : body.foldl Place.next .inside = .inside
  inside : ∀ x ∈ placed .inside body, x.1 ≠ .outside

theorem Within.append {front back : List Char} (h : Within front) (h' : Within back) :
    Within (front ++ back) := by
  refine ⟨?_, ?_⟩
  · rw [List.foldl_append, h.stop, h'.stop]
  · rw [placed_append, h.stop]
    exact List.forall_mem_append.mpr ⟨h.inside, h'.inside⟩

theorem within_singleton {c : Char} (hquote : c ≠ '"') (hbackslash : c ≠ '\\') : Within [c] := by
  refine ⟨?_, by simp [placed]⟩
  simp [Place.next, hquote, hbackslash]

/-- What is written for a character does not end the string. -/
theorem Escaped.within {c : Char} {part : List Char} (h : Escaped c part) : Within part := by
  have hdigit : ∀ n < 16, Hex.digitChar n ≠ '"' ∧ Hex.digitChar n ≠ '\\' := by decide
  cases h with
  | short => exact ⟨rfl, by simp [placed, Place.next]⟩
  | code _ _ _ hhigh hlow =>
    obtain ⟨hh, rfl⟩ := Hex.getElem?_lowerDigits.mp hhigh
    obtain ⟨hl, rfl⟩ := Hex.getElem?_lowerDigits.mp hlow
    have hmark : Within ['\\', 'u', '0', '0'] := ⟨rfl, by decide⟩
    have hdigits := (within_singleton (hdigit _ hh).1 (hdigit _ hh).2).append
      (within_singleton (hdigit _ hl).1 (hdigit _ hl).2)
    exact hmark.append hdigits
  | plain hnot =>
    refine within_singleton ?_ ?_
    · rintro rfl
      exact hnot (by decide)
    · rintro rfl
      exact hnot (by decide)

theorem within_flatMap_escape (cs : List Char) : Within (cs.flatMap escape) := by
  induction cs with
  | nil => exact ⟨rfl, fun _ h => absurd h List.not_mem_nil⟩
  | cons c cs ih =>
    rw [List.flatMap_cons]
    exact (escaped_iff.mpr rfl).within.append ih

/-- A string is kept as it is, whatever its characters are. -/
theorem Within.laysOut {body : List Char} (h : Within body) :
    LaysOut ('"' :: (body ++ ['"'])) ('"' :: (body ++ ['"'])) := by
  have hplaced : placed .outside ('"' :: (body ++ ['"'])) =
      (.outside, '"') :: (placed .inside body ++ [(.inside, '"')]) := by
    show _ :: placed .inside (body ++ ['"']) = _
    rw [placed_append, h.stop]
    rfl
  have hkept : ∀ x ∈ placed .outside ('"' :: (body ++ ['"'])), ¬ IsLayout x := by
    rw [hplaced]
    simp only [List.forall_mem_cons, List.forall_mem_append]
    exact ⟨by decide, fun x hx hlayout => h.inside x hx hlayout.1, by decide⟩
  refine ⟨?_, ?_⟩
  · show (body ++ ['"']).foldl Place.next .inside = .outside
    rw [List.foldl_append, h.stop]
    rfl
  · rw [bareChars, List.filter_eq_self.mpr (by simpa using hkept), map_snd_placed]

theorem laysOut_quote (text : String) : LaysOut (quote text) (quote text) :=
  (within_flatMap_escape text.toList).laysOut

/-! ## Numbers -/

/-- A digit, or a character that stands between digits. -/
def isNumeral (c : Char) : Bool :=
  c.isDigit || ['-', '+', '.', 'e'].contains c

theorem isToken_of_isNumeral {c : Char} (h : isNumeral c = true) : isToken c = true := by
  simp only [isToken, Bool.and_eq_true, bne_iff_ne]
  refine ⟨⟨?_, ?_⟩, ?_⟩ <;> rintro rfl <;> exact absurd h (by decide)

theorem all_isNumeral_toDigits (n : Nat) : (Nat.toDigits 10 n).all isNumeral = true := by
  refine List.all_eq_true.mpr fun c hc => ?_
  rw [isNumeral, Nat.isDigit_of_mem_toDigits (by decide) (by decide) hc, Bool.true_or]

theorem all_isNumeral_layout (digits : Nat) (scale : Int) :
    (Number.layout digits scale).all isNumeral = true := by
  have hdigits := all_isNumeral_toDigits digits
  have hzeros : ∀ n, (List.replicate n '0').all isNumeral = true := fun n =>
    List.all_eq_true.mpr fun c hc => List.eq_of_mem_replicate hc ▸ by decide
  have htake : ∀ n, ((Nat.toDigits 10 digits).take n).all isNumeral = true := fun n =>
    List.all_eq_true.mpr fun c hc => List.all_eq_true.mp hdigits c (List.mem_of_mem_take hc)
  have hdrop : ∀ n, ((Nat.toDigits 10 digits).drop n).all isNumeral = true := fun n =>
    List.all_eq_true.mpr fun c hc => List.all_eq_true.mp hdigits c (List.mem_of_mem_drop hc)
  have hexponent : ∀ (p : Prop) [Decidable p] (n : Nat),
      ('e' :: (if p then '-' else '+') :: Nat.toDigits 10 n).all isNumeral = true := by
    intro p _ n
    rw [List.all_cons, List.all_cons, all_isNumeral_toDigits]
    split <;> rfl
  unfold Number.layout
  dsimp only
  split
  · rw [List.all_append, List.all_append, hdigits, hzeros]
    rfl
  split
  · rw [List.all_append, htake, List.all_cons, hdrop]
    rfl
  split
  · rw [List.all_append, List.all_cons, List.all_cons, hzeros, hdigits]
    rfl
  split
  · next d hd =>
    rw [hd, List.all_cons, List.all_nil, Bool.and_true] at hdigits
    rw [List.all_cons, hdigits, hexponent]
    rfl
  · next d more _ hd =>
    rw [hd, List.all_cons, Bool.and_eq_true] at hdigits
    rw [List.all_append, List.all_cons, hdigits.1, List.all_cons, hdigits.2, hexponent]
    rfl
  · exact hexponent _ _

/-- The text of a number consists of numerals. -/
theorem all_isNumeral_text (n : Number) : n.text.all isNumeral = true := by
  cases n with
  | integer value =>
    rw [Number.text, Int.toString_eq_repr]
    cases value with
    | ofNat m =>
      rw [Int.repr, Nat.toList_repr]
      exact all_isNumeral_toDigits m
    | negSucc m =>
      rw [Int.repr, String.toList_append, Nat.toList_repr, List.all_append, all_isNumeral_toDigits]
      rfl
  | float negative x =>
    have hsign : (if negative then ['-'] else []).all isNumeral = true := by
      cases negative <;> rfl
    rw [Number.text]
    split
    · rw [List.all_append, hsign]
      rfl
    · rw [List.all_append, hsign, all_isNumeral_layout]
      rfl

theorem laysOut_number (n : Number) : LaysOut n.text n.text :=
  laysOut_tokens (List.all_eq_true.mpr fun c hc =>
    isToken_of_isNumeral (List.all_eq_true.mp (all_isNumeral_text n) c hc))

/-! ## Values -/

/-- The line of a closing bracket is layout. -/
theorem LaysOut.enclosed {opening closing : Char} (ho : isToken opening = true)
    (hc : isToken closing = true)
    (level : Nat) {text bare : List Char} (h : LaysOut text bare) :
    LaysOut (opening :: (text ++ newLine level ++ [closing])) (opening :: (bare ++ [closing])) := by
  have hbody := h.append (laysOut_newLine level)
  rw [List.append_nil] at hbody
  exact .cons ho (hbody.concat hc)

/-- The line of an element and the blank in front of the value of a member are layout. -/
theorem LaysOut.onLine (level : Nat) {text bare : List Char} (h : LaysOut text bare) :
    LaysOut (newLine level ++ text) bare :=
  (laysOut_newLine level).append h

theorem LaysOut.member (key : String) {text bare : List Char} (h : LaysOut text bare) :
    LaysOut (quote key ++ ':' :: ' ' :: text) (quote key ++ ':' :: bare) :=
  (laysOut_quote key).append (.cons (by decide) (.layout_cons (.inl rfl) h))

mutual

/-- The indented text of a value, at any level, lays its text on one line out. -/
theorem laysOut_prettyChars (level : Nat) :
    (v : Json) → LaysOut (prettyChars level v) (compactChars v)
  | .null => laysOut_tokens (by decide : ['n', 'u', 'l', 'l'].all isToken = true)
  | .bool true => laysOut_tokens (by decide : ['t', 'r', 'u', 'e'].all isToken = true)
  | .bool false => laysOut_tokens (by decide : ['f', 'a', 'l', 's', 'e'].all isToken = true)
  | .number n => laysOut_number n
  | .string s => laysOut_quote s
  | .array [] => laysOut_tokens (by decide : ['[', ']'].all isToken = true)
  | .object [] => laysOut_tokens (by decide : ['\x7b', '\x7d'].all isToken = true)
  | .array (x :: rest) =>
    .enclosed (by decide) (by decide) level (laysOut_prettyElements (level + 1) (x :: rest))
  | .object (m :: rest) =>
    .enclosed (by decide) (by decide) level (laysOut_prettyMembers (level + 1) (m :: rest))

theorem laysOut_prettyElements (level : Nat) :
    (xs : List Json) → LaysOut (prettyElements level xs) (compactElements xs)
  | [] => .nil
  | [x] => .onLine level (laysOut_prettyChars level x)
  | x :: y :: rest =>
    ((laysOut_prettyChars level x).onLine level).append
      (.cons (by decide) (laysOut_prettyElements level (y :: rest)))

theorem laysOut_prettyMembers (level : Nat) :
    (ms : List (String × Json)) → LaysOut (prettyMembers level ms) (compactMembers ms)
  | [] => .nil
  | [(k, v)] => by
    rw [prettyMembers, compactMembers, List.append_assoc]
    exact ((laysOut_prettyChars level v).member k).onLine level
  | (k, v) :: m :: rest => by
    have hmember := ((laysOut_prettyChars level v).member k).onLine level
    have hmore := LaysOut.cons (by decide : isToken ',' = true)
      (laysOut_prettyMembers level (m :: rest))
    simpa [prettyMembers, compactMembers] using hmember.append hmore

end

/-! ## Whole texts -/

/-- The indented text of a value without its layout is the text on one line. -/
theorem withoutLayout_pretty (v : Json) : withoutLayout v.pretty = v.compact := by
  rw [withoutLayout, pretty, String.toList_ofList, (laysOut_prettyChars 0 v).bareChars, compact]

/-- Both texts of a value hold the same characters in strings. -/
theorem inStrings_pretty (v : Json) : inStrings v.pretty = inStrings v.compact := by
  rw [← withoutLayout_pretty, inStrings_withoutLayout]

/-- A quote behind a backslash does not end the string, and blanks in it are kept. -/
example : withoutLayout (array [.string "a \" : [\\", .bool true]).pretty =
    "[\"a \\\" : [\\\\\",true]" := by
  decide

end ContractFixtures.Json
