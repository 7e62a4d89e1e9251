import ContractFixtures.Proofs.Param.RoundTrip

/-!
# Lists that are put together

The items of two texts with a comma between them are those of both, so they are read from left to
right and the first that is refused counts. Only blank texts are in the way: by itself a blank text
is a list without items, but next to a comma it is an item, and one without a separator.

* `IsBlank`: texts without anything but white space.
* `IsCut`: the pieces of a text between its commas.
* `parsePart`: reads a text that stands next to a comma.

Results:
1. `isCut_iff`, `exists_parseList_eq_mapM`, `parseList_eq_iff`: a list is read piece by piece.
2. `readItems_splitAll`: a part of a list is read as the items that it is cut into.
3. `parseList_comma`, `parsePart_intercalate`: lists are read part by part.
4. `parseList_append_comma`: the same for two parts, with the blank texts told apart.
-/

namespace ContractFixtures.Param

/-- A text without anything but white space. -/
def IsBlank (text : String) : Prop :=
  ∀ c ∈ text.toList, Text.isBlank c = true

instance : DecidablePred IsBlank :=
  fun text => List.decidableBAll (fun c => Text.isBlank c = true) text.toList

/-- The pieces of a text between its commas: there is at least one, none of them holds a comma, and
with commas between any two they are the text. -/
structure IsCut (text : String) (pieces : List String) : Prop where
  nonempty : pieces ≠ []
  joined : ",".intercalate pieces = text
  whole : ∀ piece ∈ pieces, ',' ∉ piece.toList

/-- Reads a text that stands next to a comma, where it has to hold an item. -/
def parsePart (ctx : Context) (text : String) : Except ParamFault (List Param) :=
  if IsBlank text then .error (.missingSeparator "") else parseList ctx text

/-! ## Items -/

theorem readItems_append (ctx : Context) (front back : List (List Char)) :
    readItems ctx (front ++ back) = do
      let ps ← readItems ctx front
      let qs ← readItems ctx back
      return ps ++ qs := by
  simp only [readItems_eq_mapM, List.mapM_append]

/-- A blank item has no separator. -/
theorem readItem_of_blank (ctx : Context) {item : List Char}
    (h : ∀ c ∈ item, Text.isBlank c = true) :
    readItem ctx item = .error (.missingSeparator "") := by
  have htrim : Text.trim item = [] := by
    rw [← List.append_nil item, Text.trim_append_of_forall h]
    rfl
  rw [readItem, htrim]
  rfl

/-! ## Pieces -/

/-- A text has one row of pieces, those that it is cut into. -/
theorem isCut_iff {text : String} {pieces : List String} :
    IsCut text pieces ↔ Text.splitAll ',' text.toList = pieces.map String.toList := by
  have hjoin : Text.joinWith [','] (pieces.map String.toList) = (",".intercalate pieces).toList := by
    rw [Text.joinWith_eq_intercalate, String.toList_intercalate]
    rfl
  rw [Text.splitAll_eq_iff, hjoin, String.toList_inj, List.forall_mem_map, ne_eq,
    List.map_eq_nil_iff]
  constructor
  · rintro ⟨hne, hjoined, hwhole⟩
    exact ⟨hne, hjoined, hwhole⟩
  · rintro ⟨hne, hjoined, hwhole⟩
    exact ⟨hne, hjoined, hwhole⟩

theorem exists_isCut (text : String) : ∃ pieces, IsCut text pieces := by
  refine ⟨(Text.splitAll ',' text.toList).map String.ofList, isCut_iff.mpr ?_⟩
  simp [Function.comp_def]

theorem IsCut.unique {text : String} {pieces others : List String} (h : IsCut text pieces)
    (h' : IsCut text others) : pieces = others :=
  List.map_injective_iff.mpr (fun _ _ => String.toList_injective)
    ((isCut_iff.mp h).symm.trans (isCut_iff.mp h'))

/-- A text has a piece more than commas. -/
theorem IsCut.length_eq {text : String} {pieces : List String} (h : IsCut text pieces) :
    pieces.length = text.toList.count ',' + 1 := by
  rw [← Text.length_splitAll, isCut_iff.mp h, List.length_map]

/-- A text without commas is one piece. -/
theorem isCut_singleton {text : String} (h : ',' ∉ text.toList) : IsCut text [text] :=
  isCut_iff.mpr (Text.splitAll_eq_singleton h)

theorem parseList_of_not_blank (ctx : Context) {text : String} (h : ¬ IsBlank text) :
    parseList ctx text = readItems ctx (Text.splitAll ',' text.toList) := by
  rw [parseList, if_neg (by rwa [List.all_eq_true])]

/-- The pieces of a text that is not blank are read one after the other. -/
theorem IsCut.parseList_eq {text : String} {pieces : List String} (h : IsCut text pieces)
    (ctx : Context) (hblank : ¬ IsBlank text) :
    parseList ctx text = pieces.mapM (parse ctx) := by
  rw [parseList_of_not_blank ctx hblank, isCut_iff.mp h, readItems_eq_mapM, List.mapM_map]
  rfl

theorem parseList_of_blank (ctx : Context) {text : String} (h : IsBlank text) :
    parseList ctx text = .ok [] := by
  rw [parseList, if_pos (by rwa [List.all_eq_true])]

/-- A list is read from the same pieces whatever the known addresses are. -/
theorem exists_parseList_eq_mapM (text : String) :
    ∃ pieces : List String, (∀ piece ∈ pieces, ',' ∉ piece.toList) ∧
      ∀ ctx, parseList ctx text = pieces.mapM (parse ctx) := by
  by_cases hblank : IsBlank text
  · exact ⟨[], by simp, fun ctx => parseList_of_blank ctx hblank⟩
  · obtain ⟨pieces, hcut⟩ := exists_isCut text
    exact ⟨pieces, hcut.whole, fun ctx => hcut.parseList_eq ctx hblank⟩

/-- Whatever comes of a list but an empty one comes of the pieces of a text that is not blank. -/
theorem parseList_eq_iff {ctx : Context} {text : String} {r : Except ParamFault (List Param)}
    (hr : r ≠ .ok []) :
    parseList ctx text = r ↔
      ¬ IsBlank text ∧ ∃ pieces, IsCut text pieces ∧ pieces.mapM (parse ctx) = r := by
  constructor
  · intro h
    have hblank : ¬ IsBlank text := fun hblank =>
      hr (h.symm.trans (parseList_of_blank ctx hblank))
    obtain ⟨pieces, hcut⟩ := exists_isCut text
    exact ⟨hblank, pieces, hcut, (hcut.parseList_eq ctx hblank).symm.trans h⟩
  · rintro ⟨hblank, pieces, hcut, h⟩
    exact (hcut.parseList_eq ctx hblank).trans h

/-- A blank text is one piece, and that piece is refused. -/
theorem IsCut.not_isBlank {ctx : Context} {text piece : String} {pieces : List String} {p : Param}
    (h : IsCut text pieces) (hpiece : piece ∈ pieces) (hread : parse ctx piece = .ok p) :
    ¬ IsBlank text := by
  intro hblank
  have hcomma : ',' ∉ text.toList := fun hmem => absurd (hblank ',' hmem) (by decide)
  obtain rfl := h.unique (isCut_singleton hcomma)
  obtain rfl := List.mem_singleton.mp hpiece
  rw [parse, readItem_of_blank ctx hblank] at hread
  cases hread

/-! ## Parts -/

/-- A part of a list is read as the items that it is cut into, of which there is at least one. -/
theorem readItems_splitAll (ctx : Context) (text : String) :
    readItems ctx (Text.splitAll ',' text.toList) = parsePart ctx text := by
  unfold parsePart
  split
  · next hblank =>
    have hcomma : ',' ∉ text.toList := fun h => absurd (hblank ',' h) (by decide)
    rw [Text.splitAll_eq_singleton hcomma, readItems, readItem_of_blank ctx hblank]
    rfl
  · next hblank => exact (parseList_of_not_blank ctx hblank).symm

theorem not_isBlank_comma (a b : String) : ¬ IsBlank (a ++ "," ++ b) := fun h =>
  absurd (h ',' (by simp)) (by decide)

/-- A comma makes two parts of a list. -/
theorem parseList_comma (ctx : Context) (a b : String) :
    parseList ctx (a ++ "," ++ b) = do
      let front ← parsePart ctx a
      let back ← parsePart ctx b
      return front ++ back := by
  have htext : (a ++ "," ++ b).toList = a.toList ++ ',' :: b.toList := by simp
  rw [parseList_of_not_blank ctx (not_isBlank_comma a b), htext, Text.splitAll_append,
    readItems_append, readItems_splitAll, readItems_splitAll]

/-- Any number of parts are read one after the other, up to the first that is refused. -/
theorem parsePart_intercalate (ctx : Context) (part : String) (parts : List String) :
    parsePart ctx (",".intercalate (part :: parts)) =
      ((part :: parts).mapM (parsePart ctx)).map List.flatten := by
  induction parts generalizing part with
  | nil =>
    rw [String.intercalate_singleton, List.mapM_cons, List.mapM_nil]
    cases parsePart ctx part with
    | error fault => rfl
    | ok ps => exact congrArg Except.ok (List.append_nil ps).symm
  | cons next parts ih =>
    rw [List.mapM_cons, String.intercalate_cons_cons, parsePart, if_neg (not_isBlank_comma _ _),
      parseList_comma, ih next]
    cases parsePart ctx part with
    | error fault => rfl
    | ok ps => cases (next :: parts).mapM (parsePart ctx) <;> rfl

/-! ## Texts with a comma between them -/

/-- Two texts with a comma between them are read as the list of the first followed by that of the
second, and the fault of the first counts before that of the second. A blank text next to the comma
has no separator: in front of it whatever stands behind, behind it unless the text in front has a
fault of its own. -/
theorem parseList_append_comma (ctx : Context) (a b : String) :
    parseList ctx (a ++ "," ++ b) =
      if IsBlank a then .error (.missingSeparator "")
      else
        match parseList ctx a with
        | .error fault => .error fault
        | .ok front =>
          if IsBlank b then .error (.missingSeparator "")
          else
            match parseList ctx b with
            | .error fault => .error fault
            | .ok back => .ok (front ++ back) := by
  rw [parseList_comma, parsePart, parsePart]
  split
  · rfl
  cases parseList ctx a with
  | error fault => rfl
  | ok front =>
    split
    · rfl
    · cases parseList ctx b <;> rfl

/-- A comma at the end of a list makes a blank item, which is met only behind the others. -/
example : parseList {} "int:1, " = .error (.missingSeparator "") ∧
    parseList {} "x, " = .error (.missingSeparator "x") := by
  decide

end ContractFixtures.Param
