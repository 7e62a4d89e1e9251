import ContractFixtures.Proofs.Param.NormalForm

/-!
# Expected results

An expected result is read as a list, and its parameters are counted afterwards. So a piece that is
refused counts before the number of pieces, whatever stands behind it. A comma too many makes a
blank piece, which is refused like any other that is no item.

* `FirstRefusal`: the fault of the leftmost piece that is refused.

Results:
1. `parseList_eq_error_iff`: a list is refused by its leftmost piece that is.
2. `ne_tooManyResults_of_parse`: no piece by itself is refused for a number of results.
3. `parseExpected_outcomes`: what comes of an expected result, and which are read back.
-/

namespace ContractFixtures.Param

variable {ctx : Context} {text : String}

/-- The fault of the leftmost piece of a text that is refused. -/
def FirstRefusal (ctx : Context) (text : String) (fault : ParamFault) : Prop :=
  ∃ before piece behind, IsCut text (before ++ piece :: behind) ∧
    (∀ other ∈ before, ∃ p, parse ctx other = .ok p) ∧ parse ctx piece = .error fault

/-! ## Lists by their length -/

/-- Only a blank text is a list without parameters. -/
theorem parseList_eq_nil_iff : parseList ctx text = .ok [] ↔ IsBlank text := by
  constructor
  · intro h
    by_contra hblank
    obtain ⟨pieces, hcut⟩ := exists_isCut text
    rw [hcut.parseList_eq ctx hblank, mapM_eq_ok_iff, List.forall₂_nil_right_iff] at h
    exact hcut.nonempty h
  · exact parseList_of_blank ctx

/-- A list of one parameter is an item. -/
theorem parseList_eq_singleton_iff {p : Param} :
    parseList ctx text = .ok [p] ↔ ',' ∉ text.toList ∧ parse ctx text = .ok p := by
  rw [parseList_eq_iff (by simp)]
  constructor
  · rintro ⟨-, pieces, hcut, h⟩
    rw [mapM_eq_ok_iff, List.forall₂_cons_right_iff] at h
    obtain ⟨piece, more, hpiece, hmore, rfl⟩ := h
    obtain rfl := List.forall₂_nil_right_iff.mp hmore
    obtain rfl : piece = text := String.intercalate_singleton.symm.trans hcut.joined
    exact ⟨hcut.whole piece List.mem_cons_self, hpiece⟩
  · rintro ⟨hcomma, hitem⟩
    have hcut := isCut_singleton hcomma
    exact ⟨hcut.not_isBlank List.mem_cons_self hitem, [text], hcut,
      mapM_eq_ok_iff.mpr (.cons hitem .nil)⟩

/-- There are as many parameters in a list as the text has pieces, if all of these are read. -/
theorem exists_parseList_iff {n : Nat} (hn : 0 < n) :
    (∃ ps, parseList ctx text = .ok ps ∧ ps.length = n) ↔
      text.toList.count ',' + 1 = n ∧
        ∃ pieces, IsCut text pieces ∧ ∀ piece ∈ pieces, ∃ p, parse ctx piece = .ok p := by
  constructor
  · rintro ⟨ps, h, rfl⟩
    rw [parseList_eq_iff (by simpa using List.length_pos_iff.mp hn)] at h
    obtain ⟨-, pieces, hcut, h⟩ := h
    refine ⟨?_, pieces, hcut, exists_mapM_iff.mp ⟨ps, h⟩⟩
    rw [← hcut.length_eq, (mapM_eq_ok_iff.mp h).length_eq]
  · rintro ⟨hcount, pieces, hcut, hall⟩
    obtain ⟨piece, more, rfl⟩ := List.exists_cons_of_ne_nil hcut.nonempty
    obtain ⟨p, hp⟩ := hall piece List.mem_cons_self
    obtain ⟨ps, hps⟩ := exists_mapM_iff.mpr hall
    refine ⟨ps, ?_, ?_⟩
    · rw [hcut.parseList_eq ctx (hcut.not_isBlank List.mem_cons_self hp), hps]
    · rw [← (mapM_eq_ok_iff.mp hps).length_eq, hcut.length_eq, hcount]

/-! ## Refusals -/

/-- A list is refused by its leftmost piece that is. -/
theorem parseList_eq_error_iff {fault : ParamFault} :
    parseList ctx text = .error fault ↔ ¬ IsBlank text ∧ FirstRefusal ctx text fault := by
  rw [parseList_eq_iff (by simp)]
  refine and_congr_right fun _ => ?_
  constructor
  · rintro ⟨pieces, hcut, h⟩
    obtain ⟨before, piece, behind, rfl, hbefore, hpiece⟩ := mapM_eq_error_iff.mp h
    exact ⟨before, piece, behind, hcut, hbefore, hpiece⟩
  · rintro ⟨before, piece, behind, hcut, hbefore, hpiece⟩
    exact ⟨_, hcut, mapM_eq_error_iff.mpr ⟨before, piece, behind, rfl, hbefore, hpiece⟩⟩

theorem ne_tooManyResults_of_readValue {item value : List Char} {tag : Tag} {fault : ParamFault}
    (h : readValue ctx item tag value = .error fault) (n : Nat) : fault ≠ .tooManyResults n := by
  rintro rfl
  cases tag with
  | int | int128 | bool | byteArray =>
    obtain ⟨_, -, hfault⟩ := mapError_map_eq_error_iff.mp h
    cases hfault
  | string => cases h
  | address =>
    simp only [readValue] at h
    split at h
    · cases h
    · cases h

/-- The number of results is no reason to refuse a piece. -/
theorem ne_tooManyResults_of_parse {piece : String} {fault : ParamFault}
    (h : parse ctx piece = .error fault) (n : Nat) : fault ≠ .tooManyResults n := by
  unfold parse readItem readTrimmed at h
  split at h
  · cases h
    exact ParamFault.noConfusion
  split at h
  · exact ne_tooManyResults_of_readValue h n
  · cases h
    exact ParamFault.noConfusion

/-! ## Counted lists -/

theorem parseExpected_eq_none_iff :
    parseExpected ctx text = .ok none ↔ parseList ctx text = .ok [] := by
  unfold parseExpected
  cases parseList ctx text with
  | error fault => simp [bind, Except.bind]
  | ok ps => rcases ps with _ | ⟨p, _ | ⟨q, ps⟩⟩ <;> simp [bind, Except.bind, pure, Except.pure]

theorem parseExpected_eq_some_iff {p : Param} :
    parseExpected ctx text = .ok (some p) ↔ parseList ctx text = .ok [p] := by
  unfold parseExpected
  cases parseList ctx text with
  | error fault => simp [bind, Except.bind]
  | ok ps => rcases ps with _ | ⟨q, _ | ⟨r, ps⟩⟩ <;> simp [bind, Except.bind, pure, Except.pure]

theorem parseExpected_eq_error_iff {fault : ParamFault} :
    parseExpected ctx text = .error fault ↔ parseList ctx text = .error fault ∨
      ∃ ps, parseList ctx text = .ok ps ∧ 2 ≤ ps.length ∧ fault = .tooManyResults ps.length := by
  unfold parseExpected
  cases parseList ctx text with
  | error fault => simp [bind, Except.bind]
  | ok ps =>
    rcases ps with _ | ⟨p, _ | ⟨q, ps⟩⟩ <;> simp [bind, Except.bind, pure, Except.pure, eq_comm]

/-- The text of a parameter is read as it, whatever addresses are known, exactly if the parameter
fits into an item. -/
theorem parseExpected_text_iff {p : Param} :
    parseExpected ctx p.text = .ok (some p) ↔ p.Fits := by
  have hchars : p.text.toList = p.chars := String.toList_ofList
  rw [parseExpected_eq_some_iff, parseList_eq_singleton_iff, parse, hchars, readItem_chars,
    Except.ok.injEq, fits_iff]

/-- Nothing is expected exactly if the text is blank, and a single parameter exactly if the text is
an item without commas. There are too many results exactly if there are commas and all pieces
between them are read. Every other fault is that of the leftmost piece that is refused. So the text
of a parameter is read back, unless it is that of a text that holds a comma or ends with a blank. -/
theorem parseExpected_outcomes (ctx : Context) (text : String) :
    (parseExpected ctx text = .ok none ↔ IsBlank text) ∧
    (∀ p, parseExpected ctx text = .ok (some p) ↔
      ',' ∉ text.toList ∧ parse ctx text = .ok p) ∧
    (∀ n, parseExpected ctx text = .error (.tooManyResults n) ↔
      1 ≤ n - 1 ∧ text.toList.count ',' = n - 1 ∧
        ∃ pieces, IsCut text pieces ∧ ∀ piece ∈ pieces, ∃ p, parse ctx piece = .ok p) ∧
    (∀ fault, (parseExpected ctx text = .error fault ∧ ∀ n, fault ≠ .tooManyResults n) ↔
      ¬ IsBlank text ∧ FirstRefusal ctx text fault) ∧
    ∀ p : Param, parseExpected ctx p.text = .ok (some p) ↔ p.Fits := by
  have hrefusal : ∀ {fault}, FirstRefusal ctx text fault → ∀ n, fault ≠ .tooManyResults n := by
    rintro fault ⟨_, _, _, -, -, hpiece⟩
    exact ne_tooManyResults_of_parse hpiece
  refine ⟨?_, fun p => ?_, fun n => ?_, fun fault => ?_, fun p => parseExpected_text_iff⟩
  · rw [parseExpected_eq_none_iff, parseList_eq_nil_iff]
  · rw [parseExpected_eq_some_iff, parseList_eq_singleton_iff]
  · rw [parseExpected_eq_error_iff, parseList_eq_error_iff]
    constructor
    · rintro (⟨-, h⟩ | ⟨ps, hps, hlength, hn⟩)
      · exact absurd rfl (hrefusal h n)
      · obtain rfl := ParamFault.tooManyResults.inj hn
        obtain ⟨hcount, hall⟩ := (exists_parseList_iff (by omega)).mp ⟨ps, hps, rfl⟩
        exact ⟨by omega, by omega, hall⟩
    · rintro ⟨hn, hcount, hall⟩
      obtain ⟨ps, hps, rfl⟩ := (exists_parseList_iff (n := n) (by omega)).mpr ⟨by omega, hall⟩
      exact .inr ⟨ps, hps, by omega, rfl⟩
  · rw [parseExpected_eq_error_iff, parseList_eq_error_iff]
    constructor
    · rintro ⟨h | ⟨ps, -, -, rfl⟩, hno⟩
      · exact h
      · exact absurd rfl (hno ps.length)
    · intro h
      exact ⟨.inl h, hrefusal h.2⟩

/-- A comma at the end makes a blank piece, which counts before the number of pieces. -/
example : parseExpected {} "int:1,bool:true," = .error (.missingSeparator "") ∧
    parseExpected {} "int:1,bool:true" = .error (.tooManyResults 2) := by
  decide

end ContractFixtures.Param
