import ContractFixtures.Proofs.Json.Indentation
import ContractFixtures.Proofs.Text.Pieces
import ContractFixtures.Record.Encoding

/-!
# The texts of records

The text of a record on one line is compared character by character, so it is given here as a whole:
the keys in their order, with the quoted texts of the record between them. No field is left out, and
there are no blanks but those in the texts. The indented text differs from it in layout only.

* `Env.IsWritten`, `Case.IsWritten`: the text of a record on one line.

Results:
1. `Env.encode_eq_iff`, `Case.encode_eq_iff`: which text is written for a record.
2. `encode_records`: the same for all records, and that it stands on one line.
3. `encodePretty_records`: what is left of the indented text when its layout is deleted.
-/

namespace ContractFixtures

open Json (Quoted OneLine withoutLayout inStrings)

/-- The text of an environment: its addresses in their order, with commas between them. -/
def Env.IsWritten (e : Env) (text : String) : Prop :=
  ∃ addresses, List.Forall₂ (fun a written => Quoted a.toBase58 written) e.witness addresses ∧
    text = "\x7b\"witness\":[" ++ ",".intercalate addresses ++ "]\x7d"

/-- The text of a case: all its fields in their order. -/
def Case.IsWritten (c : Case) (text : String) : Prop :=
  ∃ env method param expected notify,
    c.env.IsWritten env ∧ Quoted c.method method ∧ Quoted c.param param ∧
      Quoted c.expected expected ∧ Quoted c.notify notify ∧
      text = "\x7b\"env\":" ++ env ++
        ",\"needcontext\":" ++ (if c.needContext then "true" else "false") ++
        ",\"method\":" ++ method ++ ",\"param\":" ++ param ++
        ",\"expected\":" ++ expected ++ ",\"notify\":" ++ notify ++ "\x7d"

/-! ## Texts on one line -/

/-- The names of fields are written as they are. -/
theorem quote_keys : ∀ key ∈ ["witness", "env", "needcontext", "method", "param", "expected",
    "notify"], Json.quote key = '"' :: (key.toList ++ ['"']) := by
  decide

/-- The text of an environment, put together from quoted texts. -/
theorem Env.encode_eq (e : Env) :
    e.encode = "\x7b\"witness\":[" ++
        ",".intercalate (e.witness.map fun a => String.ofList (Json.quote a.toBase58)) ++
      "]\x7d" := by
  rw [← String.toList_inj]
  simp [encode, toJson, Json.compact, Json.compactChars, Json.compactMembers, quote_keys,
    Json.compactElements_eq, Text.joinWith_eq_intercalate, Function.comp_def]

/-- The text of a case, put together from quoted texts and the text of its environment. -/
theorem Case.encode_eq (c : Case) :
    c.encode = "\x7b\"env\":" ++ c.env.encode ++
      ",\"needcontext\":" ++ (if c.needContext then "true" else "false") ++
      ",\"method\":" ++ String.ofList (Json.quote c.method) ++
      ",\"param\":" ++ String.ofList (Json.quote c.param) ++
      ",\"expected\":" ++ String.ofList (Json.quote c.expected) ++
      ",\"notify\":" ++ String.ofList (Json.quote c.notify) ++ "\x7d" := by
  rw [← String.toList_inj]
  cases hneed : c.needContext <;>
    simp [encode, toJson, Env.encode, Json.compact, Json.compactChars, Json.compactMembers,
      quote_keys, hneed]

theorem forall₂_quoted_iff {as : List Address} {written : List String} :
    List.Forall₂ (fun a text => Quoted a.toBase58 text) as written ↔
      (as.map fun a => String.ofList (Json.quote a.toBase58)) = written :=
  forall₂_iff_map_eq fun a text => @Json.quoted_iff a.toBase58 text

theorem Env.encode_eq_iff {e : Env} {text : String} : e.encode = text ↔ e.IsWritten text := by
  rw [e.encode_eq]
  constructor
  · rintro rfl
    exact ⟨_, forall₂_quoted_iff.mpr rfl, rfl⟩
  · rintro ⟨addresses, haddresses, rfl⟩
    rw [forall₂_quoted_iff.mp haddresses]

theorem Case.encode_eq_iff {c : Case} {text : String} : c.encode = text ↔ c.IsWritten text := by
  rw [c.encode_eq]
  constructor
  · rintro rfl
    exact ⟨_, _, _, _, _, Env.encode_eq_iff.mp rfl, Json.quoted_iff.mpr rfl,
      Json.quoted_iff.mpr rfl, Json.quoted_iff.mpr rfl, Json.quoted_iff.mpr rfl, rfl⟩
  · rintro ⟨env, method, param, expected, notify, henv, hmethod, hparam, hexpected, hnotify, rfl⟩
    rw [Env.encode_eq_iff.mpr henv, Json.quoted_iff.mp hmethod, Json.quoted_iff.mp hparam,
      Json.quoted_iff.mp hexpected, Json.quoted_iff.mp hnotify]

theorem Env.IsWritten.oneLine {e : Env} {text : String} (h : e.IsWritten text) :
    OneLine text := by
  obtain ⟨addresses, haddresses, rfl⟩ := h
  have hall : ∀ written ∈ addresses, OneLine written := by
    rw [← forall₂_quoted_iff.mp haddresses, List.forall_mem_map]
    exact fun a _ => (Json.quoted_iff.mpr rfl).oneLine
  rw [Json.oneLine_append, Json.oneLine_append]
  exact ⟨⟨by decide, Json.OneLine.intercalate (by decide) hall⟩, by decide⟩

theorem Case.IsWritten.oneLine {c : Case} {text : String} (h : c.IsWritten text) :
    OneLine text := by
  obtain ⟨env, method, param, expected, notify, henv, hmethod, hparam, hexpected, hnotify, rfl⟩ := h
  have hflag : OneLine (if c.needContext then "true" else "false") := by
    cases c.needContext <;> decide
  have hkeys : ∀ key ∈ ["\x7b\"env\":", ",\"needcontext\":", ",\"method\":", ",\"param\":",
      ",\"expected\":", ",\"notify\":", "\x7d"], OneLine key := by
    decide
  simp [henv.oneLine, hmethod.oneLine, hparam.oneLine, hexpected.oneLine, hnotify.oneLine, hflag,
    hkeys]

/-- The text of every environment and of every case is the one that is given here, and it stands on
one line. -/
theorem encode_records :
    (∀ (e : Env) (text : String), e.encode = text ↔ e.IsWritten text) ∧
      (∀ (c : Case) (text : String), c.encode = text ↔ c.IsWritten text) ∧
      (∀ e : Env, OneLine e.encode) ∧ ∀ c : Case, OneLine c.encode :=
  ⟨fun _ _ => Env.encode_eq_iff, fun _ _ => Case.encode_eq_iff,
    fun _ => (Env.encode_eq_iff.mp rfl).oneLine, fun _ => (Case.encode_eq_iff.mp rfl).oneLine⟩

/-! ## Indented texts -/

/-- Without the spaces and line feeds that stand outside of strings, the indented text of
environments, cases and lists of groups is the text on one line. The characters in strings are the
same in both. -/
theorem encodePretty_records :
    (∀ e : Env, withoutLayout e.encodePretty = e.encode ∧
      inStrings e.encodePretty = inStrings e.encode) ∧
    (∀ c : Case, withoutLayout c.encodePretty = c.encode ∧
      inStrings c.encodePretty = inStrings c.encode) ∧
    ∀ groups : List Group,
      withoutLayout (Group.encodeListPretty groups) = Group.encodeList groups ∧
        inStrings (Group.encodeListPretty groups) = inStrings (Group.encodeList groups) := by
  have hvalue : ∀ v : Json, withoutLayout v.pretty = v.compact ∧
      inStrings v.pretty = inStrings v.compact := fun v =>
    ⟨Json.withoutLayout_pretty v, Json.inStrings_pretty v⟩
  exact ⟨fun e => hvalue e.toJson, fun c => hvalue c.toJson,
    fun groups => hvalue (Group.listToJson groups)⟩

end ContractFixtures
