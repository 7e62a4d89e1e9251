import ContractFixtures.Proofs.Context.Resolution
import ContractFixtures.Proofs.Param.Expected

/-!
# References to addresses

A piece of a list looks at the known addresses in one case only: if it is an item of the type
`address`, and then only at what the token stands for that is its value. So a contract that is
deployed under a free name changes nothing that was read before, and one that takes the place of
another changes the items that refer to its name.

* `RefersTo`: a piece that refers to an address by a token.
* `Follows`: what becomes of a parameter when a contract is deployed.

Results:
1. `resolve_congr`, `resolve_withContract`: which tokens stand for something else than before.
2. `parse_of_refersTo`, `parse_congr`: how the known addresses count in a piece.
3. `parse_withContract`, `parse_withContract_eq_error_iff`: a piece before and after a contract is
   deployed.
4. `parseList_withContract`: the same for lists and for expected results.
-/

namespace ContractFixtures

/-! ## Tokens -/

namespace Context

variable {ctx other : Context} {name token : String} {a : Address}

/-- What a token stands for depends on the admin and on the contract of that name. -/
theorem resolve_congr (hadmin : ctx.admin = other.admin)
    (h : ctx.contracts.get? token = other.contracts.get? token) :
    ctx.resolve token = other.resolve token := by
  simp only [resolve, resolve?, hadmin, h]

theorem resolve_withContract_of_ne (h : token ≠ name) :
    (ctx.withContract name a).resolve token = ctx.resolve token := by
  refine resolve_congr rfl ?_
  rw [get?_withContract, if_neg (Ne.symm h)]

variable (name a) in
/-- A token that stood for something stands for the same after a contract is deployed, unless it
stood for the contract of that name. -/
theorem resolve_withContract {old : Address} (h : ctx.resolve token = .ok old) :
    (ctx.withContract name a).resolve token = .ok old ∨
      token = name ∧ ctx.contracts.get? name = some old ∧
        (ctx.withContract name a).resolve token = .ok a := by
  by_cases hname : token = name
  · subst hname
    by_cases htext : IsAddressText token
    · obtain ⟨b, rfl⟩ := htext
      rw [resolve_toBase58] at h ⊢
      exact .inl h
    by_cases hadmin : NamesAdmin token
    · rw [resolve_of_namesAdmin htext hadmin] at h ⊢
      exact .inl h
    · rw [resolve_eq_ok_iff, resolve?_of_not_namesAdmin htext hadmin] at h
      have hnew : (ctx.withContract token a).resolve token = .ok a := by
        rw [resolve_eq_ok_iff, resolve?_of_not_namesAdmin htext hadmin, get?_withContract,
          if_pos rfl]
      exact .inr ⟨rfl, h, hnew⟩
  · rw [resolve_withContract_of_ne hname]
    exact .inl h

/-- The name of a contract stands for something. -/
theorem exists_resolve_of_get? (h : ctx.contracts.get? token = some a) :
    ∃ b, ctx.resolve token = .ok b := by
  by_cases htext : IsAddressText token
  · obtain ⟨b, rfl⟩ := htext
    exact ⟨b, resolve_toBase58⟩
  by_cases hadmin : NamesAdmin token
  · exact ⟨_, resolve_of_namesAdmin htext hadmin⟩
  · refine ⟨a, ?_⟩
    rw [resolve_eq_ok_iff, resolve?_of_not_namesAdmin htext hadmin, h]

/-- A contract in the place of another one does not change which tokens stand for nothing. -/
theorem resolve_withContract_eq_error_iff {old : Address} (h : ctx.contracts.get? name = some old)
    {fault : ParamFault} :
    (ctx.withContract name a).resolve token = .error fault ↔ ctx.resolve token = .error fault := by
  by_cases hname : token = name
  · subst hname
    have hget : (ctx.withContract token a).contracts.get? token = some a := by
      rw [get?_withContract, if_pos rfl]
    obtain ⟨b, hb⟩ := exists_resolve_of_get? h
    obtain ⟨b', hb'⟩ := exists_resolve_of_get? hget
    rw [hb, hb']
    exact iff_of_false (fun he => nomatch he) (fun he => nomatch he)
  · rw [resolve_withContract_of_ne hname]

end Context

namespace Param

variable {ctx : Context} {name piece : String} {a : Address}

/-- A piece that refers to an address by a token: an item of the type `address` whose value is the
token, without the blanks around it. -/
def RefersTo (piece token : String) : Prop :=
  ∃ ty value, Text.Trims piece.toList (ty ++ ':' :: value) ∧ ':' ∉ ty ∧
    Text.Trims ty "address".toList ∧ Text.Trims value token.toList

/-- What becomes of a parameter of a piece when a contract is deployed under a name.

* `same`: the parameter stays.
* `moved`: it was the address of the contract that had the name, in a piece that refers to the name,
  and gives way to the address of the new one. -/
inductive Follows (ctx : Context) (name : String) (a : Address) (piece : String) :
    Param → Param → Prop
  | same (p : Param) : Follows ctx name a piece p p
  | moved {old : Address} : RefersTo piece name → ctx.contracts.get? name = some old →
      Follows ctx name a piece (.address old) (.address a)

/-! ## Pieces -/

/-- What comes of a piece that refers to a token is what the token stands for. -/
theorem parse_of_refersTo (ctx : Context) {token : String} (h : RefersTo piece token) :
    parse ctx piece = (ctx.resolve token).map .address := by
  obtain ⟨ty, value, hpiece, hcolon, hty, hvalue⟩ := h
  have htag : Tag.ofName? "address".toList = some .address := ofName?_name .address
  rw [parse, readItem, Text.trim_eq_iff.mpr hpiece, readTrimmed,
    Text.splitFirst?_append_cons hcolon]
  simp only [Text.trim_eq_iff.mpr hty, htag]
  rw [readValue_address, Text.trim_eq_iff.mpr hvalue, String.ofList_toList]

/-- Only the values of addresses depend on the known addresses. -/
theorem readValue_of_ne_address (ctx other : Context) (item value : List Char) {tag : Tag}
    (h : tag ≠ .address) : readValue ctx item tag value = readValue other item tag value := by
  cases tag with
  | address => exact absurd rfl h
  | int | int128 | bool | string | byteArray => rfl

/-- A piece refers to a token, or the known addresses do not matter to it. -/
theorem refersTo_or_parse_eq (piece : String) :
    (∃ token, RefersTo piece token) ∨ ∀ ctx other, parse ctx piece = parse other piece := by
  simp only [parse, readItem, readTrimmed]
  cases hsplit : Text.splitFirst? ':' (Text.trim piece.toList) with
  | none => exact .inr fun _ _ => rfl
  | some parts =>
    obtain ⟨ty, value⟩ := parts
    cases htag : Tag.ofName? (Text.trim ty) with
    | none => exact .inr fun _ _ => by simp only [htag]
    | some tag =>
      by_cases haddress : tag = .address
      · subst haddress
        obtain ⟨hpiece, hcolon⟩ := Text.splitFirst?_eq_some_iff.mp hsplit
        have hty : "address".toList = Text.trim ty := ofName?_eq_some_iff.mp htag
        refine .inl ⟨String.ofList (Text.trim value), ty, value, Text.trim_eq_iff.mp hpiece,
          hcolon, Text.trim_eq_iff.mp hty.symm, ?_⟩
        rw [String.toList_ofList]
        exact Text.trim_eq_iff.mp rfl
      · refine .inr fun ctx other => ?_
        simp only [htag, readValue_of_ne_address ctx other _ value haddress]

/-- The same comes of a piece if the tokens that it refers to stand for the same. -/
theorem parse_congr {other : Context}
    (h : ∀ token, RefersTo piece token → ctx.resolve token = other.resolve token) :
    parse ctx piece = parse other piece := by
  rcases refersTo_or_parse_eq piece with ⟨token, htoken⟩ | hfree
  · rw [parse_of_refersTo ctx htoken, parse_of_refersTo other htoken, h token htoken]
  · exact hfree ctx other

/-! ## Pieces and deployments -/

variable (name a) in
/-- A piece that was read is read after a contract is deployed, too. -/
theorem parse_withContract {p : Param} (h : parse ctx piece = .ok p) :
    ∃ p', parse (ctx.withContract name a) piece = .ok p' ∧ Follows ctx name a piece p p' := by
  rcases refersTo_or_parse_eq piece with ⟨token, htoken⟩ | hfree
  · rw [parse_of_refersTo ctx htoken] at h
    cases hold : ctx.resolve token with
    | error fault =>
      rw [hold] at h
      cases h
    | ok old =>
      rw [hold] at h
      obtain rfl := Except.ok.inj h
      rw [parse_of_refersTo _ htoken]
      rcases Context.resolve_withContract name a hold with hsame | ⟨rfl, hget, hnew⟩
      · exact ⟨.address old, by rw [hsame]; rfl, .same _⟩
      · exact ⟨.address a, by rw [hnew]; rfl, .moved htoken hget⟩
  · exact ⟨p, (hfree _ ctx).trans h, .same p⟩

/-- A piece that was read is read as before after a contract is deployed under a free name. -/
theorem parse_withContract_of_free (hfree : ctx.contracts.get? name = none) {p : Param}
    (h : parse ctx piece = .ok p) : parse (ctx.withContract name a) piece = .ok p := by
  obtain ⟨p', hp', hfollows⟩ := parse_withContract name a h
  cases hfollows with
  | same => exact hp'
  | moved _ hget =>
    rw [hfree] at hget
    cases hget

/-- A contract in the place of another one does not change which pieces are refused, and why. -/
theorem parse_withContract_eq_error_iff {old : Address} (h : ctx.contracts.get? name = some old)
    (piece : String) (fault : ParamFault) :
    parse (ctx.withContract name a) piece = .error fault ↔ parse ctx piece = .error fault := by
  rcases refersTo_or_parse_eq piece with ⟨token, htoken⟩ | hfree
  · rw [parse_of_refersTo _ htoken, parse_of_refersTo _ htoken, map_eq_error_iff,
      map_eq_error_iff, Context.resolve_withContract_eq_error_iff h]
  · rw [hfree _ ctx]

/-! ## Lists and deployments -/

/-- A list that was read is read after a contract is deployed, and each parameter is what becomes of
the one in its place. -/
theorem exists_parseList_withContract {text : String} {ps : List Param}
    (h : parseList ctx text = .ok ps) :
    ∃ ps', parseList (ctx.withContract name a) text = .ok ps' ∧ ps'.length = ps.length ∧
      ∀ pieces, IsCut text pieces → ∀ (i : Nat) (piece : String) (p : Param),
        pieces[i]? = some piece → ps[i]? = some p →
          ∃ p', ps'[i]? = some p' ∧ Follows ctx name a piece p p' := by
  obtain ⟨pieces, hcut⟩ := exists_isCut text
  by_cases hblank : IsBlank text
  · rw [parseList_of_blank ctx hblank] at h
    cases h
    refine ⟨[], parseList_of_blank _ hblank, rfl, ?_⟩
    intro _ _ i _ p _ hp
    cases hp
  rw [hcut.parseList_eq ctx hblank] at h
  have hread : ∀ piece ∈ pieces, ∃ p', parse (ctx.withContract name a) piece = .ok p' := by
    intro piece hpiece
    obtain ⟨p, hp⟩ := exists_mapM_iff.mp ⟨ps, h⟩ piece hpiece
    obtain ⟨p', hp', -⟩ := parse_withContract name a hp
    exact ⟨p', hp'⟩
  obtain ⟨ps', hps'⟩ := exists_mapM_iff.mpr hread
  refine ⟨ps', (hcut.parseList_eq _ hblank).trans hps', ?_, ?_⟩
  · rw [← (mapM_eq_ok_iff.mp hps').length_eq, ← (mapM_eq_ok_iff.mp h).length_eq]
  · intro others hothers i piece p hpiece hp
    obtain rfl := hothers.unique hcut
    obtain ⟨q, hq⟩ := exists_mapM_iff.mp ⟨ps, h⟩ piece (List.mem_of_getElem? hpiece)
    obtain rfl : q = p := Option.some.inj ((getElem?_of_mapM h hpiece hq).symm.trans hp)
    obtain ⟨p', hp', hfollows⟩ := parse_withContract name a hq
    exact ⟨p', getElem?_of_mapM hps' hpiece hp', hfollows⟩

theorem parseList_withContract_of_free (hfree : ctx.contracts.get? name = none) {text : String}
    {ps : List Param} (h : parseList ctx text = .ok ps) :
    parseList (ctx.withContract name a) text = .ok ps := by
  obtain ⟨pieces, -, heq⟩ := exists_parseList_eq_mapM text
  rw [heq, mapM_eq_ok_iff] at h ⊢
  exact h.imp fun _ _ => parse_withContract_of_free hfree

/-- A contract in the place of another one does not change which lists are refused, and why. -/
theorem parseList_withContract_eq_error_iff {old : Address}
    (h : ctx.contracts.get? name = some old) (text : String) (fault : ParamFault) :
    parseList (ctx.withContract name a) text = .error fault ↔
      parseList ctx text = .error fault := by
  obtain ⟨pieces, -, heq⟩ := exists_parseList_eq_mapM text
  rw [heq, heq]
  exact mapM_eq_error_congr (parse_withContract_eq_error_iff h) fault

/-- What was read is read as before after a contract is deployed under a free name, whether it is a
list or an expected result. A contract in the place of another one changes at most the parameters
whose pieces refer to its name: they are then the address of the new contract. It does not change
what is refused, and why. -/
theorem parseList_withContract (ctx : Context) (name : String) (a : Address) (text : String) :
    (ctx.contracts.get? name = none →
      (∀ ps, parseList ctx text = .ok ps → parseList (ctx.withContract name a) text = .ok ps) ∧
      ∀ r, parseExpected ctx text = .ok r →
        parseExpected (ctx.withContract name a) text = .ok r) ∧
    ∀ old, ctx.contracts.get? name = some old →
      (∀ ps, parseList ctx text = .ok ps →
        ∃ ps', parseList (ctx.withContract name a) text = .ok ps' ∧ ps'.length = ps.length ∧
          ∀ pieces, IsCut text pieces → ∀ (i : Nat) (piece : String) (p : Param),
            pieces[i]? = some piece → ps[i]? = some p →
              ∃ p', ps'[i]? = some p' ∧ Follows ctx name a piece p p') ∧
      (∀ p, parseExpected ctx text = .ok (some p) →
        ∃ p', parseExpected (ctx.withContract name a) text = .ok (some p') ∧
          Follows ctx name a text p p') ∧
      ∀ fault, parseList (ctx.withContract name a) text = .error fault ↔
        parseList ctx text = .error fault := by
  refine ⟨fun hfree => ⟨fun ps => parseList_withContract_of_free hfree, ?_⟩, ?_⟩
  · rintro (_ | p) h
    · rw [parseExpected_eq_none_iff] at h ⊢
      exact parseList_withContract_of_free hfree h
    · rw [parseExpected_eq_some_iff] at h ⊢
      exact parseList_withContract_of_free hfree h
  · intro old hold
    refine ⟨fun ps h => exists_parseList_withContract h, ?_,
      parseList_withContract_eq_error_iff hold text⟩
    intro p h
    rw [parseExpected_eq_some_iff, parseList_eq_singleton_iff] at h
    obtain ⟨hcomma, hread⟩ := h
    obtain ⟨p', hp', hfollows⟩ := parse_withContract name a hread
    refine ⟨p', ?_, hfollows⟩
    rw [parseExpected_eq_some_iff, parseList_eq_singleton_iff]
    exact ⟨hcomma, hp'⟩

/-- A context with a contract called `token`. -/
def tokenContext : Context :=
  Context.withContract {} "token" .empty

/-- An item that refers to the contract, and one that only says its name. -/
theorem parseList_withContract_tokenContext :
    tokenContext.contracts.get? "other" = none ∧
      tokenContext.contracts.get? "token" = some .empty ∧
      IsCut "address: token ,string:token" ["address: token ", "string:token"] ∧
      parseList tokenContext "address: token ,string:token" =
        .ok [.address .empty, .string "token"] ∧
      parseList (tokenContext.withContract "other" ⟨List.replicate 20 1, rfl⟩)
        "address: token ,string:token" = .ok [.address .empty, .string "token"] ∧
      ∃ ps', parseList (tokenContext.withContract "token" ⟨List.replicate 20 1, rfl⟩)
          "address: token ,string:token" = .ok ps' ∧ ps'.length = 2 ∧
        ∃ p', ps'[1]? = some p' ∧ Follows tokenContext "token" ⟨List.replicate 20 1, rfl⟩
          "string:token" (.string "token") p' := by
  have hfree : tokenContext.contracts.get? "other" = none := by decide
  have hbound : tokenContext.contracts.get? "token" = some .empty := by decide
  have hcut : IsCut "address: token ,string:token" ["address: token ", "string:token"] :=
    isCut_iff.mpr (by decide)
  have hread : parseList tokenContext "address: token ,string:token" =
      .ok [.address .empty, .string "token"] := by decide +kernel
  refine ⟨hfree, hbound, hcut, hread, ?_, ?_⟩
  · exact ((parseList_withContract tokenContext "other" _ _).1 hfree).1 _ hread
  · obtain ⟨ps', hps', hlength, hall⟩ :=
      ((parseList_withContract tokenContext "token" ⟨List.replicate 20 1, rfl⟩ _).2 _ hbound).1
        _ hread
    exact ⟨ps', hps', hlength, hall _ hcut 1 _ _ rfl rfl⟩

/-- The item that refers to the contract is then the address of the new one. -/
example : parseList (tokenContext.withContract "token" ⟨List.replicate 20 1, rfl⟩)
    "address: token ,string:token" =
      .ok [.address ⟨List.replicate 20 1, rfl⟩, .string "token"] := by
  decide +kernel

end Param

end ContractFixtures
