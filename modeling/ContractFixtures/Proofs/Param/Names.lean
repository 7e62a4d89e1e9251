import ContractFixtures.Proofs.Param.References

/-!
# Names that can be written

The token of an item is cut at commas and trimmed before it is looked up. So a contract can be
referred to if its name passes through that unchanged, and if the name does not stand for something
else: colons and blanks inside of it do no harm, and it may even be empty. Any other name is never
looked up, and then it does not matter whether a contract has it.

* `IsToken`: texts that the value of an address item can be.
* `IsWritable`: names that an address item can refer to a contract by.

Results:
1. `refersTo_item`: an item that refers to a token.
2. `RefersTo.isToken`: only tokens are looked up.
3. `parseList_congr`: contracts count by the tokens that are their names.
4. `parseList_names`: which names lead to contracts, and which cannot be written.
-/

namespace ContractFixtures.Param

variable {ctx other : Context} {name piece token : String}

/-- A text that the value of an address item can be: it holds no comma, and no blank stands at
either of its ends. -/
structure IsToken (token : String) : Prop where
  noComma : ',' ∉ token.toList
  start : ∀ c, token.toList.head? = some c → Text.isBlank c = false
  stop : ∀ c, token.toList.getLast? = some c → Text.isBlank c = false

/-- A name that an address item can refer to a contract by: a token that stands for neither an
address nor the admin. -/
structure IsWritable (name : String) : Prop where
  isToken : IsToken name
  notAdmin : ¬ Context.NamesAdmin name
  notText : ¬ Context.IsAddressText name

theorem isToken_iff : IsToken token ↔ ',' ∉ token.toList ∧ Text.trim token.toList = token.toList := by
  rw [Text.trim_eq_iff]
  constructor
  · rintro ⟨hcomma, hstart, hstop⟩
    exact ⟨hcomma, ⟨⟨[], [], by simp, by simp, by simp⟩, hstart, hstop⟩⟩
  · rintro ⟨hcomma, htrims⟩
    exact ⟨hcomma, htrims.start, htrims.stop⟩

instance : DecidablePred IsToken := fun _ => decidable_of_iff _ isToken_iff.symm

instance : DecidablePred Context.NamesAdmin := fun _ => decidable_of_iff _ Context.isAdminName_iff

instance : DecidablePred Context.IsAddressText := fun token =>
  decidable_of_iff ((Address.parse token).toOption.isSome = true) <| by
    have hparse : Context.IsAddressText token ↔ ∃ a, Address.parse token = .ok a :=
      exists_congr fun _ => Address.ofBase58_eq_ok_iff.symm
    rw [hparse]
    cases Address.parse token <;> simp [Except.toOption]

instance : DecidablePred IsWritable := fun name =>
  decidable_of_iff
    (IsToken name ∧ ¬ Context.NamesAdmin name ∧ ¬ Context.IsAddressText name)
    ⟨fun ⟨h, ha, ht⟩ => ⟨h, ha, ht⟩, fun ⟨h, ha, ht⟩ => ⟨h, ha, ht⟩⟩

/-! ## Items -/

/-- A token behind the type of addresses makes an item that refers to it. -/
theorem refersTo_item (h : IsToken token) : RefersTo ("address:" ++ token) token := by
  have hname : ∀ c ∈ "address".toList, Text.isBlank c = false := by
    intro c hc
    have hmem : c ∈ Tag.address.name.toList := hc
    exact Text.isBlank_of_isAlphanum (isAlphanum_of_mem_name hmem)
  have hitem : ("address:" ++ token).toList = "address".toList ++ ':' :: token.toList := by
    rw [String.toList_append]
    rfl
  have htrim : Text.trim ("address:" ++ token).toList = "address".toList ++ ':' :: token.toList := by
    rw [hitem, Text.trim_append_cons hname rfl, Text.trimEnd_eq_self_iff.mpr h.stop]
  exact ⟨"address".toList, token.toList, Text.trim_eq_iff.mp htrim, colon_not_mem_name .address,
    Text.trim_eq_iff.mp (Text.trim_of_forall hname), Text.trim_eq_iff.mp (isToken_iff.mp h).2⟩

/-- Only tokens are looked up. -/
theorem RefersTo.isToken (h : RefersTo piece token) (hcomma : ',' ∉ piece.toList) :
    IsToken token := by
  obtain ⟨ty, value, hpiece, -, -, hvalue⟩ := h
  obtain ⟨before, behind, hpiece, -, -⟩ := hpiece.around
  obtain ⟨front, back, rfl, -, -⟩ := hvalue.around
  refine ⟨fun hmem => hcomma ?_, hvalue.start, hvalue.stop⟩
  simp [hpiece, hmem]

/-- An item that refers to a contract by its name is read as its address. -/
theorem parse_item {a : Address} (h : IsWritable name) (ha : ctx.contracts.get? name = some a) :
    parse ctx ("address:" ++ name) = .ok (.address a) := by
  have hresolve : ctx.resolve name = .ok a := by
    rw [Context.resolve_eq_ok_iff, Context.resolve?_of_not_namesAdmin h.notText h.notAdmin, ha]
  rw [parse_of_refersTo ctx (refersTo_item h.isToken), hresolve]
  rfl

theorem parse_space_append (ctx : Context) (piece : String) :
    parse ctx (" " ++ piece) = parse ctx piece := by
  rw [parse, String.toList_append]
  exact readItem_blank_cons ctx rfl piece.toList

/-! ## Lists -/

/-- Items with a comma and a blank between any two are the pieces of the list, with the blank in
front of all but the first. -/
theorem isCut_intercalate {item : String} {items : List String}
    (h : ∀ i ∈ item :: items, ',' ∉ i.toList) :
    IsCut (", ".intercalate (item :: items)) (item :: items.map (" " ++ ·)) := by
  have hchars : ∀ cs ∈ (item :: items).map String.toList, ',' ∉ cs := List.forall_mem_map.mpr h
  rw [isCut_iff, String.toList_intercalate, ← Text.joinWith_eq_intercalate, List.map_cons,
    List.map_cons, List.map_map]
  have hpad : ',' ∉ [' '] := by decide
  refine (Text.splitAll_joinWith hpad hchars).trans ?_
  rw [List.map_map]
  refine congrArg _ (List.map_congr_left fun i _ => ?_)
  show [' '] ++ i.toList = (" " ++ i).toList
  rw [String.toList_append]
  rfl

/-- The same comes of a list if all tokens stand for the same. -/
theorem parseList_congr (h : ∀ token, IsToken token → ctx.resolve token = other.resolve token)
    (text : String) : parseList ctx text = parseList other text := by
  obtain ⟨pieces, hcomma, heq⟩ := exists_parseList_eq_mapM text
  rw [heq, heq]
  refine mapM_congr fun piece hpiece => ?_
  exact parse_congr fun token htoken => h token (htoken.isToken (hcomma piece hpiece))

/-- Contracts that are referred to by their names, one after the other. -/
theorem parseList_items {refs : List (String × Address)} (hne : refs ≠ [])
    (h : ∀ r ∈ refs, IsWritable r.1 ∧ ctx.contracts.get? r.1 = some r.2) :
    parseList ctx (", ".intercalate (refs.map fun r => "address:" ++ r.1)) =
      .ok (refs.map fun r => .address r.2) := by
  obtain ⟨r, more, rfl⟩ := List.exists_cons_of_ne_nil hne
  have hread : ∀ r' ∈ r :: more, parse ctx ("address:" ++ r'.1) = .ok (.address r'.2) :=
    fun r' hr' => parse_item (h r' hr').1 (h r' hr').2
  have hcomma : ∀ i ∈ (r :: more).map fun r => "address:" ++ r.1, ',' ∉ i.toList := by
    refine List.forall_mem_map.mpr fun r' hr' => ?_
    rw [String.toList_append, List.mem_append, not_or]
    exact ⟨by decide, (h r' hr').1.isToken.noComma⟩
  have hcut := isCut_intercalate hcomma
  obtain ⟨hfirst, hmore⟩ := List.forall_mem_cons.mp hread
  have hblank := hcut.not_isBlank List.mem_cons_self hfirst
  rw [List.map_cons, hcut.parseList_eq ctx hblank, mapM_eq_ok_iff, List.map_map, List.map_cons]
  refine .cons hfirst ?_
  rw [List.forall₂_map_left_iff, List.forall₂_map_right_iff, List.forall₂_same]
  intro r' hr'
  exact (parse_space_append ctx _).trans (hmore r' hr')

/-- Contracts are found by all names that are tokens and stand for nothing else, and lists of such
names give their addresses in order. A piece that refers to a token is read as what it stands for,
and any other piece does not depend on the known addresses. No piece of a list refers to anything
but tokens, so it makes no difference to any text whether there is a contract with a name that is
none, and which one. -/
theorem parseList_names (ctx : Context) :
    (∀ refs : List (String × Address), refs ≠ [] →
      (∀ r ∈ refs, IsWritable r.1 ∧ ctx.contracts.get? r.1 = some r.2) →
      parseList ctx (", ".intercalate (refs.map fun r => "address:" ++ r.1)) =
        .ok (refs.map fun r => .address r.2)) ∧
    (∀ text pieces piece, IsCut text pieces → piece ∈ pieces →
      (∀ token, RefersTo piece token → IsToken token ∧
        ∀ other : Context, parse other piece = (other.resolve token).map .address) ∧
      ((∀ token, ¬ RefersTo piece token) →
        ∀ other : Context, parse other piece = parse ctx piece)) ∧
    ∀ name, ¬ IsToken name → ∀ other : Context, other.admin = ctx.admin →
      (∀ k, k ≠ name → other.contracts.get? k = ctx.contracts.get? k) →
      ∀ text, parseList other text = parseList ctx text := by
  refine ⟨fun refs => parseList_items, ?_, ?_⟩
  · intro text pieces piece hcut hpiece
    constructor
    · intro token htoken
      exact ⟨htoken.isToken (hcut.whole piece hpiece), fun other => parse_of_refersTo other htoken⟩
    · intro hno other
      exact parse_congr fun token htoken => absurd htoken (hno token)
  · intro name hname other hadmin hcontracts text
    refine parseList_congr (fun token htoken => ?_) text
    refine Context.resolve_congr hadmin (hcontracts token ?_)
    rintro rfl
    exact hname htoken

/-- Contracts with a colon and a blank in their names, without a name, and with a blank at the end
of the name. -/
def oddContext : Context :=
  Context.deploy {} [("a: b", .empty), ("", ⟨List.replicate 20 3, rfl⟩), ("x ", .empty)]

theorem parseList_names_oddContext :
    (∀ r ∈ [("a: b", Address.empty), ("", ⟨List.replicate 20 3, rfl⟩)],
      IsWritable r.1 ∧ oddContext.contracts.get? r.1 = some r.2) ∧
    parseList oddContext (", ".intercalate
        ([("a: b", Address.empty), ("", ⟨List.replicate 20 3, rfl⟩)].map fun r => "address:" ++ r.1))
      = .ok [.address .empty, .address ⟨List.replicate 20 3, rfl⟩] ∧
    ¬ IsToken "x " ∧
    ∀ text, parseList (oddContext.withContract "x " ⟨List.replicate 20 2, rfl⟩) text =
      parseList oddContext text := by
  have hrefs : ∀ r ∈ [("a: b", Address.empty), ("", ⟨List.replicate 20 3, rfl⟩)],
      IsWritable r.1 ∧ oddContext.contracts.get? r.1 = some r.2 := by decide +kernel
  have hblank : ¬ IsToken "x " := by decide
  obtain ⟨hread, -, hother⟩ := parseList_names oddContext
  refine ⟨hrefs, hread _ (by simp) hrefs, hblank, hother "x " hblank _ rfl fun k hk => ?_⟩
  rw [Context.get?_withContract, if_neg (Ne.symm hk)]

end ContractFixtures.Param
