import ContractFixtures.Proofs.Address.CheckedText
import ContractFixtures.Proofs.Traversal
import ContractFixtures.Record.Decoding

/-!
# The values that denote records

A value denotes at most one record. What it must hold for that is stated field by field, with no
regard to the order of the members or to members of other keys.

* `Env.IsIn`, `Case.IsIn`: the members of an object are those of a record.

Results:
1. `addresses_eq_ok_iff`: an array denotes addresses if it holds their texts.
2. `env_ofJson_eq_ok_iff`, `case_ofJson_eq_ok_iff`: an object denotes a record if it holds it.
3. `ofJson_records_iff`: which values denote records, and which record it is.
-/

namespace ContractFixtures

/-- The members hold an environment: the key `witness` gives the texts of its addresses. -/
def Env.IsIn (e : Env) (members : List (String × Json)) : Prop :=
  Json.lookup "witness" members = some (.array (e.witness.map fun a => .string a.toBase58))

/-- The members hold a case. Only two keys may be missing, and none may be `null`. -/
structure Case.IsIn (c : Case) (members : List (String × Json)) : Prop where
  env : ∃ inner, Json.lookup "env" members = some (.object inner) ∧ c.env.IsIn inner
  needContext :
    Json.lookup "needcontext" members = none ∧ c.needContext = false ∨
      Json.lookup "needcontext" members = some (.bool c.needContext)
  method : Json.lookup "method" members = some (.string c.method)
  param : Json.lookup "param" members = some (.string c.param)
  expected : Json.lookup "expected" members = some (.string c.expected)
  notify :
    Json.lookup "notify" members = none ∧ c.notify = "" ∨
      Json.lookup "notify" members = some (.string c.notify)

namespace Decoding

/-! ## Kinds -/

variable {field : String} {v : Json}

theorem asObject_eq_ok_iff {members : List (String × Json)} :
    asObject field v = .ok members ↔ v = .object members := by
  cases v <;> simp [asObject]

theorem asArray_eq_ok_iff {elements : List Json} :
    asArray field v = .ok elements ↔ v = .array elements := by
  cases v <;> simp [asArray]

theorem asString_eq_ok_iff {text : String} : asString field v = .ok text ↔ v = .string text := by
  cases v <;> simp [asString]

theorem asBool_eq_ok_iff {value : Bool} : asBool field v = .ok value ↔ v = .bool value := by
  cases v <;> simp [asBool]

/-! ## Keys -/

variable {members : List (String × Json)} {parent key : String}

theorem required_eq_ok_iff :
    required members parent key = .ok v ↔ Json.lookup key members = some v := by
  unfold required
  split <;> simp_all

theorem requiredString_eq_ok_iff {text : String} :
    requiredString members key = .ok text ↔ Json.lookup key members = some (.string text) := by
  simp only [requiredString, bind_eq_ok_iff, required_eq_ok_iff, asString_eq_ok_iff,
    exists_eq_right]

theorem optionalString_eq_ok_iff {text : String} :
    optionalString members key = .ok text ↔
      Json.lookup key members = none ∧ text = "" ∨
        Json.lookup key members = some (.string text) := by
  unfold optionalString
  split
  · next v hv => simp [hv, asString_eq_ok_iff]
  · next hv => simp [hv, eq_comm]

theorem optionalBool_eq_ok_iff {value : Bool} :
    optionalBool members key = .ok value ↔
      Json.lookup key members = none ∧ value = false ∨
        Json.lookup key members = some (.bool value) := by
  unfold optionalBool
  split
  · next v hv => simp [hv, asBool_eq_ok_iff]
  · next hv => simp [hv, eq_comm]

/-! ## Addresses -/

theorem asAddress_eq_ok_iff {a : Address} :
    asAddress field v = .ok a ↔ v = .string a.toBase58 := by
  constructor
  · intro h
    obtain ⟨text, htext, h⟩ := bind_eq_ok_iff.mp h
    rw [asString_eq_ok_iff.mp htext]
    split at h
    · next b hparse =>
      cases h
      rw [Address.ofBase58_eq_ok_iff.mp hparse]
    · cases h
  · rintro rfl
    simp only [asAddress, asString, bind, Except.bind, Address.parse_toBase58]

/-- An array denotes the addresses whose texts it holds, in their order. -/
theorem addresses_eq_ok_iff {index : Nat} {vs : List Json} {as : List Address} :
    addresses field index vs = .ok as ↔ vs = as.map fun a => .string a.toBase58 := by
  induction vs generalizing index as with
  | nil =>
    rw [addresses, Except.ok.injEq, eq_comm (a := []), eq_comm (a := []), List.map_eq_nil_iff]
  | cons v vs ih =>
    simp only [addresses, bind_eq_ok_iff, asAddress_eq_ok_iff, ih, pure, Except.pure,
      Except.ok.injEq]
    rw [eq_comm (a := v :: vs), List.map_eq_cons_iff]
    constructor
    · rintro ⟨a, hv, more, hvs, rfl⟩
      exact ⟨a, more, rfl, hv.symm, hvs.symm⟩
    · rintro ⟨a, more, rfl, hv, hvs⟩
      exact ⟨a, hv.symm, more, hvs.symm, rfl⟩

/-! ## Records -/

/-- A value denotes an environment if it is an object that holds it, wherever it stands. -/
theorem env_ofJson_eq_ok_iff {e : Env} :
    Env.ofJson parent v = .ok e ↔ ∃ members, v = .object members ∧ e.IsIn members := by
  simp only [Env.ofJson, bind_eq_ok_iff, asObject_eq_ok_iff, required_eq_ok_iff,
    asArray_eq_ok_iff, addresses_eq_ok_iff, pure, Except.pure, Except.ok.injEq]
  constructor
  · rintro ⟨members, hv, _, hw, _, rfl, as, rfl, rfl⟩
    exact ⟨members, hv, hw⟩
  · rintro ⟨members, hv, hw⟩
    exact ⟨members, hv, _, hw, _, rfl, e.witness, rfl, rfl⟩

/-- A value denotes a case if it is an object that holds it. -/
theorem case_ofJson_eq_ok_iff {c : Case} :
    Case.ofJson v = .ok c ↔ ∃ members, v = .object members ∧ c.IsIn members := by
  simp only [Case.ofJson, bind_eq_ok_iff, asObject_eq_ok_iff, required_eq_ok_iff,
    env_ofJson_eq_ok_iff, optionalBool_eq_ok_iff, requiredString_eq_ok_iff,
    optionalString_eq_ok_iff, pure, Except.pure, Except.ok.injEq]
  constructor
  · rintro ⟨members, hv, _, henv, e, ⟨inner, rfl, he⟩, need, hneed, method, hmethod, param, hparam,
      expected, hexpected, notify, hnotify, rfl⟩
    exact ⟨members, hv, ⟨inner, henv, he⟩, hneed, hmethod, hparam, hexpected, hnotify⟩
  · rintro ⟨members, hv, ⟨inner, henv, he⟩, hneed, hmethod, hparam, hexpected, hnotify⟩
    exact ⟨members, hv, _, henv, c.env, ⟨inner, rfl, he⟩, _, hneed, _, hmethod, _, hparam, _,
      hexpected, _, hnotify, rfl⟩

/-- A value denotes an environment or a case exactly if it is an object that holds it. -/
theorem ofJson_records_iff (v : Json) :
    (∀ c, Case.ofJson v = .ok c ↔ ∃ members, v = .object members ∧ c.IsIn members) ∧
      ∀ e, Env.ofJson "" v = .ok e ↔ ∃ members, v = .object members ∧ e.IsIn members :=
  ⟨fun _ => case_ofJson_eq_ok_iff, fun _ => env_ofJson_eq_ok_iff⟩

/-- A key that may be missing is still refused as `null`. -/
example : Case.ofJson (.object
    [("env", .object [("witness", .array [])]), ("method", .string ""), ("param", .string ""),
     ("expected", .string ""), ("notify", .null)]) = .error (.wrongKind "notify" .string .null) :=
  rfl

end Decoding

end ContractFixtures
