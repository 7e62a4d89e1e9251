import ContractFixtures.Proofs.Record.Dependence

/-!
# The first defect of a record

What may be wrong with a value is stated for each place on its own, with no regard to what else is
wrong with it. The fields of a record are read in a fixed order, so the fault of a value with
several defects is that of the first of them in this order, wherever its members stand.

* `Json.at?`, `pathName`: places in a value, and their names.
* `Missing`, `WrongKind`, `BadElement`: what may be wrong at a place.
* `Env.defects`, `Case.defects`: the possible defects of a record, in the order in which they count.

Results:
1. `asObject_eq_error_iff` and the like: the fault of a value of another kind.
2. `addresses_eq_error_iff`: the fault of an array is that of its first bad element.
3. `env_failsBy`, `case_failsBy`: a record is read up to its first defect.
4. `ofJson_first_defect`: which fault a value is refused for.
-/

namespace ContractFixtures

/-- The value at a path of keys. -/
def Json.at? : List String → Json → Option Json
  | [], v => some v
  | key :: keys, .object members => (lookup key members).bind (at? keys)
  | _ :: _, _ => none

theorem Json.at?_concat {path : List String} {v : Json} {members : List (String × Json)}
    (h : at? path v = some (.object members)) (key : String) :
    at? (path ++ [key]) v = lookup key members := by
  induction path generalizing v with
  | nil =>
    obtain rfl := Option.some.inj h
    rw [List.nil_append, at?]
    cases lookup key members <;> rfl
  | cons first path ih =>
    cases v with
    | object outer =>
      rw [List.cons_append, at?]
      rw [at?] at h
      obtain ⟨w, hw, h⟩ := Option.bind_eq_some_iff.mp h
      rw [hw]
      exact ih h
    | _ => cases h

namespace Decoding

open Json (at? lookup Kind)

/-! ## Defects -/

/-- What a path is called in a fault: its keys with dots between them. -/
def pathName : List String → String
  | [] => "<root>"
  | keys => ".".intercalate keys

/-- The object at a path does not have a key. -/
def Missing (v : Json) (path : List String) (key : String) (fault : DecodingFault) : Prop :=
  ∃ members, at? path v = some (.object members) ∧ lookup key members = none ∧
    fault = .missingField (pathName (path ++ [key]))

/-- The value at a path is of another kind. -/
def WrongKind (v : Json) (path : List String) (kind : Kind) (fault : DecodingFault) : Prop :=
  ∃ found, at? path v = some found ∧ found.kind ≠ kind ∧
    fault = .wrongKind (pathName path) kind found.kind

/-- A value is not the text of an address. -/
inductive NoAddress (name : String) : Json → DecodingFault → Prop
  | kind {w : Json} (h : w.kind ≠ .string) : NoAddress name w (.wrongKind name .string w.kind)
  | text {text : String} {fault : Address.Fault} (h : Address.ofBase58 text = .error fault) :
      NoAddress name (.string text) (.invalidAddress name fault)

/-- The array at a path has an element that is not the text of an address, behind elements that
are. -/
def BadElement (v : Json) (path : List String) (fault : DecodingFault) : Prop :=
  ∃ before w behind, at? path v = some (.array (before ++ w :: behind)) ∧
    (∀ u ∈ before, ∃ a : Address, u = .string a.toBase58) ∧
    NoAddress (pathName path ++ "[" ++ toString before.length ++ "]") w fault

end Decoding

open Decoding

/-- The possible defects of the environment at a path, in the order in which they count. -/
def Env.defects (v : Json) (path : List String) : List (DecodingFault → Prop) :=
  [WrongKind v path .object, Missing v path "witness", WrongKind v (path ++ ["witness"]) .array,
   BadElement v (path ++ ["witness"])]

/-- The possible defects of a case, in the order in which they count. -/
def Case.defects (v : Json) : List (DecodingFault → Prop) :=
  [WrongKind v [] .object, Missing v [] "env"] ++ Env.defects v ["env"] ++
  [WrongKind v ["needcontext"] .boolean,
   Missing v [] "method", WrongKind v ["method"] .string,
   Missing v [] "param", WrongKind v ["param"] .string,
   Missing v [] "expected", WrongKind v ["expected"] .string,
   WrongKind v ["notify"] .string]

namespace Decoding

open Json (at? lookup Kind)

/-! ## Kinds -/

section
variable {field : String} {w : Json} {fault : DecodingFault}

theorem asObject_eq_error_iff : asObject field w = .error fault ↔ w.kind ≠ .object ∧
    fault = .wrongKind (if field = "" then rootField else field) .object w.kind := by
  cases w <;> simp [asObject, Json.kind, eq_comm]

theorem asArray_eq_error_iff : asArray field w = .error fault ↔
    w.kind ≠ .array ∧ fault = .wrongKind field .array w.kind := by
  cases w <;> simp [asArray, Json.kind, eq_comm]

theorem asString_eq_error_iff : asString field w = .error fault ↔
    w.kind ≠ .string ∧ fault = .wrongKind field .string w.kind := by
  cases w <;> simp [asString, Json.kind, eq_comm]

theorem asBool_eq_error_iff : asBool field w = .error fault ↔
    w.kind ≠ .boolean ∧ fault = .wrongKind field .boolean w.kind := by
  cases w <;> simp [asBool, Json.kind, eq_comm]

end

/-! ## Elements -/

theorem asAddress_eq_error_iff {field : String} {w : Json} {fault : DecodingFault} :
    asAddress field w = .error fault ↔ NoAddress field w fault := by
  rw [asAddress, bind_eq_error_iff, asString_eq_error_iff]
  constructor
  · rintro (⟨hkind, rfl⟩ | ⟨text, htext, h⟩)
    · exact .kind hkind
    · obtain rfl := asString_eq_ok_iff.mp htext
      split at h
      · cases h
      · next hparse =>
        cases h
        exact .text hparse
  · rintro (hkind | hparse)
    · exact .inl ⟨hkind, rfl⟩
    · refine .inr ⟨_, rfl, ?_⟩
      rw [Address.parse, hparse]

theorem exists_noAddress {w : Json} (h : ¬ ∃ a : Address, w = .string a.toBase58) (name : String) :
    ∃ fault, NoAddress name w fault := by
  cases hw : asAddress name w with
  | error fault => exact ⟨fault, asAddress_eq_error_iff.mp hw⟩
  | ok a => exact absurd ⟨a, asAddress_eq_ok_iff.mp hw⟩ h

/-- An element that is not the text of an address is met behind elements that are. -/
theorem addresses_append_cons {field : String} {before behind : List Json} {w : Json}
    {fault : DecodingFault} (hbefore : ∀ u ∈ before, ∃ a : Address, u = .string a.toBase58)
    {index : Nat} (hw : NoAddress (elementPath field (index + before.length)) w fault) :
    addresses field index (before ++ w :: behind) = .error fault := by
  induction before generalizing index with
  | nil => exact bind_eq_error_iff.mpr (.inl (asAddress_eq_error_iff.mpr hw))
  | cons u before ih =>
    obtain ⟨⟨a, ha⟩, hrest⟩ := List.forall_mem_cons.mp hbefore
    rw [List.length_cons, Nat.add_comm before.length, ← Nat.add_assoc] at hw
    refine bind_eq_error_iff.mpr (.inr ⟨a, asAddress_eq_ok_iff.mpr ha, ?_⟩)
    exact bind_eq_error_iff.mpr (.inl (ih hrest hw))

/-- An array is read up to its first element that is not the text of an address. -/
theorem addresses_eq_error_iff {field : String} {index : Nat} {vs : List Json}
    {fault : DecodingFault} :
    addresses field index vs = .error fault ↔ ∃ before w behind, vs = before ++ w :: behind ∧
      (∀ u ∈ before, ∃ a : Address, u = .string a.toBase58) ∧
      NoAddress (elementPath field (index + before.length)) w fault := by
  constructor
  · intro h
    have hbad : ∃ u ∈ vs, ¬ ∃ a : Address, u = .string a.toBase58 := by
      by_contra hall
      have hrange : vs ∈ Set.range (List.map fun a : Address => Json.string a.toBase58) := by
        rw [Set.range_list_map]
        intro u hu
        by_contra hno
        exact hall ⟨u, hu, fun ⟨a, ha⟩ => hno ⟨a, ha.symm⟩⟩
      obtain ⟨as, rfl⟩ := hrange
      exact nomatch h.symm.trans (addresses_eq_ok_iff.mpr rfl)
    obtain ⟨before, w, behind, rfl, hin, hw⟩ := exists_first hbad
    have hbefore : ∀ u ∈ before, ∃ a : Address, u = .string a.toBase58 := fun u hu =>
      not_not.mp (hin u hu)
    obtain ⟨fault', hfault⟩ := exists_noAddress hw (elementPath field (index + before.length))
    rw [addresses_append_cons hbefore hfault] at h
    obtain rfl := Except.error.inj h
    exact ⟨before, w, behind, rfl, hbefore, hfault⟩
  · rintro ⟨before, w, behind, rfl, hbefore, hw⟩
    exact addresses_append_cons hbefore hw

/-! ## Places -/

section
variable {v : Json} {path : List String}

theorem failsBy_kind {α : Type} {x : Except DecodingFault α} {w : Json} {kind : Kind}
    (hat : at? path v = some w)
    (hx : ∀ fault, x = .error fault ↔
      w.kind ≠ kind ∧ fault = .wrongKind (pathName path) kind w.kind) :
    FailsBy x [WrongKind v path kind] := by
  refine failsBy_singleton.mpr fun fault => ?_
  rw [hx, WrongKind, hat]
  simp only [Option.some.injEq, exists_eq_left']

/-- What is not there is not of another kind. -/
theorem failsBy_default {α : Type} {a : α} {kind : Kind} (hat : at? path v = none) :
    FailsBy (.ok a : Except DecodingFault α) [WrongKind v path kind] := by
  refine failsBy_singleton.mpr fun fault => ?_
  simp [WrongKind, hat]

theorem not_wrongKind {w : Json} {kind : Kind} (hat : at? path v = some w)
    (hkind : w.kind = kind) (fault : DecodingFault) : ¬ WrongKind v path kind fault := by
  rintro ⟨found, hfound, hne, -⟩
  obtain rfl := Option.some.inj (hat.symm.trans hfound)
  exact hne hkind

theorem not_missing {members : List (String × Json)} {key : String} {w : Json}
    (hat : at? path v = some (.object members)) (hkey : lookup key members = some w)
    (fault : DecodingFault) : ¬ Missing v path key fault := by
  rintro ⟨found, hfound, hnone, -⟩
  obtain rfl := Json.object.inj (Option.some.inj (hat.symm.trans hfound))
  exact nomatch hkey.symm.trans hnone

theorem failsBy_required {members : List (String × Json)} {parent key : String}
    (hat : at? path v = some (.object members))
    (hname : fieldPath parent key = pathName (path ++ [key])) :
    FailsBy (required members parent key) [Missing v path key] := by
  refine failsBy_singleton.mpr fun fault => ?_
  rw [Missing, hat]
  simp only [Option.some.injEq, Json.object.injEq, exists_eq_left']
  unfold required
  split
  · next w hw => simp [hw]
  · next hw => simp [hw, hname, eq_comm]

theorem failsBy_addresses {elements : List Json} (hat : at? path v = some (.array elements)) :
    FailsBy (addresses (pathName path) 0 elements) [BadElement v path] := by
  refine failsBy_singleton.mpr fun fault => ?_
  rw [addresses_eq_error_iff, BadElement, hat]
  simp only [Option.some.injEq, Json.array.injEq, elementPath, Nat.zero_add]

end

/-! ## Records -/

/-- An environment is read up to its first defect. -/
theorem env_failsBy {v w : Json} {path : List String} {field : String}
    (hat : at? path v = some w)
    (hname : (if field = "" then rootField else field) = pathName path)
    (hwitness : fieldPath field "witness" = pathName (path ++ ["witness"])) :
    FailsBy (Env.ofJson field w) (Env.defects v path) := by
  have hobject : FailsBy (asObject field w) [WrongKind v path .object] :=
    failsBy_kind hat fun fault => hname ▸ asObject_eq_error_iff
  refine hobject.bind fun members hmembers => ?_
  obtain rfl := asObject_eq_ok_iff.mp hmembers
  refine (failsBy_required hat hwitness).bind fun found hfound => ?_
  have hat' : at? (path ++ ["witness"]) v = some found :=
    (Json.at?_concat hat "witness").trans (required_eq_ok_iff.mp hfound)
  have harray : FailsBy (asArray (fieldPath field "witness") found)
      [WrongKind v (path ++ ["witness"]) .array] :=
    failsBy_kind hat' fun fault => hwitness ▸ asArray_eq_error_iff
  refine harray.bind fun elements helements => ?_
  obtain rfl := asArray_eq_ok_iff.mp helements
  rw [hwitness]
  exact (failsBy_addresses hat').bind fun as _ => failsBy_ok _

section
variable {members : List (String × Json)} {key : String}

theorem at?_object : at? [key] (.object members) = lookup key members := by
  have hat : at? [] (.object members) = some (.object members) := rfl
  exact Json.at?_concat hat key

theorem failsBy_requiredString :
    FailsBy (requiredString members key)
      [Missing (.object members) [] key, WrongKind (.object members) [key] .string] := by
  refine (failsBy_required rfl rfl).bind fun found hfound => ?_
  exact failsBy_kind (at?_object.trans (required_eq_ok_iff.mp hfound))
    fun fault => asString_eq_error_iff

/-- A key that may be missing has a value of its kind, if it has one. -/
theorem failsBy_optional {α : Type} {read : Json → Except DecodingFault α} {fallback : α}
    {kind : Kind} (hread : ∀ {w : Json} {fault : DecodingFault}, read w = .error fault ↔
      w.kind ≠ kind ∧ fault = .wrongKind key kind w.kind) :
    FailsBy (match lookup key members with
      | some found => read found
      | none => .ok fallback) [WrongKind (.object members) [key] kind] := by
  split
  · next found hfound => exact failsBy_kind (at?_object.trans hfound) fun _ => hread
  · next hnone => exact failsBy_default (at?_object.trans hnone)

theorem failsBy_optionalString :
    FailsBy (optionalString members key) [WrongKind (.object members) [key] .string] :=
  failsBy_optional asString_eq_error_iff

theorem failsBy_optionalBool :
    FailsBy (optionalBool members key) [WrongKind (.object members) [key] .boolean] :=
  failsBy_optional asBool_eq_error_iff

end

/-- A case is read up to its first defect. -/
theorem case_failsBy (v : Json) : FailsBy (Case.ofJson v) (Case.defects v) := by
  have hobject : FailsBy (asObject "" v) [WrongKind v [] .object] :=
    failsBy_kind rfl fun fault => asObject_eq_error_iff
  refine hobject.bind fun members hmembers => ?_
  obtain rfl := asObject_eq_ok_iff.mp hmembers
  refine (failsBy_required rfl rfl).bind fun found hfound => ?_
  -- The defects of the environment are stated at its path in the whole value.
  have henv : FailsBy (Env.ofJson "env" found) (Env.defects (.object members) ["env"]) :=
    env_failsBy (at?_object.trans (required_eq_ok_iff.mp hfound)) rfl rfl
  refine henv.bind fun env _ => ?_
  refine failsBy_optionalBool.bind fun needContext _ => ?_
  refine failsBy_requiredString.bind fun method _ => ?_
  refine failsBy_requiredString.bind fun param _ => ?_
  refine failsBy_requiredString.bind fun expected _ => ?_
  exact failsBy_optionalString.bind fun notify _ => failsBy_ok _

/-- A value is refused for the first of its defects, be it as a case or as an environment. The
defects are those of the values at some paths, so the order of members makes no difference. -/
theorem ofJson_first_defect (v : Json) :
    (∀ fault, Case.ofJson v = .error fault ↔ FirstOf (Case.defects v) fault) ∧
      (∀ fault, Env.ofJson "" v = .error fault ↔ FirstOf (Env.defects v []) fault) ∧
      ∀ w, Json.Same v w → Case.ofJson v = Case.ofJson w ∧ Env.ofJson "" v = Env.ofJson "" w := by
  refine ⟨case_failsBy v, ?_, fun w h => ?_⟩
  · exact env_failsBy rfl rfl rfl
  · exact ⟨Case.ofJson_of_same h, Env.ofJson_congr (.inl h) ""⟩

/-- Members with several defects: a notification and a method of the wrong kinds, no parameters, and
two elements that are no addresses behind one that is. -/
def defective : List (String × Json) :=
  [("notify", .null), ("method", .bool true), ("expected", .string ""),
   ("env", .object
     [("witness", .array [.string Address.empty.toBase58, .null, .string ""]), ("note", .null)])]

theorem ofJson_first_defect_defective :
    Json.Same (.object defective) (.object defective.reverse) ∧
      Case.ofJson (.object defective) = .error (.wrongKind "env.witness[1]" .string .null) ∧
      Case.ofJson (.object defective.reverse)
        = .error (.wrongKind "env.witness[1]" .string .null) := by
  have hsame : Json.Same (.object defective) (.object defective.reverse) :=
    .of_perm defective.reverse_perm.symm (by decide)
  obtain ⟨hcase, -, hcongr⟩ := ofJson_first_defect (.object defective)
  have hfault : Case.ofJson (.object defective)
      = .error (.wrongKind "env.witness[1]" .string .null) := by
    refine (hcase _).mpr (.later (not_wrongKind rfl rfl) (.later (not_missing rfl rfl)
      (.later (not_wrongKind rfl rfl) (.later (not_missing rfl rfl)
      (.later (not_wrongKind rfl rfl) (.here ?_))))))
    refine ⟨[.string Address.empty.toBase58], .null, [.string ""], rfl, ?_, .kind (by decide)⟩
    exact List.forall_mem_singleton.mpr ⟨Address.empty, rfl⟩
  exact ⟨hsame, hfault, (hcongr _ hsame).1 ▸ hfault⟩

end Decoding

end ContractFixtures
