import ContractFixtures.Proofs.Json.Sameness
import ContractFixtures.Proofs.Record.RoundTrip

/-!
# What a record depends on

A record is read from the last values of its keys and from nothing else, and so is the fault of a
text that is no record. Other members, the order of members and members that come again further
behind make no difference, and neither does the way in which a text is laid out.

* `Env.SameFields`, `Case.SameFields`: members that give the keys of a record the same values.
* `Case.Edited`: members that are changed in ways that do not count.

Results:
1. `asString_congr`, `required_bind_congr` and the like: a step of reading depends on the last value
   of its key.
2. `Env.ofJson_congr`, `Case.ofJson_congr`: so do records.
3. `decode_of_sameFields`: texts with the same values for the keys of a record are read alike.
-/

namespace ContractFixtures

open Json (Same SameAt)

/-- Members that hold the same for an environment. -/
def Env.SameFields (ms ns : List (String × Json)) : Prop :=
  SameAt "witness" ms ns

/-- Values that hold the same for an environment: the same value, or objects whose other members
differ. -/
def Env.SameValue (v w : Json) : Prop :=
  Same v w ∨ ∃ inner inner', v = .object inner ∧ w = .object inner' ∧ Env.SameFields inner inner'

/-- Members that hold the same for a case. -/
structure Case.SameFields (ms ns : List (String × Json)) : Prop where
  env : Option.Rel Env.SameValue (Json.lookup "env" ms) (Json.lookup "env" ns)
  needContext : SameAt "needcontext" ms ns
  method : SameAt "method" ms ns
  param : SameAt "param" ms ns
  expected : SameAt "expected" ms ns
  notify : SameAt "notify" ms ns

/-- The keys of an environment. -/
def Env.keys : List String := ["witness"]

/-- The keys of a case. -/
def Case.keys : List String :=
  ["env", "needcontext", "method", "param", "expected", "notify"]

/-- Members that are changed in ways that do not count for a case, at either level. -/
inductive Case.Edited : List (String × Json) → List (String × Json) → Prop
  | members {ms ns : List (String × Json)} (h : Json.Edited Case.keys ms ns) : Case.Edited ms ns
  | env {front back inner inner' : List (String × Json)} (h : Json.Edited Env.keys inner inner') :
      Case.Edited (front ++ ("env", .object inner) :: back)
        (front ++ ("env", .object inner') :: back)
  | trans {ms ns os : List (String × Json)} :
      Case.Edited ms ns → Case.Edited ns os → Case.Edited ms os

namespace Decoding

/-! ## Values -/

section
variable {v w : Json} (h : Same v w) (field : String)
include h

theorem asString_congr : asString field v = asString field w := by
  cases h <;> rfl

theorem asBool_congr : asBool field v = asBool field w := by
  cases h <;> rfl

theorem asAddress_congr : asAddress field v = asAddress field w := by
  rw [asAddress, asAddress, asString_congr h]

end

theorem addresses_congr {vs ws : List Json} (h : List.Forall₂ Same vs ws) (field : String)
    (index : Nat) : addresses field index vs = addresses field index ws := by
  induction h generalizing index with
  | nil => rfl
  | cons hv _ ih => rw [addresses, addresses, asAddress_congr hv, ih]

/-! ## Keys -/

section
variable {key : String} {ms ns : List (String × Json)}

/-- A key that has to be there and the step behind it depend on what counts for the step. -/
theorem required_bind_congr {α : Type} {R : Json → Json → Prop} {parent : String}
    {f g : Json → Except DecodingFault α}
    (h : Option.Rel R (Json.lookup key ms) (Json.lookup key ns))
    (hfg : ∀ v w, R v w → f v = g w) :
    (required ms parent key >>= f) = (required ns parent key >>= g) := by
  unfold required
  generalize Json.lookup key ms = left at h ⊢
  generalize Json.lookup key ns = right at h ⊢
  cases h with
  | none => rfl
  | some hvw => exact hfg _ _ hvw

variable (h : SameAt key ms ns)
include h

theorem requiredString_congr : requiredString ms key = requiredString ns key :=
  required_bind_congr h fun _ _ hvw => asString_congr hvw key

theorem optionalString_congr : optionalString ms key = optionalString ns key := by
  unfold SameAt at h
  unfold optionalString
  generalize Json.lookup key ms = left at h ⊢
  generalize Json.lookup key ns = right at h ⊢
  cases h with
  | none => rfl
  | some hvw => exact asString_congr hvw key

theorem optionalBool_congr : optionalBool ms key = optionalBool ns key := by
  unfold SameAt at h
  unfold optionalBool
  generalize Json.lookup key ms = left at h ⊢
  generalize Json.lookup key ns = right at h ⊢
  cases h with
  | none => rfl
  | some hvw => exact asBool_congr hvw key

end

end Decoding

open Decoding

/-! ## Records -/

theorem asArray_bind_congr {α : Type} {field : String} {f : List Json → Except DecodingFault α}
    {v w : Json} (h : Same v w) (hf : ∀ vs ws, List.Forall₂ Same vs ws → f vs = f ws) :
    (asArray field v >>= f) = (asArray field w >>= f) := by
  cases h with
  | array hvs => exact hf _ _ hvs
  | _ => rfl

theorem Env.ofJson_object_congr {ms ns : List (String × Json)} (h : Env.SameFields ms ns)
    (path : String) : Env.ofJson path (.object ms) = Env.ofJson path (.object ns) := by
  refine required_bind_congr h fun v w hvw => asArray_bind_congr hvw fun vs ws hvs => ?_
  rw [addresses_congr hvs]

/-- Values that hold the same for an environment denote the same one, or the same fault. -/
theorem Env.ofJson_congr {v w : Json} (h : Env.SameValue v w) (path : String) :
    Env.ofJson path v = Env.ofJson path w := by
  rcases h with hsame | ⟨inner, inner', rfl, rfl, hfields⟩
  · cases hsame with
    | object hms => exact Env.ofJson_object_congr (hms "witness") path
    | _ => rfl
  · exact Env.ofJson_object_congr hfields path

/-- Members that hold the same for a case denote the same one, or the same fault. -/
theorem Case.ofJson_congr {ms ns : List (String × Json)} (h : Case.SameFields ms ns) :
    Case.ofJson (.object ms) = Case.ofJson (.object ns) := by
  refine required_bind_congr h.env fun v w hvw => ?_
  simp only [Env.ofJson_congr hvw, optionalBool_congr h.needContext, requiredString_congr h.method,
    requiredString_congr h.param, requiredString_congr h.expected, optionalString_congr h.notify]

/-- Values that are the same denote the same case, or the same fault. -/
theorem Case.ofJson_of_same {v w : Json} (h : Same v w) : Case.ofJson v = Case.ofJson w := by
  cases h with
  | @object ms ns hms =>
    have henv : Option.Rel Env.SameValue (Json.lookup "env" ms) (Json.lookup "env" ns) := by
      have hsame := hms "env"
      generalize Json.lookup "env" ms = left at hsame ⊢
      generalize Json.lookup "env" ns = right at hsame ⊢
      cases hsame with
      | none => exact .none
      | some hvw => exact .some (.inl hvw)
    exact Case.ofJson_congr ⟨henv, hms _, hms _, hms _, hms _, hms _⟩
  | _ => rfl

/-! ## Changes that do not count -/

theorem Env.SameFields.of_edited {ms ns : List (String × Json)} (h : Json.Edited Env.keys ms ns) :
    Env.SameFields ms ns :=
  .of_lookup_eq (h.lookup_eq List.mem_cons_self)

theorem Env.rel_sameValue_refl : (value : Option Json) → Option.Rel Env.SameValue value value
  | none => .none
  | some v => .some (.inl (Same.refl v))

/-- The keys behind the environment count with equal values only. -/
theorem Case.SameFields.of_lookup_eq {ms ns : List (String × Json)}
    (henv : Option.Rel Env.SameValue (Json.lookup "env" ms) (Json.lookup "env" ns))
    (h : ∀ key ∈ Case.keys, key ≠ "env" → Json.lookup key ms = Json.lookup key ns) :
    Case.SameFields ms ns where
  env := henv
  needContext := .of_lookup_eq (h "needcontext" (by decide) (by decide))
  method := .of_lookup_eq (h "method" (by decide) (by decide))
  param := .of_lookup_eq (h "param" (by decide) (by decide))
  expected := .of_lookup_eq (h "expected" (by decide) (by decide))
  notify := .of_lookup_eq (h "notify" (by decide) (by decide))

/-- An environment may be replaced by one that holds the same. -/
theorem Env.rel_sameValue_append {inner inner' : List (String × Json)}
    (h : Env.SameFields inner inner') (front back : List (String × Json)) :
    Option.Rel Env.SameValue (Json.lookup "env" (front ++ ("env", .object inner) :: back))
      (Json.lookup "env" (front ++ ("env", .object inner') :: back)) := by
  simp only [Json.lookup_append, Json.lookup_cons]
  cases Json.lookup "env" back with
  | some u => exact Env.rel_sameValue_refl (some u)
  | none => exact .some (.inr ⟨inner, inner', rfl, rfl, h⟩)

/-- Members that are changed in ways that do not count denote the same case, or the same fault. -/
theorem Case.Edited.ofJson_eq {ms ns : List (String × Json)} (h : Case.Edited ms ns) :
    Case.ofJson (.object ms) = Case.ofJson (.object ns) := by
  induction h with
  | members h =>
    refine Case.ofJson_congr (.of_lookup_eq ?_ fun key hkey _ => h.lookup_eq hkey)
    rw [h.lookup_eq (by decide)]
    exact Env.rel_sameValue_refl _
  | @env front back inner inner' h =>
    refine Case.ofJson_congr (.of_lookup_eq ?_ fun key _ hne => ?_)
    · exact Env.rel_sameValue_append (.of_edited h) front back
    · simp only [Json.lookup_append, Json.lookup_cons, if_neg hne.symm]
  | trans _ _ ih ih' => exact ih.trans ih'

/-- Texts of objects that hold the same for a record denote the same one, or the same fault. They
hold the same if they give the same last values to its keys, so in particular if one comes from the
other by changes that do not count. -/
theorem decode_of_sameFields {left right : String} {ms ns : List (String × Json)}
    (hl : Json.parse left = .ok (.object ms)) (hr : Json.parse right = .ok (.object ns)) :
    (Case.SameFields ms ns ∨ Case.Edited ms ns → Case.decode left = Case.decode right) ∧
      (Env.SameFields ms ns ∨ Json.Edited Env.keys ms ns → Env.decode left = Env.decode right) := by
  simp only [Case.decode, Env.decode, Decoding.parse, hl, hr]
  refine ⟨?_, ?_⟩
  · rintro (h | h)
    · exact Case.ofJson_congr h
    · exact h.ofJson_eq
  · rintro (h | h)
    · exact Env.ofJson_object_congr h ""
    · exact Env.ofJson_object_congr (.of_edited h) ""

/-- The members of a case as they are written. -/
def tidy : List (String × Json) :=
  [("env", .object [("witness", .array [])]), ("needcontext", .bool false),
   ("method", .string "m"), ("param", .string ""), ("expected", .string ""),
   ("notify", .string "")]

/-- The same members in another order, with unknown ones at both levels and a method in front of
the one that counts. -/
def scattered : List (String × Json) :=
  [("note", .null), ("notify", .string ""), ("method", .bool true), ("expected", .string ""),
   ("param", .string ""), ("method", .string "m"), ("needcontext", .bool false),
   ("env", .object [("method", .null), ("witness", .array [])])]

theorem plain_scattered : Json.Plain Json.maxDepth (.object scattered) := by
  refine .object ?_
  simp only [scattered, List.forall_mem_cons]
  have hinner : Json.Plain 126 (.object [("method", .null), ("witness", .array [])]) :=
    .object (List.forall_mem_cons.mpr ⟨.null _, List.forall_mem_singleton.mpr (.array (by simp))⟩)
  exact ⟨.null _, .string _ _, .bool _ _, .string _ _, .string _ _, .string _ _, .bool _ _, hinner,
    by simp⟩

theorem decode_scattered :
    Json.parse (Json.object tidy).compact = .ok (.object tidy) ∧
      Json.parse (Json.object scattered).pretty = .ok (.object scattered) ∧
      Case.SameFields tidy scattered ∧ Env.SameFields tidy scattered ∧
      Case.decode (Json.object tidy).compact = Case.decode (Json.object scattered).pretty ∧
      Env.decode (Json.object tidy).compact = Env.decode (Json.object scattered).pretty := by
  have htidy : Json.parse (Json.object tidy).compact = .ok (.object tidy) :=
    Json.parse_compact (Case.plain_toJson 124 { method := "m" })
  have hscattered : Json.parse (Json.object scattered).pretty = .ok (.object scattered) :=
    Json.parse_pretty plain_scattered
  have hcase : Case.SameFields tidy scattered := {
    env := .some (.inr ⟨_, _, rfl, rfl, .of_lookup_eq rfl⟩)
    needContext := .of_lookup_eq rfl
    method := .of_lookup_eq rfl
    param := .of_lookup_eq rfl
    expected := .of_lookup_eq rfl
    notify := .of_lookup_eq rfl }
  have henv : Env.SameFields tidy scattered := .of_lookup_eq rfl
  obtain ⟨hsame, hsame'⟩ := decode_of_sameFields htidy hscattered
  exact ⟨htidy, hscattered, hcase, henv, hsame (.inl hcase), hsame' (.inl henv)⟩

end ContractFixtures
