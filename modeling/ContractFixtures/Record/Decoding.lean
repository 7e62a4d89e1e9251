import ContractFixtures.Address.Text
import ContractFixtures.Json.Parser
import ContractFixtures.Record.Basic

/-!
# Reading records

A record is read from a value field by field, in a fixed order; the first defect is reported with
the path of its field. Fields that are not known are passed over.
-/

namespace ContractFixtures

/-- Why a text or a value is no record. -/
inductive DecodingFault where
  | malformed (error : Json.Error)
  | missingField (field : String)
  | wrongKind (field : String) (expected found : Json.Kind)
  | invalidAddress (field : String) (fault : Address.Fault)
deriving DecidableEq, Repr

/-- The wording of a fault. -/
def DecodingFault.message : DecodingFault → String
  | .malformed error => "An error occurred parsing the fixture: " ++ error.message
  | .missingField field => "missing field `" ++ field ++ "`"
  | .wrongKind field expected found =>
    "invalid type for `" ++ field ++ "`: expected " ++ expected.name ++ ", found " ++ found.name
  | .invalidAddress field fault => "invalid address in `" ++ field ++ "`: " ++ fault.message

namespace Decoding

/-- What the whole value is called in a fault. -/
def rootField : String := "<root>"

/-- The path of a key within the object at `parent`, the whole value having the empty path. -/
def fieldPath (parent key : String) : String :=
  if parent = "" then key else parent ++ "." ++ key

/-- The path of an element of the array at `field`. -/
def elementPath (field : String) (index : Nat) : String :=
  field ++ "[" ++ toString index ++ "]"

/-- The members of an object. -/
def asObject (field : String) : Json → Except DecodingFault (List (String × Json))
  | .object members => .ok members
  | v => .error (.wrongKind (if field = "" then rootField else field) .object v.kind)

/-- The elements of an array. -/
def asArray (field : String) : Json → Except DecodingFault (List Json)
  | .array elements => .ok elements
  | v => .error (.wrongKind field .array v.kind)

/-- A text. -/
def asString (field : String) : Json → Except DecodingFault String
  | .string text => .ok text
  | v => .error (.wrongKind field .string v.kind)

/-- A truth value. -/
def asBool (field : String) : Json → Except DecodingFault Bool
  | .bool value => .ok value
  | v => .error (.wrongKind field .boolean v.kind)

/-- The value of a key that has to be there. -/
def required (members : List (String × Json)) (parent key : String) : Except DecodingFault Json :=
  match Json.lookup key members with
  | some v => .ok v
  | none => .error (.missingField (fieldPath parent key))

/-- The text of a key that has to be there. -/
def requiredString (members : List (String × Json)) (key : String) :
    Except DecodingFault String := do
  asString key (← required members "" key)

/-- The text of a key, empty without it. -/
def optionalString (members : List (String × Json)) (key : String) :
    Except DecodingFault String :=
  match Json.lookup key members with
  | some v => asString key v
  | none => .ok ""

/-- The truth value of a key, false without it. -/
def optionalBool (members : List (String × Json)) (key : String) : Except DecodingFault Bool :=
  match Json.lookup key members with
  | some v => asBool key v
  | none => .ok false

/-- The address that a value denotes. -/
def asAddress (field : String) (v : Json) : Except DecodingFault Address := do
  match Address.parse (← asString field v) with
  | .ok a => .ok a
  | .error fault => .error (.invalidAddress field fault)

/-- The addresses that the elements of the array at `field` denote, counted from `index`. -/
def addresses (field : String) (index : Nat) : List Json → Except DecodingFault (List Address)
  | [] => .ok []
  | v :: rest => do
    let a ← asAddress (elementPath field index) v
    let more ← addresses field (index + 1) rest
    return a :: more

end Decoding

open Decoding

/-- The environment that a value at a path denotes. -/
def Env.ofJson (path : String) (v : Json) : Except DecodingFault Env := do
  let members ← asObject path v
  let field := fieldPath path "witness"
  let elements ← asArray field (← required members path "witness")
  return ⟨← addresses field 0 elements⟩

/-- The case that a value denotes. -/
def Case.ofJson (v : Json) : Except DecodingFault Case := do
  let members ← asObject "" v
  return {
    env := ← Env.ofJson "env" (← required members "" "env")
    needContext := ← optionalBool members "needcontext"
    method := ← requiredString members "method"
    param := ← requiredString members "param"
    expected := ← requiredString members "expected"
    notify := ← optionalString members "notify" }

/-- Reads a text as a value. -/
def Decoding.parse (text : String) : Except DecodingFault Json :=
  match Json.parse text with
  | .ok v => .ok v
  | .error error => .error (.malformed error)

/-- Reads the text of an environment. -/
def Env.decode (text : String) : Except DecodingFault Env := do
  Env.ofJson "" (← Decoding.parse text)

/-- Reads the text of a case. -/
def Case.decode (text : String) : Except DecodingFault Case := do
  Case.ofJson (← Decoding.parse text)

/-! ## Documents of records -/

/-- A case within a document, nested at most `depth` deep. -/
def Case.item (depth : Nat) : Json.Reader Case :=
  (Json.value depth).refine fun v => (Case.ofJson v).mapError DecodingFault.message

/-- Reads a list of groups. -/
def Group.decodeList (text : String) : Except Json.Error (List Group) :=
  (Json.listOf (Json.listOf (Case.item (Json.maxDepth - 2)))).document text

/-- An address within a document. -/
def Address.item : Json.Reader Address :=
  Json.stringItem.refine fun text => (Address.ofBase58 text).mapError Address.Fault.message

/-- Reads a list of addresses. -/
def Address.decodeList (text : String) : Except Json.Error (List Address) :=
  (Json.listOf Address.item).document text

end ContractFixtures
