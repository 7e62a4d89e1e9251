import ContractFixtures.Json.Number

/-!
# Document values

The values that a document denotes. An object keeps its members as they are written; when a key
occurs more than once, its last member counts.
-/

namespace ContractFixtures

/-- A value of a document. -/
inductive Json where
  | null
  | bool (value : Bool)
  | number (value : Number)
  | string (value : String)
  | array (elements : List Json)
  | object (members : List (String × Json))
deriving Repr

namespace Json

/-- The six kinds of values. -/
inductive Kind where
  | null | boolean | number | string | array | object
deriving DecidableEq, Repr

/-- The name of a kind. -/
def Kind.name : Kind → String
  | .null => "null"
  | .boolean => "boolean"
  | .number => "number"
  | .string => "string"
  | .array => "array"
  | .object => "object"

/-- The kind of a value. -/
def kind : Json → Kind
  | .null => .null
  | .bool _ => .boolean
  | .number _ => .number
  | .string _ => .string
  | .array _ => .array
  | .object _ => .object

/-- The last value that the members give to a key. -/
def lookup (key : String) : List (String × Json) → Option Json
  | [] => none
  | (k, v) :: rest =>
    match lookup key rest with
    | some w => some w
    | none => if k = key then some v else none

@[simp] theorem lookup_nil (key : String) : lookup key [] = none := rfl

/-- What is written later wins. -/
theorem lookup_append (key : String) (a b : List (String × Json)) :
    lookup key (a ++ b) = (lookup key b <|> lookup key a) := by
  induction a with
  | nil => simp
  | cons m a ih =>
    obtain ⟨k, v⟩ := m
    simp only [List.cons_append, lookup, ih]
    cases lookup key b <;> simp

end Json

end ContractFixtures
