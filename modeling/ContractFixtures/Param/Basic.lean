import ContractFixtures.Address.Text
import ContractFixtures.Param.Integer

/-!
# Typed parameters

A parameter is a value of one of six types. Its text is the name of its type, a colon and the text
of its value.
-/

namespace ContractFixtures

/-- A parameter of a call, or its result. -/
inductive Param where
  | int (value : Signed 64)
  | int128 (value : Signed 128)
  | bool (value : Bool)
  | string (value : String)
  | address (value : Address)
  | byteArray (bytes : List UInt8)
deriving DecidableEq, Repr

namespace Param

/-- The types of parameters. -/
inductive Tag where
  | int | int128 | bool | string | address | byteArray
deriving DecidableEq, Repr

/-- The name of a type. -/
def Tag.name : Tag → String
  | .int => "int"
  | .int128 => "int128"
  | .bool => "bool"
  | .string => "string"
  | .address => "address"
  | .byteArray => "bytearray"

/-- All types. -/
def Tag.all : List Tag :=
  [.int, .int128, .bool, .string, .address, .byteArray]

/-- The type with a name. -/
def Tag.ofName? (name : List Char) : Option Tag :=
  Tag.all.find? fun tag => tag.name.toList = name

/-- The type of a parameter. -/
def tag : Param → Tag
  | .int _ => .int
  | .int128 _ => .int128
  | .bool _ => .bool
  | .string _ => .string
  | .address _ => .address
  | .byteArray _ => .byteArray

/-- The text of the value of a parameter. -/
def valueText : Param → List Char
  | .int n => n.text
  | .int128 n => n.text
  | .bool value => (if value then "true" else "false").toList
  | .string text => text.toList
  | .address a => a.toBase58.toList
  | .byteArray bytes => (Hex.encode bytes).toList

/-- The characters of the text of a parameter. -/
def chars (p : Param) : List Char :=
  p.tag.name.toList ++ ':' :: p.valueText

/-- The text of a parameter. -/
def text (p : Param) : String :=
  String.ofList p.chars

instance : ToString Param := ⟨text⟩

end Param

end ContractFixtures
