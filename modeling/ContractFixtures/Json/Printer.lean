import ContractFixtures.Json.Basic
import ContractFixtures.Hex

/-!
# Writing documents

A value has a compact text, on one line without blanks, and an indented text with two blanks a
level. The two differ in blanks between tokens only.
-/

namespace ContractFixtures.Json

/-- A character inside quotes: the quote, the backslash and the control characters below the
blank are escaped, all else stands for itself. -/
def escape (c : Char) : List Char :=
  if c = '"' then ['\\', '"']
  else if c = '\\' then ['\\', '\\']
  else if c = '\x08' then ['\\', 'b']
  else if c = '\t' then ['\\', 't']
  else if c = '\n' then ['\\', 'n']
  else if c = '\x0c' then ['\\', 'f']
  else if c = '\r' then ['\\', 'r']
  else if c.toNat < 0x20 then
    ['\\', 'u', '0', '0', Hex.digitChar (c.toNat / 16), Hex.digitChar (c.toNat % 16)]
  else [c]

/-- A text in quotes. -/
def quote (text : String) : List Char :=
  '"' :: (text.toList.flatMap escape ++ ['"'])

mutual

/-- The characters of the compact text. -/
def compactChars : Json → List Char
  | .null => ['n', 'u', 'l', 'l']
  | .bool true => ['t', 'r', 'u', 'e']
  | .bool false => ['f', 'a', 'l', 's', 'e']
  | .number n => n.text
  | .string s => quote s
  | .array elements => '[' :: (compactElements elements ++ [']'])
  | .object members => '\x7b' :: (compactMembers members ++ ['\x7d'])

/-- The elements of an array, separated by commas. -/
def compactElements : List Json → List Char
  | [] => []
  | [x] => compactChars x
  | x :: y :: rest => compactChars x ++ ',' :: compactElements (y :: rest)

/-- The members of an object, separated by commas. -/
def compactMembers : List (String × Json) → List Char
  | [] => []
  | [(k, v)] => quote k ++ ':' :: compactChars v
  | (k, v) :: m :: rest => quote k ++ ':' :: (compactChars v ++ ',' :: compactMembers (m :: rest))

end

/-- A line feed and two blanks for each level. -/
def newLine (level : Nat) : List Char :=
  '\n' :: List.replicate (2 * level) ' '

mutual

/-- The characters of the indented text of a value at a level. -/
def prettyChars (level : Nat) : Json → List Char
  | .array (x :: rest) =>
    '[' :: (prettyElements (level + 1) (x :: rest) ++ newLine level ++ [']'])
  | .object (m :: rest) =>
    '\x7b' :: (prettyMembers (level + 1) (m :: rest) ++ newLine level ++ ['\x7d'])
  | .array [] => ['[', ']']
  | .object [] => ['\x7b', '\x7d']
  | .null => ['n', 'u', 'l', 'l']
  | .bool true => ['t', 'r', 'u', 'e']
  | .bool false => ['f', 'a', 'l', 's', 'e']
  | .number n => n.text
  | .string s => quote s

/-- The elements of an array, each on a line of its own. -/
def prettyElements (level : Nat) : List Json → List Char
  | [] => []
  | [x] => newLine level ++ prettyChars level x
  | x :: y :: rest =>
    newLine level ++ prettyChars level x ++ ',' :: prettyElements level (y :: rest)

/-- The members of an object, each on a line of its own. -/
def prettyMembers (level : Nat) : List (String × Json) → List Char
  | [] => []
  | [(k, v)] => newLine level ++ quote k ++ ':' :: ' ' :: prettyChars level v
  | (k, v) :: m :: rest =>
    newLine level ++ quote k ++
      ':' :: ' ' :: (prettyChars level v ++ ',' :: prettyMembers level (m :: rest))

end

/-- The text without blanks. -/
def compact (v : Json) : String :=
  String.ofList v.compactChars

/-- The text with two blanks a level. -/
def pretty (v : Json) : String :=
  String.ofList (v.prettyChars 0)

end ContractFixtures.Json
