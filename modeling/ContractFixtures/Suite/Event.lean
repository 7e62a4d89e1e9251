import ContractFixtures.Hex
import ContractFixtures.SkipList.Basic
import ContractFixtures.Text.Blank

/-!
# Events

What is said while a suite is loaded: what is left out, and what was found.
-/

namespace ContractFixtures

/-- Something that happened while a suite was loaded. -/
inductive Event where
  | skippedFile (path : Path)
  | skippedCase (path : Path) (method : String)
  | loaded (cases files : Nat) (root : Path)
  | loading (root : Path)
deriving DecidableEq, Repr

namespace Event

/-- Where the event comes from. -/
def source : Event → String
  | loading _ => "wasm_testing::config"
  | _ => "wasm_testing::models::suite"

/-- The wording of an event. -/
def message : Event → String
  | skippedFile path => "skipping " ++ path.text
  | skippedCase path method => "skipping " ++ path.text ++ "::" ++ method
  | loaded cases files root =>
    "loaded " ++ toString cases ++ " cases from " ++ toString files ++ " files in " ++ root.text
  | loading root => "loading fixtures from " ++ root.text

/-- How a character stands in a report: the bell, the backspace, the form feed, the escape, the
delete and the control characters behind it by their code points, all others by themselves. -/
def showChar (c : Char) : List Char :=
  if c == '\x07' || c == '\x08' || c == '\x0c' || c == '\x1b' || c == '\x7f' then
    ['\\', 'x'] ++ Hex.encodeByte c.toNat.toUInt8
  else if 0x80 ≤ c.toNat ∧ c.toNat ≤ 0x9f then
    ['\\', 'u', '\x7b'] ++ Text.hexDigits c.toNat ++ ['\x7d']
  else [c]

/-- The lines that report an event, without blanks around them. -/
def lines (e : Event) : List String :=
  let text := "INFO " ++ e.source ++ ": " ++ String.ofList (e.message.toList.flatMap showChar)
  (Text.splitAll '\n' text.toList).map fun line => String.ofList (Text.trim line)

end Event

end ContractFixtures
