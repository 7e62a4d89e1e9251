import ContractFixtures.Address.Text
import ContractFixtures.Json.Printer
import ContractFixtures.Record.Basic

/-!
# Writing records

Every record denotes a value with its members in a fixed order, which is written on one line or
indented. Maps from addresses are written in the order of the addresses.
-/

namespace ContractFixtures

/-- The value that an environment denotes. -/
def Env.toJson (e : Env) : Json :=
  .object [("witness", .array (e.witness.map fun a => .string a.toBase58))]

/-- The value that a case denotes. -/
def Case.toJson (c : Case) : Json :=
  .object
    [("env", c.env.toJson), ("needcontext", .bool c.needContext), ("method", .string c.method),
     ("param", .string c.param), ("expected", .string c.expected), ("notify", .string c.notify)]

/-- The value that a list of groups denotes. -/
def Group.listToJson (groups : List Group) : Json :=
  .array (groups.map fun g => .array (g.map Case.toJson))

/-- The text of an environment on one line. -/
def Env.encode (e : Env) : String := e.toJson.compact

/-- The indented text of an environment. -/
def Env.encodePretty (e : Env) : String := e.toJson.pretty

/-- The text of a case on one line. -/
def Case.encode (c : Case) : String := c.toJson.compact

/-- The indented text of a case. -/
def Case.encodePretty (c : Case) : String := c.toJson.pretty

/-- The text of a list of groups on one line. -/
def Group.encodeList (groups : List Group) : String := (Group.listToJson groups).compact

/-- The indented text of a list of groups. -/
def Group.encodeListPretty (groups : List Group) : String := (Group.listToJson groups).pretty

/-- The text of a list of addresses on one line. -/
def Address.encodeList (addresses : List Address) : String :=
  (Json.array (addresses.map fun a => .string a.toBase58)).compact

/-! ## Maps -/

/-- Why a value has no text. -/
inductive EncodingFault where
  | keyNotString
deriving DecidableEq, Repr

/-- The wording of a fault. -/
def EncodingFault.message : EncodingFault → String
  | .keyNotString => "An error occurred serializing the fixture: key must be a string"

/-- The members with the keys that values denote. -/
def membersOfEntries : List (Json × Json) → Except EncodingFault (List (String × Json))
  | [] => .ok []
  | (.string key, v) :: rest => (membersOfEntries rest).map ((key, v) :: ·)
  | _ => .error .keyNotString

/-- The text of a map on one line. -/
def encodeEntries (entries : List (Json × Json)) : Except EncodingFault String :=
  (membersOfEntries entries).map fun ms => (Json.object ms).compact

/-- Inserts an address into an ascending list, unless it is there already. -/
def Address.insertSorted (a : Address) : List Address → List Address
  | [] => [a]
  | b :: rest =>
    match compare a b with
    | .lt => a :: b :: rest
    | .eq => b :: rest
    | .gt => b :: insertSorted a rest

/-- The addresses in ascending order, each once. -/
def Address.sortedSet (addresses : List Address) : List Address :=
  addresses.foldl (fun acc a => a.insertSorted acc) []

end ContractFixtures
