import ContractFixtures.Address.Basic

/-!
# Records of fixtures

A case calls one method of a contract and tells what should come of it. Cases stand in groups, and
a fixture is a list of groups.
-/

namespace ContractFixtures

/-- What a contract is called in: the addresses that signed the call, in order. -/
structure Env where
  witness : List Address := []
deriving DecidableEq, Repr, Inhabited

/-- One call of a contract and its expected outcome. -/
structure Case where
  env : Env := {}
  /-- Whether the contract must be told which contracts are deployed. -/
  needContext : Bool := false
  method : String := ""
  /-- The parameters, in their notation. -/
  param : String := ""
  /-- The expected result, in the notation of parameters. -/
  expected : String := ""
  /-- The expected notification, empty if there is none. -/
  notify : String := ""
deriving DecidableEq, Repr, Inhabited

/-- Cases that belong together. -/
abbrev Group := List Case

end ContractFixtures
