import ContractFixtures.Address.Text
import ContractFixtures.NameMap

/-!
# Known addresses

The addresses that parameters may refer to: the text of an address stands for itself, the admin
goes by a name of its own, and every deployed contract goes by the name it was deployed under.
-/

namespace ContractFixtures

/-- The addresses that are known when a case is run. -/
structure Context where
  admin : Address := .empty
  contracts : NameMap Address := .empty
deriving DecidableEq, Inhabited

namespace Context

/-- The name of the admin, in any ASCII case. -/
def adminName : String := "admin"

/-- Deploys a contract under a name, in the place of any other. -/
def withContract (ctx : Context) (name : String) (address : Address) : Context :=
  { ctx with contracts := ctx.contracts.insert name address }

/-- A letter of the ASCII alphabet in lower case, any other character as it is. -/
def lowerAscii (c : Char) : Char :=
  if 'A' ≤ c ∧ c ≤ 'Z' then Char.ofNat (c.toNat + 32) else c

/-- Whether a token names the admin. -/
def isAdminName (token : String) : Bool :=
  token.toList.map lowerAscii == adminName.toList

/-- The address that a token stands for. An address text comes before the admin, the admin before
contracts. -/
def resolve? (ctx : Context) (token : String) : Option Address :=
  match Address.parse token with
  | .ok a => some a
  | .error _ => if isAdminName token then some ctx.admin else ctx.contracts.get? token

end Context

end ContractFixtures
