import ContractFixtures.Pattern.Automaton
import ContractFixtures.Pattern.Footprint
import ContractFixtures.Pattern.Parser

/-!
# Patterns

A pattern is a text together with the regular expression that it denotes. Texts that denote none
are refused, and so are expressions whose automata would be too large.
-/

namespace ContractFixtures

/-- A pattern that texts are searched for. -/
structure Pattern where
  text : String
  regex : Pattern.Regex
deriving BEq, Repr

namespace Pattern

/-- Why a text is no pattern. -/
inductive Fault where
  | malformed
  | tooLarge
deriving DecidableEq, Repr

/-- The first line of the wording of a fault. -/
def Fault.headline : Fault → String
  | .malformed => "regex parse error:"
  | .tooLarge => "Compiled regex exceeds size limit of " ++ toString Footprint.limit ++ " bytes."

/-- The pattern that a text denotes. -/
def compile (text : String) : Except Fault Pattern :=
  match parse? text with
  | none => .error .malformed
  | some regex => if Footprint.fits regex then .ok ⟨text, regex⟩ else .error .tooLarge

/-- Whether some part of a text matches. -/
def isMatch (p : Pattern) (text : String) : Bool :=
  (Automaton.ofRegex p.regex).matchesIn text

end Pattern

end ContractFixtures
