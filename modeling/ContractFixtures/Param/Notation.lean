import ContractFixtures.Context
import ContractFixtures.Param.Basic
import ContractFixtures.Record.Basic
import ContractFixtures.Text.Blank
import ContractFixtures.Text.Split

/-!
# The notation of parameters

Items are separated by commas. An item is a type and a value with a colon between them; blanks
around either do not count, but a text keeps the blanks in front of it. A blank text is the empty
list.
-/

namespace ContractFixtures

/-- Why a text is no list of parameters. -/
inductive ParamFault where
  | missingSeparator (item : String)
  | unknownType (name item : String)
  | invalidValue (item reason : String)
  | unknownAddress (token : String)
  | tooManyResults (count : Nat)
deriving DecidableEq, Repr

/-- The wording of a fault. -/
def ParamFault.message : ParamFault → String
  | .missingSeparator item => "missing `:` in parameter `" ++ item ++ "`"
  | .unknownType name item => "unknown parameter type `" ++ name ++ "` in `" ++ item ++ "`"
  | .invalidValue item reason => "invalid value in parameter `" ++ item ++ "`: " ++ reason
  | .unknownAddress token => "unknown address `" ++ token ++ "`"
  | .tooManyResults count => "expected a single result, found " ++ toString count

/-- The address that a token stands for, or the fault that it stands for none. -/
def Context.resolve (ctx : Context) (token : String) : Except ParamFault Address :=
  match ctx.resolve? token with
  | some a => .ok a
  | none => .error (.unknownAddress token)

namespace Param

/-- Reads a truth value. -/
def readBool (cs : List Char) : Except String Bool :=
  if cs = "true".toList then .ok true
  else if cs = "false".toList then .ok false
  else .error "provided string was not `true` or `false`"

/-- Reads a value of a type. The item is named in faults. -/
def readValue (ctx : Context) (item : List Char) (tag : Tag) (value : List Char) :
    Except ParamFault Param :=
  let trimmed := Text.trim value
  let invalid := fun reason => ParamFault.invalidValue (String.ofList item) reason
  match tag with
  | .int => ((Signed.ofChars 64 trimmed).mapError fun f => invalid f.message).map .int
  | .int128 => ((Signed.ofChars 128 trimmed).mapError fun f => invalid f.message).map .int128
  | .bool => ((readBool trimmed).mapError invalid).map .bool
  | .string => .ok (.string (String.ofList value))
  | .address =>
    let token := String.ofList trimmed
    match ctx.resolve? token with
    | some a => .ok (.address a)
    | none => .error (.unknownAddress token)
  | .byteArray =>
    ((Hex.decode (String.ofList trimmed)).mapError fun f => invalid f.message).map .byteArray

/-- The value of an address is what its token stands for. -/
theorem readValue_address (ctx : Context) (item value : List Char) :
    readValue ctx item .address value =
      (ctx.resolve (String.ofList (Text.trim value))).map .address := by
  simp only [readValue, Context.resolve]
  cases ctx.resolve? (String.ofList (Text.trim value)) <;> rfl

/-- Reads an item without blanks around it. -/
def readTrimmed (ctx : Context) (item : List Char) : Except ParamFault Param :=
  match Text.splitFirst? ':' item with
  | none => .error (.missingSeparator (String.ofList item))
  | some (name, value) =>
    match Tag.ofName? (Text.trim name) with
    | some tag => readValue ctx item tag value
    | none =>
      .error (.unknownType (String.ofList (Text.trim name)) (String.ofList item))

/-- Reads an item. -/
def readItem (ctx : Context) (item : List Char) : Except ParamFault Param :=
  readTrimmed ctx (Text.trim item)

/-- Reads one parameter. -/
def parse (ctx : Context) (text : String) : Except ParamFault Param :=
  readItem ctx text.toList

/-- Reads items one after the other, up to the first that is refused. -/
def readItems (ctx : Context) : List (List Char) → Except ParamFault (List Param)
  | [] => .ok []
  | item :: rest => do
    let p ← readItem ctx item
    let ps ← readItems ctx rest
    return p :: ps

/-- Reads the parameters of a call. -/
def parseList (ctx : Context) (text : String) : Except ParamFault (List Param) :=
  if text.toList.all Text.isBlank then .ok []
  else readItems ctx (Text.splitAll ',' text.toList)

/-- Reads an expected result: none if the text is blank, else a single parameter. -/
def parseExpected (ctx : Context) (text : String) : Except ParamFault (Option Param) := do
  match ← parseList ctx text with
  | [] => return none
  | [p] => return some p
  | ps => .error (.tooManyResults ps.length)

/-- Writes parameters with a comma and a blank between any two. -/
def formatList (ps : List Param) : String :=
  String.ofList (Text.joinWith [',', ' '] (ps.map chars))

end Param

/-- The parameters of a case. -/
def Case.params (c : Case) (ctx : Context) : Except ParamFault (List Param) :=
  Param.parseList ctx c.param

/-- The expected result of a case, none if nothing is expected. -/
def Case.expectedResult (c : Case) (ctx : Context) : Except ParamFault (Option Param) :=
  Param.parseExpected ctx c.expected

end ContractFixtures
