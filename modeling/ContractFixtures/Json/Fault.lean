import ContractFixtures.Text.Utf8

/-!
# Faults of documents

What is wrong with the text of a document, and where. A reader knows how much of the text it has
not read; the line and the column are found from that once the whole text is at hand.
-/

namespace ContractFixtures.Json

/-- What is wrong with a text. -/
inductive Cause where
  | endInList | endInObject | endInString | endInValue
  | expectedColon | expectedListComma | expectedObjectComma | expectedIdent | expectedValue
  | invalidEscape | invalidNumber | numberOutOfRange | keyNotString | controlCharacter
  | loneSurrogate | unexpectedEndOfEscape | trailingComma | trailingCharacters | tooDeep
  /-- The text is well formed, but its value is refused for the reason given. -/
  | refused (reason : String)
deriving DecidableEq, Repr

/-- The wording of a cause. -/
def Cause.message : Cause → String
  | .endInList => "EOF while parsing a list"
  | .endInObject => "EOF while parsing an object"
  | .endInString => "EOF while parsing a string"
  | .endInValue => "EOF while parsing a value"
  | .expectedColon => "expected `:`"
  | .expectedListComma => "expected `,` or `]`"
  | .expectedObjectComma => "expected `,` or `\x7d`"
  | .expectedIdent => "expected ident"
  | .expectedValue => "expected value"
  | .invalidEscape => "invalid escape"
  | .invalidNumber => "invalid number"
  | .numberOutOfRange => "number out of range"
  | .keyNotString => "key must be a string"
  | .controlCharacter => "control character (\\u0000-\\u001F) found while parsing a string"
  | .loneSurrogate => "lone leading surrogate in hex escape"
  | .unexpectedEndOfEscape => "unexpected end of hex escape"
  | .trailingComma => "trailing comma"
  | .trailingCharacters => "trailing characters"
  | .tooDeep => "recursion limit exceeded"
  | .refused reason => reason

/-- A fault met while reading. -/
inductive Fault where
  /-- Met when `left` bytes of the text were not read. -/
  | located (cause : Cause) (left : Nat)
  /-- A value was read, up to `rest`, and refused. The list that holds it finds the place. -/
  | pending (reason : String) (rest : List Char)
deriving DecidableEq, Repr

/-- A fault in front of `rest`. -/
def Fault.before (cause : Cause) (rest : List Char) : Fault :=
  .located cause (Text.byteLength rest)

/-- A fault behind the first byte of `rest`, or at its end if it is empty. -/
def Fault.behind (cause : Cause) (rest : List Char) : Fault :=
  .located cause (Text.byteLength rest - 1)

/-- A line and a column, the column counted in bytes from 0. -/
structure Position where
  line : Nat
  column : Nat
deriving DecidableEq, Repr

/-- The position `count` bytes further. -/
def Position.advance (p : Position) (count : Nat) : List Char → Position
  | [] => p
  | c :: cs =>
    if count < c.utf8Size then { p with column := p.column + count }
    else if c = '\n' then Position.advance ⟨p.line + 1, 0⟩ (count - 1) cs
    else Position.advance { p with column := p.column + c.utf8Size } (count - c.utf8Size) cs

/-- Where `left` bytes are left of a text. -/
def positionAt (text : List Char) (left : Nat) : Position :=
  Position.advance ⟨1, 0⟩ (Text.byteLength text - left) text

/-- A cause and its place in the text. -/
structure Error where
  cause : Cause
  position : Position
deriving DecidableEq, Repr

/-- The wording of an error: the cause, the line and the column. -/
def Error.message (e : Error) : String :=
  e.cause.message ++ " at line " ++ toString e.position.line ++ " column "
    ++ toString e.position.column

/-- The error that a fault in `text` amounts to. -/
def Fault.toError (text : List Char) : Fault → Error
  | .located cause left => ⟨cause, positionAt text left⟩
  | .pending reason rest => ⟨.refused reason, positionAt text (Text.byteLength rest)⟩

end ContractFixtures.Json
