import ContractFixtures.Settings
import ContractFixtures.Text.Recent
import ContractFixtures.Text.Utf8

/-!
# Variables and environment files

An environment file assigns values to names, line by line; quotes may hold line breaks, and values
may refer to variables. A variable that is set and readable keeps its value; of several lines for
one name the first counts, and nothing counts from the first bad line on. The file is read line by
line, so bytes that are no text spoil no line before theirs.
-/

namespace ContractFixtures

/-- The variables that are set, with the bytes of their values. -/
abbrev Variables := List (String × List UInt8)

namespace Variables

/-- The value of a variable, unless it is unset or no text. -/
def text? (vars : Variables) (name : String) : Option String :=
  (vars.lookup name).bind Text.ofBytes?

/-- Sets a variable. -/
def set (vars : Variables) (name value : String) : Variables :=
  (name, Text.bytesOf value.toList) :: vars

/-- Sets a variable, unless it can be read already. -/
def setIfUnreadable (vars : Variables) (name value : String) : Variables :=
  match vars.text? name with
  | some _ => vars
  | none => vars.set name value

end Variables

namespace EnvFile

/-! ## Lines -/

/-- What the characters read so far leave open. -/
inductive LineState where
  | complete | escape | strong | strongEscape | weak | weakEscape | blank
deriving DecidableEq, Repr

/-- What the next character leaves open, or nothing if it starts a comment. -/
def LineState.next : LineState → Char → Option LineState
  | .blank, '#' => none
  | .blank, '\\' | .complete, '\\' => some .escape
  | .blank, '"' | .complete, '"' => some .weak
  | .blank, '\'' | .complete, '\'' => some .strong
  | .complete, c => some (if Text.isBlank c && c != '\n' && c != '\r' then .blank else .complete)
  | .blank, _ | .escape, _ => some .complete
  | .weak, '\\' => some .weakEscape
  | .weak, '"' => some .complete
  | .weak, _ | .weakEscape, _ => some .weak
  | .strong, '\\' => some .strongEscape
  | .strong, '\'' => some .complete
  | .strong, _ | .strongEscape, _ => some .strong

/-- What a whole stretch of text leaves open, or, if a comment starts in it, what stands before. -/
def scanStretch (state : LineState) : List Char → LineState ⊕ List Char
  | [] => .inl state
  | c :: cs =>
    match state.next c with
    | none => .inr []
    | some next =>
      match scanStretch next cs with
      | .inl final => .inl final
      | .inr before => .inr (c :: before)

/-- Cuts a text behind its first line feed. -/
def takeLine (cs : List Char) : List Char × List Char :=
  match cs.dropWhile (· != '\n') with
  | [] => (cs, [])
  | lineFeed :: rest => (cs.takeWhile (· != '\n') ++ [lineFeed], rest)

theorem length_takeLine_lt {cs : List Char} (h : cs ≠ []) :
    (takeLine cs).2.length < cs.length := by
  unfold takeLine
  split
  · exact List.length_pos_iff.2 h
  · next hd =>
    have := (List.dropWhile_sublist (· != '\n') (l := cs)).length_le
    rw [hd] at this
    exact this

/-- A text without the line feed, and the carriage return before it, at its end. -/
def dropLineEnd (cs : List Char) : List Char :=
  match cs.reverse with
  | '\n' :: '\r' :: rest => rest.reverse
  | '\n' :: rest => rest.reverse
  | _ => cs

/-- Cuts a text into lines. A line goes on while a quote or an escape is open or a blank came last,
and does not count if it starts with `#`. A line that is open at the end of the text is bad. -/
def linesFrom (state : LineState) (line text : List Char) : List (Option (List Char)) :=
  if _h : text = [] then (if state = .complete then [] else [none])
  else
    let stretch := (takeLine text).1
    let rest := (takeLine text).2
    let line := line ++ stretch
    if (line.dropWhile Text.isBlank).head? = some '#' then
      some [] :: linesFrom .complete [] rest
    else
      match scanStretch state stretch with
      | .inr before =>
        some (line.take (line.length - stretch.length) ++ before) :: linesFrom .complete [] rest
      | .inl .complete => some (dropLineEnd line) :: linesFrom .complete [] rest
      | .inl state => linesFrom state line rest
termination_by text.length
decreasing_by all_goals exact length_takeLine_lt _h

/-- A text without a byte order mark in front. -/
def withoutMark : List Char → List Char
  | '\ufeff' :: rest => rest
  | cs => cs

/-- Cuts bytes behind each line feed. -/
def byteLines : List UInt8 → List (List UInt8)
  | [] => []
  | b :: rest =>
    if b = 0x0a then [b] :: byteLines rest
    else
      match byteLines rest with
      | [] => [[b]]
      | line :: others => (b :: line) :: others

/-- The text of lines of bytes up to the first one that is no text, and whether there is one. -/
def readBytes : List (List UInt8) → List Char × Bool
  | [] => ([], false)
  | line :: rest =>
    match Text.ofBytes? line with
    | none => ([], true)
    | some text => (text.toList ++ (readBytes rest).1, (readBytes rest).2)

/-- The lines of an environment file. One that is no text is bad, and the last one that is read. -/
def lines (bytes : List UInt8) : List (Option (List Char)) :=
  let read := readBytes (byteLines bytes)
  linesFrom .complete [] (withoutMark read.1) ++ if read.2 then [none] else []

/-! ## Values -/

/-- How a reference to a variable is written: a name, or a name in braces. -/
inductive Reference where
  | plain | braced
deriving DecidableEq, Repr

/-- The reader of a value. -/
structure ValueState where
  /-- The value so far, last character first. -/
  reversed : List Char := []
  strong : Bool := false
  weak : Bool := false
  escaped : Bool := false
  /-- A blank came, so nothing but blanks and a comment may follow. -/
  ended : Bool := false
  reference : Option Reference := none
  /-- The name of a variable so far, last character first. -/
  name : List Char := []

/-- Appends characters to a value. -/
def ValueState.add (s : ValueState) (cs : List Char) : ValueState :=
  { s with reversed := cs.reverse ++ s.reversed }

/-- Appends the value of the variable whose name was read. -/
def ValueState.resolve (valueOf : String → String) (s : ValueState) : ValueState :=
  { s.add (valueOf (String.ofList s.name.reverse)).toList with name := [], reference := none }

/-- What a character behind a backslash stands for. -/
def escaped? (c : Char) : Option Char :=
  if c = '\\' ∨ c = '\'' ∨ c = '"' ∨ c = '$' ∨ c = ' ' then some c
  else if c = 'n' then some '\n'
  else none

/-- One character of a value. -/
def ValueState.step (valueOf : String → String) (s : ValueState) (c : Char) :
    Option ValueState :=
  if s.escaped then (escaped? c).map fun d => { s.add [d] with escaped := false }
  else if s.strong then
    if c = '\'' then some { s with strong := false } else some (s.add [c])
  else
    match s.reference with
    | some kind =>
      if Text.isAlphanumeric c then some { s with name := c :: s.name }
      else
        match kind with
        | .braced =>
          if c = '\x7d' then some (s.resolve valueOf) else some { s with name := c :: s.name }
        | .plain =>
          if c = '\x7b' ∧ s.name = [] then some { s with reference := some .braced }
          else if c = '$' then some { s.resolve valueOf with reference := some .plain }
          else some ((s.resolve valueOf).add [c])
    | none =>
      if c = '$' then some { s with reference := some .plain }
      else if s.weak then
        if c = '"' then some { s with weak := false }
        else if c = '\\' then some { s with escaped := true }
        else some (s.add [c])
      else if c = '\'' then some { s with strong := true }
      else if c = '"' then some { s with weak := true }
      else if c = '\\' then some { s with escaped := true }
      else if c = ' ' ∨ c = '\t' then some { s with ended := true }
      else some (s.add [c])

/-- Reads a value to its end, where no quote or brace may be open. -/
def readValue (valueOf : String → String) (s : ValueState) : List Char → Option String
  | [] =>
    if s.reference = some .braced ∨ s.strong ∨ s.weak then none
    else some (String.ofList (s.resolve valueOf).reversed.reverse)
  | c :: cs =>
    if s.ended then
      if c = ' ' ∨ c = '\t' then readValue valueOf s cs
      else if c = '#' then readValue valueOf s []
      else none
    else (s.step valueOf c).bind fun s => readValue valueOf s cs

/-! ## Assignments -/

/-- Reads a name. -/
def readKey (cs : List Char) : Option (List Char × List Char) :=
  let isInner := fun (c : Char) => c.isAlphanum || c == '_' || c == '.'
  match cs with
  | [] => none
  | c :: _ =>
    if c.isAlpha ∨ c = '_' then some (cs.takeWhile isInner, cs.dropWhile isInner) else none

/-- Drops blanks. -/
def skipBlanks (cs : List Char) : List Char :=
  cs.dropWhile Text.isBlank

/-- Takes the equals sign in front of a value. -/
def takeEquals : List Char → Option (List Char)
  | '=' :: rest => some rest
  | _ => none

/-- Reads a name and the equals sign behind it. The name may follow the word `export`. -/
def readTarget (cs : List Char) : Option (List Char × List Char) := do
  let (key, rest) ← readKey cs
  let rest := skipBlanks rest
  match takeEquals rest with
  | some value => return (key, value)
  | none =>
    if key ≠ "export".toList then none
    else
      let (key, rest) ← readKey rest
      return (key, ← takeEquals (skipBlanks rest))

/-- Reads a line: an assignment, or nothing if it is blank or a comment. -/
def readLine (valueOf : String → String) (line : List Char) : Option (Option (String × String)) :=
  let cs := skipBlanks (Text.trimEnd line)
  if cs.head?.all (· == '#') then some none
  else do
    let (key, rest) ← readTarget cs
    let value := skipBlanks rest
    if value.head?.all (· == '#') then return some (String.ofList key, "")
    else return some (String.ofList key, ← readValue valueOf {} value)

/-- The value of a variable for a reference: that of the environment, or that of the last
assignment before, or nothing. -/
def valueFor (vars : Variables) (assigned : List (String × String)) (name : String) : String :=
  match vars.text? name with
  | some value => value
  | none => (assigned.lookup name).getD ""

/-- The assignments of lines up to the first bad one. Each of them sets its variable before the
next line is read, unless the variable can be read already. -/
def pairsOfLines (vars : Variables) (assigned : List (String × String)) :
    List (Option (List Char)) → List (String × String)
  | [] => []
  | none :: _ => []
  | some line :: rest =>
    match readLine (valueFor vars assigned) line with
    | none => []
    | some none => pairsOfLines vars assigned rest
    | some (some (key, value)) =>
      (key, value) ::
        pairsOfLines (vars.setIfUnreadable key value) ((key, value) :: assigned) rest

/-- The assignments of an environment file in front of its first bad line. -/
def pairs (vars : Variables) (bytes : List UInt8) : List (String × String) :=
  pairsOfLines vars [] (lines bytes)

/-- Sets the variables that an environment file assigns. -/
def load (vars : Variables) (bytes : List UInt8) : Variables :=
  (pairs vars bytes).foldl (fun vars p => vars.setIfUnreadable p.1 p.2) vars

end EnvFile

namespace Settings

/-- The name of the variable for the fixtures. -/
def fixturesName : String := "WASM_TEST_FIXTURES"

/-- The name of the variable for the skip list. -/
def skipFileName : String := "WASM_TEST_SKIP_FILE"

/-- The settings that variables give, with those of an environment file if there is one. -/
def ofVariables (home : Path) (vars : Variables) (envFile : Option (List UInt8)) : Settings :=
  let vars :=
    match envFile with
    | some bytes => EnvFile.load vars bytes
    | none => vars
  ofValues home (vars.text? fixturesName) (vars.text? skipFileName)

end Settings

end ContractFixtures
