import ContractFixtures.Yaml.Token

/-!
# Nodes

Tokens denote a tree of scalars, sequences and mappings. A node may have a name, and an alias
stands for a named node. Names are counted: a name gets the number of different names before it,
and an alias keeps the number that its name has where it stands. When a name is given again, the
next new name gets the same number, and then the alias denotes the last node with that number, be
it behind the alias.
-/

namespace ContractFixtures.Yaml

/-- A node of a document. -/
inductive Node where
  | scalar (text : List Char) (plain : Bool)
  | sequence (items : List Node)
  | mapping (entries : List (Node × Node))
  /-- A node whose name has a number. -/
  | named (number : Nat) (content : Node)
  | alias (number : Nat)
deriving Repr, Inhabited

namespace Node

/-- What stands where nothing is written. -/
def empty : Node := .scalar [] true

mutual

/-- The nodes with numbers, in the order of the text. -/
def targets : Node → List (Nat × Node)
  | .scalar .. | .alias _ => []
  | .sequence items => targetsOfItems items
  | .mapping entries => targetsOfEntries entries
  | .named number content => (number, content) :: targets content

/-- The nodes with numbers among the items of a sequence. -/
def targetsOfItems : List Node → List (Nat × Node)
  | [] => []
  | x :: xs => targets x ++ targetsOfItems xs

/-- The nodes with numbers among the entries of a mapping. -/
def targetsOfEntries : List (Node × Node) → List (Nat × Node)
  | [] => []
  | (k, v) :: es => targets k ++ targets v ++ targetsOfEntries es

end

mutual

/-- The size of a node: one for each scalar and alias, two for each sequence and mapping. -/
def size : Node → Nat
  | .scalar .. | .alias _ => 1
  | .sequence items => 2 + sizeOfItems items
  | .mapping entries => 2 + sizeOfEntries entries
  | .named _ content => size content

/-- The size of the items of a sequence. -/
def sizeOfItems : List Node → Nat
  | [] => 0
  | x :: xs => size x + sizeOfItems xs

/-- The size of the entries of a mapping. -/
def sizeOfEntries : List (Node × Node) → Nat
  | [] => 0
  | (k, v) :: es => size k + size v + sizeOfEntries es

end

/-- What is left to read: tokens, the numbers of names, and the handles of tags. -/
structure Source where
  tokens : List Token
  names : List (List Char × Nat) := []
  handles : List (List Char) := [['!'], ['!', '!']]

/-- How much is left to read. -/
def Source.size (s : Source) : Nat := s.tokens.length

/-- The source without its first token. -/
def Source.next (s : Source) : Source :=
  { s with tokens := s.tokens.drop 1 }

/-- The first token. -/
def Source.peek (s : Source) : Token :=
  s.tokens.headD .streamEnd

/-- Gives a number to a name, instead of the one that it may have. -/
def Source.count (s : Source) (name : List Char) : Source :=
  { s with names := (name, s.names.length) :: s.names.filter (·.1 ≠ name) }

/-- The properties in front of a node. -/
structure Properties where
  anchor : Option (List Char) := none
  tagged : Bool := false

/-- Takes a tag, whose handle has to be known. -/
def takeTag? (s : Source) : Option (Bool × Source) :=
  match s.tokens with
  | .tag (some handle) :: _ =>
    if s.handles.contains handle then some (true, s.next) else none
  | .tag none :: _ => some (true, s.next)
  | _ => some (false, s)

/-- Takes an anchor. -/
def takeAnchor (s : Source) : Option (List Char) × Source :=
  match s.tokens with
  | .anchor name :: _ => (some name, s.next)
  | _ => (none, s)

/-- Takes an anchor and a tag in either order. -/
def takeProperties? (s : Source) : Option (Properties × Source) := do
  match takeAnchor s with
  | (some name, s) => do
    let (tagged, s) ← takeTag? s
    return (⟨some name, tagged⟩, s)
  | (none, s) => do
    let (tagged, s) ← takeTag? s
    if tagged then
      let (name, s) := takeAnchor s
      return (⟨name, true⟩, s)
    else return ({}, s)

/-- A node of which nothing but an anchor or a tag is written. -/
def bare (p : Properties) (s : Source) : Option (Node × Source) :=
  if p.anchor.isSome ∨ p.tagged then some (empty, s) else none

/-- Where a node may stand: within brackets, in a block, or in a block mapping, where the items of
a sequence need no indentation. -/
inductive Position where
  | flow | block | mappingPart
deriving DecidableEq

/-- The tokens before which nothing is written in a block sequence. -/
def endsItem : Token → Bool
  | .blockEntry | .blockEnd => true
  | _ => false

/-- The tokens before which nothing is written in a sequence without indentation. -/
def endsLooseItem : Token → Bool
  | .blockEntry | .key | .value | .blockEnd => true
  | _ => false

/-- The tokens before which nothing is written in a block mapping. -/
def endsBlockPart : Token → Bool
  | .key | .value | .blockEnd => true
  | _ => false

/-- The tokens before which nothing is written behind the colon of a pair in a flow sequence. -/
def endsPairValue : Token → Bool
  | .flowEntry | .flowSequenceEnd => true
  | _ => false

/-- The tokens before which no key is written in a flow mapping. -/
def endsFlowKey : Token → Bool
  | .value | .flowEntry | .flowMappingEnd => true
  | _ => false

/-- The tokens before which no value is written in a flow mapping. -/
def endsFlowValue : Token → Bool
  | .flowEntry | .flowMappingEnd => true
  | _ => false

/-- Behind the first item, passes the comma in front of an item, unless the end follows. -/
def passComma? (first : Bool) (close : Token) (s : Source) : Option Source :=
  if first ∨ s.peek = close then some s
  else if s.peek = .flowEntry then some s.next
  else none

/-- Puts an item in front of the rest. -/
def prepend {α : Type} (x : α) (rest : List α × Source) : List α × Source :=
  (x :: rest.1, rest.2)

mutual

/-- Reads a node. -/
def readNode (fuel : Nat) (position : Position) (s : Source) : Option (Node × Source) :=
  match fuel with
  | 0 => none
  | fuel + 1 =>
    match s.tokens with
    | .alias name :: _ => (s.names.lookup name).map fun number => (.alias number, s.next)
    | _ => do
      let (p, s) ← takeProperties? s
      let number := s.names.length
      let s := (p.anchor.map s.count).getD s
      let inBlock := position != .flow
      let (node, s) ←
        match s.peek with
        | .scalar text plain => some (.scalar text plain, s.next)
        | .flowSequence =>
          (readFlowItems fuel true s.next).map fun (xs, s) => (.sequence xs, s)
        | .flowMapping =>
          (readFlowEntries fuel true s.next).map fun (es, s) => (.mapping es, s)
        | .blockSequence =>
          if inBlock then (readItems fuel s.next).map fun (xs, s) => (.sequence xs, s)
          else bare p s
        | .blockMapping =>
          if inBlock then (readEntries fuel s.next).map fun (es, s) => (.mapping es, s)
          else bare p s
        | .blockEntry =>
          if position = .mappingPart then
            (readLooseItems fuel s).map fun (xs, s) => (.sequence xs, s)
          else bare p s
        | _ => bare p s
      return (if p.anchor.isSome then .named number node else node, s)

/-- Reads a node, unless a token tells that there is nothing. -/
def readOptional (fuel : Nat) (ends : Token → Bool) (position : Position) (s : Source) :
    Option (Node × Source) :=
  match fuel with
  | 0 => none
  | fuel + 1 => if ends s.peek then some (empty, s) else readNode fuel position s

/-- Reads the items of a block sequence. -/
def readItems (fuel : Nat) (s : Source) : Option (List Node × Source) :=
  match fuel with
  | 0 => none
  | fuel + 1 =>
    match s.peek with
    | .blockEnd => some ([], s.next)
    | .blockEntry => do
      let (x, s) ← readOptional fuel endsItem .block s.next
      (readItems fuel s).map (prepend x)
    | _ => none

/-- Reads the items of a sequence without indentation. -/
def readLooseItems (fuel : Nat) (s : Source) : Option (List Node × Source) :=
  match fuel with
  | 0 => none
  | fuel + 1 =>
    match s.peek with
    | .blockEntry => do
      let (x, s) ← readOptional fuel endsLooseItem .block s.next
      (readLooseItems fuel s).map (prepend x)
    | _ => some ([], s)

/-- Reads the entries of a block mapping. -/
def readEntries (fuel : Nat) (s : Source) : Option (List (Node × Node) × Source) :=
  match fuel with
  | 0 => none
  | fuel + 1 => do
    match s.peek with
    | .blockEnd => return ([], s.next)
    | .key =>
      let (k, s) ← readOptional fuel endsBlockPart .mappingPart s.next
      let (v, s) ← readEntryValue fuel s
      (readEntries fuel s).map (prepend (k, v))
    | _ => none

/-- Reads the value of an entry of a block mapping. -/
def readEntryValue (fuel : Nat) (s : Source) : Option (Node × Source) :=
  match fuel with
  | 0 => none
  | fuel + 1 =>
    if s.peek = .value then readOptional fuel endsBlockPart .mappingPart s.next
    else some (empty, s)

/-- Reads the items of a flow sequence. An item may be a pair, which is a mapping of its own. -/
def readFlowItems (fuel : Nat) (first : Bool) (s : Source) : Option (List Node × Source) :=
  match fuel with
  | 0 => none
  | fuel + 1 => do
    let s ← passComma? first .flowSequenceEnd s
    match s.peek with
    | .flowSequenceEnd => return ([], s.next)
    | .key =>
      let (pair, s) ← readPair fuel s.next
      (readFlowItems fuel false s).map (prepend (.mapping [pair]))
    | _ =>
      let (x, s) ← readNode fuel .flow s
      (readFlowItems fuel false s).map (prepend x)

/-- Reads a pair in a flow sequence. Where its key is missing, one token is passed over. -/
def readPair (fuel : Nat) (s : Source) : Option ((Node × Node) × Source) :=
  match fuel with
  | 0 => none
  | fuel + 1 => do
    let (k, s) ←
      match s.peek with
      | .value | .flowEntry | .flowSequenceEnd => some (empty, s.next)
      | _ => readNode fuel .flow s
    if s.peek = .value then
      let (v, s) ← readOptional fuel endsPairValue .flow s.next
      return ((k, v), s)
    else return ((k, empty), s)

/-- Reads the entries of a flow mapping. -/
def readFlowEntries (fuel : Nat) (first : Bool) (s : Source) :
    Option (List (Node × Node) × Source) :=
  match fuel with
  | 0 => none
  | fuel + 1 => do
    let s ← passComma? first .flowMappingEnd s
    match s.peek with
    | .flowMappingEnd => return ([], s.next)
    | .key =>
      let (k, s) ← readOptional fuel endsFlowKey .flow s.next
      let (v, s) ← readFlowValue fuel s
      (readFlowEntries fuel false s).map (prepend (k, v))
    | _ =>
      let (k, s) ← readNode fuel .flow s
      (readFlowEntries fuel false s).map (prepend (k, empty))

/-- Reads the value of an entry of a flow mapping. -/
def readFlowValue (fuel : Nat) (s : Source) : Option (Node × Source) :=
  match fuel with
  | 0 => none
  | fuel + 1 =>
    if s.peek = .value then readOptional fuel endsFlowValue .flow s.next
    else some (empty, s)

end

/-! ## Documents -/

/-- Reads the directives in front of a document: one version at most, 1.1 or 1.2, and each handle
once. -/
def directives (version : Bool) (handles : List (List Char)) :
    List Token → Option (List (List Char) × List Token)
  | .version major minor :: rest =>
    if version ∨ major ≠ 1 ∨ (minor ≠ 1 ∧ minor ≠ 2) then none
    else directives true handles rest
  | .tagHandle handle :: rest =>
    if handles.contains handle then none else directives version (handle :: handles) rest
  | rest => some (handles, rest)

/-- The tokens that show that a document has no content. -/
def endsDocument : Token → Bool
  | .version .. | .tagHandle _ | .documentStart | .documentEnd | .streamEnd => true
  | _ => false

/-- Whether nothing but marks of ends follows a document. -/
def isLast : List Token → Bool
  | .documentEnd :: rest => isLast rest
  | .streamEnd :: _ => true
  | _ => false

/-- The single document that tokens hold, or none if they hold nothing. -/
def ofTokens? (tokens : List Token) : Option (Option Node) :=
  let fuel := 8 * tokens.length + 8
  match tokens with
  | .streamEnd :: _ => some none
  | .version .. :: _ | .tagHandle _ :: _ | .documentStart :: _ => do
    let (handles, rest) ← directives false [] tokens
    match rest with
    | .documentStart :: rest =>
      let s : Source := { tokens := rest, handles := handles ++ [['!'], ['!', '!']] }
      let (node, s) ← readOptional fuel endsDocument .block s
      if isLast s.tokens then return some node else none
    | _ => none
  | _ => do
    let (node, s) ← readNode fuel .block { tokens }
    if isLast s.tokens then return some node else none

/-- The single document that a text holds, or none if it holds nothing. -/
def ofText? (text : String) : Option (Option Node) := do
  ofTokens? (← Token.ofText? text.toList)

end Node

end ContractFixtures.Yaml
