import Std.Data.HashMap
import ContractFixtures.Pattern.Regex
import ContractFixtures.Text.ByteRanges

/-!
# The memory of automata

An expression has two automata that read bytes, one forwards and one backwards. Both may take a
certain number of bytes at most, so expressions with large ones are refused. This module counts the
states of these automata and the bytes that they take, without building them.

Every expression is counted. One that can match a few fixed texts only needs no automata, so one in
which a large part cannot match at all, since an empty set stands in front of it, is refused here
though it could be searched for without them.

A state takes 32 bytes. One that reads a byte of several ranges takes 8 more for each range, and one
that goes on in several ways takes 4 more for each way. Counted repetitions are written out.
-/

namespace ContractFixtures.Pattern

/-- The states of an automaton so far and the bytes that they take. -/
structure Footprint where
  states : Nat
  bytes : Nat

/-- The direction in which an automaton reads. -/
inductive Direction where
  | forwards | backwards
deriving DecidableEq

namespace Footprint

/-- The greatest number of bytes of an automaton. -/
def limit : Nat := 10485760

/-- One more state, with some bytes beside its own; there is none beyond the limit. -/
def add (extra : Nat) (f : Footprint) : Option Footprint :=
  let bytes := f.bytes + 32 + extra
  if limit < bytes then none else some ⟨f.states + 1, bytes⟩

/-- More bytes for a state that is there already. -/
def extend (extra : Nat) (f : Footprint) : Option Footprint :=
  let bytes := f.bytes + extra
  if limit < bytes then none else some { f with bytes := bytes }

/-- Several states, by the bytes beside their own. -/
def addAll (extras : List Nat) (f : Footprint) : Option Footprint :=
  extras.foldlM (fun f extra => f.add extra) f

/-- A step that is taken some times. -/
def iterate? (step : Footprint → Option Footprint) : Nat → Footprint → Option Footprint
  | 0, f => some f
  | n + 1, f =>
    match step f with
    | none => none
    | some f => iterate? step n f

/-! ## Sets forwards

The sequences of a set are read in ascending order. The states for the last one are open, since the
next one may start with the same bytes; the other states are complete. A complete state is used
again for an equal one, as long as no other has taken its slot in a table. -/

/-- A way from one state to the next one by a byte of a range. -/
structure Edge where
  first : UInt8
  last : UInt8
  target : Nat
deriving DecidableEq

/-- A mix of numbers, each of which changes all bits of the result. -/
def mix (numbers : List Nat) : UInt64 :=
  numbers.foldl (fun h n => (h ^^^ n.toUInt64) * 1099511628211) 14695981039346656037

/-- The slot of some numbers in a table. -/
def slotOf (numbers : List Nat) (slots : UInt64) : UInt64 :=
  mix numbers % slots

/-- An automaton with the table of its complete states. -/
structure Shared where
  footprint : Footprint
  table : Std.HashMap UInt64 (List Edge × Nat)

/-- A complete state with some edges: one that the table remembers, or a new one. -/
def Shared.state (s : Shared) (edges : List Edge) : Option (Nat × Shared) :=
  let slot := slotOf (edges.flatMap fun e => [e.first.toNat, e.last.toNat, e.target]) 10000
  let make := do
    let f ← s.footprint.add (8 * edges.length)
    return (s.footprint.states, ⟨f, s.table.insert slot (edges, s.footprint.states)⟩)
  match s.table[slot]? with
  | some (known, state) => if known = edges then some (state, s) else make
  | none => make

/-- A state that may get more edges: the complete ones, last first, and the range of the one whose
target is open. -/
structure OpenState where
  edges : List Edge
  range : UInt8 × UInt8

/-- The edges of an open state when the target of the last one is known. -/
def OpenState.close (s : OpenState) (target : Nat) : List Edge :=
  ⟨s.range.1, s.range.2, target⟩ :: s.edges

/-- Completes open states, each of which leads to the next and the last one to a target: the state
that the first one becomes. -/
def complete (target : Nat) : List OpenState → Shared → Option (Nat × Shared)
  | [], shared => some (target, shared)
  | s :: deeper, shared => do
    let (next, shared) ← complete target deeper shared
    shared.state (s.close next).reverse

/-- Open states for a sequence of ranges. -/
def openStates (ranges : List (UInt8 × UInt8)) : List OpenState :=
  ranges.map fun range => ⟨[], range⟩

/-- Adds a sequence to the open states: what it does not share with the last one is completed. -/
def addSequence (target : Nat) :
    List (UInt8 × UInt8) → List OpenState → Shared → Option (List OpenState × Shared)
  | range :: ranges, s :: deeper, shared =>
    if s.range = range then do
      let (deeper, shared) ← addSequence target ranges deeper shared
      return (s :: deeper, shared)
    else do
      let (next, shared) ← complete target deeper shared
      return (⟨s.close next, range⟩ :: openStates ranges, shared)
  | ranges, _, shared => some (openStates ranges, shared)

/-- Adds the states for the characters of a set forwards. -/
def addForwards (sequences : List (List (UInt8 × UInt8))) (f : Footprint) : Option Footprint := do
  let target := f.states
  let shared : Shared := ⟨← f.add 0, {}⟩
  let (opened, shared) ← sequences.foldlM
    (fun (opened, shared) sequence => addSequence target sequence opened shared) ([], shared)
  let (_, shared) ← complete target opened shared
  return shared.footprint

/-! ## Sets backwards

Each sequence is a way of its own from the state that all of them start from to their common target.
Ways with the same first bytes join before the target, as long as the table remembers them. -/

/-- An automaton with the table of states that read a byte of a range before another state. -/
structure Joined where
  footprint : Footprint
  table : Std.HashMap UInt64 ((Nat × UInt8 × UInt8) × Nat)

/-- A state that reads a byte of a range before another state. -/
def Joined.state (j : Joined) (target : Nat) (range : UInt8 × UInt8) : Option (Nat × Joined) :=
  let key := (target, range)
  let slot := slotOf [target, range.1.toNat, range.2.toNat] 1000
  let make := do
    let f ← j.footprint.add 0
    return (j.footprint.states, ⟨f, j.table.insert slot (key, j.footprint.states)⟩)
  match j.table[slot]? with
  | some (known, state) => if known = key then some (state, j) else make
  | none => make

/-- Adds the states for a sequence. -/
def addWay (target : Nat) : List (UInt8 × UInt8) → Joined → Option Joined
  | [], j => (j.footprint.extend 4).map fun f => { j with footprint := f }
  | range :: ranges, j => do
    let (state, j) ← j.state target range
    addWay state ranges j

/-- Adds the states for the characters of a set backwards. -/
def addBackwards (sequences : List (List (UInt8 × UInt8))) (f : Footprint) : Option Footprint := do
  let f ← f.add 0
  let target := f.states
  let joined : Joined := ⟨← f.add 0, {}⟩
  let joined ← sequences.foldlM (fun joined sequence => addWay target sequence joined) joined
  return joined.footprint

/-- Adds the states for the characters of a set. -/
def addSet (d : Direction) (set : CharSet) (f : Footprint) : Option Footprint :=
  if set.isAscii then f.addAll [0, 8 * set.ranges.size]
  else
    let sequences := set.ranges.toList.flatMap fun (a, b) => Text.byteSequences a b
    match d with
    | .forwards => addForwards sequences f
    | .backwards => addBackwards sequences f

/-! ## Texts as alternatives

Alternatives that are texts share their starts in a tree. A node of the tree where one of the texts
ends has a group of branches for the texts before that one and a group for those behind it. -/

/-- The groups of texts that others part which are empty. -/
def splitAtEnds : List (List UInt8) → List (List (List UInt8))
  | [] => [[]]
  | [] :: rest => [] :: splitAtEnds rest
  | text :: rest =>
    match splitAtEnds rest with
    | [] => [[text]]
    | group :: others => (text :: group) :: others

/-- The groups of texts at a node. Several ends before the first branch count as one. -/
def groups (texts : List (List UInt8)) : List (List (List UInt8)) :=
  splitAtEnds ((texts.takeWhile (·.isEmpty)).take 1 ++ texts.dropWhile (·.isEmpty))

/-- The rests of the texts that start with a byte. -/
def restsBehind (byte : UInt8) (texts : List (List UInt8)) : List (List UInt8) :=
  texts.filterMap fun text => if text.head? = some byte then some text.tail else none

/-- The states for a node of a tree and the nodes behind it, by the bytes beside their own. At
each node there is a state that chooses between its ends and groups, and one for each group. -/
def treeExtras : Nat → List (List UInt8) → List Nat
  | 0, _ => []
  | fuel + 1, texts =>
    if texts.all (·.isEmpty) then []
    else
      let all := groups texts
      let used := all.filter (!·.isEmpty)
      let ofGroup := fun (group : List (List UInt8)) =>
        let bytes := (group.filterMap (·.head?)).eraseDups
        let own := if bytes.length = 1 then 0 else 8 * bytes.length
        own :: bytes.flatMap fun byte => treeExtras fuel (restsBehind byte group)
      4 * (used.length + all.length - 1) :: used.flatMap ofGroup

/-- The bytes of an expression that is a text, in the direction of reading. -/
def textBytes? (d : Direction) : Regex → Option (List UInt8)
  | .text cs => some (if d = .forwards then Text.bytesOf cs else (Text.bytesOf cs).reverse)
  | _ => none

/-- Adds the states for alternatives that are texts. -/
def addTree (texts : List (List UInt8)) (f : Footprint) : Option Footprint :=
  f.addAll (0 :: treeExtras ((texts.map (·.length)).foldl max 0) texts)

/-! ## Expressions -/

mutual

/-- Adds the states for an expression. -/
def addRegex (d : Direction) : Regex → Footprint → Option Footprint
  | .empty, f => f.add 0
  | .text cs, f => iterate? (·.add 0) (Text.byteLength cs) f
  | .one set, f => addSet d set f
  | .assert _, f => f.add 0
  | .group _ r, f =>
    match d with
    | .forwards => do (← addRegex d r (← f.add 0)).add 0
    | .backwards => addRegex d r f
  | .seq rs, f => addSequenceOf d rs f
  | .alt rs, f =>
    match rs.mapM (textBytes? d) with
    | some texts => addTree texts f
    | none => addBranches d [4 * rs.length, 0] 2 rs f
  | .repeated r least most _, f =>
    match least, most with
    | 0, some 1 => do (← addRegex d r (← f.add 8)).add 0
    | 0, none => do
      if r.shape.shortest.any (0 < ·) then addRegex d r (← f.add 8)
      else (← addRegex d r f).addAll [8, 8, 0]
    | least, none => do (← iterate? (addRegex d r) least f).add 8
    | least, some most =>
      if least = most then iterate? (addRegex d r) least f
      else do
        let f ← if least = 0 then f.add 0 else iterate? (addRegex d r) least f
        iterate? (fun f => do addRegex d r (← f.add 8)) (most - least) (← f.add 0)

/-- Adds the states for a sequence, in the direction of reading. -/
def addSequenceOf (d : Direction) : List Regex → Footprint → Option Footprint
  | [], f => some f
  | r :: rs, f =>
    match d with
    | .forwards => do addSequenceOf d rs (← addRegex d r f)
    | .backwards => do addRegex d r (← addSequenceOf d rs f)

/-- Adds the states for alternatives. Those that they share come behind the first `count`. -/
def addBranches (d : Direction) (shared : List Nat) (count : Nat) :
    List Regex → Footprint → Option Footprint
  | [], f => some f
  | r :: rs, f => do
    let f ← addRegex d r f
    addBranches d shared (count - 1) rs (← if count = 1 then f.addAll shared else some f)

end

/-- The automaton of an expression in a direction. It starts with a loop over the bytes before a
match, unless all matches begin where the text does. -/
def ofRegex? (d : Direction) (r : Regex) : Option Footprint := do
  let isFixed :=
    match d with
    | .forwards => r.shape.atStart
    | .backwards => r.shape.atEnd
  let f ← addAll (if isFixed then [0] else [8, 0, 8]) ⟨0, 0⟩
  match d with
  | .forwards => (← addRegex d r (← f.add 0)).addAll [0, 0]
  | .backwards => (← addRegex d r f).add 0

/-- The number of texts from which on alternatives have no automaton. -/
def manyTexts : Nat := 3000

/-- Whether an expression consists of so many texts. -/
def isManyTexts : Regex → Bool
  | .alt rs => manyTexts ≤ rs.length && (rs.mapM (textBytes? .forwards)).isSome
  | _ => false

/-- Whether both automata of an expression keep within the limit, if it has any. -/
def fits (r : Regex) : Bool :=
  isManyTexts r || ((ofRegex? .forwards r).isSome && (ofRegex? .backwards r).isSome)

end Footprint

end ContractFixtures.Pattern
