import ContractFixtures.Pattern.Regex

/-!
# Automata

An automaton reads a text character by character. It is built from an expression from its end to
its start: each part is built in front of the node that follows it, and counted repetitions are
written out. All nodes that can be reached are followed at once, so a text is read only one time.
-/

namespace ContractFixtures.Pattern

/-- A node of an automaton. -/
inductive Node where
  | read (set : CharSet) (next : Nat)
  | check (a : Assertion) (next : Nat)
  | fork (first second : Nat)
  | done
deriving Inhabited, Repr

/-- Some nodes, which name each other by their index, and the first of them. -/
structure Automaton where
  start : Nat
  nodes : Array Node

namespace Automaton

/-- Adds a node. -/
def add (node : Node) (nodes : Array Node) : Automaton :=
  let start := nodes.size
  ⟨start, nodes.push node⟩

/-- Adds the nodes that read some characters in front of a node. -/
def readText (next : Nat) (nodes : Array Node) : List Char → Automaton
  | [] => ⟨next, nodes⟩
  | c :: cs =>
    match readText next nodes cs with
    | ⟨start, nodes⟩ => add (.read (.single c) start) nodes

/-- Builds something some times, each time in front of the last. -/
def iterate (build : Nat → Array Node → Automaton) : Nat → Nat → Array Node → Automaton
  | 0, next, nodes => ⟨next, nodes⟩
  | n + 1, next, nodes =>
    match build next nodes with
    | ⟨start, nodes⟩ => iterate build n start nodes

/-- Builds something that may be left out in front of a node, some times and each time in front of
the last. -/
def iterateOptional (build : Nat → Array Node → Automaton) (count next : Nat)
    (nodes : Array Node) : Automaton :=
  iterate (fun rest nodes =>
    match build rest nodes with
    | ⟨start, nodes⟩ => add (.fork start next) nodes) count next nodes

/-- Builds a loop in front of a node. -/
def loop (build : Nat → Array Node → Automaton) (next : Nat) (nodes : Array Node) : Automaton :=
  let start := nodes.size
  match build start (nodes.push (.fork start next)) with
  | ⟨body, nodes⟩ => ⟨start, nodes.setIfInBounds start (.fork body next)⟩

mutual

/-- Builds an expression in front of a node. -/
def build : Regex → Nat → Array Node → Automaton
  | .empty, next, nodes => ⟨next, nodes⟩
  | .text cs, next, nodes => readText next nodes cs
  | .one set, next, nodes => add (.read set next) nodes
  | .assert a, next, nodes => add (.check a next) nodes
  | .group _ r, next, nodes => build r next nodes
  | .seq rs, next, nodes => buildAll rs next nodes
  | .alt rs, next, nodes => buildAny rs next nodes
  | .repeated r least none _, next, nodes =>
    match loop (build r) next nodes with
    | ⟨start, nodes⟩ => iterate (build r) least start nodes
  | .repeated r least (some most) _, next, nodes =>
    match iterateOptional (build r) (most - least) next nodes with
    | ⟨start, nodes⟩ => iterate (build r) least start nodes

/-- Builds a sequence in front of a node. -/
def buildAll : List Regex → Nat → Array Node → Automaton
  | [], next, nodes => ⟨next, nodes⟩
  | r :: rs, next, nodes =>
    match buildAll rs next nodes with
    | ⟨start, nodes⟩ => build r start nodes

/-- Builds alternatives in front of a node. -/
def buildAny : List Regex → Nat → Array Node → Automaton
  | [], next, nodes => add (.read .none next) nodes
  | [r], next, nodes => build r next nodes
  | r :: rs, next, nodes =>
    match buildAny rs next nodes with
    | ⟨others, nodes⟩ =>
      match build r next nodes with
      | ⟨first, nodes⟩ => add (.fork first others) nodes

end

/-- The automaton of an expression. -/
def ofRegex (r : Regex) : Automaton :=
  build r 0 #[.done]

/-- Follows the nodes of a list at a place: those that read a character, or nothing if the end of
the automaton is reached. Each node is followed once, so the fuel may be the number of nodes twice
and that of the list. -/
def follow (nodes : Array Node) (p : Place) :
    Nat → List Nat → Array Bool → List Nat → Option (List Nat)
  | 0, _, _, readers => some readers
  | _, [], _, readers => some readers
  | fuel + 1, i :: rest, seen, readers =>
    if seen[i]?.getD true then follow nodes p fuel rest seen readers
    else
      let seen := seen.setIfInBounds i true
      match nodes[i]? with
      | none => follow nodes p fuel rest seen readers
      | some .done => none
      | some (.read _ _) => follow nodes p fuel rest seen (i :: readers)
      | some (.check a next) =>
        follow nodes p fuel (if a.holds p then next :: rest else rest) seen readers
      | some (.fork first second) => follow nodes p fuel (first :: second :: rest) seen readers

/-- The node that follows when a node reads a character. -/
def nextOf? (nodes : Array Node) (c : Char) (i : Nat) : Option Nat :=
  match nodes[i]? with
  | some (.read set next) => if set.contains c then some next else none
  | _ => none

/-- Whether the automaton comes to its end in a text from the active nodes, or from its first node
at some place. -/
def search (m : Automaton) (active : List Nat) (before : Option Char) (text : List Char) : Bool :=
  let entries := m.start :: active
  let readers? :=
    follow m.nodes ⟨before, text.head?⟩ (2 * m.nodes.size + entries.length) entries
      (Array.replicate m.nodes.size false) []
  match readers?, text with
  | none, _ => true
  | some _, [] => false
  | some readers, c :: cs => search m (readers.filterMap (nextOf? m.nodes c)) (some c) cs

/-- Whether the automaton finds a match in some part of a text. -/
def matchesIn (m : Automaton) (text : String) : Bool :=
  m.search [] none text.toList

end Automaton

end ContractFixtures.Pattern
