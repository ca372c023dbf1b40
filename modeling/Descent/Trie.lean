import Descent.Cursor
import Descent.GrammarError
import Descent.Text.CodeUnit
/-!
Tries: finite maps from unit strings to numbers that also find the longest key at a place in the
input. The nodes stand in one array and refer to each other by index; the root is the first one.
There are taken to be fewer than 2 ^ 32 nodes, so that an index fits into 32 bits.
-/

namespace Descent

namespace Trie

/-- The number stored for the string that leads here, and the nodes one unit further. The edges
are sorted by their units. -/
structure Node (U : Type) where
  stored : Option Nat
  edges : Array (U × Nat)

namespace Node

variable {U : Type}

def bare : Node U := ⟨none, #[]⟩

instance : Inhabited (Node U) := ⟨bare⟩

variable [CodeUnit U]

/-- How many edges from `low` up to `high` have a smaller unit, counted with those before `low`.
Each test halves the edges in question. -/
def place (edges : Array (U × Nat)) (unit : U) (low high : Nat) : Nat :=
  if low < high then
    let middle := (low + high) / 2
    if edges[middle]?.any fun edge => CodeUnit.value edge.1 < CodeUnit.value unit then
      place edges unit (middle + 1) high
    else place edges unit low middle
  else low
termination_by high - low

def placeOf (node : Node U) (unit : U) : Nat :=
  place node.edges unit 0 node.edges.size

def child (node : Node U) (unit : U) : Option Nat :=
  match node.edges[node.placeOf unit]? with
  | none => none
  | some (key, next) => if key = unit then some next else none

def addEdge (node : Node U) (unit : U) (next : Nat) : Node U :=
  { node with edges := node.edges.insertIdxIfInBounds (node.placeOf unit) (unit, next) }

end Node
end Trie

structure Trie (U : Type) where
  nodes : Array (Trie.Node U)
  /-- How many strings have a number. -/
  size : Nat

namespace Trie

variable {U : Type}

def empty : Trie U := ⟨#[.bare], 0⟩

instance : Inhabited (Trie U) := ⟨empty⟩

def stored (nodes : Array (Node U)) (index : Nat) : Option Nat :=
  nodes[index]?.bind Node.stored

variable [CodeUnit U]

def child (nodes : Array (Node U)) (index : Nat) (unit : U) : Option Nat :=
  nodes[index]?.bind fun node => node.child unit

/-- The number stored where exactly this string leads from a node. -/
def lookupFrom (nodes : Array (Node U)) (index : Nat) : List U → Option Nat
  | [] => stored nodes index
  | unit :: rest => (child nodes index unit).bind fun next => lookupFrom nodes next rest

def lookup (trie : Trie U) (string : List U) : Option Nat :=
  lookupFrom trie.nodes 0 string

/-- The node behind an edge, both of them added if there is no such edge yet. -/
def enter (nodes : Array (Node U)) (index : Nat) (unit : U) : Array (Node U) × Nat :=
  match child nodes index unit with
  | some next => (nodes, next)
  | none =>
    let next := nodes.size
    ((nodes.push .bare).modify index fun node => node.addEdge unit next, next)

def enterAll (nodes : Array (Node U)) (index : Nat) : List U → Array (Node U) × Nat
  | [] => (nodes, index)
  | unit :: rest =>
    let (nodes, next) := enter nodes index unit
    enterAll nodes next rest

def store (nodes : Array (Node U)) (index number : Nat) : Array (Node U) :=
  nodes.modify index fun node => { node with stored := some number }

/-- The trie after the attempt to add a string, and what came of it. The empty string and one that
is there already are refused. -/
def tryInsert (trie : Trie U) (string : List U) (number : Nat) :
    Trie U × Except GrammarError Unit :=
  if string.isEmpty then (trie, .error .emptyLiteral)
  else
    let (nodes, last) := enterAll trie.nodes 0 string
    if (stored nodes last).isSome then
      ({ trie with nodes }, .error (.duplicateString (CodeUnit.toText string)))
    else (⟨store nodes last number, trie.size + 1⟩, .ok ())

def insert (trie : Trie U) (string : List U) (number : Nat) : Except GrammarError (Trie U) :=
  match trie.tryInsert string number with
  | (larger, .ok ()) => .ok larger
  | (_, .error error) => .error error

/-- The number and the end of the longest string in the trie that the input goes on with. Of the
strings on the way, the last one found is the longest. -/
def longest (trie : Trie U) (cursor : Cursor U) : Option (Nat × Cursor U) :=
  go cursor.left 0 cursor none
where
  go : Nat → Nat → Cursor U → Option (Nat × Cursor U) → Option (Nat × Cursor U)
    | left, index, cursor, best =>
      let best := match stored trie.nodes index with
        | some number => some (number, cursor)
        | none => best
      match left with
      | 0 => best
      | left + 1 =>
        match cursor.peek.bind (child trie.nodes index) with
        | none => best
        | some next => go left next cursor.next best

def insertAll (trie : Trie U) (first : Nat) : List (List U) → Except GrammarError (Trie U)
  | [] => .ok trie
  | string :: rest => do
    let trie ← trie.insert string first
    trie.insertAll (first + 1) rest

def ofTexts (texts : List String) : Except GrammarError (Trie U) :=
  empty.insertAll 0 (texts.map CodeUnit.ofText)

end Trie
end Descent
