import Descent.Cursor
import Descent.Tree.Arena
/-!
Parse trees. A node is linked to its next sibling, or if it is the last child to its parent; the
first child of a production is the node after it. All ways through the tree are found from this.
-/

namespace Descent

structure ParseTree where
  arena : Tree.Arena
  names : Std.HashMap ProductionId String
  root : Option Tree.NodeId

inductive Tree.Error where
  /-- There is no node with this number in a tree of that size. -/
  | nodeOutOfRange (id size : Nat)
  /-- So many productions have started and not ended. -/
  | unclosedProductions (count : Nat)
  deriving DecidableEq, Repr

namespace Tree.Error

def message : Error → String
  | nodeOutOfRange id size =>
    "node " ++ Nat.repr id ++ " does not exist (tree has " ++ Nat.repr size ++ " nodes)"
  | unclosedProductions count => Nat.repr count ++ " productions are still open"

def tag : Error → String
  | nodeOutOfRange .. => "node_out_of_range"
  | unclosedProductions _ => "unclosed_productions"

end Tree.Error

namespace ParseTree

open Descent.Tree

variable (tree : ParseTree)

def isEmpty : Bool := tree.root.isNone

def nodeCount : Nat := tree.arena.size

def node (id : NodeId) : Except Error NodeId :=
  if id < tree.nodeCount then .ok id else .error (.nodeOutOfRange id tree.nodeCount)

/-- A node; where there is none, an empty token for skipped input. -/
def raw (id : NodeId) : Node :=
  (tree.arena.get? id).getD (.opened (.token .error) 0)

def content (id : NodeId) : Content := (tree.raw id).content

def productionName? (id : NodeId) : Option String :=
  match tree.content id with
  | .production production => tree.names[production]?
  | .token _ => none

def tokenKind? (id : NodeId) : Option TokenKind :=
  match tree.content id with
  | .production _ => none
  | .token kind => some kind

def span (id : NodeId) : Span :=
  let first := (tree.raw id).first
  .between first ((tree.arena.end? id).getD first)

/-- The units that a node covers; none if the source does not have all of them. -/
def lexeme {U : Type} (source : Array U) (id : NodeId) : List U :=
  let span := tree.span id
  if span.stop ≤ source.size then (source.extract span.first span.stop).toList else []

def describe (id : NodeId) : String :=
  let name := match tree.content id with
    | .production _ => (tree.productionName? id).getD "?"
    | .token kind => kind.name
  name ++ "@" ++ toString (tree.span id)

def firstChild? (id : NodeId) : Option NodeId :=
  let node := tree.raw id
  if !node.isToken && node.hasChildren then some (id + 1) else none

def nextSibling? (id : NodeId) : Option NodeId :=
  match (tree.raw id).link with
  | .sibling next => some next
  | _ => none

def isLastChild (id : NodeId) : Bool :=
  match (tree.raw id).link with
  | .parent _ => true
  | _ => false

/-- The production around a node, found behind its last sibling. -/
def parent? (id : NodeId) : Option NodeId :=
  go tree.nodeCount id
where
  go : Nat → NodeId → Option NodeId
    | 0, _ => none
    | left + 1, id =>
      match (tree.raw id).link with
      | .none => none
      | .parent parent => some parent
      | .sibling next => go left next

/-- Some nodes, from one on as long as there is a next one, at most as many as the tree has. -/
def follow (next : NodeId → Option NodeId) (start : Option NodeId) : List NodeId :=
  go tree.nodeCount start
where
  go : Nat → Option NodeId → List NodeId
    | 0, _ => []
    | _, none => []
    | left + 1, some id => id :: go left (next id)

def children (id : NodeId) : List NodeId :=
  tree.follow tree.nextSibling? (tree.firstChild? id)

/-- The next sibling, and after the last one the first one. -/
def nextAround (id : NodeId) : Option NodeId :=
  match (tree.raw id).link with
  | .none => none
  | .parent parent => tree.firstChild? parent
  | .sibling next => some next

/-- The other children of the parent, beginning after the node and going around. -/
def siblings (id : NodeId) : List NodeId :=
  let other (id? : Option NodeId) : Option NodeId := id?.filter (· != id)
  if (tree.parent? id).isNone then []
  else tree.follow (fun sibling => other (tree.nextAround sibling)) (other (tree.nextAround id))

end ParseTree
end Descent
