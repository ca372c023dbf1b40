import Descent.Tree.Basic
/-!
Walks through a tree, depth first. A walk is a place in the tree, and the next place follows from
the links alone.
-/

namespace Descent

open Descent.Tree

inductive WalkEvent where
  /-- Before the children of a production. -/
  | enter
  /-- After them. -/
  | leave
  /-- At a token. -/
  | leaf
  deriving DecidableEq, Repr

inductive Place where
  | visit (id : NodeId)
  | leave (id : NodeId)
  deriving DecidableEq, Repr

namespace ParseTree

variable (tree : ParseTree)

/-- Where a walk that began at `start` goes when it is through with a node. -/
def placeAfter (start id : NodeId) : Option Place :=
  if id = start then none
  else
    match (tree.raw id).link with
    | .none => none
    | .parent parent => some (.leave parent)
    | .sibling next => some (.visit next)

def walkStep (start : NodeId) : Place → (WalkEvent × NodeId) × Option Place
  | .leave id => ((.leave, id), tree.placeAfter start id)
  | .visit id =>
    if (tree.raw id).isToken then ((.leaf, id), tree.placeAfter start id)
    else
      match tree.firstChild? id with
      | some child => ((.enter, id), some (.visit child))
      | none => ((.enter, id), some (.leave id))

/-- At most so many steps of a walk. -/
def walkSteps (start : NodeId) : Nat → Option Place → List (WalkEvent × NodeId)
  | 0, _ => []
  | _, none => []
  | steps + 1, some place =>
    let (event, next) := tree.walkStep start place
    event :: walkSteps start steps next

/-- The walk through a node and everything below it. No node is met more than twice. -/
def walkFrom (id : NodeId) : List (WalkEvent × NodeId) :=
  tree.walkSteps id (2 * tree.nodeCount) (some (.visit id))

def walk : List (WalkEvent × NodeId) :=
  match tree.root with
  | none => []
  | some root => tree.walkFrom root

/-- How deep productions are nested at some point: now, and at most so far. -/
def nesting (depths : Nat × Nat) (event : WalkEvent × NodeId) : Nat × Nat :=
  match event.1 with
  | .enter => (depths.1 + 1, max depths.2 (depths.1 + 1))
  | .leave => (depths.1 - 1, depths.2)
  | .leaf => depths

def depth : Nat :=
  (tree.walk.foldl nesting (0, 0)).2

end ParseTree
end Descent
