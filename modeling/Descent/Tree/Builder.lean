import Descent.Config
import Descent.Observer
import Descent.Tree.Basic
/-!
Building a tree from what an observer sees. The node of a production is allocated when it starts and
linked when it ends. A production that declined takes the arena back to where it started; one that
failed keeps what it has, so the tree of a failed run shows how far it came.
-/

namespace Descent

open Descent.Tree

structure OpenProduction where
  /-- None for a transparent production. -/
  node : Option NodeId
  /-- The last child so far. -/
  lastChild : Option NodeId
  /-- The last child of the node around it when it started. -/
  outerLast : Option NodeId
  mark : Mark
  isToken : Bool

structure TreeBuilder where
  arena : Arena
  config : TreeConfig
  /-- The productions that have started, the innermost one first. -/
  running : List OpenProduction
  names : Std.HashMap ProductionId String
  root : Option NodeId
  errors : Array ParseError

namespace TreeBuilder

def empty (config : TreeConfig) : TreeBuilder :=
  ⟨.empty config.slabCapacity, config, [], ∅, none, #[]⟩

/-- Remembers the name of a production; a name that is not empty stays. -/
def remember (builder : TreeBuilder) (profile : Profile) : TreeBuilder :=
  if (builder.names.getD profile.id "").isEmpty then
    { builder with names := builder.names.insert profile.id profile.name }
  else builder

/-- The last child of the innermost production that has a node. -/
def lastOf : List OpenProduction → Option NodeId
  | [] => none
  | production :: rest =>
    if production.node.isSome then production.lastChild else lastOf rest

def setLast (last : Option NodeId) : List OpenProduction → List OpenProduction
  | [] => []
  | production :: rest =>
    if production.node.isSome then { production with lastChild := last } :: rest
    else production :: setLast last rest

/-- Makes a node the last child of the innermost production that has a node. -/
def append (builder : TreeBuilder) (id : NodeId) : TreeBuilder :=
  let arena := match lastOf builder.running with
    | none => builder.arena
    | some previous => builder.arena.modify previous fun node => { node with link := .sibling id }
  { builder with arena, running := setLast (some id) builder.running }

/-- The last token inside the innermost production, if that is a token production and a token of
this kind that begins at this position continues it. -/
def mergeTarget? (builder : TreeBuilder) (kind : TokenKind) (first : Nat) : Option NodeId := do
  let production ← builder.running.head?
  let last ← lastOf builder.running
  let node ← builder.arena.get? last
  guard (production.isToken && production.mark.nodes ≤ last)
  guard (node.content = .token kind && builder.arena.end? last == some first)
  return last

def token (builder : TreeBuilder) (kind : TokenKind) (first stop : Nat) : TreeBuilder :=
  if builder.running.isEmpty then builder
  else
    match builder.mergeTarget? kind first with
    | some last =>
      { builder with arena := builder.arena.setEnd last stop builder.config.compactTokens }
    | none =>
      let (id, arena) := builder.arena.push (.opened (.token kind) first)
      let arena := arena.setEnd id stop builder.config.compactTokens
      append { builder with arena } id

/-- Starts a production. The outermost one always has a node. -/
def start (builder : TreeBuilder) (profile : Profile) (position : Nat) : Ticket × TreeBuilder :=
  let builder := builder.remember profile
  let mark := builder.arena.mark
  let outerLast := lastOf builder.running
  let ticket : Ticket := ⟨position, builder.running.length⟩
  if profile.isTransparent && !builder.running.isEmpty then
    let production := ⟨none, none, outerLast, mark, profile.isToken⟩
    (ticket, { builder with running := production :: builder.running })
  else
    let (id, arena) := builder.arena.push (.opened (.production profile.id) position)
    let production := ⟨some id, none, outerLast, mark, profile.isToken⟩
    (ticket, { builder with arena, running := production :: builder.running })

def closeNode (arena : Arena) (id : NodeId) (lastChild : Option NodeId) (stop : Nat) : Arena :=
  let arena := arena.setEnd id stop true
  match lastChild with
  | none => arena
  | some last =>
    (arena.modify last fun node => { node with link := .parent id }).modify id fun node =>
      { node with hasChildren := true }

/-- Ends the innermost production and keeps what it has. The outermost one becomes the root. -/
def close (builder : TreeBuilder) (stop : Nat) : TreeBuilder :=
  match builder.running with
  | [] => builder
  | production :: running =>
    match production.node with
    | none => { builder with running }
    | some id =>
      let arena := closeNode builder.arena id production.lastChild stop
      let builder := { builder with arena, running }
      if running.isEmpty then { builder with root := some id } else builder.append id

def backtrack (builder : TreeBuilder) : TreeBuilder :=
  match builder.running with
  | [] => builder
  | production :: running =>
    { builder with
      arena := builder.arena.unwind production.mark
      running := setLast production.outerLast running }

/-- The tree and the errors, once all productions have ended. -/
def finish (builder : TreeBuilder) : Except Tree.Error (ParseTree × List ParseError) :=
  if builder.running.isEmpty then
    .ok (⟨builder.arena, builder.names, builder.root⟩, builder.errors.toList)
  else .error (.unclosedProductions builder.running.length)

def observer : Observer TreeBuilder where
  start profile position builder := builder.start profile position
  token kind first stop builder := builder.token kind first stop
  finish _ _ _ position builder := (.nothing, builder.close position)
  backtrack _ _ builder := builder.backtrack
  cancel _ _ position builder := builder.close position
  error _ error builder := { builder with errors := builder.errors.push error }
  sink _ := .null

end TreeBuilder
end Descent
