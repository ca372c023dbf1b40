import Descent.Grammar.Basic
import Std.Data.HashMap
/-!
The arena that tree nodes are kept in. Nodes are appended and never freed one by one: going back to
a mark drops everything that came after it. They are stored in slabs, which stay allocated.
-/

namespace Descent.Tree

/-- The index of a node in its arena. Arenas are taken to hold fewer than 2 ^ 32 nodes, so that an
index fits into 32 bits. -/
abbrev NodeId := Nat

/-- The one link that a node has. -/
inductive Link where
  /-- The root, or a node that has not been linked yet. -/
  | none
  | sibling (next : NodeId)
  /-- The parent, for the last child. -/
  | parent (parent : NodeId)
  deriving DecidableEq, Repr

inductive Content where
  | production (id : ProductionId)
  | token (kind : TokenKind)
  deriving DecidableEq, Repr

/-- Where the end of a node is written. -/
inductive Ending where
  /-- So many units after its beginning. -/
  | extent (length : Nat)
  /-- In the table of ends. -/
  | tabled
  deriving DecidableEq, Repr

structure Node where
  link : Link
  content : Content
  /-- Whether the next node in the arena is its first child. -/
  hasChildren : Bool
  first : Nat
  ending : Ending
  deriving DecidableEq, Repr

namespace Node

def opened (content : Content) (first : Nat) : Node :=
  ⟨.none, content, false, first, .extent 0⟩

def isToken (node : Node) : Bool :=
  match node.content with
  | .token _ => true
  | .production _ => false

end Node

structure Arena where
  slabs : Array (Array Node)
  slabCapacity : Nat
  slabCapacity_pos : 0 < slabCapacity
  size : Nat
  /-- The ends of the nodes that do not have them with them. -/
  ends : Std.HashMap NodeId Nat
  /-- The nodes with an entry in the table of ends, the newest entry first. -/
  log : List NodeId

structure Mark where
  /-- The number of nodes. -/
  nodes : Nat
  /-- The number of entries in the table of ends. -/
  ends : Nat
  deriving DecidableEq, Repr

namespace Arena

/-- An arena without nodes; a slab holds at least one. -/
def empty (slabCapacity : Nat) : Arena :=
  ⟨#[], max slabCapacity 1, by omega, 0, ∅, []⟩

def get? (arena : Arena) (id : NodeId) : Option Node :=
  (arena.slabs[id / arena.slabCapacity]?).bind fun slab => slab[id % arena.slabCapacity]?

/-- Changes a node, if there is one with this number. -/
def modify (arena : Arena) (id : NodeId) (change : Node → Node) : Arena :=
  { arena with
    slabs := arena.slabs.modify (id / arena.slabCapacity) fun slab =>
      slab.modify (id % arena.slabCapacity) change }

/-- A new node, which gets the next number. -/
def push (arena : Arena) (node : Node) : NodeId × Arena :=
  let index := arena.size / arena.slabCapacity
  let slabs := if index = arena.slabs.size then arena.slabs.push #[] else arena.slabs
  (arena.size,
    { arena with slabs := slabs.modify index (·.push node), size := arena.size + 1 })

/-- Writes the end of a node: with the node if `compact` is set and the length fits into 32 bits,
else into the table. -/
def setEnd (arena : Arena) (id : NodeId) (stop : Nat) (compact : Bool) : Arena :=
  match arena.get? id with
  | none => arena
  | some node =>
    let length := stop - node.first
    if compact && length < UInt32.size then
      arena.modify id fun node => { node with ending := .extent length }
    else
      let tabled := arena.modify id fun node => { node with ending := .tabled }
      { tabled with
        ends := arena.ends.insert id stop
        log := if arena.ends.contains id then arena.log else id :: arena.log }

def end? (arena : Arena) (id : NodeId) : Option Nat :=
  (arena.get? id).bind fun node =>
    match node.ending with
    | .extent length => some (node.first + length)
    | .tabled => arena.ends[id]?

def mark (arena : Arena) : Mark :=
  ⟨arena.size, arena.log.length⟩

/-- A slab as it was when the arena had `nodes` nodes. -/
def cutSlab (slabCapacity nodes index : Nat) (slab : Array Node) : Array Node :=
  if index < nodes / slabCapacity then slab
  else if index = nodes / slabCapacity then slab.take (nodes % slabCapacity)
  else #[]

/-- Drops all nodes from a mark on, and the entries in the table of ends that are newer than it.
Where no node is newer, nothing happens. -/
def unwind (arena : Arena) (mark : Mark) : Arena :=
  if arena.size ≤ mark.nodes then arena
  else
    let newer := arena.log.length - mark.ends
    { arena with
      slabs := arena.slabs.mapIdx (cutSlab arena.slabCapacity mark.nodes)
      size := mark.nodes
      ends := (arena.log.take newer).foldl (·.erase ·) arena.ends
      log := arena.log.drop newer }

end Arena
end Descent.Tree
