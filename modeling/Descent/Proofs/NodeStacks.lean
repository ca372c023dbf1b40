import Descent.Proofs.ArenaAccess

/-! An arena stands for a stack of nodes, each with its end, that is cut back to marks. As long as
no end is set for a node that is older than a mark in use, whatever is done to the arena is done to
the stack: nothing is seen of the slabs, of the table of ends and of its log. -/

namespace Descent.Tree

namespace Node

/-- Where a node begins and what it has of its end, which together are its place. -/
def place (node : Node) : Nat × Ending := (node.first, node.ending)

/-- Where a node ends if the table of ends has `filed` for it. -/
def stopWith (filed : Option Nat) (node : Node) : Option Nat :=
  match node.ending with
  | .extent length => some (node.first + length)
  | .tabled => filed

theorem stopWith_of_place {node other : Node} (same : node.place = other.place)
    (filed : Option Nat) : node.stopWith filed = other.stopWith filed := by
  obtain ⟨first, ending⟩ := Prod.mk.inj same
  rw [stopWith, stopWith, first, ending]

end Node

structure Entry where
  /-- What was last written into it. -/
  node : Node
  /-- The end last set for it. -/
  stop : Option Nat
  /-- The end last set for it that is not kept with the node. -/
  filed : Option Nat

namespace Entry

def pushed (node : Node) : Entry := ⟨node, node.stopWith none, none⟩

/-- A node with something else written into it. Its end stays, unless its place is written over. -/
def changed (change : Node → Node) (entry : Entry) : Entry :=
  if (change entry.node).place = entry.node.place then { entry with node := change entry.node }
  else
    { entry with
      node := change entry.node
      stop := (change entry.node).stopWith entry.filed }

/-- A node with another end. One that is kept with the node is never before its beginning. -/
def ended (stop : Nat) (compact : Bool) (entry : Entry) : Entry :=
  if compact && stop - entry.node.first < UInt32.size then
    { entry with
      node := { entry.node with ending := .extent (stop - entry.node.first) }
      stop := some (max entry.node.first stop) }
  else
    { node := { entry.node with ending := .tabled }, stop := some stop, filed := some stop }

@[simp] theorem changed_node (change : Node → Node) (entry : Entry) :
    (entry.changed change).node = change entry.node := by
  unfold changed
  split <;> rfl

@[simp] theorem changed_filed (change : Node → Node) (entry : Entry) :
    (entry.changed change).filed = entry.filed := by
  unfold changed
  split <;> rfl

/-- The end of a node is where it is looked up. -/
def Settled (entry : Entry) : Prop := entry.stop = entry.node.stopWith entry.filed

private theorem settled_pushed (node : Node) : (pushed node).Settled := rfl

theorem Settled.changed {entry : Entry} (settled : entry.Settled) (change : Node → Node) :
    (entry.changed change).Settled := by
  unfold Entry.changed
  split <;> rename_i same
  · exact settled.trans (Node.stopWith_of_place same entry.filed).symm
  · rfl

private theorem settled_ended (entry : Entry) (stop : Nat) (compact : Bool) :
    (entry.ended stop compact).Settled := by
  unfold ended
  split
  · refine congrArg some ?_
    change max entry.node.first stop = entry.node.first + (stop - entry.node.first)
    omega
  · rfl

end Entry

namespace Arena

inductive Step where
  | push (node : Node)
  | modify (id : NodeId) (change : Node → Node)
  | setEnd (id : NodeId) (stop : Nat) (compact : Bool)
  /-- Takes a mark. -/
  | mark
  /-- Goes back to the newest mark, which can be gone back to again. -/
  | unwind
  /-- Gives the newest mark up. -/
  | release

/-- A step that writes over the place of no node, other than by setting its end. -/
def Step.KeepsPlaces : Step → Prop
  | .modify _ change => ∀ node, (change node).place = node.place
  | _ => True

/-- An arena in use, and what it was when the marks in use were taken, the newest first. -/
structure Session where
  arena : Arena
  marked : List Arena

namespace Session

def empty (slabCapacity : Nat) : Session := ⟨.empty slabCapacity, []⟩

def after (session : Session) : Step → Session
  | .push node => { session with arena := (session.arena.push node).2 }
  | .modify id change => { session with arena := session.arena.modify id change }
  | .setEnd id stop compact => { session with arena := session.arena.setEnd id stop compact }
  | .mark => { session with marked := session.arena :: session.marked }
  | .unwind =>
    match session.marked with
    | [] => session
    | earlier :: _ => { session with arena := session.arena.unwind earlier.mark }
  | .release => { session with marked := session.marked.tail }

def afterAll (session : Session) (steps : List Step) : Session := steps.foldl after session

theorem afterAll_append (session : Session) (first rest : List Step) :
    session.afterAll (first ++ rest) = (session.afterAll first).afterAll rest :=
  List.foldl_append

end Session

end Arena

/-- A stack of nodes, and the sizes that it can be cut back to, the newest first. -/
structure NodeStack where
  entries : Array Entry
  cuts : List Nat

namespace NodeStack

def empty : NodeStack := ⟨#[], []⟩

def after (stack : NodeStack) : Arena.Step → NodeStack
  | .push node => { stack with entries := stack.entries.push (.pushed node) }
  | .modify id change => { stack with entries := stack.entries.modify id (.changed change) }
  | .setEnd id stop compact =>
    { stack with entries := stack.entries.modify id (.ended stop compact) }
  | .mark => { stack with cuts := stack.entries.size :: stack.cuts }
  | .unwind =>
    match stack.cuts with
    | [] => stack
    | cut :: _ => { stack with entries := stack.entries.take cut }
  | .release => { stack with cuts := stack.cuts.tail }

def afterAll (stack : NodeStack) (steps : List Arena.Step) : NodeStack := steps.foldl after stack

/-- Ends are set only for nodes that are newer than all marks in use. -/
def Allows (stack : NodeStack) : Arena.Step → Prop
  | .setEnd id _ _ => ∀ cut ∈ stack.cuts, cut ≤ id
  | _ => True

def Orderly (stack : NodeStack) : List Arena.Step → Prop
  | [] => True
  | step :: rest => stack.Allows step ∧ (stack.after step).Orderly rest

theorem orderly_append_iff {stack : NodeStack} {first rest : List Arena.Step} :
    stack.Orderly (first ++ rest) ↔
      stack.Orderly first ∧ (stack.afterAll first).Orderly rest := by
  induction first generalizing stack with
  | nil => simp [Orderly, afterAll]
  | cons step first ih => simp [Orderly, afterAll, ih, and_assoc]

end NodeStack

namespace Arena

variable {arena : Arena} {entries : Array Entry}

/-- An arena answers as a stack does. -/
structure Answers (arena : Arena) (entries : Array Entry) : Prop where
  size : arena.size = entries.size
  push (node : Node) : (arena.push node).1 = entries.size
  get? (id : NodeId) : arena.get? id = (entries[id]?).map Entry.node
  stop (id : NodeId) : arena.end? id = (entries[id]?).bind Entry.stop

/-- An arena stands for a stack: it has the same nodes, its table of ends has the ends that are not
kept with them, and the log has all of these. -/
structure StandsFor (arena : Arena) (entries : Array Entry) : Prop where
  sound : arena.Sound
  size : arena.size = entries.size
  get? (id : NodeId) : arena.get? id = (entries[id]?).map Entry.node
  filed (id : NodeId) : arena.ends[id]? = (entries[id]?).bind Entry.filed
  settled (id : NodeId) : ∀ entry ∈ entries[id]?, entry.Settled
  log (id : NodeId) : id ∈ arena.log ↔ id ∈ arena.ends

theorem standsFor_empty (slabCapacity : Nat) : (empty slabCapacity).StandsFor #[] where
  sound := sound_empty slabCapacity
  size := rfl
  get? id := by simp [Arena.get?, empty]
  filed id := by simp [empty]
  settled id := by simp
  log id := by simp [empty]

namespace StandsFor

theorem answers (stands : arena.StandsFor entries) : arena.Answers entries where
  size := stands.size
  push _ := stands.size
  get? := stands.get?
  stop id := by
    rw [Arena.end?, stands.get?, stands.filed]
    cases found : entries[id]? with
    | none => rfl
    | some entry => exact (stands.settled id entry found).symm

theorem ends_of_size_le (stands : arena.StandsFor entries) {id : NodeId}
    (beyond : arena.size ≤ id) : arena.ends[id]? = none := by
  rw [stands.filed, Array.getElem?_eq_none (stands.size ▸ beyond), Option.bind_none]

theorem lt_of_mem_log (stands : arena.StandsFor entries) {id : NodeId} (logged : id ∈ arena.log) :
    id < arena.size := by
  refine Nat.lt_of_not_le fun beyond => ?_
  have tabled := (stands.log id).mp logged
  rw [Std.HashMap.mem_iff_isSome_getElem?, stands.ends_of_size_le beyond] at tabled
  cases tabled

theorem push (stands : arena.StandsFor entries) (node : Node) :
    (arena.push node).2.StandsFor (entries.push (.pushed node)) where
  sound := sound_push stands.sound node
  size := by rw [Array.size_push, ← stands.size]; rfl
  get? id := by
    rw [get?_push stands.sound, Array.getElem?_push, stands.size, stands.get?]
    split <;> rfl
  filed id := by
    rw [push_ends, Array.getElem?_push]
    split <;> rename_i last
    · exact stands.ends_of_size_le (Nat.le_of_eq (stands.size.trans last.symm))
    · exact stands.filed id
  settled id := by
    rw [Array.getElem?_push]
    split
    · rintro _ ⟨⟩
      exact Entry.settled_pushed node
    · exact stands.settled id
  log := stands.log

/-- Where nothing is changed, the same is found at `id` and everywhere else. -/
private theorem same_everywhere {α : Type} {found : NodeId → α} {id : NodeId} {value : α}
    (same : found id = value) (other : NodeId) :
    found other = if other = id then value else found other := by
  split <;> rename_i here
  · rw [here, same]
  · rfl

/-- What is written into one node, with its end, is written into one entry. -/
private theorem written {after : Arena} (stands : arena.StandsFor entries) (id : NodeId)
    (write : Entry → Entry) (sound : after.Sound) (size : after.size = arena.size)
    (get? : ∀ other, after.get? other =
      if other = id then (entries[id]?).map fun entry => (write entry).node else arena.get? other)
    (filed : ∀ other, after.ends[other]? =
      if other = id then (entries[id]?).bind fun entry => (write entry).filed
      else arena.ends[other]?)
    (settled : ∀ entry : Entry, entry.Settled → (write entry).Settled)
    (log : ∀ other, other ∈ after.log ↔ other ∈ after.ends) :
    after.StandsFor (entries.modify id write) where
  sound := sound
  size := by rw [size, stands.size, Array.size_modify]
  get? other := by
    rw [get?, Array.getElem?_modify]
    by_cases same : other = id
    · subst same
      rw [if_pos rfl, if_pos rfl, Option.map_map]
      rfl
    · rw [if_neg same, if_neg (Ne.symm same), stands.get?]
  filed other := by
    rw [filed, Array.getElem?_modify]
    by_cases same : other = id
    · subst same
      rw [if_pos rfl, if_pos rfl, Option.bind_map]
      rfl
    · rw [if_neg same, if_neg (Ne.symm same), stands.filed]
  settled other := by
    rw [Array.getElem?_modify]
    split
    · intro entry written
      obtain ⟨older, found, rfl⟩ := Option.map_eq_some_iff.mp written
      exact settled older (stands.settled other older found)
    · exact stands.settled other
  log := log

theorem modify (stands : arena.StandsFor entries) (id : NodeId) (change : Node → Node) :
    (arena.modify id change).StandsFor (entries.modify id (.changed change)) := by
  refine stands.written id _ (sound_modify stands.sound id change) rfl ?_ ?_
    (fun _ settled => settled.changed change) stands.log
  · intro other
    rw [get?_modify, stands.get? id, Option.map_map]
    simp only [Entry.changed_node]
    rfl
  · simp only [modify_ends, Entry.changed_filed]
    exact same_everywhere (stands.filed id)

section SetEnd

variable {id stop : Nat} {compact : Bool} {entry : Entry}

private theorem setEnd_missing (stands : arena.StandsFor entries) (missing : entries[id]? = none) :
    (arena.setEnd id stop compact).StandsFor (entries.modify id (.ended stop compact)) := by
  have held := stands.get? id
  have filed := stands.filed id
  rw [missing] at held filed
  rw [setEnd_of_none held]
  refine stands.written id _ stands.sound rfl ?_ ?_
    (fun entry _ => entry.settled_ended stop compact) stands.log
  · rw [missing]
    exact same_everywhere held
  · rw [missing]
    exact same_everywhere filed

private theorem setEnd_short (stands : arena.StandsFor entries) (found : entries[id]? = some entry)
    (short : compact && stop - entry.node.first < UInt32.size) :
    (arena.setEnd id stop compact).StandsFor (entries.modify id (.ended stop compact)) := by
  have held := stands.get? id
  have filed := stands.filed id
  have ended : entry.ended stop compact = _ := if_pos short
  rw [found] at held filed
  rw [setEnd_of_get? held, if_pos short]
  refine stands.written id _ (sound_modify stands.sound id _) rfl ?_ ?_
    (fun entry _ => entry.settled_ended stop compact) stands.log
  · intro other
    rw [get?_modify, held, found, Option.map_some, Option.map_some, Option.map_some, ended]
  · rw [found, Option.bind_some, ended]
    exact same_everywhere filed

private theorem setEnd_tabled (stands : arena.StandsFor entries) (found : entries[id]? = some entry)
    (long : ¬(compact && stop - entry.node.first < UInt32.size)) :
    (arena.setEnd id stop compact).StandsFor (entries.modify id (.ended stop compact)) := by
  have sound := sound_setEnd stands.sound id stop compact
  have held := stands.get? id
  have ended : entry.ended stop compact = _ := if_neg long
  rw [found] at held
  rw [setEnd_of_get? held, if_neg long] at sound ⊢
  refine stands.written id _ sound rfl ?_ ?_ (fun entry _ => entry.settled_ended stop compact) ?_
  · intro other
    change (arena.modify id _).get? other = _
    rw [get?_modify, held, found, Option.map_some, Option.map_some, Option.map_some, ended]
  · intro other
    change (arena.ends.insert id stop)[other]? = _
    rw [Std.HashMap.getElem?_insert, found, Option.bind_some, ended]
    simp only [beq_iff_eq, eq_comm (a := id)]
  · intro other
    change (other ∈ if arena.ends.contains id then arena.log else id :: arena.log) ↔
      other ∈ arena.ends.insert id stop
    rw [Std.HashMap.mem_insert, ← stands.log other, beq_iff_eq]
    split <;> rename_i known
    · have logged : id ∈ arena.log := (stands.log id).mpr (Std.HashMap.contains_iff_mem.mp known)
      exact ⟨.inr, fun member => member.elim (· ▸ logged) fun older => older⟩
    · rw [List.mem_cons, eq_comm]

theorem setEnd (stands : arena.StandsFor entries) (id stop : Nat) (compact : Bool) :
    (arena.setEnd id stop compact).StandsFor (entries.modify id (.ended stop compact)) := by
  cases found : entries[id]? with
  | none => exact stands.setEnd_missing found
  | some entry =>
    by_cases short : compact && stop - entry.node.first < UInt32.size
    · exact stands.setEnd_short found short
    · exact stands.setEnd_tabled found short

end SetEnd

end StandsFor

end Arena
end Descent.Tree
