import Descent.Proofs.ArenaAccess
import Descent.Tree.Builder
import Descent.Tree.Walk

/-! The same tree built further on in an input. When a builder is told of the same things, each so
many units further on, its nodes are the same ones, moved by that distance. -/

namespace Descent

open Descent.Tree

namespace Span

def shift (distance : Nat) (span : Span) : Span :=
  ⟨span.first + distance, span.stop + distance, Nat.add_le_add_right span.first_le_stop distance⟩

private theorem between_shift (first stop distance : Nat) :
    between (first + distance) (stop + distance) = (between first stop).shift distance := by
  simp only [between, shift, Span.mk.injEq, true_and]
  omega

end Span

def ParseError.shift (distance : Nat) (error : ParseError) : ParseError :=
  { error with position := error.position + distance, span := error.span.shift distance }

namespace Tree

variable {distance : Nat}

def Node.shift (distance : Nat) (node : Node) : Node :=
  { node with first := node.first + distance }

structure Arena.Shifted (distance : Nat) (arena other : Arena) : Prop where
  sound : arena.Sound
  otherSound : other.Sound
  size : arena.size = other.size
  nodes (id : NodeId) : arena.get? id = (other.get? id).map (Node.shift distance)
  ends (id : NodeId) : arena.ends[id]? = other.ends[id]?.map (· + distance)
  log : arena.log = other.log

namespace Arena.Shifted

variable {arena other : Arena}

theorem empty (distance slabCapacity : Nat) :
    Shifted distance (Arena.empty slabCapacity) (Arena.empty slabCapacity) where
  sound := sound_empty slabCapacity
  otherSound := sound_empty slabCapacity
  size := rfl
  nodes id := by simp [Arena.empty, Arena.get?]
  ends id := by simp [Arena.empty]
  log := rfl

theorem end? (shifted : Shifted distance arena other) (id : NodeId) :
    arena.end? id = (other.end? id).map (· + distance) := by
  unfold Arena.end?
  rw [shifted.nodes]
  cases other.get? id with
  | none => rfl
  | some node =>
    obtain ⟨link, content, hasChildren, first, ending⟩ := node
    cases ending with
    | extent length =>
      simp only [Option.map_some, Option.bind_some, Node.shift, Option.some.injEq]
      omega
    | tabled => exact shifted.ends id

theorem contains (shifted : Shifted distance arena other) (id : NodeId) :
    arena.ends.contains id = other.ends.contains id := by
  rw [Std.HashMap.contains_eq_isSome_getElem?, Std.HashMap.contains_eq_isSome_getElem?,
    shifted.ends, Option.isSome_map]

theorem push (shifted : Shifted distance arena other) (node : Node) :
    Shifted distance (arena.push (node.shift distance)).2 (other.push node).2 where
  sound := sound_push shifted.sound _
  otherSound := sound_push shifted.otherSound _
  size := congrArg (· + 1) shifted.size
  nodes id := by
    rw [get?_push shifted.sound, get?_push shifted.otherSound, shifted.size]
    split
    · rfl
    · exact shifted.nodes id
  ends := shifted.ends
  log := shifted.log

theorem modify (shifted : Shifted distance arena other) (id : NodeId) {change : Node → Node}
    (same : ∀ node, change (node.shift distance) = (change node).shift distance) :
    Shifted distance (arena.modify id change) (other.modify id change) where
  sound := sound_modify shifted.sound id change
  otherSound := sound_modify shifted.otherSound id change
  size := shifted.size
  nodes other' := by
    rw [get?_modify, get?_modify, shifted.nodes, shifted.nodes]
    split
    · rw [Option.map_map, Option.map_map]
      exact congrArg (fun change => Option.map change _) (funext same)
    · rfl
  ends := shifted.ends
  log := shifted.log

theorem setEnd (shifted : Shifted distance arena other) (id : NodeId) (stop : Nat)
    (compact : Bool) :
    Shifted distance (arena.setEnd id (stop + distance) compact)
      (other.setEnd id stop compact) := by
  unfold Arena.setEnd
  rw [shifted.nodes]
  cases other.get? id with
  | none => exact shifted
  | some node =>
    simp only [Option.map_some, Node.shift, Nat.add_sub_add_right]
    split
    · exact shifted.modify id fun _ => rfl
    · have tabled : Shifted distance
          (arena.modify id fun node => { node with ending := .tabled })
          (other.modify id fun node => { node with ending := .tabled }) :=
        shifted.modify id fun _ => rfl
      refine ⟨⟨tabled.sound.room, tabled.sound.filled⟩,
        ⟨tabled.otherSound.room, tabled.otherSound.filled⟩, tabled.size, tabled.nodes, ?_, ?_⟩
      · intro written
        rw [Std.HashMap.getElem?_insert, Std.HashMap.getElem?_insert]
        split
        · rfl
        · exact shifted.ends written
      · dsimp only
        rw [shifted.contains, shifted.log]

private theorem ends_erased {ends ends' : Std.HashMap NodeId Nat}
    (same : ∀ id : NodeId, ends[id]? = ends'[id]?.map (· + distance)) (ids : List NodeId) :
    ∀ id : NodeId, (ids.foldl (·.erase ·) ends)[id]? =
      (ids.foldl (·.erase ·) ends')[id]?.map (· + distance) := by
  induction ids generalizing ends ends' with
  | nil => exact same
  | cons first rest ih =>
    apply ih
    intro id
    rw [Std.HashMap.getElem?_erase, Std.HashMap.getElem?_erase]
    split
    · rfl
    · exact same id

theorem unwind (shifted : Shifted distance arena other) (mark : Mark) :
    Shifted distance (arena.unwind mark) (other.unwind mark) := by
  by_cases unchanged : arena.size ≤ mark.nodes
  · have unchanged' : other.size ≤ mark.nodes := shifted.size ▸ unchanged
    rw [Arena.unwind, Arena.unwind, if_pos unchanged, if_pos unchanged']
    exact shifted
  · have unchanged' : ¬other.size ≤ mark.nodes := shifted.size ▸ unchanged
    have size : (arena.unwind mark).size = (other.unwind mark).size := by
      rw [unwind_size (by omega), unwind_size (by omega)]
    have sound := sound_unwind shifted.sound mark
    have otherSound := sound_unwind shifted.otherSound mark
    refine ⟨sound, otherSound, size, fun id => ?_, ?_, ?_⟩
    · by_cases kept : id < mark.nodes
      · rw [get?_unwind mark kept, get?_unwind mark kept, shifted.nodes]
      · have dropped : (other.unwind mark).get? id = none := by
          rw [get?_eq_none_iff otherSound, unwind_size (by omega)]
          exact Nat.le_of_not_lt kept
        rw [dropped, Option.map_none, get?_eq_none_iff sound, unwind_size (by omega)]
        exact Nat.le_of_not_lt kept
    · rw [Arena.unwind, Arena.unwind, if_neg unchanged, if_neg unchanged']
      dsimp only
      rw [shifted.log]
      exact ends_erased shifted.ends _
    · rw [Arena.unwind, Arena.unwind, if_neg unchanged, if_neg unchanged', shifted.log]

end Arena.Shifted
end Tree

/-- A builder that has been told of the same things as another one, each so many units further
on. -/
structure TreeBuilder.Shifted (distance : Nat) (builder other : TreeBuilder) : Prop where
  arena : builder.arena.Shifted distance other.arena
  config : builder.config = other.config
  running : builder.running = other.running
  names : builder.names = other.names
  root : builder.root = other.root
  errors : builder.errors = other.errors.map (ParseError.shift distance)

namespace TreeBuilder.Shifted

theorem empty (distance : Nat) (config : TreeConfig) :
    Shifted distance (TreeBuilder.empty config) (TreeBuilder.empty config) :=
  ⟨.empty distance config.slabCapacity, rfl, rfl, rfl, rfl, Array.map_empty.symm⟩

variable {distance : Nat} {builder other : TreeBuilder}
  (shifted : Shifted distance builder other)
include shifted

theorem remember (profile : Profile) :
    Shifted distance (builder.remember profile) (other.remember profile) := by
  unfold TreeBuilder.remember
  rw [shifted.names]
  split
  · exact { shifted with names := rfl }
  · exact shifted

private theorem withArena {arena arena' : Arena} (same : arena.Shifted distance arena') :
    Shifted distance { builder with arena } { other with arena := arena' } :=
  { shifted with arena := same }

theorem append {id id' : NodeId} (same : id = id') :
    Shifted distance (builder.append id) (other.append id') := by
  subst same
  unfold TreeBuilder.append
  rw [shifted.running]
  refine { shifted with arena := ?_, running := rfl }
  dsimp only
  split
  · exact shifted.arena
  · exact shifted.arena.modify _ fun _ => rfl

/-- The same token is continued, since all tokens have moved as far as the new one. -/
theorem mergeTarget? (kind : TokenKind) (first : Nat) :
    builder.mergeTarget? kind (first + distance) = other.mergeTarget? kind first := by
  unfold TreeBuilder.mergeTarget?
  rw [shifted.running]
  congr
  funext production
  congr
  funext last
  rw [shifted.arena.nodes, shifted.arena.end?]
  cases other.arena.get? last with
  | none => rfl
  | some node =>
    cases other.arena.end? last with
    | none => rfl
    | some stop =>
      have same : (some (stop + distance) == some (first + distance)) =
          (some stop == some first) := by
        rw [Bool.eq_iff_iff]
        simp
      rw [Option.map_some, Option.map_some, same]
      rfl

theorem token (kind : TokenKind) (first stop : Nat) :
    Shifted distance (builder.token kind (first + distance) (stop + distance))
      (other.token kind first stop) := by
  unfold TreeBuilder.token
  rw [shifted.mergeTarget?]
  by_cases outside : other.running.isEmpty
  · rw [if_pos outside, if_pos (shifted.running ▸ outside)]
    exact shifted
  · rw [if_neg outside, if_neg (shifted.running ▸ outside)]
    split
    · next last _ =>
      refine shifted.withArena ?_
      rw [shifted.config]
      exact shifted.arena.setEnd last stop _
    · have pushed : Arena.Shifted distance
          ((builder.arena.push (.opened (.token kind) (first + distance))).2.setEnd
            builder.arena.size (stop + distance) builder.config.compactTokens)
          ((other.arena.push (.opened (.token kind) first)).2.setEnd
            other.arena.size stop other.config.compactTokens) := by
        rw [shifted.config, shifted.arena.size]
        exact (shifted.arena.push (.opened (.token kind) first)).setEnd other.arena.size stop _
      exact (shifted.withArena pushed).append shifted.arena.size

theorem start (profile : Profile) (position : Nat) :
    Shifted distance (builder.start profile (position + distance)).2
      (other.start profile position).2 := by
  have known := shifted.remember profile
  have size := known.arena.size
  have mark : (builder.remember profile).arena.mark = (other.remember profile).arena.mark := by
    rw [Arena.mark, Arena.mark, size, known.arena.log]
  unfold TreeBuilder.start
  dsimp only
  rw [known.running, mark]
  split
  · exact { known with running := rfl }
  · refine { known with arena := ?_, running := ?_ }
    · exact known.arena.push (.opened (.production profile.id) position)
    · change OpenProduction.mk (some (builder.remember profile).arena.size) _ _ _ _ :: _ =
        OpenProduction.mk (some (other.remember profile).arena.size) _ _ _ _ :: _
      rw [size]

theorem closeNode (id : NodeId) (lastChild : Option NodeId) (stop : Nat) :
    (closeNode builder.arena id lastChild (stop + distance)).Shifted distance
      (closeNode other.arena id lastChild stop) := by
  have ended := shifted.arena.setEnd id stop true
  unfold TreeBuilder.closeNode
  split
  · exact ended
  · next last =>
    refine Arena.Shifted.modify ?_ id fun _ => ?_
    · refine Arena.Shifted.modify ended last fun _ => ?_
      rfl
    · rfl

theorem close (stop : Nat) :
    Shifted distance (builder.close (stop + distance)) (other.close stop) := by
  unfold TreeBuilder.close
  rw [shifted.running]
  cases other.running with
  | nil => exact shifted
  | cons production running =>
    dsimp only
    split
    · exact { shifted with running := rfl }
    · next id _ =>
      have closed := shifted.closeNode id production.lastChild stop
      have inner : Shifted distance
          { builder with
            arena := TreeBuilder.closeNode builder.arena id production.lastChild (stop + distance)
            running := running }
          { other with
            arena := TreeBuilder.closeNode other.arena id production.lastChild stop
            running := running } :=
        { shifted with arena := closed, running := rfl }
      split
      · exact { inner with root := rfl }
      · exact inner.append rfl

theorem backtrack : Shifted distance builder.backtrack other.backtrack := by
  unfold TreeBuilder.backtrack
  rw [shifted.running]
  split
  · exact shifted
  · exact { shifted with arena := shifted.arena.unwind _, running := rfl }

theorem error (error : ParseError) :
    Shifted distance { builder with errors := builder.errors.push (error.shift distance) }
      { other with errors := other.errors.push error } := by
  refine { shifted with errors := ?_ }
  dsimp only
  rw [shifted.errors, Array.map_push]

end TreeBuilder.Shifted

namespace ParseTree

/-- A tree with the shape, the kinds and the names of another one: each of its nodes covers what the
node with its number does there, so many units further on. -/
structure Shifted (distance : Nat) (tree other : ParseTree) : Prop where
  root : tree.root = other.root
  nodeCount : tree.nodeCount = other.nodeCount
  content (id : NodeId) : tree.content id = other.content id
  productionName? (id : NodeId) : tree.productionName? id = other.productionName? id
  firstChild? (id : NodeId) : tree.firstChild? id = other.firstChild? id
  nextSibling? (id : NodeId) : tree.nextSibling? id = other.nextSibling? id
  parent? (id : NodeId) : tree.parent? id = other.parent? id
  children (id : NodeId) : tree.children id = other.children id
  siblings (id : NodeId) : tree.siblings id = other.siblings id
  walkFrom (id : NodeId) : tree.walkFrom id = other.walkFrom id
  depth : tree.depth = other.depth
  span {id : NodeId} (inside : id < other.nodeCount) :
    tree.span id = (other.span id).shift distance

variable {distance : Nat} {tree other : ParseTree}

section Links

variable (shifted : tree.arena.Shifted distance other.arena)
include shifted

/-- What does not depend on the place of a node is the same in the one that has moved. -/
private theorem raw_view {α : Type} (view : Node → α)
    (still : ∀ node, view (node.shift distance) = view node) (id : NodeId) :
    view (tree.raw id) = view (other.raw id) := by
  rw [raw, raw, shifted.nodes]
  cases other.arena.get? id with
  | none => rfl
  | some node => exact still node

private theorem content_eq (id : NodeId) : tree.content id = other.content id :=
  raw_view shifted Node.content (fun _ => rfl) id

private theorem link_eq (id : NodeId) : (tree.raw id).link = (other.raw id).link :=
  raw_view shifted Node.link (fun _ => rfl) id

private theorem isToken_eq (id : NodeId) : (tree.raw id).isToken = (other.raw id).isToken :=
  raw_view shifted Node.isToken (fun _ => rfl) id

private theorem firstChild?_eq : tree.firstChild? = other.firstChild? := by
  funext id
  exact raw_view shifted
    (fun node => if !node.isToken && node.hasChildren then some (id + 1) else none)
    (fun _ => rfl) id

private theorem nextSibling?_eq : tree.nextSibling? = other.nextSibling? := by
  funext id
  rw [nextSibling?, nextSibling?, link_eq shifted]

private theorem nextAround_eq : tree.nextAround = other.nextAround := by
  funext id
  rw [nextAround, nextAround, link_eq shifted, firstChild?_eq shifted]

private theorem parent?_eq : tree.parent? = other.parent? := by
  funext id
  rw [parent?, parent?, nodeCount, nodeCount, shifted.size]
  generalize other.arena.size = left
  induction left generalizing id with
  | zero => rfl
  | succ left ih =>
    rw [parent?.go, parent?.go, link_eq shifted]
    split
    · rfl
    · rfl
    · exact ih _

private theorem follow_eq : tree.follow = other.follow := by
  funext next start
  rw [follow, follow, nodeCount, nodeCount, shifted.size]

private theorem walkStep_eq : tree.walkStep = other.walkStep := by
  funext start place
  have placeAfter (id : NodeId) : tree.placeAfter start id = other.placeAfter start id := by
    rw [ParseTree.placeAfter, ParseTree.placeAfter, link_eq shifted]
  cases place with
  | leave id => rw [walkStep, walkStep, placeAfter]
  | visit id => rw [walkStep, walkStep, placeAfter, isToken_eq shifted, firstChild?_eq shifted]

private theorem walkFrom_eq : tree.walkFrom = other.walkFrom := by
  funext id
  rw [walkFrom, walkFrom, nodeCount, nodeCount, shifted.size]
  generalize 2 * other.arena.size = steps
  generalize some (Place.visit id) = place
  induction steps generalizing place with
  | zero => rfl
  | succ steps ih =>
    cases place with
    | none => rfl
    | some place =>
      rw [walkSteps, walkSteps, walkStep_eq shifted]
      exact congrArg _ (ih _)

private theorem span_eq {id : NodeId} (inside : id < other.nodeCount) :
    tree.span id = (other.span id).shift distance := by
  obtain ⟨node, found⟩ : ∃ node, other.arena.get? id = some node := by
    rw [← Option.ne_none_iff_exists', ne_eq, Arena.get?_eq_none_iff shifted.otherSound]
    exact Nat.not_le_of_lt inside
  rw [span, span, raw, raw, shifted.end?, shifted.nodes, found, ← Span.between_shift]
  cases other.arena.end? id <;> rfl

end Links

/-- The ways through a tree follow from its links, and its links do not depend on where its nodes
are. -/
theorem shifted_of_arena (shifted : tree.arena.Shifted distance other.arena)
    (names : tree.names = other.names) (root : tree.root = other.root) :
    tree.Shifted distance other := by
  have walk : tree.walk = other.walk := by
    rw [walk, walk, root, walkFrom_eq shifted]
  exact {
    root := root
    nodeCount := shifted.size
    content := content_eq shifted
    productionName? := fun id => by
      rw [ParseTree.productionName?, ParseTree.productionName?, content_eq shifted, names]
    firstChild? := congrFun (firstChild?_eq shifted)
    nextSibling? := congrFun (nextSibling?_eq shifted)
    parent? := congrFun (parent?_eq shifted)
    children := fun id => by
      rw [ParseTree.children, ParseTree.children, follow_eq shifted, nextSibling?_eq shifted,
        firstChild?_eq shifted]
    siblings := fun id => by
      rw [ParseTree.siblings, ParseTree.siblings, follow_eq shifted, nextAround_eq shifted,
        parent?_eq shifted]
    walkFrom := congrFun (walkFrom_eq shifted)
    depth := by rw [ParseTree.depth, ParseTree.depth, walk]
    span := span_eq shifted }

/-- Trees that are both shifts of one tree are the same, with the same spans. -/
theorem Shifted.beside {tree' : ParseTree} (shifted : tree.Shifted distance other)
    (shifted' : tree'.Shifted distance other) : tree.Shifted 0 tree' where
  root := shifted.root.trans shifted'.root.symm
  nodeCount := shifted.nodeCount.trans shifted'.nodeCount.symm
  content id := (shifted.content id).trans (shifted'.content id).symm
  productionName? id := (shifted.productionName? id).trans (shifted'.productionName? id).symm
  firstChild? id := (shifted.firstChild? id).trans (shifted'.firstChild? id).symm
  nextSibling? id := (shifted.nextSibling? id).trans (shifted'.nextSibling? id).symm
  parent? id := (shifted.parent? id).trans (shifted'.parent? id).symm
  children id := (shifted.children id).trans (shifted'.children id).symm
  siblings id := (shifted.siblings id).trans (shifted'.siblings id).symm
  walkFrom id := (shifted.walkFrom id).trans (shifted'.walkFrom id).symm
  depth := shifted.depth.trans shifted'.depth.symm
  span inside := by
    rw [shifted'.nodeCount] at inside
    rw [shifted.span inside, shifted'.span inside]
    rfl

end ParseTree

theorem TreeBuilder.Shifted.finish {distance : Nat} {builder other : TreeBuilder}
    (shifted : builder.Shifted distance other) {tree : ParseTree} {errors : List ParseError}
    (finished : other.finish = .ok (tree, errors)) :
    ∃ tree' : ParseTree, builder.finish = .ok (tree', errors.map (ParseError.shift distance)) ∧
      tree'.Shifted distance tree := by
  unfold TreeBuilder.finish at finished ⊢
  rw [shifted.running]
  split at finished
  · cases finished
    rw [if_pos ‹_›, shifted.errors, Array.toList_map]
    exact ⟨_, rfl, ParseTree.shifted_of_arena shifted.arena shifted.names shifted.root⟩
  · cases finished

end Descent
