import Descent.Proofs.TreeParts

/-! Walks through trees that lie in an arena. The links lead through everything below a node before
they lead past it, so that a walk from any node ends. -/

namespace Descent

open Descent.Tree SyntaxTree

namespace ParseTree

variable (tree : ParseTree)

def meet (met : WalkEvent × NodeId) : WalkEvent × Content × Span :=
  (met.1, tree.content met.2, tree.span met.2)

variable {tree} {id : Nat} {content : Content} {span : Span} {hasChildren : Bool}

private theorem raw_of_shows (shown : tree.arena.Shows id content span hasChildren) :
    (tree.raw id).content = content ∧ (tree.raw id).first = span.first ∧
      (tree.raw id).hasChildren = hasChildren := by
  obtain ⟨⟨node, found, same⟩, -⟩ := shown
  rw [raw, found]
  exact same

theorem content_of_shows (shown : tree.arena.Shows id content span hasChildren) :
    tree.content id = content :=
  (raw_of_shows shown).1

theorem span_of_shows (shown : tree.arena.Shows id content span hasChildren) :
    tree.span id = span := by
  rw [ParseTree.span, (raw_of_shows shown).2.1, shown.stop]
  simp [Span.between, Nat.max_eq_right span.first_le_stop]

theorem raw_link {link : Link} (linked : tree.arena.link? id = some link) :
    (tree.raw id).link = link := by
  obtain ⟨node, found, rfl⟩ := Option.map_eq_some_iff.mp linked
  rw [raw, found]
  rfl

theorem firstChild?_of_shows {production : ProductionId}
    (shown : tree.arena.Shows id (.production production) span hasChildren) :
    tree.firstChild? id = if hasChildren then some (id + 1) else none := by
  obtain ⟨content, -, has⟩ := raw_of_shows shown
  simp [firstChild?, Node.isToken, content, has]

theorem isToken_of_leaf {kind : TokenKind}
    (shown : tree.arena.Shows id (.token kind) span hasChildren) :
    (tree.raw id).isToken = true := by
  rw [Node.isToken, (raw_of_shows shown).1]

theorem isToken_of_node {production : ProductionId}
    (shown : tree.arena.Shows id (.production production) span hasChildren) :
    (tree.raw id).isToken = false := by
  rw [Node.isToken, (raw_of_shows shown).1]

/-- What a walk that began at a node meets from some place on, up to its end. -/
inductive Walked (tree : ParseTree) (start : Nat) : Option Place → List (WalkEvent × Nat) → Prop
  | ended : Walked tree start none []
  | step {place : Place} {event : WalkEvent × Nat} {next : Option Place}
      {met : List (WalkEvent × Nat)} (stepped : tree.walkStep start place = (event, next))
      (further : Walked tree start next met) : Walked tree start (some place) (event :: met)

section Steps

variable {root : Nat} {rest met : List (WalkEvent × Nat)}

/-- Enough steps reach the end of a walk. -/
theorem walkSteps_of_walked {place : Option Place} (walked : tree.Walked root place met)
    {steps : Nat} (enough : met.length ≤ steps) : tree.walkSteps root steps place = met := by
  induction walked generalizing steps with
  | ended => cases steps <;> rfl
  | @step place event next met stepped further ih =>
    cases steps with
    | zero => exact absurd enough (Nat.not_succ_le_zero _)
    | succ steps =>
      simp only [walkSteps, stepped]
      rw [ih (Nat.le_of_succ_le_succ enough)]

private theorem placeAfter_of_parent {parent : Nat} (different : id ≠ root)
    (linked : tree.arena.link? id = some (.parent parent)) :
    tree.placeAfter root id = some (.leave parent) := by
  rw [placeAfter, if_neg different, raw_link linked]

private theorem placeAfter_of_sibling {next : Nat} (different : id ≠ root)
    (linked : tree.arena.link? id = some (.sibling next)) :
    tree.placeAfter root id = some (.visit next) := by
  rw [placeAfter, if_neg different, raw_link linked]

private theorem walked_leaf {kind : TokenKind}
    (shown : tree.arena.Shows id (.token kind) span hasChildren)
    (further : tree.Walked root (tree.placeAfter root id) rest) :
    tree.Walked root (some (.visit id)) ((.leaf, id) :: rest) := by
  have stepped : tree.walkStep root (.visit id) = ((.leaf, id), tree.placeAfter root id) := by
    rw [walkStep, if_pos (isToken_of_leaf shown)]
  exact .step stepped further

private theorem walked_enter {production : ProductionId}
    (shown : tree.arena.Shows id (.production production) span hasChildren)
    (further : tree.Walked root (some (if hasChildren then .visit (id + 1) else .leave id)) rest) :
    tree.Walked root (some (.visit id)) ((.enter, id) :: rest) := by
  have stepped : tree.walkStep root (.visit id) =
      ((.enter, id), some (if hasChildren then .visit (id + 1) else .leave id)) := by
    have production : ¬(tree.raw id).isToken = true := by simp [isToken_of_node shown]
    rw [walkStep, if_neg production, firstChild?_of_shows shown]
    cases hasChildren <;> rfl
  exact .step stepped further

end Steps

mutual

/-- A walk goes through a tree and then to wherever its root leads. -/
theorem walked_visit {root id : Nat} {rest : List (WalkEvent × Nat)} (inner : SyntaxTree)
    (held : inner.Held tree.arena id) (below : root ≤ id)
    (further : tree.Walked root (tree.placeAfter root id) rest) :
    tree.Walked root (some (.visit id)) (inner.numbered id ++ rest) := by
  match inner with
  | .leaf kind span => exact walked_leaf held further
  | .node production span children =>
    obtain ⟨shown, inside, linked⟩ := held
    have leaving : tree.Walked root (some (.leave id)) ((.leave, id) :: rest) := .step rfl further
    rw [numbered, List.cons_append, List.append_assoc]
    apply walked_enter shown
    by_cases childless : children = []
    · subst childless
      exact leaving
    · have more : (!children.isEmpty) = true := by simpa using childless
      rw [more, if_pos rfl]
      exact walked_children children inside linked childless (Nat.lt_succ_of_le below) leaving
termination_by structural inner

private theorem walked_children {root id parent : Nat} {rest : List (WalkEvent × Nat)}
    (children : List SyntaxTree) (held : HeldAll tree.arena id children)
    (linked : ∀ last ∈ lastId id children, tree.arena.link? last = some (.parent parent))
    (nonempty : children ≠ []) (below : root < id)
    (further : tree.Walked root (some (.leave parent)) rest) :
    tree.Walked root (some (.visit id)) (numberedAll id children ++ rest) := by
  match children with
  | [] => contradiction
  | first :: others =>
    obtain ⟨inner, next, inside⟩ := held
    have apart : id ≠ root := Nat.ne_of_gt below
    rw [numberedAll, List.append_assoc]
    apply walked_visit first inner (Nat.le_of_lt below)
    by_cases alone : others = []
    · subst alone
      rw [placeAfter_of_parent apart (linked id rfl)]
      exact further
    · have last : lastId id (first :: others) = lastId (id + first.size) others := by
        cases others with
        | nil => contradiction
        | cons => rfl
      rw [last] at linked
      rw [placeAfter_of_sibling apart (next alone)]
      exact walked_children others inside linked alone (Nat.lt_add_right _ below) further
termination_by structural children

end

/-- A walk from a node goes through the tree that lies there, and ends. -/
theorem walked_of_held {inner : SyntaxTree} (held : inner.Held tree.arena id) :
    tree.Walked id (some (.visit id)) (inner.numbered id) := by
  have ended : tree.placeAfter id id = none := if_pos rfl
  have walked : tree.Walked id (some (.visit id)) (inner.numbered id ++ []) :=
    walked_visit inner held (Nat.le_refl _) (ended ▸ .ended)
  rwa [List.append_nil] at walked

theorem walkFrom_of_held {inner : SyntaxTree} (held : inner.Held tree.arena id)
    (room : inner.size ≤ tree.nodeCount) : tree.walkFrom id = inner.numbered id :=
  walkSteps_of_walked (walked_of_held held)
    (Nat.le_trans (numbered_length inner id) (Nat.mul_le_mul_left 2 room))

mutual

/-- What is at the nodes that a walk meets is what is in the tree that lies there. -/
theorem meet_numbered {id : Nat} (inner : SyntaxTree) (held : inner.Held tree.arena id) :
    (inner.numbered id).map tree.meet = inner.walk := by
  match inner with
  | .leaf kind span =>
    simp only [numbered, SyntaxTree.walk, List.map_cons, List.map_nil, meet, content_of_shows held,
      span_of_shows held]
  | .node production span children =>
    obtain ⟨shown, inside, -⟩ := held
    simp only [numbered, SyntaxTree.walk, List.map_cons, List.map_append, List.map_nil, meet,
      content_of_shows shown, span_of_shows shown, ← meet_numberedAll children inside]
termination_by structural inner

private theorem meet_numberedAll {id : Nat} (trees : List SyntaxTree)
    (held : HeldAll tree.arena id trees) :
    (numberedAll id trees).map tree.meet = walkAll trees := by
  match trees with
  | [] => rfl
  | first :: rest =>
    obtain ⟨inner, -, others⟩ := held
    rw [numberedAll, List.map_append, meet_numbered first inner, meet_numberedAll rest others,
      walkAll]
termination_by structural trees

end

/-- The walk through a tree that lies in its arena meets what is in the tree. -/
theorem walk_of_held {inner : SyntaxTree} (root : tree.root = some id)
    (held : inner.Held tree.arena id) (room : inner.size ≤ tree.nodeCount) :
    tree.walk.map tree.meet = inner.walk := by
  rw [walk, root]
  exact (congrArg (List.map tree.meet) (walkFrom_of_held held room)).trans
    (meet_numbered inner held)

/-- A tree that lies at the beginning of its arena and fills it; its root is linked to nothing. -/
structure Planted (tree : ParseTree) (whole : SyntaxTree) : Prop where
  root : tree.root = some 0
  count : tree.nodeCount = whole.size
  held : whole.Held tree.arena 0
  unlinked : tree.arena.link? 0 = some .none

theorem Planted.walk {whole : SyntaxTree} (planted : tree.Planted whole) :
    tree.walk.map tree.meet = whole.walk :=
  walk_of_held planted.root planted.held (Nat.le_of_eq planted.count.symm)

/-- The walk ends by itself, and not since its steps were used up. -/
theorem Planted.walked {whole : SyntaxTree} (planted : tree.Planted whole) :
    tree.Walked 0 (some (.visit 0)) tree.walk := by
  have same : tree.walk = whole.numbered 0 := by
    rw [ParseTree.walk, planted.root]
    exact walkFrom_of_held planted.held (Nat.le_of_eq planted.count.symm)
  rw [same]
  exact walked_of_held planted.held

end ParseTree
end Descent
