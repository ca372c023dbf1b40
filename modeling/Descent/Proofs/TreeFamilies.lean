import Descent.Proofs.TreeWalk
import Mathlib.Data.List.Chain

/-! Parents and children in a tree that lies in an arena. The links of the children lead from each
one to the next and from the last one to the parent, and all ways from child to child follow from
that. -/

namespace Descent

open Descent.Tree SyntaxTree

namespace ParseTree

/-- Going on from a start yields these nodes, and then it ends. -/
inductive Path (next : Nat → Option Nat) : Option Nat → List Nat → Prop
  | ended : Path next none []
  | step (id : Nat) {nodes : List Nat} (further : Path next (next id) nodes) :
      Path next (some id) (id :: nodes)

/-- Nodes with a link from each one to the next and from the last one to the parent. -/
structure Row (tree : ParseTree) (parent : Nat) (nodes : List Nat) : Prop where
  linked : nodes.IsChain fun id next => (tree.raw id).link = .sibling next
  last : ∀ id ∈ nodes.getLast?, (tree.raw id).link = .parent parent

structure Family (tree : ParseTree) (parent : Nat) (nodes : List Nat) : Prop where
  row : tree.Row parent nodes
  first : tree.firstChild? parent = nodes.head?
  nodup : nodes.Nodup
  room : nodes.length ≤ tree.nodeCount

variable {tree : ParseTree} {parent id : Nat}

section Paths

variable {next : Nat → Option Nat} {start : Option Nat} {nodes : List Nat}

private theorem follow_of_path (path : Path next start nodes)
    (room : nodes.length ≤ tree.nodeCount) : tree.follow next start = nodes := by
  unfold follow
  generalize tree.nodeCount = steps at room
  induction path generalizing steps with
  | ended => cases steps <;> rfl
  | step id further ih =>
    cases steps with
    | zero => exact absurd room (Nat.not_succ_le_zero _)
    | succ steps => exact congrArg (id :: ·) (ih steps (Nat.le_of_succ_le_succ room))

/-- Going around from a node, and no further than back to it, yields all others. -/
theorem path_of_ring {origin start : Nat} {others : List Nat}
    (ring : (start :: (others ++ [origin])).IsChain fun id other => next id = some other)
    (apart : origin ∉ others) :
    Path (fun id => (next id).filter (· != origin)) ((next start).filter (· != origin)) others := by
  induction others generalizing start with
  | nil =>
    have back : next start = some origin := (List.isChain_cons_cons.mp ring).1
    rw [back, Option.filter_some, if_neg (by simp)]
    exact .ended
  | cons other others ih =>
    obtain ⟨forth, ring⟩ := List.isChain_cons_cons.mp ring
    obtain ⟨different, apart⟩ := List.ne_and_not_mem_of_not_mem_cons apart
    rw [forth, Option.filter_some, if_pos (by simpa using different.symm)]
    exact .step other (ih ring apart)

end Paths

namespace Row

variable {nodes before after : List Nat}

theorem later (before : List Nat) (row : tree.Row parent (before ++ after))
    (nonempty : after ≠ []) : tree.Row parent after where
  linked := row.linked.right_of_append
  last id found := row.last id (by rw [List.getLast?_append_of_ne_nil _ nonempty]; exact found)

theorem link (row : tree.Row parent (id :: after)) :
    (tree.raw id).link = match after with
      | [] => .parent parent
      | next :: _ => .sibling next := by
  cases after with
  | nil => exact row.last id rfl
  | cons next after => exact (List.isChain_cons_cons.mp row.linked).1

theorem nextSibling? (row : tree.Row parent (id :: after)) :
    tree.nextSibling? id = after.head? := by
  rw [ParseTree.nextSibling?, row.link]
  cases after <;> rfl

theorem isLastChild (row : tree.Row parent (id :: after)) :
    tree.isLastChild id = after.isEmpty := by
  rw [ParseTree.isLastChild, row.link]
  cases after <;> rfl

theorem path (row : tree.Row parent nodes) : Path tree.nextSibling? nodes.head? nodes := by
  induction nodes with
  | nil => exact .ended
  | cons id after ih =>
    apply Path.step
    rw [row.nextSibling?]
    by_cases nonempty : after = []
    · subst nonempty
      exact .ended
    · exact ih (row.later [id] nonempty)

private theorem parent?_go (row : tree.Row parent (id :: after)) {steps : Nat}
    (room : after.length < steps) : parent?.go tree steps id = some parent := by
  induction after generalizing id steps with
  | nil =>
    cases steps with
    | zero => cases room
    | succ steps => simp only [parent?.go, row.link]
  | cons next after ih =>
    cases steps with
    | zero => cases room
    | succ steps =>
      simp only [parent?.go, row.link]
      exact ih (row.later [id] nofun) (Nat.lt_of_succ_lt_succ room)

end Row

namespace Family

variable {nodes before after : List Nat}

theorem path (family : tree.Family parent nodes) :
    Path tree.nextSibling? (tree.firstChild? parent) nodes :=
  family.first ▸ family.row.path

theorem children (family : tree.Family parent nodes) : tree.children parent = nodes :=
  follow_of_path family.path family.room

section Member

variable (family : tree.Family parent (before ++ id :: after))

include family

theorem later : tree.Row parent (id :: after) :=
  family.row.later before nofun

theorem parent? : tree.parent? id = some parent := by
  have room := family.room
  rw [List.length_append, List.length_cons] at room
  exact family.later.parent?_go (by omega)

theorem apart : id ∉ after ++ before := by
  have nodup := (List.perm_middle.nodup_iff).mp family.nodup
  rw [List.nodup_cons] at nodup
  intro member
  exact nodup.1 (List.mem_append.mpr (List.mem_append.mp member).symm)

/-- Going around from a child leads to the later ones, then to the earlier ones, then back. -/
theorem ring : (id :: ((after ++ before) ++ [id])).IsChain
    fun id other => tree.nextAround id = some other := by
  have along : ∀ {nodes : List Nat},
      (nodes.IsChain fun id next => (tree.raw id).link = .sibling next) →
        nodes.IsChain fun id other => tree.nextAround id = some other := by
    intro nodes linked
    apply linked.imp
    intro id next link
    rw [nextAround, link]
  obtain ⟨earlier, later⟩ := List.isChain_split.mp family.row.linked
  rw [List.append_assoc, ← List.cons_append]
  refine List.isChain_append.mpr ⟨along later, along earlier, ?_⟩
  intro last isLast first isFirst
  rw [nextAround, family.later.last last isLast]
  apply family.first.trans
  rw [← isFirst]
  cases before <;> rfl

theorem siblings_path :
    Path (fun sibling => (tree.nextAround sibling).filter (· != id))
      ((tree.nextAround id).filter (· != id)) (after ++ before) :=
  path_of_ring family.ring family.apart

/-- The siblings of a child are all other children, the later ones first. -/
theorem siblings : tree.siblings id = after ++ before := by
  have room := family.room
  rw [ParseTree.siblings]
  simp only [family.parent?, Option.isNone_some, Bool.false_eq_true, if_false]
  apply follow_of_path family.siblings_path
  simp only [List.length_append, List.length_cons] at room ⊢
  omega

end Member

end Family

/-- Trees that lie one after the other are linked. -/
theorem row_of_held {trees : List SyntaxTree} (held : HeldAll tree.arena id trees)
    (linked : ∀ last ∈ lastId id trees, tree.arena.link? last = some (.parent parent)) :
    tree.Row parent (numbers id trees) := by
  constructor
  · clear linked
    induction trees generalizing id with
    | nil => exact .nil
    | cons first rest ih =>
      obtain ⟨-, next, others⟩ := held
      cases rest with
      | nil => exact .singleton id
      | cons second rest => exact .cons_cons (raw_link (next nofun)) (ih others)
  · intro last found
    rw [← lastId_eq] at found
    exact raw_link (linked last found)

/-- The children of a tree that lies in an arena are a family. -/
theorem family_of_held {production : ProductionId} {span : Span} {children : List SyntaxTree}
    (held : (SyntaxTree.node production span children).Held tree.arena id)
    (room : (SyntaxTree.node production span children).size ≤ tree.nodeCount) :
    tree.Family id (numbers (id + 1) children) := by
  obtain ⟨shown, inside, linked⟩ := held
  refine ⟨row_of_held inside linked, ?_, (pairwise_numbers _ _).imp Nat.ne_of_lt, ?_⟩
  · rw [firstChild?_of_shows shown]
    cases children <;> rfl
  · have length := length_le_sizeAll children
    rw [SyntaxTree.size] at room
    rw [length_numbers]
    omega

namespace Planted

variable {whole inner : SyntaxTree} (planted : tree.Planted whole)

include planted

theorem held_part (part : whole.Part id inner) : inner.Held tree.arena id := by
  have held := part.held planted.held
  rwa [Nat.zero_add] at held

theorem room (part : whole.Part id inner) : inner.size ≤ tree.nodeCount := by
  have within := part.within
  have count := planted.count
  omega

theorem part (less : id < tree.nodeCount) : ∃ inner, whole.Part id inner :=
  exists_part whole (planted.count ▸ less)

theorem family {production : ProductionId} {span : Span} {children : List SyntaxTree}
    (part : whole.Part id (.node production span children)) :
    tree.Family id (numbers (id + 1) children) :=
  family_of_held (planted.held_part part) (planted.room part)

end Planted

end ParseTree
end Descent
