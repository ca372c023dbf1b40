import Descent.Proofs.TreeLayout

/-! The nodes of a tree by number, in the order in which a walk meets them. Wherever a tree lies in
an arena, what is below one of its nodes lies there too, as many places further on as the node's
number says. -/

namespace Descent.SyntaxTree

open Descent.Tree

/-- What there is in a tree at the node with some number. -/
inductive Part : SyntaxTree → Nat → SyntaxTree → Prop
  | root (tree : SyntaxTree) : Part tree 0 tree
  | inside (production : ProductionId) (span : Span) (before : List SyntaxTree)
      {child : SyntaxTree} (after : List SyntaxTree) {number : Nat} {inner : SyntaxTree}
      (part : child.Part number inner) :
      Part (.node production span (before ++ child :: after)) (sizeAll before + number + 1) inner

def numbers (id : Nat) : List SyntaxTree → List Nat
  | [] => []
  | first :: rest => id :: numbers (id + first.size) rest

mutual

/-- A walk through a tree whose nodes are numbered from `id` on. -/
def numbered (id : Nat) : SyntaxTree → List (WalkEvent × Nat)
  | leaf .. => [(.leaf, id)]
  | node _ _ children => (.enter, id) :: (numberedAll (id + 1) children ++ [(.leave, id)])
termination_by structural tree => tree

def numberedAll (id : Nat) : List SyntaxTree → List (WalkEvent × Nat)
  | [] => []
  | first :: rest => first.numbered id ++ numberedAll (id + first.size) rest
termination_by structural trees => trees

end

mutual

def height : SyntaxTree → Nat
  | leaf .. => 0
  | node _ _ children => heightAll children + 1
termination_by structural tree => tree

def heightAll : List SyntaxTree → Nat
  | [] => 0
  | first :: rest => max first.height (heightAll rest)
termination_by structural trees => trees

end

section Parts

variable {tree inner : SyntaxTree} {number : Nat}

mutual

theorem exists_part (tree : SyntaxTree) {number : Nat} (less : number < tree.size) :
    ∃ inner, tree.Part number inner := by
  match number, tree with
  | 0, tree => exact ⟨tree, .root tree⟩
  | number + 1, .leaf kind span => exact absurd less (by simp [size])
  | number + 1, .node production span children =>
    obtain ⟨before, child, after, further, inner, rfl, rfl, part⟩ :=
      exists_part_of_all children (Nat.lt_of_succ_lt_succ less)
    exact ⟨inner, .inside production span before after part⟩
termination_by structural tree

private theorem exists_part_of_all (trees : List SyntaxTree) {number : Nat}
    (less : number < sizeAll trees) :
    ∃ before child after further inner, trees = before ++ child :: after ∧
      number = sizeAll before + further ∧ child.Part further inner := by
  match trees with
  | [] => exact absurd less (Nat.not_lt_zero _)
  | first :: rest =>
    by_cases here : number < first.size
    · obtain ⟨inner, part⟩ := exists_part first here
      exact ⟨[], first, rest, number, inner, rfl, (Nat.zero_add _).symm, part⟩
    · rw [sizeAll_cons] at less
      obtain ⟨further, rfl⟩ := Nat.exists_eq_add_of_le (Nat.le_of_not_lt here)
      obtain ⟨before, child, after, further, inner, rfl, rfl, part⟩ :=
        exists_part_of_all rest (Nat.lt_of_add_lt_add_left less)
      refine ⟨first :: before, child, after, further, inner, rfl, ?_, part⟩
      rw [sizeAll_cons, Nat.add_assoc]
termination_by structural trees

end

theorem Part.within (part : tree.Part number inner) : number + inner.size ≤ tree.size := by
  induction part with
  | root tree => exact Nat.le_of_eq (Nat.zero_add _)
  | inside production span before after part ih =>
    rw [size, sizeAll_append, sizeAll_cons]
    omega

theorem Part.lt_size (part : tree.Part number inner) : number < tree.size :=
  Nat.lt_of_lt_of_le (Nat.lt_add_of_pos_right inner.size_pos) part.within

theorem height_le_heightAll (before : List SyntaxTree) (child : SyntaxTree)
    (after : List SyntaxTree) : child.height ≤ heightAll (before ++ child :: after) := by
  induction before with
  | nil => exact Nat.le_max_left ..
  | cons first before ih => exact Nat.le_trans ih (Nat.le_max_right ..)

/-- One of some trees is as high as the highest. -/
theorem exists_highest {trees : List SyntaxTree} (tall : 0 < heightAll trees) :
    ∃ before child after, trees = before ++ child :: after ∧ child.height = heightAll trees := by
  induction trees with
  | nil => cases tall
  | cons first rest ih =>
    rw [heightAll] at tall ⊢
    by_cases here : heightAll rest ≤ first.height
    · exact ⟨[], first, rest, rfl, (Nat.max_eq_left here).symm⟩
    · obtain ⟨before, child, after, rfl, same⟩ := ih (by omega)
      exact ⟨first :: before, child, after, rfl, same.trans (by omega)⟩

theorem Part.height_le (part : tree.Part number inner) : inner.height ≤ tree.height := by
  induction part with
  | root tree => exact Nat.le_refl _
  | inside production span before after part ih =>
    exact Nat.le_trans ih (Nat.le_succ_of_le (height_le_heightAll before _ after))

theorem Part.held {arena : Arena} {id : Nat} (part : tree.Part number inner)
    (held : tree.Held arena id) : inner.Held arena (id + number) := by
  induction part generalizing id with
  | root tree => exact held
  | @inside production span before child after number inner part ih =>
    have child := (heldAll_append.mp held.2.1).2.2.1
    have place : id + 1 + sizeAll before + number = id + (sizeAll before + number + 1) := by omega
    exact place ▸ ih child

theorem Part.child {production : ProductionId} {span : Span} {before after : List SyntaxTree}
    {child : SyntaxTree}
    (part : tree.Part number (.node production span (before ++ child :: after))) :
    tree.Part (number + 1 + sizeAll before) child := by
  generalize same : SyntaxTree.node production span (before ++ child :: after) = inner at part
  induction part with
  | root tree =>
    subst same
    have here := Part.inside production span before after (.root child)
    have place : sizeAll before + 0 + 1 = 0 + 1 + sizeAll before := by omega
    exact place ▸ here
  | @inside production' span' before' child' after' number inner part ih =>
    have deeper := Part.inside production' span' before' after' (ih same)
    have place : sizeAll before' + (number + 1 + sizeAll before) + 1 =
        sizeAll before' + number + 1 + 1 + sizeAll before := by omega
    exact place ▸ deeper

theorem Part.parent (part : tree.Part number inner) (lower : number ≠ 0) :
    ∃ outer production span before after,
      tree.Part outer (.node production span (before ++ inner :: after)) ∧
        number = outer + 1 + sizeAll before := by
  induction part with
  | root tree => exact absurd rfl lower
  | @inside production span before child after number inner part ih =>
    by_cases here : number = 0
    · subst here
      cases part
      exact ⟨0, production, span, before, after, .root _, by omega⟩
    · obtain ⟨outer, production', span', before', after', found, rfl⟩ := ih here
      exact ⟨_, production', span', before', after', .inside production span before after found,
        by omega⟩

end Parts

section Numbers

variable {id : Nat} {trees : List SyntaxTree}

theorem numbers_append (id : Nat) (first rest : List SyntaxTree) :
    numbers id (first ++ rest) = numbers id first ++ numbers (id + sizeAll first) rest := by
  induction first generalizing id with
  | nil => rfl
  | cons tree first ih =>
    rw [List.cons_append, numbers, ih, sizeAll_cons, numbers, List.cons_append, Nat.add_assoc]

theorem length_numbers (id : Nat) (trees : List SyntaxTree) :
    (numbers id trees).length = trees.length := by
  induction trees generalizing id with
  | nil => rfl
  | cons first rest ih => rw [numbers, List.length_cons, List.length_cons, ih]

theorem length_le_sizeAll (trees : List SyntaxTree) : trees.length ≤ sizeAll trees := by
  induction trees with
  | nil => exact Nat.le_refl _
  | cons first rest ih =>
    have positive := first.size_pos
    rw [List.length_cons, sizeAll_cons]
    omega

theorem mem_numbers {number : Nat} (member : number ∈ numbers id trees) :
    ∃ before child after, trees = before ++ child :: after ∧ number = id + sizeAll before := by
  induction trees generalizing id with
  | nil => cases member
  | cons first rest ih =>
    rcases List.mem_cons.mp member with rfl | member
    · exact ⟨[], first, rest, rfl, rfl⟩
    · obtain ⟨before, child, after, rfl, rfl⟩ := ih member
      exact ⟨first :: before, child, after, rfl, by rw [sizeAll_cons, Nat.add_assoc]⟩

theorem numbers_range {number : Nat} (member : number ∈ numbers id trees) :
    id ≤ number ∧ number < id + sizeAll trees := by
  obtain ⟨before, child, after, rfl, rfl⟩ := mem_numbers member
  have positive := child.size_pos
  rw [sizeAll_append, sizeAll_cons]
  omega

theorem pairwise_numbers (id : Nat) (trees : List SyntaxTree) :
    (numbers id trees).Pairwise (· < ·) := by
  induction trees generalizing id with
  | nil => exact .nil
  | cons first rest ih =>
    refine .cons ?_ (ih _)
    intro number member
    have further := (numbers_range member).1
    have positive := first.size_pos
    omega

theorem lastId_eq (id : Nat) (trees : List SyntaxTree) :
    lastId id trees = (numbers id trees).getLast? := by
  induction trees generalizing id with
  | nil => rfl
  | cons first rest ih =>
    cases rest with
    | nil => rfl
    | cons second others => exact (ih _).trans List.getLast?_cons_cons.symm

end Numbers

section Walks

mutual

theorem numbered_length (tree : SyntaxTree) (id : Nat) :
    (tree.numbered id).length ≤ 2 * tree.size := by
  match tree with
  | .leaf kind span => exact Nat.le_succ 1
  | .node production span children =>
    have bound := numberedAll_length children (id + 1)
    simp only [numbered, size, List.length_cons, List.length_append, List.length_nil]
    omega
termination_by structural tree

private theorem numberedAll_length (trees : List SyntaxTree) (id : Nat) :
    (numberedAll id trees).length ≤ 2 * sizeAll trees := by
  match trees with
  | [] => exact Nat.le_refl _
  | first :: rest =>
    have bound := numbered_length first id
    have others := numberedAll_length rest (id + first.size)
    rw [numberedAll, sizeAll, List.length_append]
    omega
termination_by structural trees

end

private theorem numberedAll_append (id : Nat) (first rest : List SyntaxTree) :
    numberedAll id (first ++ rest) =
      numberedAll id first ++ numberedAll (id + sizeAll first) rest := by
  induction first generalizing id with
  | nil => rfl
  | cons tree first ih =>
    rw [List.cons_append, numberedAll, ih, sizeAll_cons, numberedAll, List.append_assoc,
      Nat.add_assoc]

mutual

private theorem numbered_range (tree : SyntaxTree) {id : Nat} {met : WalkEvent × Nat}
    (member : met ∈ tree.numbered id) : id ≤ met.2 ∧ met.2 < id + tree.size := by
  match tree with
  | .leaf kind span =>
    cases List.mem_singleton.mp member
    exact ⟨Nat.le_refl _, Nat.lt_succ_self _⟩
  | .node production span children =>
    rw [size]
    simp only [numbered, List.mem_cons, List.mem_append, List.not_mem_nil, or_false] at member
    rcases member with rfl | member | rfl
    · exact ⟨Nat.le_refl _, by dsimp only; omega⟩
    · have inside := numberedAll_range children member
      omega
    · exact ⟨Nat.le_refl _, by dsimp only; omega⟩
termination_by structural tree

private theorem numberedAll_range (trees : List SyntaxTree) {id : Nat} {met : WalkEvent × Nat}
    (member : met ∈ numberedAll id trees) : id ≤ met.2 ∧ met.2 < id + sizeAll trees := by
  match trees with
  | [] => cases member
  | first :: rest =>
    rw [sizeAll_cons]
    rcases List.mem_append.mp member with member | member
    · have inside := numbered_range first member
      omega
    · have inside := numberedAll_range rest member
      omega
termination_by structural trees

end

def Entering (met : WalkEvent × Nat) : Bool := met.1 != .leave

@[simp] theorem entering_enter (id : Nat) : Entering (.enter, id) = true := rfl

@[simp] theorem entering_leave (id : Nat) : Entering (.leave, id) = false := rfl

mutual

/-- A walk enters the nodes in the order of their numbers. -/
theorem numbered_entering (tree : SyntaxTree) (id : Nat) :
    ((tree.numbered id).filter Entering).map Prod.snd = List.range' id tree.size := by
  match tree with
  | .leaf kind span => rfl
  | .node production span children =>
    have inside := numberedAll_entering children (id + 1)
    have parted : (numbered id (.node production span children)).filter Entering =
        (.enter, id) :: (numberedAll (id + 1) children).filter Entering := by
      simp [numbered, List.filter_cons]
    rw [parted, List.map_cons, inside, size, List.range'_succ]
termination_by structural tree

private theorem numberedAll_entering (trees : List SyntaxTree) (id : Nat) :
    ((numberedAll id trees).filter Entering).map Prod.snd = List.range' id (sizeAll trees) := by
  match trees with
  | [] => rfl
  | first :: rest =>
    rw [numberedAll, sizeAll_cons, List.filter_append, List.map_append, numbered_entering first,
      numberedAll_entering rest, List.range'_append_1]
termination_by structural trees

end

def meetings (id : Nat) : SyntaxTree → List (WalkEvent × Nat)
  | leaf .. => [(.leaf, id)]
  | node .. => [(.enter, id), (.leave, id)]

private theorem filter_numberedAll_of_outside {id place : Nat} {trees : List SyntaxTree}
    (outside : place < id ∨ id + sizeAll trees ≤ place) :
    ((numberedAll id trees).filter fun met => met.2 = place) = [] := by
  apply List.filter_eq_nil_iff.mpr
  intro met member
  have range := numberedAll_range trees member
  simp only [decide_eq_true_eq]
  omega

private theorem filter_numbered_root (tree : SyntaxTree) (id : Nat) :
    ((tree.numbered id).filter fun met => met.2 = id) = tree.meetings id := by
  cases tree with
  | leaf kind span => simp [numbered, meetings]
  | node production span children =>
    have inside : ((numberedAll (id + 1) children).filter fun met => met.2 = id) = [] :=
      filter_numberedAll_of_outside (.inl (Nat.lt_succ_self id))
    simp [numbered, meetings, inside]

/-- A walk meets every node once if it is a leaf, and otherwise once before and once after what is
below it. -/
theorem Part.filter_numbered {tree inner : SyntaxTree} {number : Nat}
    (part : tree.Part number inner) (id : Nat) :
    ((tree.numbered id).filter fun met => met.2 = id + number) = inner.meetings (id + number) := by
  induction part generalizing id with
  | root tree => exact filter_numbered_root tree id
  | @inside production span before child after number inner part ih =>
    have within := part.lt_size
    have place : id + (sizeAll before + number + 1) = id + 1 + sizeAll before + number := by omega
    have earlier : ((numberedAll (id + 1) before).filter
        fun met => met.2 = id + 1 + sizeAll before + number) = [] :=
      filter_numberedAll_of_outside (.inr (Nat.le_add_right ..))
    have later : ((numberedAll (id + 1 + sizeAll before + child.size) after).filter
        fun met => met.2 = id + 1 + sizeAll before + number) = [] :=
      filter_numberedAll_of_outside (.inl (by omega))
    have outside : ¬id = id + 1 + sizeAll before + number := by omega
    rw [place, ← ih, numbered, numberedAll_append, numberedAll]
    simp [earlier, later, outside]

end Walks

end Descent.SyntaxTree
