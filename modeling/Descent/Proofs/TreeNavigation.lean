import Descent.Proofs.LosslessTrees
import Descent.Proofs.TreeFamilies
import Mathlib.Order.Bounds.Defs

/-! All ways through the tree of a run agree. From one link for each node come a walk that meets
everything in order, parents and children that know each other, and the depth. -/

namespace Descent

open Descent.Tree SyntaxTree

namespace ParseTree

/-- Productions, each of which is a child of the one before it. -/
structure Nested (tree : ParseTree) (productions : List Nat) : Prop where
  linked : productions.IsChain fun outer inner => tree.parent? inner = some outer
  within : ∀ id ∈ productions, id < tree.nodeCount ∧ (tree.raw id).isToken = false

/-- What holds of the ways through a tree. Where one of them goes on from node to node, a `Path` or
a `Walked` says that it ends, and where. -/
structure Navigable (tree : ParseTree) (root : Nat) : Prop where
  /-- A walk enters the nodes in the order of their numbers. -/
  order : (tree.walk.filter Entering).map Prod.snd = List.range tree.nodeCount
  /-- It meets a token once, and a production before and after what is below it. -/
  meets : ∀ id < tree.nodeCount, (tree.walk.filter fun met => met.2 = id) =
    if (tree.raw id).isToken then [(.leaf, id)] else [(.enter, id), (.leave, id)]
  walked : ∀ id < tree.nodeCount, tree.Walked id (some (.visit id)) (tree.walkFrom id)
  /-- A walk from a production goes through its children, one after the other. -/
  walkFrom : ∀ id < tree.nodeCount, tree.walkFrom id =
    if (tree.raw id).isToken then [(.leaf, id)]
    else (.enter, id) :: ((tree.children id).flatMap tree.walkFrom ++ [(.leave, id)])
  listed : ∀ id < tree.nodeCount,
    Path tree.nextSibling? (tree.firstChild? id) (tree.children id) ∧ (tree.children id).Nodup
  mem_children : ∀ id < tree.nodeCount, ∀ child,
    child ∈ tree.children id ↔ child < tree.nodeCount ∧ tree.parent? child = some id
  isLastChild : ∀ id < tree.nodeCount, ∀ child ∈ tree.children id,
    tree.isLastChild child ↔ (tree.children id).getLast? = some child
  /-- The way to the parent leads over the later siblings, and ends. -/
  later : ∀ id < tree.nodeCount, ∃ later, Path tree.nextSibling? (some id) later
  parent? : ∀ id < tree.nodeCount, id ≠ root →
    ∃ parent < tree.nodeCount, tree.parent? id = some parent
  /-- The siblings of a child are the children after it and then those before it. -/
  siblings : ∀ id < tree.nodeCount, ∀ parent, tree.parent? id = some parent →
    Path (fun sibling => (tree.nextAround sibling).filter (· != id))
        ((tree.nextAround id).filter (· != id)) (tree.siblings id) ∧
      ∃ before after, tree.children parent = before ++ id :: after ∧
        tree.siblings id = after ++ before
  alone : tree.parent? root = none ∧ tree.siblings root = [] ∧ tree.isLastChild root = false
  /-- The depth is the number of productions on the longest way down. -/
  depth : IsGreatest {count | ∃ productions, tree.Nested productions ∧ productions.length = count}
    tree.depth

variable {tree : ParseTree} {id : Nat}

section Depth

mutual

/-- A walk through a tree comes back to where it was, and has been as deep as the tree is high. -/
theorem nesting_numbered (inner : SyntaxTree) (id depth deepest : Nat) (reached : depth ≤ deepest) :
    (inner.numbered id).foldl nesting (depth, deepest) =
      (depth, max deepest (depth + inner.height)) := by
  match inner with
  | .leaf kind span =>
    rw [height, Nat.add_zero, Nat.max_eq_left reached]
    rfl
  | .node production span children =>
    have inside := nesting_numberedAll children (id + 1) (depth + 1) (max deepest (depth + 1))
      (Nat.le_max_right ..)
    simp only [numbered, List.foldl_cons, List.foldl_append, List.foldl_nil, nesting, inside,
    height]
    congr 1
    omega
termination_by structural inner

private theorem nesting_numberedAll (trees : List SyntaxTree) (id depth deepest : Nat)
    (reached : depth ≤ deepest) :
    (numberedAll id trees).foldl nesting (depth, deepest) =
      (depth, max deepest (depth + heightAll trees)) := by
  match trees with
  | [] =>
    rw [heightAll, Nat.add_zero, Nat.max_eq_left reached]
    rfl
  | first :: rest =>
    rw [numberedAll, List.foldl_append, nesting_numbered first id depth deepest reached,
      nesting_numberedAll rest _ depth _ (Nat.le_trans reached (Nat.le_max_left ..)), heightAll]
    congr 1
    omega
termination_by structural trees

end

end Depth

namespace Planted

variable {whole inner : SyntaxTree} (planted : tree.Planted whole)

include planted

private theorem walk_eq : tree.walk = whole.numbered 0 := by
  rw [ParseTree.walk, planted.root]
  exact walkFrom_of_held planted.held (planted.room (.root whole))

private theorem walkFrom_part (part : whole.Part id inner) : tree.walkFrom id = inner.numbered id :=
  walkFrom_of_held (planted.held_part part) (planted.room part)

section Walks

private theorem meetings_eq (part : whole.Part id inner) :
    inner.meetings id =
      if (tree.raw id).isToken then [(.leaf, id)] else [(.enter, id), (.leave, id)] := by
  have held := planted.held_part part
  cases inner with
  | leaf kind span => rw [if_pos (isToken_of_leaf held), meetings]
  | node production span children => rw [if_neg (by simp [isToken_of_node held.1]), meetings]

private theorem meets (less : id < tree.nodeCount) :
    (tree.walk.filter fun met => met.2 = id) =
      if (tree.raw id).isToken then [(.leaf, id)] else [(.enter, id), (.leave, id)] := by
  obtain ⟨inner, part⟩ := planted.part less
  have met := part.filter_numbered 0
  rw [Nat.zero_add] at met
  rw [planted.walk_eq, met, planted.meetings_eq part]

/-- What the walks from some nodes below a production meet, one walk after the other. -/
private theorem flatMap_walkFrom {production : ProductionId} {span : Span}
    (earlier trees : List SyntaxTree)
    (part : whole.Part id (.node production span (earlier ++ trees))) :
    (numbers (id + 1 + sizeAll earlier) trees).flatMap tree.walkFrom =
      numberedAll (id + 1 + sizeAll earlier) trees := by
  induction trees generalizing earlier with
  | nil => rfl
  | cons first rest ih =>
    have others := ih (earlier ++ [first]) (by rwa [List.append_assoc])
    simp only [sizeAll_append, sizeAll_cons, sizeAll_nil, Nat.add_zero, ← Nat.add_assoc] at others
    rw [numbers, List.flatMap_cons, planted.walkFrom_part part.child, others, numberedAll]

theorem walkFrom_eq (less : id < tree.nodeCount) :
    tree.walkFrom id =
      if (tree.raw id).isToken then [(.leaf, id)]
      else (.enter, id) :: ((tree.children id).flatMap tree.walkFrom ++ [(.leave, id)]) := by
  obtain ⟨inner, part⟩ := planted.part less
  have held := planted.held_part part
  rw [planted.walkFrom_part part]
  cases inner with
  | leaf kind span => rw [if_pos (isToken_of_leaf held), numbered]
  | node production span children =>
    have inside := planted.flatMap_walkFrom [] children part
    rw [sizeAll_nil, Nat.add_zero] at inside
    rw [if_neg (by simp [isToken_of_node held.1]), (planted.family part).children, inside, numbered]

end Walks

section Families

theorem family_nil {kind : TokenKind} {span : Span} (part : whole.Part id (.leaf kind span)) :
    tree.Family id [] := by
  have token := isToken_of_leaf (planted.held_part part)
  have childless : tree.firstChild? id = none := by simp [firstChild?, token]
  exact ⟨⟨.nil, by simp⟩, childless, .nil, Nat.zero_le _⟩

private theorem family_children (less : id < tree.nodeCount) :
    tree.Family id (tree.children id) := by
  obtain ⟨inner, part⟩ := planted.part less
  cases inner with
  | leaf kind span =>
    have family := planted.family_nil part
    exact family.children.symm ▸ family
  | node production span children =>
    have family := planted.family part
    exact family.children.symm ▸ family

theorem parent?_root : tree.parent? 0 = none := by
  rw [ParseTree.parent?]
  cases tree.nodeCount with
  | zero => rfl
  | succ steps => simp only [parent?.go, raw_link planted.unlinked]

theorem mem_children_of_ne (less : id < tree.nodeCount) (lower : id ≠ 0) :
    ∃ parent < tree.nodeCount, id ∈ tree.children parent := by
  obtain ⟨inner, part⟩ := planted.part less
  obtain ⟨parent, production, span, before, after, outer, rfl⟩ := part.parent lower
  refine ⟨parent, planted.count ▸ outer.lt_size, ?_⟩
  rw [(planted.family outer).children, numbers_append, numbers]
  exact List.mem_append_right _ List.mem_cons_self

private theorem parent?_of_mem {parent : Nat} (less : parent < tree.nodeCount)
    (member : id ∈ tree.children parent) : tree.parent? id = some parent := by
  have family := planted.family_children less
  obtain ⟨before, after, split⟩ := List.append_of_mem member
  rw [split] at family
  exact family.parent?

private theorem lt_of_mem {parent : Nat} (less : parent < tree.nodeCount)
    (member : id ∈ tree.children parent) : id < tree.nodeCount := by
  obtain ⟨inner, part⟩ := planted.part less
  cases inner with
  | leaf kind span =>
    rw [(planted.family_nil part).children] at member
    cases member
  | node production span children =>
    rw [(planted.family part).children] at member
    have range := numbers_range member
    have within := part.within
    have count := planted.count
    rw [SyntaxTree.size] at within
    omega

private theorem mem_children_iff {parent : Nat} (less : parent < tree.nodeCount) :
    id ∈ tree.children parent ↔ id < tree.nodeCount ∧ tree.parent? id = some parent := by
  constructor
  · intro member
    exact ⟨planted.lt_of_mem less member, planted.parent?_of_mem less member⟩
  · intro ⟨within, found⟩
    have lower : id ≠ 0 := by
      rintro rfl
      rw [planted.parent?_root] at found
      cases found
    obtain ⟨other, beyond, member⟩ := planted.mem_children_of_ne within lower
    rw [planted.parent?_of_mem beyond member] at found
    cases found
    exact member

/-- A child among its siblings. -/
private theorem split_of_parent? {parent : Nat} (less : id < tree.nodeCount)
    (found : tree.parent? id = some parent) :
    ∃ before after, tree.children parent = before ++ id :: after ∧
      tree.Family parent (before ++ id :: after) := by
  have lower : id ≠ 0 := by
    rintro rfl
    rw [planted.parent?_root] at found
    cases found
  obtain ⟨other, beyond, member⟩ := planted.mem_children_of_ne less lower
  rw [planted.parent?_of_mem beyond member] at found
  cases found
  obtain ⟨before, after, split⟩ := List.append_of_mem member
  exact ⟨before, after, split, split ▸ planted.family_children beyond⟩

private theorem isLastChild_iff {parent : Nat} (less : parent < tree.nodeCount)
    (member : id ∈ tree.children parent) :
    tree.isLastChild id ↔ (tree.children parent).getLast? = some id := by
  have family := planted.family_children less
  obtain ⟨before, after, split⟩ := List.append_of_mem member
  rw [split] at family ⊢
  rw [family.later.isLastChild, List.getLast?_append_of_ne_nil _ (List.cons_ne_nil _ _)]
  cases after with
  | nil => simp
  | cons next after =>
    simp only [List.isEmpty_cons, Bool.false_eq_true, false_iff]
    intro found
    rw [List.getLast?_cons_cons] at found
    exact family.apart (List.mem_append_left _ (List.mem_of_getLast? found))

private theorem later_path (less : id < tree.nodeCount) :
    ∃ later, Path tree.nextSibling? (some id) later := by
  by_cases lower : id = 0
  · subst lower
    have ended : tree.nextSibling? 0 = none := by
      rw [ParseTree.nextSibling?, raw_link planted.unlinked]
    exact ⟨[0], .step 0 (ended ▸ .ended)⟩
  · obtain ⟨parent, beyond, member⟩ := planted.mem_children_of_ne less lower
    obtain ⟨before, after, -, family⟩ :=
      planted.split_of_parent? less (planted.parent?_of_mem beyond member)
    exact ⟨_, family.later.path⟩

end Families

section Depth

private theorem depth_eq : tree.depth = whole.height := by
  rw [ParseTree.depth, planted.walk_eq, nesting_numbered whole 0 0 0 (Nat.le_refl 0)]
  simp

/-- No way down from a node is longer than what is there is high. -/
private theorem length_le_height {rest : List Nat} (part : whole.Part id inner)
    (nested : tree.Nested (id :: rest)) : (id :: rest).length ≤ inner.height := by
  induction rest generalizing id inner with
  | nil =>
    obtain ⟨-, production⟩ := nested.within id List.mem_cons_self
    cases inner with
    | leaf kind span => simp [isToken_of_leaf (planted.held_part part)] at production
    | node => exact Nat.succ_le_succ (Nat.zero_le _)
  | cons next rest ih =>
    obtain ⟨down, further⟩ := List.isChain_cons_cons.mp nested.linked
    have less := planted.count ▸ part.lt_size
    have member := (planted.mem_children_iff less).mpr
      ⟨(nested.within next (by simp)).1, down⟩
    cases inner with
    | leaf kind span =>
      rw [(planted.family_nil part).children] at member
      cases member
    | node production span children =>
      rw [(planted.family part).children] at member
      obtain ⟨before, child, after, rfl, rfl⟩ := mem_numbers member
      have longest := ih part.child
        ⟨further, fun other found => nested.within other (List.mem_cons_of_mem _ found)⟩
      exact Nat.succ_le_succ (Nat.le_trans longest (height_le_heightAll before child after))

/-- From every production a way leads down that is as long as what is there is high. -/
private theorem exists_nested {height : Nat} (part : whole.Part id inner)
    (tall : inner.height = height + 1) :
    ∃ rest, tree.Nested (id :: rest) ∧ rest.length = height := by
  induction height generalizing id inner with
  | zero =>
    cases inner with
    | leaf kind span => cases tall
    | node production span children =>
      have here := And.intro (planted.count ▸ part.lt_size)
        (isToken_of_node (planted.held_part part).1)
      exact ⟨[], ⟨.singleton id, by simpa using here⟩, rfl⟩
  | succ height ih =>
    cases inner with
    | leaf kind span => cases tall
    | node production span children =>
      have less := planted.count ▸ part.lt_size
      have inside : heightAll children = height + 1 := Nat.succ_inj.mp tall
      have positive : 0 < heightAll children := by omega
      obtain ⟨before, child, after, rfl, same⟩ := exists_highest positive
      obtain ⟨rest, nested, long⟩ := ih part.child (same.trans inside)
      have member : id + 1 + sizeAll before ∈ tree.children id := by
        rw [(planted.family part).children, numbers_append]
        exact List.mem_append_right _ List.mem_cons_self
      refine ⟨(id + 1 + sizeAll before) :: rest, ⟨?_, ?_⟩, congrArg Nat.succ long⟩
      · exact .cons_cons (planted.parent?_of_mem less member) nested.linked
      · intro other found
        rcases List.mem_cons.mp found with rfl | found
        · exact ⟨less, isToken_of_node (planted.held_part part).1⟩
        · exact nested.within other found

private theorem depth_isGreatest :
    IsGreatest {count | ∃ productions, tree.Nested productions ∧ productions.length = count}
      tree.depth := by
  rw [planted.depth_eq]
  constructor
  · cases tall : whole.height with
    | zero => exact ⟨[], ⟨.nil, nofun⟩, rfl⟩
    | succ height =>
      obtain ⟨rest, nested, long⟩ := planted.exists_nested (.root whole) tall
      exact ⟨0 :: rest, nested, congrArg Nat.succ long⟩
  · rintro _ ⟨productions, nested, rfl⟩
    cases productions with
    | nil => exact Nat.zero_le _
    | cons id rest =>
      obtain ⟨inner, part⟩ := planted.part (nested.within id List.mem_cons_self).1
      exact Nat.le_trans (planted.length_le_height part nested) part.height_le

end Depth

/-- In a tree that lies in its arena all ways agree. -/
theorem navigable : tree.Navigable 0 where
  order := by
    rw [planted.walk_eq, numbered_entering, planted.count, List.range_eq_range']
  meets _ less := planted.meets less
  walked id less := by
    obtain ⟨inner, part⟩ := planted.part less
    rw [planted.walkFrom_part part]
    exact walked_of_held (planted.held_part part)
  walkFrom _ less := planted.walkFrom_eq less
  listed _ less := ⟨(planted.family_children less).path, (planted.family_children less).nodup⟩
  mem_children _ less _ := planted.mem_children_iff less
  isLastChild _ less _ member := planted.isLastChild_iff less member
  later _ less := planted.later_path less
  parent? id less lower := by
    obtain ⟨parent, beyond, member⟩ := planted.mem_children_of_ne less lower
    exact ⟨parent, beyond, planted.parent?_of_mem beyond member⟩
  siblings id less parent found := by
    obtain ⟨before, after, split, family⟩ := planted.split_of_parent? less found
    have others := family.siblings
    exact ⟨others.symm ▸ family.siblings_path, before, after, split, others⟩
  alone := by
    refine ⟨planted.parent?_root, ?_, ?_⟩
    · simp [ParseTree.siblings, planted.parent?_root]
    · rw [ParseTree.isLastChild, raw_link planted.unlinked]
  depth := planted.depth_isGreatest

end Planted

end ParseTree

namespace Grammar

variable {U : Type} [CodeUnit U]

/-- All ways through the tree of a run agree, however the run ends: a walk meets the nodes in order
and each of them once, parents and children know each other, and every way from node to node
ends. -/
theorem parseTree_navigable (builder : GrammarBuilder U) (grammar : Grammar U)
    (config : ParseConfig) (treeConfig : TreeConfig) (cursor : Cursor U) (fuel : Nat)
    (result : ParseResult ParseTree) (built : builder.build = .ok grammar)
    (ran : grammar.parseTree config treeConfig cursor fuel = some result) :
    ∃ tree root, result.value = some tree ∧ tree.root = some root ∧ tree.Navigable root := by
  obtain ⟨completion, finished, rfl⟩ := Option.map_eq_some_iff.mp ran
  obtain ⟨profile, inside, ending, ended, -, -, tiles, told⟩ := run_tells built finished
  obtain ⟨tree, errors, finish, planted⟩ :=
    TreeBuilder.planted_of_root config.maxErrors ended tiles.forward ⟨0, 0, .empty treeConfig⟩ rfl
  rw [← told] at finish
  rw [finish]
  exact ⟨tree, 0, rfl, planted.root, planted.navigable⟩

/-- The tree of an input that is read in part, with several children of the root and children of
these. -/
theorem parseTree_of_parentheses_navigable :
    ∃ result tree root,
      parentheses.parseTree .standard .standard (.start nestedInput) 12 = some result ∧
        result.value = some tree ∧ tree.root = some root ∧ tree.nodeCount = 10 ∧
        (tree.children 0).length = 4 ∧ tree.Navigable root := by
  obtain ⟨result, tree, ran, made, count, children⟩ := parseTree_of_parentheses
  obtain ⟨same, root, value, own, navigable⟩ :=
    parseTree_navigable parenthesesBuilder parentheses .standard .standard (.start nestedInput) 12
      result build_parentheses ran
  obtain rfl : tree = same := Option.some.inj (made.symm.trans value)
  exact ⟨result, tree, root, ran, value, own, count, children, navigable⟩

end Grammar
end Descent
