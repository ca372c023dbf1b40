import Descent.Proofs.TreeLayout
import Descent.Tree.Builder

/-! The tree builder and the trees that histories stand for. While productions are open, the
arena holds the children so far of the innermost one that has a node, and everything that was
there before that one started stays as it is. -/

namespace Descent

open Descent.Tree

namespace TreeBuilder

variable {running : List OpenProduction} {last : Option NodeId}

def Owned (running : List OpenProduction) : Prop :=
  ∃ production ∈ running, production.node.isSome

/-- What is known of the innermost open production. -/
def Innermost (running : List OpenProduction) (isToken : Bool) (base : Nat) : Prop :=
  ∃ production ∈ running.head?, production.isToken = isToken ∧ production.mark.nodes = base

theorem setLast_setLast (first last : Option NodeId) (running : List OpenProduction) :
    setLast last (setLast first running) = setLast last running := by
  induction running with
  | nil => rfl
  | cons production rest ih =>
    cases node : production.node with
    | none => simp [setLast, node, ih]
    | some id => simp [setLast, node]

private theorem setLast_lastOf (running : List OpenProduction) :
    setLast (lastOf running) running = running := by
  induction running with
  | nil => rfl
  | cons production rest ih =>
    cases node : production.node with
    | none => simp [setLast, lastOf, node, ih]
    | some id =>
      have owner : production.node.isSome := by simp [node]
      rw [lastOf, setLast, if_pos owner, if_pos owner]

private theorem lastOf_setLast (owned : Owned running) : lastOf (setLast last running) = last := by
  induction running with
  | nil =>
    obtain ⟨production, member, -⟩ := owned
    cases member
  | cons production rest ih =>
    cases node : production.node with
    | none =>
      obtain ⟨owner, member, some⟩ := owned
      rcases List.mem_cons.mp member with rfl | member
      · simp [node] at some
      · simpa [setLast, lastOf, node] using ih ⟨owner, member, some⟩
    | some id => simp [setLast, lastOf, node]

private theorem owned_setLast (owned : Owned running) : Owned (setLast last running) := by
  induction running with
  | nil => exact owned
  | cons production rest ih =>
    cases node : production.node with
    | none =>
      obtain ⟨owner, member, some⟩ := owned
      rcases List.mem_cons.mp member with rfl | member
      · simp [node] at some
      · obtain ⟨other, inside, some⟩ := ih ⟨owner, member, some⟩
        exact ⟨other, by simp [setLast, node, inside], some⟩
    | some id =>
      exact ⟨{ production with lastChild := last }, by simp [setLast, node], by simp [node]⟩

private theorem innermost_setLast {isToken : Bool} {base : Nat}
    (innermost : Innermost running isToken base) :
    Innermost (setLast last running) isToken base := by
  obtain ⟨production, head, same⟩ := innermost
  cases running with
  | nil => cases head
  | cons first rest =>
    cases head
    cases node : production.node with
    | none => exact ⟨production, by simp [setLast, node], same⟩
    | some id => exact ⟨{ production with lastChild := last }, by simp [setLast, node], same⟩

structure Linked (before after : Arena) (previous : Option NodeId) (id : Nat) : Prop where
  sound : after.Sound
  size : after.size = before.size
  log : after.log = before.log
  agrees : ∀ other, other ∉ previous → before.Agrees after other
  shown : ∀ other content span hasChildren, before.Shows other content span hasChildren →
    after.Shows other content span hasChildren
  link : ∀ other ∈ previous, other < before.size → after.link? other = some (.sibling id)

private theorem linked_append (builder : TreeBuilder) (sound : builder.arena.Sound) (id : Nat) :
    Linked builder.arena (builder.append id).arena (lastOf builder.running) id := by
  unfold append
  cases lastOf builder.running with
  | none => exact ⟨sound, rfl, rfl, fun _ _ => .refl .., fun _ _ _ _ shown => shown, nofun⟩
  | some previous =>
    change Linked builder.arena (builder.arena.relink previous (.sibling id)) (some previous) id
    refine ⟨Arena.sound_relink sound _, rfl, rfl, ?_, ?_, ?_⟩
    · intro other different
      apply Arena.agrees_relink _ _ _
      rintro rfl
      exact different rfl
    · intro other content span hasChildren shown
      exact shown.relink previous (.sibling id)
    · rintro _ ⟨⟩ less
      exact Arena.link?_relink sound _ less

end TreeBuilder

open SyntaxTree

/-- A builder that has the children so far of a node, from `start` on: older ones, and those since
the innermost production started, when there were `base` nodes. -/
structure Growing (builder : TreeBuilder) (isToken : Bool) (base start : Nat)
    (older fresh : List SyntaxTree) : Prop where
  sound : builder.arena.Sound
  innermost : TreeBuilder.Innermost builder.running isToken base
  owned : TreeBuilder.Owned builder.running
  last : TreeBuilder.lastOf builder.running = lastId start (older ++ fresh)
  held : HeldAll builder.arena start (older ++ fresh)
  size : builder.arena.size = start + sizeAll (older ++ fresh)
  base_le : base ≤ start + sizeAll older
  lt_base : ∀ last ∈ lastId start older, last < base

/-- What has not changed while children were added. -/
structure Keeping (before after : TreeBuilder) (base start : Nat) (trees : List SyntaxTree) :
    Prop where
  running : after.running = TreeBuilder.setLast (lastId start trees) before.running
  root : after.root = before.root
  agrees : ∀ id < start, before.arena.Agrees after.arena id
  log : ∃ newer, after.arena.log = newer ++ before.arena.log ∧ ∀ id ∈ newer, base ≤ id

namespace Keeping

variable {before middle after : TreeBuilder} {base start : Nat} {trees more : List SyntaxTree}

theorem refl {builder : TreeBuilder}
    (last : TreeBuilder.lastOf builder.running = lastId start trees) :
    Keeping builder builder base start trees where
  running := by rw [← last, TreeBuilder.setLast_lastOf]
  root := rfl
  agrees _ _ := .refl ..
  log := ⟨[], rfl, nofun⟩

theorem trans (first : Keeping before middle base start trees)
    (second : Keeping middle after base start more) : Keeping before after base start more where
  running := by rw [second.running, first.running, TreeBuilder.setLast_setLast]
  root := second.root.trans first.root
  agrees id less := (first.agrees id less).trans (second.agrees id less)
  log := by
    obtain ⟨newer, log, bound⟩ := first.log
    obtain ⟨newest, log', bound'⟩ := second.log
    refine ⟨newest ++ newer, by rw [log', log, List.append_assoc], ?_⟩
    intro id member
    rcases List.mem_append.mp member with member | member
    · exact bound' id member
    · exact bound id member

end Keeping

namespace Growing

variable {builder : TreeBuilder} {isToken : Bool} {base start : Nat}
  {older fresh : List SyntaxTree}

theorem keeping_after {after : TreeBuilder} {trees : List SyntaxTree}
    (growing : Growing builder isToken base start older fresh)
    (keeping : Keeping builder after base start (older ++ trees))
    (sound : after.arena.Sound) (held : HeldAll after.arena start (older ++ trees))
    (size : after.arena.size = start + sizeAll (older ++ trees)) :
    Growing after isToken base start older trees where
  sound
  innermost := keeping.running ▸ TreeBuilder.innermost_setLast growing.innermost
  owned := keeping.running ▸ TreeBuilder.owned_setLast growing.owned
  last := by rw [keeping.running, TreeBuilder.lastOf_setLast growing.owned]
  held
  size
  base_le := growing.base_le
  lt_base := growing.lt_base

theorem append (growing : Growing builder isToken base start older fresh) (next : TreeBuilder)
    {tree : SyntaxTree} (running : next.running = builder.running) (root : next.root = builder.root)
    (sound : next.arena.Sound) (size : next.arena.size = builder.arena.size + tree.size)
    (held : tree.Held next.arena builder.arena.size)
    (agrees : ∀ id < builder.arena.size, builder.arena.Agrees next.arena id)
    (log : ∃ newer, next.arena.log = newer ++ builder.arena.log ∧ ∀ id ∈ newer, base ≤ id) :
    Growing (next.append builder.arena.size) isToken base start older (fresh ++ [tree]) ∧
      Keeping builder (next.append builder.arena.size) base start (older ++ (fresh ++ [tree])) := by
  have linked := TreeBuilder.linked_append next sound builder.arena.size
  rw [running, growing.last] at linked
  have below : ∀ last ∈ lastId start (older ++ fresh), last < builder.arena.size := by
    intro last found
    exact growing.size ▸ (lastId_range found).2
  have keeping : Keeping builder (next.append builder.arena.size) base start
      (older ++ (fresh ++ [tree])) := by
    refine ⟨?_, root, ?_, ?_⟩
    · rw [← List.append_assoc, lastId_concat, ← growing.size, ← running]
      rfl
    · intro id less
      refine (agrees id (by have := growing.size; omega)).trans (linked.agrees id ?_)
      intro found
      exact Nat.not_le_of_lt less (lastId_range found).1
    · rw [linked.log]
      exact log
  refine ⟨growing.keeping_after keeping linked.sound ?_ ?_, keeping⟩
  · rw [← List.append_assoc, heldAll_concat, ← growing.size]
    refine ⟨HeldAll.relinked growing.held ?_ ?_, ?_, ?_⟩
    · intro last found content span hasChildren shown
      exact linked.shown _ _ _ _ ((agrees last (below last found)).shows shown)
    · intro other more less different
      exact (agrees other (growing.size ▸ less)).trans (linked.agrees other different)
    · intro previous found
      apply linked.link previous found
      rw [size]
      exact Nat.lt_add_right _ (below previous found)
    · apply Held.congr tree held (fun _ _ _ => linked.shown _ _ _ _)
      intro other more _
      refine linked.agrees other fun found => ?_
      exact Nat.lt_asymm more (below other found)
  · rw [linked.size, size, growing.size, ← List.append_assoc, sizeAll_append _ [tree]]
    simp [Nat.add_assoc]

private theorem mergeTarget?_of_last {production : OpenProduction} {last : Nat} {node : Node}
    (innermost : builder.running.head? = some production)
    (lastOf : TreeBuilder.lastOf builder.running = some last)
    (found : builder.arena.get? last = some node) (kind : TokenKind) (first : Nat) :
    builder.mergeTarget? kind first =
      if production.isToken ∧ production.mark.nodes ≤ last ∧ node.content = .token kind ∧
          builder.arena.end? last = some first then some last
      else none := by
  rw [TreeBuilder.mergeTarget?, innermost, lastOf]
  change (builder.arena.get? last).bind _ = _
  rw [found, Option.bind_some]
  cases since : production.isToken && decide (production.mark.nodes ≤ last) with
  | false =>
    simp only [Bool.and_eq_false_imp, decide_eq_false_iff_not] at since
    rw [if_neg fun all => since all.1 all.2.1]
    rfl
  | true =>
    simp only [Bool.and_eq_true, decide_eq_true_eq] at since
    cases same : decide (node.content = .token kind) && builder.arena.end? last == some first with
    | false =>
      simp only [Bool.and_eq_false_imp, decide_eq_true_eq, beq_eq_false_iff_ne] at same
      rw [if_neg fun all => same all.2.2.1 all.2.2.2]
      rfl
    | true =>
      simp only [Bool.and_eq_true, decide_eq_true_eq, beq_iff_eq] at same
      rw [if_pos ⟨since.1, since.2, same⟩]
      rfl

private theorem mergeTarget?_of_old (growing : Growing builder isToken base start older [])
    (kind : TokenKind) (first : Nat) : builder.mergeTarget? kind first = none := by
  obtain ⟨production, innermost, -, rfl⟩ := growing.innermost
  have lastOf := growing.last
  rw [List.append_nil] at lastOf
  cases found : lastId start older with
  | none =>
    rw [TreeBuilder.mergeTarget?, innermost, lastOf, found]
    rfl
  | some last =>
    have less := growing.lt_base last found
    cases held : builder.arena.get? last with
    | none =>
      rw [TreeBuilder.mergeTarget?, innermost, lastOf, found]
      change (builder.arena.get? last).bind _ = _
      rw [held]
      rfl
    | some node =>
      rw [mergeTarget?_of_last innermost (lastOf.trans found) held, if_neg]
      exact fun all => Nat.not_le_of_lt less all.2.1

/-- A token continues the last tree that was added since, if that is a leaf of its kind that ends
where it begins. -/
private theorem mergeTarget?_of_fresh {last : SyntaxTree}
    (growing : Growing builder isToken base start older (fresh ++ [last]))
    (kind : TokenKind) (first : Nat) :
    builder.mergeTarget? kind first =
      match last with
      | .leaf kind' span =>
        if isToken ∧ kind' = kind ∧ span.stop = first then
          some (start + sizeAll (older ++ fresh))
        else none
      | .node .. => none := by
  obtain ⟨production, innermost, rfl, rfl⟩ := growing.innermost
  have held := growing.held
  have lastOf := growing.last
  rw [← List.append_assoc, heldAll_concat] at held
  rw [← List.append_assoc, lastId_concat] at lastOf
  have since : production.mark.nodes ≤ start + sizeAll (older ++ fresh) := by
    have least := growing.base_le
    rw [sizeAll_append]
    omega
  cases last with
  | leaf kind' span =>
    obtain ⟨⟨node, found, content, -, -⟩, stop⟩ := held.2.2
    rw [mergeTarget?_of_last innermost lastOf found, content, stop]
    simp only [since, true_and, Content.token.injEq, Option.some.injEq]
  | node id span children =>
    obtain ⟨⟨node, found, content, -, -⟩, stop⟩ := held.2.2.1
    rw [mergeTarget?_of_last innermost lastOf found, content]
    simp

theorem running_nonempty (growing : Growing builder isToken base start older fresh) :
    ¬builder.running.isEmpty := by
  obtain ⟨production, innermost, -⟩ := growing.innermost
  cases running : builder.running with
  | nil =>
    rw [running] at innermost
    cases innermost
  | cons first rest => exact Bool.false_ne_true

theorem base_le_size (growing : Growing builder isToken base start older fresh) :
    base ≤ builder.arena.size := by
  have least := growing.base_le
  rw [growing.size, sizeAll_append]
  omega

private theorem token_of_none (growing : Growing builder isToken base start older fresh)
    {kind : TokenKind} {first stop : Nat} (forward : first ≤ stop)
    (single : builder.mergeTarget? kind first = none) :
    Growing (builder.token kind first stop) isToken base start older
        (fresh ++ [.leaf kind (.between first stop)]) ∧
      Keeping builder (builder.token kind first stop) base start
        (older ++ (fresh ++ [.leaf kind (.between first stop)])) := by
  let id := builder.arena.size
  let pushed := (builder.arena.push (.opened (.token kind) first)).2
  let ended := pushed.setEnd id stop builder.config.compactTokens
  rw [TreeBuilder.token, if_neg growing.running_nonempty, single]
  change Growing (TreeBuilder.append { builder with arena := ended } id) _ _ _ _ _ ∧
    Keeping _ (TreeBuilder.append { builder with arena := ended } id) _ _ _
  have sound := Arena.sound_push growing.sound (.opened (.token kind) first)
  refine growing.append { builder with arena := ended } rfl rfl ?_ ?_ ?_ ?_ ?_
  · exact Arena.sound_setEnd sound ..
  · exact Arena.setEnd_size ..
  · have shown : pushed.Shows id (.token kind) (.empty first) false := by
      have found : pushed.get? id = some (.opened (.token kind) first) := by
        rw [Arena.get?_push growing.sound, if_pos rfl]
      exact ⟨⟨_, found, rfl, rfl, rfl⟩, by rw [Arena.end?, found]; rfl⟩
    exact shown.setEnd (.inr forward)
  · intro other less
    exact (Arena.agrees_push growing.sound _ less).trans
      (Arena.agrees_setEnd _ _ _ _ (Nat.ne_of_lt less))
  · rcases Arena.setEnd_log pushed id stop builder.config.compactTokens with same | logged
    · exact ⟨[], same, by simp⟩
    · exact ⟨[id], logged, by simpa using growing.base_le_size⟩

private theorem token_of_some {kind : TokenKind} {span : Span}
    (growing : Growing builder isToken base start older (fresh ++ [.leaf kind span]))
    {first stop : Nat} (ended : span.stop = first) (forward : first ≤ stop)
    (merged : builder.mergeTarget? kind first = some (start + sizeAll (older ++ fresh))) :
    Growing (builder.token kind first stop) isToken base start older
        (fresh ++ [.leaf kind (.between span.first stop)]) ∧
      Keeping builder (builder.token kind first stop) base start
        (older ++ (fresh ++ [.leaf kind (.between span.first stop)])) := by
  let last := start + sizeAll (older ++ fresh)
  let arena := builder.arena.setEnd last stop builder.config.compactTokens
  rw [TreeBuilder.token, if_neg growing.running_nonempty, merged]
  change Growing { builder with arena := arena } _ _ _ _ _ ∧
    Keeping _ { builder with arena := arena } _ _ _
  have lastOf := growing.last
  have held := growing.held
  have size := growing.size
  rw [← List.append_assoc, lastId_concat] at lastOf
  rw [← List.append_assoc, heldAll_concat] at held
  rw [← List.append_assoc, sizeAll_append _ [_]] at size
  have agrees : ∀ other, other ≠ last → builder.arena.Agrees arena other :=
    fun other different => Arena.agrees_setEnd _ _ _ _ different
  have keeping : Keeping builder { builder with arena := arena } base start
      (older ++ (fresh ++ [.leaf kind (.between span.first stop)])) := by
    refine ⟨?_, rfl, ?_, ?_⟩
    · rw [← List.append_assoc, lastId_concat, ← lastOf, TreeBuilder.setLast_lastOf]
    · intro other less
      exact agrees other (by omega)
    · rcases Arena.setEnd_log builder.arena last stop builder.config.compactTokens with
        same | logged
      · exact ⟨[], same, by simp⟩
      · refine ⟨[last], logged, ?_⟩
        have least := growing.base_le
        simp only [List.mem_singleton, forall_eq, last, sizeAll_append]
        omega
  refine ⟨growing.keeping_after keeping (Arena.sound_setEnd growing.sound ..) ?_ ?_, keeping⟩
  · rw [← List.append_assoc, heldAll_concat]
    refine ⟨HeldAll.congr _ held.1 ?_, ?_, ?_⟩
    · intro other _ less
      exact agrees other (Nat.ne_of_lt less)
    · intro previous found
      rw [(agrees previous (Nat.ne_of_lt (lastId_range found).2)).link?]
      exact held.2.1 previous found
    · have ordered := span.first_le_stop
      exact Arena.Shows.setEnd held.2.2 (.inr (by omega))
  · rw [← List.append_assoc, sizeAll_append _ [_]]
    exact (Arena.setEnd_size ..).trans size

theorem token (growing : Growing builder isToken base start older fresh) (kind : TokenKind)
    {first stop : Nat} (forward : first ≤ stop) :
    Growing (builder.token kind first stop) isToken base start older
        (addToken isToken kind first stop fresh) ∧
      Keeping builder (builder.token kind first stop) base start
        (older ++ addToken isToken kind first stop fresh) := by
  rcases List.eq_nil_or_concat fresh with rfl | ⟨init, last, rfl⟩
  · exact token_of_none growing forward (mergeTarget?_of_old growing kind first)
  · rw [List.concat_eq_append] at *
    cases last with
    | node id span children =>
      have single : addToken isToken kind first stop (init ++ [.node id span children]) =
          init ++ [.node id span children] ++ [.leaf kind (.between first stop)] := by
        simp [addToken]
      rw [single]
      exact token_of_none growing forward (mergeTarget?_of_fresh growing kind first)
    | leaf kind' span =>
      have target : builder.mergeTarget? kind first =
          if isToken ∧ kind' = kind ∧ span.stop = first then
            some (start + sizeAll (older ++ init))
          else none := mergeTarget?_of_fresh growing kind first
      simp only [addToken, List.getLast?_concat, List.dropLast_concat]
      split at target <;> rename_i same
      · obtain ⟨merging, rfl, ended⟩ := same
        rw [if_pos ⟨merging, rfl, ended⟩]
        exact token_of_some growing ended forward target
      · rw [if_neg same]
        exact token_of_none growing forward target

end Growing

end Descent
