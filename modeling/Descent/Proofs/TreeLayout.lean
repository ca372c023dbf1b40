import Descent.Proofs.ArenaAccess
import Descent.Proofs.SyntaxTree

/-! How a tree lies in an arena: every node is followed by its children, one after the other with
everything below them, and each child but the last is linked to the next one, the last one to the
parent. -/

namespace Descent

open Descent.Tree

namespace Tree.Arena

variable {before after arena : Arena} {id : Nat} {content : Content} {span : Span}
  {hasChildren : Bool}

/-- A node with everything but its link. -/
structure Shows (arena : Arena) (id : Nat) (content : Content) (span : Span)
    (hasChildren : Bool) : Prop where
  node : ∃ node, arena.get? id = some node ∧ node.content = content ∧ node.first = span.first ∧
    node.hasChildren = hasChildren
  stop : arena.end? id = some span.stop

def link? (arena : Arena) (id : Nat) : Option Link :=
  (arena.get? id).map Node.link

theorem Agrees.shows (agrees : before.Agrees after id)
    (shows' : before.Shows id content span hasChildren) :
    after.Shows id content span hasChildren :=
  ⟨agrees.node ▸ shows'.node, agrees.stop.trans shows'.stop⟩

theorem Agrees.link? (agrees : before.Agrees after id) : after.link? id = before.link? id := by
  rw [Arena.link?, Arena.link?, agrees.node]

def relink (arena : Arena) (id : Nat) (link : Link) : Arena :=
  arena.modify id fun node => { node with link }

theorem sound_relink (sound : arena.Sound) (link : Link) : (arena.relink id link).Sound :=
  sound_modify sound ..

theorem agrees_relink (arena : Arena) (id : Nat) (link : Link) {other : Nat}
    (different : other ≠ id) : arena.Agrees (arena.relink id link) other :=
  agrees_modify arena id (fun node => { node with link }) (fun _ => rfl) (fun _ => rfl) different

theorem Shows.relink (shown : arena.Shows id content span hasChildren) (other : Nat)
    (link : Link) : (arena.relink other link).Shows id content span hasChildren := by
  obtain ⟨⟨node, found, same⟩, stop⟩ := shown
  refine ⟨?_, (end?_modify arena other (fun node => { node with link }) (fun _ => rfl)
    (fun _ => rfl) id).trans stop⟩
  rw [Arena.relink, get?_modify]
  split <;> rename_i here
  · subst here
    exact ⟨{ node with link }, by rw [found]; rfl, same⟩
  · exact ⟨node, found, same⟩

theorem Shows.withChildren (shown : arena.Shows id content span hasChildren) :
    (arena.modify id fun node => { node with hasChildren := true }).Shows id content span true := by
  obtain ⟨⟨node, found, same, first, -⟩, stop⟩ := shown
  refine ⟨⟨{ node with hasChildren := true }, ?_, same, first, rfl⟩,
    (end?_modify arena id (fun node => { node with hasChildren := true }) (fun _ => rfl)
      (fun _ => rfl) id).trans stop⟩
  rw [get?_modify, if_pos rfl, found]
  rfl

theorem Shows.setEnd (shown : arena.Shows id content span hasChildren) {stop : Nat}
    {compact : Bool} (ordered : compact = true ∨ span.first ≤ stop) :
    (arena.setEnd id stop compact).Shows id content (.between span.first stop) hasChildren := by
  obtain ⟨⟨node, found, same, first, has⟩, -⟩ := shown
  rw [← first] at ordered ⊢
  obtain ⟨⟨ending, held⟩, written⟩ := get?_setEnd found ordered
  exact ⟨⟨{ node with ending }, held, same, rfl, has⟩, written⟩

theorem link?_modify (arena : Arena) (id : Nat) (change : Node → Node)
    (same : ∀ node, (change node).link = node.link) (other : Nat) :
    (arena.modify id change).link? other = arena.link? other := by
  rw [link?, link?, get?_modify]
  split <;> rename_i here
  · subst here
    cases arena.get? other with
    | none => rfl
    | some node => exact congrArg some (same node)
  · rfl

theorem link?_setEnd (arena : Arena) (id stop : Nat) (compact : Bool) (other : Nat) :
    (arena.setEnd id stop compact).link? other = arena.link? other := by
  unfold setEnd
  cases arena.get? id with
  | none => rfl
  | some node =>
    dsimp only
    split
    · exact link?_modify arena id (fun node => { node with ending := .extent _ })
        (fun _ => rfl) other
    · exact link?_modify arena id (fun node => { node with ending := .tabled }) (fun _ => rfl) other

theorem link?_relink (sound : arena.Sound) (link : Link) (less : id < arena.size) :
    (arena.relink id link).link? id = some link := by
  rw [link?, relink, get?_modify, if_pos rfl]
  cases found : arena.get? id with
  | none => exact absurd less (Nat.not_lt_of_le ((get?_eq_none_iff sound id).mp found))
  | some node => rfl

end Tree.Arena

namespace SyntaxTree

variable {before after arena : Arena}

def lastId (id : Nat) : List SyntaxTree → Option Nat
  | [] => none
  | [_] => some id
  | first :: rest => lastId (id + first.size) rest

mutual

/-- A tree lies in an arena; where its root is linked to is left open. -/
def Held (arena : Arena) (id : Nat) : SyntaxTree → Prop
  | leaf kind span => arena.Shows id (.token kind) span false
  | node production span children =>
    arena.Shows id (.production production) span (!children.isEmpty) ∧
      HeldAll arena (id + 1) children ∧
      ∀ last ∈ lastId (id + 1) children, arena.link? last = some (.parent id)
termination_by structural tree => tree

def HeldAll (arena : Arena) (id : Nat) : List SyntaxTree → Prop
  | [] => True
  | first :: rest =>
    first.Held arena id ∧ (rest ≠ [] → arena.link? id = some (.sibling (id + first.size))) ∧
      HeldAll arena (id + first.size) rest
termination_by structural trees => trees

end

@[simp] theorem lastId_nil (id : Nat) : lastId id [] = none := rfl

@[simp] theorem lastId_concat (id : Nat) (trees : List SyntaxTree) (last : SyntaxTree) :
    lastId id (trees ++ [last]) = some (id + sizeAll trees) := by
  induction trees generalizing id with
  | nil => rfl
  | cons first rest ih =>
    have step :
        lastId id (first :: (rest ++ [last])) = lastId (id + first.size) (rest ++ [last]) := by
      cases rest <;> rfl
    rw [List.cons_append, step, ih, sizeAll_cons, Nat.add_assoc]

theorem lastId_range {id last : Nat} {trees : List SyntaxTree}
    (found : last ∈ lastId id trees) : id ≤ last ∧ last < id + sizeAll trees := by
  rcases List.eq_nil_or_concat trees with rfl | ⟨init, tree, rfl⟩
  · cases found
  · rw [List.concat_eq_append, lastId_concat] at found
    cases found
    have := tree.size_pos
    rw [List.concat_eq_append, sizeAll_append, sizeAll_cons, sizeAll_nil]
    omega

mutual

/-- A tree still lies there if nothing below its root has changed. -/
theorem Held.congr {id : Nat} (tree : SyntaxTree) (held : tree.Held before id)
    (root : ∀ content span hasChildren, before.Shows id content span hasChildren →
      after.Shows id content span hasChildren)
    (agrees : ∀ other, id < other → other < id + tree.size → before.Agrees after other) :
    tree.Held after id := by
  match tree with
  | leaf kind span => exact root _ _ _ held
  | node production span children =>
    obtain ⟨shown, inner, linked⟩ := held
    have below : ∀ other, id + 1 ≤ other → other < id + 1 + sizeAll children →
        before.Agrees after other := by
      intro other more less
      apply agrees other more
      rw [size]
      omega
    refine ⟨root _ _ _ shown, HeldAll.congr children inner below, ?_⟩
    intro last found
    obtain ⟨more, less⟩ := lastId_range found
    rw [(below last more less).link?]
    exact linked last found
termination_by structural tree

theorem HeldAll.congr {id : Nat} (trees : List SyntaxTree) (held : HeldAll before id trees)
    (agrees : ∀ other, id ≤ other → other < id + sizeAll trees → before.Agrees after other) :
    HeldAll after id trees := by
  match trees with
  | [] => trivial
  | first :: rest =>
    obtain ⟨inner, linked, others⟩ := held
    have positive := first.size_pos
    rw [sizeAll_cons] at agrees
    have here := agrees id (Nat.le_refl _) (by omega)
    refine ⟨Held.congr first inner (fun _ _ _ => here.shows) ?_, ?_, HeldAll.congr rest others ?_⟩
    · intro other more less
      exact agrees other (by omega) (by omega)
    · intro more
      rw [here.link?]
      exact linked more
    · intro other more less
      exact agrees other (by omega) (by omega)
termination_by structural trees

end

theorem heldAll_append {id : Nat} {trees rest : List SyntaxTree} :
    HeldAll arena id (trees ++ rest) ↔
      HeldAll arena id trees ∧
        (rest ≠ [] → ∀ last ∈ lastId id trees,
          arena.link? last = some (.sibling (id + sizeAll trees))) ∧
        HeldAll arena (id + sizeAll trees) rest := by
  induction trees generalizing id with
  | nil => simp [HeldAll]
  | cons first trees ih =>
    rw [List.cons_append, HeldAll, ih, HeldAll, sizeAll_cons, ← Nat.add_assoc]
    cases trees with
    | nil => simp [lastId, HeldAll]
    | cons second others =>
      simp only [lastId]
      simp [and_assoc]

theorem heldAll_concat {id : Nat} {trees : List SyntaxTree} {last : SyntaxTree} :
    HeldAll arena id (trees ++ [last]) ↔
      HeldAll arena id trees ∧
        (∀ previous ∈ lastId id trees,
          arena.link? previous = some (.sibling (id + sizeAll trees))) ∧
        last.Held arena (id + sizeAll trees) := by
  simp [heldAll_append, HeldAll]

/-- Trees still lie there if at most the last one has been linked anew. -/
theorem HeldAll.relinked {id : Nat} {trees : List SyntaxTree} (held : HeldAll before id trees)
    (shown : ∀ last ∈ lastId id trees, ∀ content span hasChildren,
      before.Shows last content span hasChildren → after.Shows last content span hasChildren)
    (agrees : ∀ other, id ≤ other → other < id + sizeAll trees → other ∉ lastId id trees →
      before.Agrees after other) : HeldAll after id trees := by
  rcases List.eq_nil_or_concat trees with rfl | ⟨init, tree, rfl⟩
  · trivial
  · rw [List.concat_eq_append] at *
    rw [lastId_concat] at shown agrees
    rw [sizeAll_append, sizeAll_cons, sizeAll_nil] at agrees
    obtain ⟨others, linked, last⟩ := heldAll_concat.mp held
    have positive := tree.size_pos
    have same : ∀ other, id ≤ other → other < id + sizeAll init → before.Agrees after other := by
      intro other more less
      apply agrees other more (by omega)
      rintro ⟨⟩
      omega
    refine heldAll_concat.mpr ⟨HeldAll.congr init others same, ?_, ?_⟩
    · intro previous found
      obtain ⟨more, less⟩ := lastId_range found
      rw [(same previous more less).link?]
      exact linked previous found
    · apply Held.congr tree last (shown _ rfl)
      intro other more less
      apply agrees other (by omega) (by omega)
      rintro ⟨⟩
      omega

end SyntaxTree
end Descent
