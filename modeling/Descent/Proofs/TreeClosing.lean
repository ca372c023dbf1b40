import Descent.Proofs.TreeGrowth

/-! Productions in the tree builder. One that is closed is added with what was inside of it; one
that declined takes everything back, with the links that led into it. -/

namespace Descent

open Descent.Tree SyntaxTree

section Close

variable {arena : Arena} {production : ProductionId} {id first stop : Nat}
  {children : List SyntaxTree}

structure Closed (before after : Arena) (id : Nat) (tree : SyntaxTree) : Prop where
  sound : after.Sound
  size : after.size = before.size
  log : after.log = before.log ∨ after.log = id :: before.log
  agrees : ∀ other < id, before.Agrees after other
  link : after.link? id = before.link? id
  held : tree.Held after id

private theorem closed_childless (sound : arena.Sound)
    (opened : arena.Shows id (.production production) (.empty first) false) :
    Closed arena (TreeBuilder.closeNode arena id none stop) id
      (.node production (.between first stop) []) where
  sound := Arena.sound_setEnd sound id stop true
  size := Arena.setEnd_size ..
  log := Arena.setEnd_log ..
  agrees _ less := Arena.agrees_setEnd _ _ _ _ (Nat.ne_of_lt less)
  link := Arena.link?_setEnd ..
  held := ⟨opened.setEnd (.inl rfl), trivial, nofun⟩

section Children

variable (arena) (id stop : Nat) (init : List SyntaxTree)

/-- The arena with the end of the node in it, and its last child linked to it. -/
private def withLastChild : Arena :=
  (arena.setEnd id stop true).relink (id + 1 + sizeAll init) (.parent id)

private theorem agrees_closeNode {other : Nat} (different : other ≠ id) :
    (withLastChild arena id stop init).Agrees
      (TreeBuilder.closeNode arena id (some (id + 1 + sizeAll init)) stop) other :=
  Arena.agrees_modify _ id (fun node => { node with hasChildren := true }) (fun _ => rfl)
    (fun _ => rfl) different

private theorem agrees_elsewhere {other : Nat} (different : other ≠ id)
    (inner : other ≠ id + 1 + sizeAll init) :
    arena.Agrees (TreeBuilder.closeNode arena id (some (id + 1 + sizeAll init)) stop) other :=
  ((Arena.agrees_setEnd arena id stop true different).trans
    (Arena.agrees_relink _ _ _ inner)).trans (agrees_closeNode arena id stop init different)

variable {arena id stop init} {tree : SyntaxTree}

/-- The children still lie in the arena, the last one linked to their parent now. -/
private theorem heldAll_closeNode (held : HeldAll arena (id + 1) (init ++ [tree])) :
    HeldAll (TreeBuilder.closeNode arena id (some (id + 1 + sizeAll init)) stop) (id + 1)
      (init ++ [tree]) := by
  refine HeldAll.relinked held ?_ ?_
  · rw [lastId_concat]
    rintro _ ⟨⟩ content span hasChildren shown
    have apart : id + 1 + sizeAll init ≠ id := by omega
    apply (agrees_closeNode arena id stop init apart).shows
    exact ((Arena.agrees_setEnd arena id stop true apart).shows shown).relink _ _
  · rw [lastId_concat]
    intro other more less different
    apply agrees_elsewhere arena id stop init (by omega)
    rintro rfl
    exact different rfl

private theorem closed_linked (sound : arena.Sound)
    (opened : arena.Shows id (.production production) (.empty first) false)
    (held : HeldAll arena (id + 1) (init ++ [tree]))
    (bounded : id + 1 + sizeAll (init ++ [tree]) ≤ arena.size) :
    Closed arena (TreeBuilder.closeNode arena id (some (id + 1 + sizeAll init)) stop) id
      (.node production (.between first stop) (init ++ [tree])) := by
  have ended := Arena.sound_setEnd sound id stop true
  have apart : id ≠ id + 1 + sizeAll init := by omega
  have inside : id + 1 + sizeAll init < arena.size := by
    have positive := tree.size_pos
    rw [sizeAll_append, sizeAll_cons] at bounded
    omega
  refine ⟨?_, ?_, ?_, ?_, ?_, ?_, heldAll_closeNode held, ?_⟩
  · exact Arena.sound_modify (Arena.sound_relink ended _) _ _
  · exact Arena.setEnd_size ..
  · exact Arena.setEnd_log ..
  · intro other less
    exact agrees_elsewhere arena id stop init (Nat.ne_of_lt less) (by omega)
  · exact (Arena.link?_modify _ id (fun node => { node with hasChildren := true })
      (fun _ => rfl) id).trans
        ((Arena.agrees_relink _ _ _ apart).link?.trans (Arena.link?_setEnd ..))
  · have written : (arena.setEnd id stop true).Shows id (.production production)
        (.between first stop) false := opened.setEnd (.inl rfl)
    have children : (!(init ++ [tree]).isEmpty) = true := by simp
    rw [children]
    exact (written.relink _ (.parent id)).withChildren
  · rw [lastId_concat]
    rintro _ ⟨⟩
    rw [(agrees_closeNode arena id stop init apart.symm).link?]
    exact Arena.link?_relink ended _ (by rw [Arena.setEnd_size]; exact inside)

end Children

private theorem closed_closeNode (sound : arena.Sound)
    (opened : arena.Shows id (.production production) (.empty first) false)
    (held : HeldAll arena (id + 1) children)
    (bounded : id + 1 + sizeAll children ≤ arena.size) :
    Closed arena (TreeBuilder.closeNode arena id (lastId (id + 1) children) stop) id
      (.node production (.between first stop) children) := by
  rcases List.eq_nil_or_concat children with rfl | ⟨init, tree, rfl⟩
  · exact closed_childless sound opened
  · rw [List.concat_eq_append] at *
    rw [lastId_concat]
    exact closed_linked sound opened held bounded

end Close
namespace TreeBuilder

variable {builder after : TreeBuilder} {profile : Profile} {first : Nat}

private theorem start_visible (profile : Profile) (first : Nat)
    (visible : ¬(profile.isTransparent && !builder.running.isEmpty)) :
    ∃ names, (builder.start profile first).2 = { builder with
      names
      arena := (builder.arena.push (.opened (.production profile.id) first)).2
      running := ⟨some builder.arena.size, none, lastOf builder.running, builder.arena.mark,
        profile.isToken⟩ :: builder.running } := by
  unfold start remember
  split <;> exact ⟨_, by rw [if_neg visible]; rfl⟩

private theorem start_transparent (profile : Profile) (first : Nat)
    (transparent : profile.isTransparent && !builder.running.isEmpty) :
    ∃ names, (builder.start profile first).2 = { builder with
      names
      running := ⟨none, none, lastOf builder.running, builder.arena.mark, profile.isToken⟩ ::
        builder.running } := by
  unfold start remember
  split <;> exact ⟨_, by rw [if_pos transparent]⟩

end TreeBuilder
namespace Growing

variable {builder after : TreeBuilder} {isToken : Bool} {base start limit : Nat}
  {older fresh grown : List SyntaxTree} {profile : Profile} {first stop : Nat}

theorem started (sound : builder.arena.Sound)
    (visible : ¬(profile.isTransparent && !builder.running.isEmpty)) :
    Growing (builder.start profile first).2 profile.isToken builder.arena.size
      (builder.arena.size + 1) [] [] := by
  obtain ⟨names, same⟩ := TreeBuilder.start_visible profile first visible
  rw [same]
  exact
    { sound := Arena.sound_push sound _
      innermost := ⟨_, rfl, rfl, rfl⟩
      owned := ⟨_, List.mem_cons_self .., rfl⟩
      last := rfl
      held := trivial
      size := rfl
      base_le := Nat.le_succ _
      lt_base := nofun }

/-- A transparent production adds to the children of the node around it. -/
theorem started_transparent (growing : Growing builder isToken base start older fresh)
    (transparent : profile.isTransparent) :
    Growing (builder.start profile first).2 profile.isToken builder.arena.size start
      (older ++ fresh) [] := by
  have hidden : profile.isTransparent && !builder.running.isEmpty := by
    simpa [transparent] using growing.running_nonempty
  obtain ⟨names, same⟩ := TreeBuilder.start_transparent profile first hidden
  rw [same]
  exact
    { sound := growing.sound
      innermost := ⟨_, rfl, rfl, rfl⟩
      owned := by
        obtain ⟨owner, member, node⟩ := growing.owned
        exact ⟨owner, List.mem_cons_of_mem _ member, node⟩
      last := by rw [List.append_nil]; exact growing.last
      held := by rw [List.append_nil]; exact growing.held
      size := by rw [List.append_nil]; exact growing.size
      base_le := Nat.le_of_eq growing.size
      lt_base := fun last found => growing.size ▸ (lastId_range found).2 }

section Inside

variable (visible : ¬(profile.isTransparent && !builder.running.isEmpty))
  (keeping : Keeping (builder.start profile first).2 after builder.arena.size
    (builder.arena.size + 1) grown)

include visible keeping

theorem running_inside :
    after.running = ⟨some builder.arena.size, lastId (builder.arena.size + 1) grown,
      TreeBuilder.lastOf builder.running, builder.arena.mark, profile.isToken⟩ ::
        builder.running := by
  obtain ⟨names, same⟩ := TreeBuilder.start_visible profile first visible
  rw [keeping.running, same]
  rfl

private theorem root_inside : after.root = builder.root := by
  obtain ⟨names, same⟩ := TreeBuilder.start_visible profile first visible
  rw [keeping.root, same]

private theorem log_inside :
    ∃ newer, after.arena.log = newer ++ builder.arena.log ∧
      ∀ id ∈ newer, builder.arena.size ≤ id := by
  obtain ⟨names, same⟩ := TreeBuilder.start_visible profile first visible
  have log := keeping.log
  rw [same] at log
  exact log

private theorem agrees_inside (sound : builder.arena.Sound) {id : Nat}
    (less : id < builder.arena.size) : builder.arena.Agrees after.arena id := by
  obtain ⟨names, same⟩ := TreeBuilder.start_visible profile first visible
  have agrees := keeping.agrees id (Nat.lt_succ_of_lt less)
  rw [same] at agrees
  exact (Arena.agrees_push sound _ less).trans agrees

/-- The node of a production that is still open has neither a link nor children. -/
theorem opened_inside (sound : builder.arena.Sound) :
    after.arena.get? builder.arena.size = some (.opened (.production profile.id) first) ∧
      after.arena.Shows builder.arena.size (.production profile.id) (.empty first) false := by
  obtain ⟨names, same⟩ := TreeBuilder.start_visible profile first visible
  have agrees := keeping.agrees builder.arena.size (Nat.lt_succ_self _)
  rw [same] at agrees
  have found : (builder.arena.push (.opened (.production profile.id) first)).2.get?
      builder.arena.size = some (.opened (.production profile.id) first) := by
    rw [Arena.get?_push sound, if_pos rfl]
  exact ⟨agrees.node.trans found,
    agrees.shows ⟨⟨_, found, rfl, rfl, rfl⟩, by rw [Arena.end?, found]; rfl⟩⟩

/-- What is in the arena once a production with a node is closed. -/
theorem closed_inside (sound : builder.arena.Sound)
    (growing : Growing after profile.isToken builder.arena.size (builder.arena.size + 1) [] grown)
    (stop : Nat) :
    Closed after.arena (TreeBuilder.closeNode after.arena builder.arena.size
      (lastId (builder.arena.size + 1) grown) stop) builder.arena.size
      (.node profile.id (.between first stop) grown) :=
  closed_closeNode growing.sound (opened_inside visible keeping sound).2 growing.held
    (Nat.le_of_eq growing.size.symm)

theorem close (outer : Growing builder isToken base start older fresh)
    (growing : Growing after profile.isToken builder.arena.size (builder.arena.size + 1) [] grown)
    (stop : Nat) :
    Growing (after.close stop) isToken base start older
        (fresh ++ [.node profile.id (.between first stop) grown]) ∧
      Keeping builder (after.close stop) base start
        (older ++ (fresh ++ [.node profile.id (.between first stop) grown])) := by
  have root := root_inside visible keeping
  have closed := closed_inside visible keeping outer.sound growing stop
  obtain ⟨newer, log, bound⟩ := log_inside visible keeping
  have least := outer.base_le_size
  rw [TreeBuilder.close, running_inside visible keeping]
  simp only [if_neg outer.running_nonempty]
  refine outer.append _ rfl ?_ closed.sound ?_ closed.held ?_ ?_
  · exact root
  · apply closed.size.trans
    rw [growing.size, List.nil_append, SyntaxTree.size]
    omega
  · intro id less
    exact (agrees_inside visible keeping outer.sound less).trans (closed.agrees id less)
  · rcases closed.log with same | logged
    · exact ⟨newer, same.trans log, fun id member => Nat.le_trans least (bound id member)⟩
    · refine ⟨builder.arena.size :: newer, by rw [List.cons_append, ← log]; exact logged, ?_⟩
      intro id member
      rcases List.mem_cons.mp member with rfl | member
      · exact least
      · exact Nat.le_trans least (bound id member)

/-- A production that declined is gone with all that was inside of it. -/
theorem backtrack (outer : Growing builder isToken base start older fresh)
    (growing : Growing after profile.isToken builder.arena.size (builder.arena.size + 1) [] grown) :
    Growing after.backtrack isToken base start older fresh ∧
      Keeping builder after.backtrack base start (older ++ fresh) := by
  have root := root_inside visible keeping
  obtain ⟨newer, log, bound⟩ := log_inside visible keeping
  obtain ⟨rest, subset, unwound⟩ : ∃ rest ⊆ newer,
      (after.arena.unwind builder.arena.mark).log = rest ++ builder.arena.log :=
    Arena.unwind_log log rfl
  have least := outer.base_le_size
  have small : builder.arena.mark.nodes ≤ after.arena.size := by
    rw [growing.size]
    exact Nat.le_trans (Nat.le_succ _) (Nat.le_add_right ..)
  have agrees : ∀ id < builder.arena.size,
      builder.arena.Agrees (after.arena.unwind builder.arena.mark) id := fun id less =>
    (agrees_inside visible keeping outer.sound less).trans
      (Arena.agrees_unwind log rfl bound less)
  rw [TreeBuilder.backtrack, running_inside visible keeping]
  have kept : Keeping builder { after with
      arena := after.arena.unwind builder.arena.mark
      running := TreeBuilder.setLast (TreeBuilder.lastOf builder.running) builder.running } base
      start (older ++ fresh) := by
    refine ⟨by rw [outer.last], root, ?_, rest, unwound, ?_⟩
    · intro id less
      exact agrees id (by have := outer.size; omega)
    · intro id member
      exact Nat.le_trans least (bound id (subset member))
  refine ⟨outer.keeping_after kept (Arena.sound_unwind growing.sound _) ?_ ?_, kept⟩
  · apply HeldAll.congr _ outer.held
    intro other _ less
    exact agrees other (outer.size ▸ less)
  · exact (Arena.unwind_size small).trans outer.size

end Inside

section InsideTransparent

variable (transparent : profile.isTransparent)
  (outer : Growing builder isToken base start older fresh)
  (keeping : Keeping (builder.start profile first).2 after builder.arena.size start
    (older ++ fresh ++ grown))

include transparent outer keeping

private theorem started_inside :
    after.running = ⟨none, none, TreeBuilder.lastOf builder.running, builder.arena.mark,
        profile.isToken⟩ ::
          TreeBuilder.setLast (lastId start (older ++ fresh ++ grown)) builder.running ∧
      after.root = builder.root ∧
      (∀ id < start, builder.arena.Agrees after.arena id) ∧
      ∃ newer, after.arena.log = newer ++ builder.arena.log ∧
        ∀ id ∈ newer, builder.arena.size ≤ id := by
  have hidden : profile.isTransparent && !builder.running.isEmpty := by
    simpa [transparent] using outer.running_nonempty
  obtain ⟨names, same⟩ := TreeBuilder.start_transparent profile first hidden
  obtain ⟨running, root, agrees, log⟩ := keeping
  rw [same] at running root agrees log
  exact ⟨running, root, agrees, log⟩

/-- The children of a transparent production stay where they are when it is closed. -/
theorem close_transparent
    (growing : Growing after profile.isToken builder.arena.size start (older ++ fresh) grown)
    (stop : Nat) :
    Growing (after.close stop) isToken base start older (fresh ++ grown) ∧
      Keeping builder (after.close stop) base start (older ++ (fresh ++ grown)) := by
  obtain ⟨running, root, agrees, newer, log, bound⟩ := started_inside transparent outer keeping
  rw [TreeBuilder.close, running]
  have kept : Keeping builder { after with
      running := TreeBuilder.setLast (lastId start (older ++ fresh ++ grown)) builder.running }
      base start (older ++ (fresh ++ grown)) :=
    ⟨by rw [List.append_assoc], root, agrees, newer, log,
      fun id member => Nat.le_trans outer.base_le_size (bound id member)⟩
  refine ⟨outer.keeping_after kept growing.sound ?_ ?_, kept⟩
  · exact List.append_assoc older fresh grown ▸ growing.held
  · exact List.append_assoc older fresh grown ▸ growing.size

theorem backtrack_transparent
    (growing : Growing after profile.isToken builder.arena.size start (older ++ fresh) grown) :
    Growing after.backtrack isToken base start older fresh ∧
      Keeping builder after.backtrack base start (older ++ fresh) := by
  obtain ⟨running, root, agrees, newer, log, bound⟩ := started_inside transparent outer keeping
  obtain ⟨rest, subset, unwound⟩ : ∃ rest ⊆ newer,
      (after.arena.unwind builder.arena.mark).log = rest ++ builder.arena.log :=
    Arena.unwind_log log rfl
  have size := outer.size
  have small : builder.arena.mark.nodes ≤ after.arena.size := by
    change builder.arena.size ≤ _
    rw [growing.size, sizeAll_append _ grown]
    omega
  have back : ∀ id < builder.arena.size,
      after.arena.Agrees (after.arena.unwind builder.arena.mark) id :=
    fun id less => Arena.agrees_unwind log rfl bound less
  rw [TreeBuilder.backtrack, running]
  have kept : Keeping builder { after with
      arena := after.arena.unwind builder.arena.mark
      running := TreeBuilder.setLast (TreeBuilder.lastOf builder.running)
        (TreeBuilder.setLast (lastId start (older ++ fresh ++ grown)) builder.running) } base
      start (older ++ fresh) := by
    refine ⟨by rw [TreeBuilder.setLast_setLast, outer.last], root, ?_, rest, unwound, ?_⟩
    · intro id less
      exact (agrees id less).trans (back id (by omega))
    · intro id member
      exact Nat.le_trans outer.base_le_size (bound id (subset member))
  refine ⟨outer.keeping_after kept (Arena.sound_unwind growing.sound _) ?_ ?_, kept⟩
  · apply HeldAll.congr _ (heldAll_append.mp growing.held).1
    intro other _ less
    exact back other (by omega)
  · exact (Arena.unwind_size small).trans size

end InsideTransparent

end Growing
end Descent
