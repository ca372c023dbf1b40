import Descent.Proofs.ArenaMarks
import Descent.Proofs.CallProtocol
import Descent.Tree.Builder
import Mathlib.Data.List.Forall2

/-! What a tree builder does to its arena, step by step. Whatever it is told, it takes a mark where
a production starts, goes back only to that of the innermost one, and sets ends of newer nodes only.
So the arena of a builder always answers as a stack of nodes does. -/

namespace Descent

open Descent.Tree
open Descent.Tree.Arena (Session)

def Observer.told {σ : Type} (observer : Observer σ) (notes : σ) : Call → σ
  | .start profile position _ => (observer.start profile position notes).2
  | .token kind first stop => observer.token kind first stop notes
  | .error profile raised => observer.error profile raised notes
  | .ended profile ticket ending => ending.tell observer profile ticket notes

namespace TreeBuilder

section Steps

variable (builder : TreeBuilder)

def stepsOfAppend (id : NodeId) : List Arena.Step :=
  match lastOf builder.running with
  | none => []
  | some previous => [.modify previous fun node => { node with link := .sibling id }]

def stepsOfToken (kind : TokenKind) (first stop : Nat) : List Arena.Step :=
  if builder.running.isEmpty then []
  else
    match builder.mergeTarget? kind first with
    | some last => [.setEnd last stop builder.config.compactTokens]
    | none =>
      .push (.opened (.token kind) first) ::
        .setEnd builder.arena.size stop builder.config.compactTokens ::
          builder.stepsOfAppend builder.arena.size

def stepsOfStart (profile : Profile) (position : Nat) : List Arena.Step :=
  if profile.isTransparent && !builder.running.isEmpty then [.mark]
  else [.mark, .push (.opened (.production profile.id) position)]

def stepsOfCloseNode (id : NodeId) : Option NodeId → List Arena.Step
  | none => []
  | some last =>
    [.modify last fun node => { node with link := .parent id },
      .modify id fun node => { node with hasChildren := true }]

/-- The mark of a production is given up before the end of its node is set. -/
def stepsOfClose (stop : Nat) : List Arena.Step :=
  match builder.running with
  | [] => []
  | production :: running =>
    match production.node with
    | none => [.release]
    | some id =>
      .release :: .setEnd id stop true :: stepsOfCloseNode id production.lastChild ++
        if running.isEmpty then [] else stepsOfAppend { builder with running } id

def stepsOfBacktrack : List Arena.Step :=
  if builder.running.isEmpty then [] else [.unwind, .release]

def steps : Call → List Arena.Step
  | .start profile position _ => builder.stepsOfStart profile position
  | .token kind first stop => builder.stepsOfToken kind first stop
  | .error .. => []
  | .ended _ _ (.finished _ stop) => builder.stepsOfClose stop
  | .ended _ _ (.canceled stop) => builder.stepsOfClose stop
  | .ended _ _ .declined => builder.stepsOfBacktrack

def toldAll (calls : List Call) : TreeBuilder := calls.foldl observer.told builder

def allSteps (builder : TreeBuilder) : List Call → List Arena.Step
  | [] => []
  | call :: rest => builder.steps call ++ allSteps (observer.told builder call) rest

end Steps

/-- A production has its mark from this arena, and its node is the first one after that. -/
structure StartedAt (earlier : Arena) (production : OpenProduction) : Prop where
  mark : production.mark = earlier.mark
  node : ∀ id ∈ production.node, id = earlier.size

/-- A session with the arena of a builder, in which the marks in use are those of the productions
that have started. -/
structure Uses (builder : TreeBuilder) (session : Session) : Prop where
  arena : session.arena = builder.arena
  started : List.Forall₂ StartedAt session.marked builder.running

variable {builder : TreeBuilder} {session : Session} {stack : NodeStack}

private theorem uses_empty (config : TreeConfig) :
    (empty config).Uses (.empty config.slabCapacity) :=
  ⟨rfl, .nil⟩

private theorem started_setLast {marked : List Arena} {running : List OpenProduction}
    (started : List.Forall₂ StartedAt marked running) (last : Option NodeId) :
    List.Forall₂ StartedAt marked (setLast last running) := by
  induction started with
  | nil => exact .nil
  | cons first rest ih =>
    unfold setLast
    split
    · exact .cons ⟨first.mark, first.node⟩ rest
    · exact .cons first ih

theorem Uses.append (uses : builder.Uses session) (id : NodeId) :
    (builder.append id).Uses (session.afterAll (builder.stepsOfAppend id)) := by
  have started := started_setLast uses.started (some id)
  unfold TreeBuilder.append stepsOfAppend
  cases lastOf builder.running with
  | none => exact ⟨uses.arena, started⟩
  | some previous => exact ⟨congrArg (Arena.modify · previous _) uses.arena, started⟩

private theorem orderly_stepsOfAppend (builder : TreeBuilder) (id : NodeId) :
    stack.Orderly (builder.stepsOfAppend id) := by
  unfold stepsOfAppend
  split
  · trivial
  · exact ⟨trivial, trivial⟩

private theorem orderly_stepsOfCloseNode (id : NodeId) (lastChild : Option NodeId) :
    stack.Orderly (stepsOfCloseNode id lastChild) := by
  cases lastChild with
  | none => trivial
  | some last => exact ⟨trivial, trivial, trivial⟩

private theorem orderly_stepsOfStart (builder : TreeBuilder) (profile : Profile) (position : Nat) :
    stack.Orderly (builder.stepsOfStart profile position) := by
  unfold stepsOfStart
  split
  · exact ⟨trivial, trivial⟩
  · exact ⟨trivial, trivial, trivial⟩

private theorem orderly_stepsOfBacktrack (builder : TreeBuilder) :
    stack.Orderly builder.stepsOfBacktrack := by
  unfold stepsOfBacktrack
  split
  · trivial
  · exact ⟨trivial, trivial, trivial⟩

private theorem remember_arena (builder : TreeBuilder) (profile : Profile) :
    (builder.remember profile).arena = builder.arena := by
  unfold remember
  split <;> rfl

private theorem remember_running (builder : TreeBuilder) (profile : Profile) :
    (builder.remember profile).running = builder.running := by
  unfold remember
  split <;> rfl

theorem Uses.start (uses : builder.Uses session) (profile : Profile) (position : Nat) :
    (builder.start profile position).2.Uses
      (session.afterAll (builder.stepsOfStart profile position)) := by
  obtain ⟨arena, marked⟩ := session
  obtain ⟨rfl, started⟩ := uses
  unfold TreeBuilder.start stepsOfStart
  simp only [remember_arena, remember_running]
  split
  · exact ⟨rfl, .cons ⟨rfl, nofun⟩ started⟩
  · refine ⟨rfl, .cons ⟨rfl, ?_⟩ started⟩
    rintro _ ⟨⟩
    rfl

theorem Uses.token (uses : builder.Uses session) (kind : TokenKind) (first stop : Nat) :
    (builder.token kind first stop).Uses
      (session.afterAll (builder.stepsOfToken kind first stop)) := by
  obtain ⟨arena, marked⟩ := session
  obtain ⟨rfl, started⟩ := uses
  unfold TreeBuilder.token stepsOfToken
  split
  · exact ⟨rfl, started⟩
  · cases builder.mergeTarget? kind first with
    | some last => exact ⟨rfl, started⟩
    | none =>
      let pushed := (builder.arena.push (.opened (.token kind) first)).2
      let ended := pushed.setEnd builder.arena.size stop builder.config.compactTokens
      have written : ({ builder with arena := ended } : TreeBuilder).Uses ⟨ended, marked⟩ :=
        ⟨rfl, started⟩
      exact written.append builder.arena.size

private theorem afterAll_stepsOfCloseNode (session : Session) (id stop : Nat)
    (lastChild : Option NodeId) :
    (session.after (.setEnd id stop true)).afterAll (stepsOfCloseNode id lastChild) =
      { session with arena := closeNode session.arena id lastChild stop } := by
  cases lastChild <;> rfl

theorem Uses.close (uses : builder.Uses session) (stop : Nat) :
    (builder.close stop).Uses (session.afterAll (builder.stepsOfClose stop)) := by
  obtain ⟨arena, marked⟩ := session
  obtain ⟨rfl, started⟩ := uses
  unfold TreeBuilder.close stepsOfClose
  cases running : builder.running with
  | nil => exact ⟨rfl, started⟩
  | cons production rest =>
    rw [running] at started
    obtain ⟨earlier, older, first, outer, rfl⟩ := List.forall₂_cons_right_iff.mp started
    simp only
    cases production.node with
    | none => exact ⟨rfl, outer⟩
    | some id =>
      let closed := closeNode builder.arena id production.lastChild stop
      have written : ({ builder with arena := closed, running := rest } : TreeBuilder).Uses
          ⟨closed, older⟩ := ⟨rfl, outer⟩
      have closing : (⟨builder.arena, earlier :: older⟩ : Session).afterAll
          (.release :: .setEnd id stop true :: stepsOfCloseNode id production.lastChild) =
            ⟨closed, older⟩ :=
        afterAll_stepsOfCloseNode ⟨builder.arena, older⟩ id stop production.lastChild
      simp only [Session.afterAll_append, closing]
      split
      · exact ⟨rfl, outer⟩
      · exact written.append id

theorem Uses.backtrack (uses : builder.Uses session) :
    builder.backtrack.Uses (session.afterAll builder.stepsOfBacktrack) := by
  obtain ⟨arena, marked⟩ := session
  obtain ⟨rfl, started⟩ := uses
  unfold TreeBuilder.backtrack stepsOfBacktrack
  cases running : builder.running with
  | nil => exact ⟨rfl, started⟩
  | cons production rest =>
    rw [running] at started
    obtain ⟨earlier, older, first, outer, rfl⟩ := List.forall₂_cons_right_iff.mp started
    refine ⟨?_, started_setLast outer _⟩
    exact congrArg builder.arena.unwind first.mark.symm

theorem Uses.told (uses : builder.Uses session) (call : Call) :
    (observer.told builder call).Uses (session.afterAll (builder.steps call)) := by
  cases call with
  | start profile position ticket => exact uses.start profile position
  | token kind first stop => exact uses.token kind first stop
  | error profile raised => exact ⟨uses.arena, uses.started⟩
  | ended profile ticket ending =>
    cases ending with
    | finished values stop => exact uses.close stop
    | canceled stop => exact uses.close stop
    | declined => exact uses.backtrack

section KeepsPlaces

variable (builder : TreeBuilder)

private theorem keepsPlaces_stepsOfAppend (id : NodeId) :
    ∀ step ∈ builder.stepsOfAppend id, step.KeepsPlaces := by
  unfold stepsOfAppend
  split
  · exact List.forall_mem_nil _
  · exact List.forall_mem_singleton.mpr fun _ => rfl

private theorem keepsPlaces_stepsOfToken (kind : TokenKind) (first stop : Nat) :
    ∀ step ∈ builder.stepsOfToken kind first stop, step.KeepsPlaces := by
  unfold stepsOfToken
  split
  · exact List.forall_mem_nil _
  · split
    · exact List.forall_mem_singleton.mpr trivial
    · simp only [List.forall_mem_cons]
      exact ⟨trivial, trivial, builder.keepsPlaces_stepsOfAppend _⟩

private theorem keepsPlaces_stepsOfCloseNode (id : NodeId) (lastChild : Option NodeId) :
    ∀ step ∈ stepsOfCloseNode id lastChild, step.KeepsPlaces := by
  cases lastChild with
  | none => exact List.forall_mem_nil _
  | some last =>
    simp only [stepsOfCloseNode, List.forall_mem_cons]
    exact ⟨fun _ => rfl, fun _ => rfl, List.forall_mem_nil _⟩

private theorem keepsPlaces_stepsOfClose (stop : Nat) :
    ∀ step ∈ builder.stepsOfClose stop, step.KeepsPlaces := by
  unfold stepsOfClose
  split
  · exact List.forall_mem_nil _
  · split
    · exact List.forall_mem_singleton.mpr trivial
    · simp only [List.forall_mem_append, List.forall_mem_cons]
      refine ⟨⟨trivial, trivial, keepsPlaces_stepsOfCloseNode _ _⟩, ?_⟩
      split
      · exact List.forall_mem_nil _
      · exact keepsPlaces_stepsOfAppend _ _

/-- A builder writes nothing but links into its nodes, apart from their ends. -/
theorem keepsPlaces_steps (call : Call) : ∀ step ∈ builder.steps call, step.KeepsPlaces := by
  cases call with
  | start profile position ticket =>
    change ∀ step ∈ builder.stepsOfStart profile position, step.KeepsPlaces
    unfold stepsOfStart
    split <;> simp [Arena.Step.KeepsPlaces]
  | token kind first stop => exact builder.keepsPlaces_stepsOfToken kind first stop
  | error profile raised => exact List.forall_mem_nil _
  | ended profile ticket ending =>
    cases ending with
    | finished values stop => exact builder.keepsPlaces_stepsOfClose stop
    | canceled stop => exact builder.keepsPlaces_stepsOfClose stop
    | declined =>
      change ∀ step ∈ builder.stepsOfBacktrack, step.KeepsPlaces
      unfold stepsOfBacktrack
      split <;> simp [Arena.Step.KeepsPlaces]

private theorem keepsPlaces_allSteps (calls : List Call) :
    ∀ step ∈ builder.allSteps calls, step.KeepsPlaces := by
  induction calls generalizing builder with
  | nil => exact List.forall_mem_nil _
  | cons call rest ih =>
    exact List.forall_mem_append.mpr ⟨builder.keepsPlaces_steps call, ih _⟩

end KeepsPlaces

private theorem mark_le_of_mergeTarget? {kind : TokenKind} {first : Nat} {last : NodeId}
    (target : builder.mergeTarget? kind first = some last) :
    ∃ production rest, builder.running = production :: rest ∧ production.mark.nodes ≤ last := by
  cases running : builder.running with
  | nil =>
    rw [mergeTarget?, running] at target
    cases target
  | cons production rest =>
    simp only [mergeTarget?, running, List.head?_cons, Option.bind_eq_bind, Option.bind_some,
      Option.bind_eq_some_iff, Option.guard_eq_some', Bool.and_eq_true, decide_eq_true_eq,
      Option.pure_def, Option.some.injEq] at target
    obtain ⟨_, -, node, -, _, ⟨-, newer⟩, _, -, rfl⟩ := target
    exact ⟨production, rest, rfl, newer⟩

section Orderly

variable {keepsPlaces : Prop} (uses : builder.Uses session)
  (follows : session.Follows keepsPlaces stack)

include uses follows

/-- A node from the mark of the innermost production on is newer than all marks in use. -/
theorem Uses.cut_le {production : OpenProduction} {rest : List OpenProduction}
    (running : builder.running = production :: rest) :
    ∀ cut ∈ stack.cuts, cut ≤ production.mark.nodes := by
  have started := uses.started
  rw [running] at started
  obtain ⟨earlier, older, first, -, marked⟩ := List.forall₂_cons_right_iff.mp started
  rw [first.mark]
  exact follows.cut_le_newest marked

private theorem Uses.orderly_token (kind : TokenKind) (first stop : Nat) :
    stack.Orderly (builder.stepsOfToken kind first stop) := by
  unfold stepsOfToken
  split
  · trivial
  · cases target : builder.mergeTarget? kind first with
    | some last =>
      obtain ⟨production, rest, running, newer⟩ := mark_le_of_mergeTarget? target
      refine ⟨fun cut member => ?_, trivial⟩
      exact Nat.le_trans (uses.cut_le follows running cut member) newer
    | none =>
      refine ⟨trivial, ?_, orderly_stepsOfAppend ..⟩
      rw [← uses.arena]
      exact follows.cut_le_size

private theorem Uses.orderly_close (stop : Nat) : stack.Orderly (builder.stepsOfClose stop) := by
  unfold stepsOfClose
  cases running : builder.running with
  | nil => trivial
  | cons production rest =>
    simp only
    cases node : production.node with
    | none => exact ⟨trivial, trivial⟩
    | some id =>
      have started := uses.started
      rw [running] at started
      obtain ⟨earlier, older, first, -, -⟩ := List.forall₂_cons_right_iff.mp started
      have opened : id = production.mark.nodes := by
        rw [first.mark]
        exact first.node id node
      refine NodeStack.orderly_append_iff.mpr ⟨⟨trivial, ?_, orderly_stepsOfCloseNode ..⟩, ?_⟩
      · intro cut member
        rw [opened]
        exact uses.cut_le follows running cut (List.mem_of_mem_tail member)
      · split
        · trivial
        · exact orderly_stepsOfAppend ..

theorem Uses.orderly (call : Call) : stack.Orderly (builder.steps call) := by
  cases call with
  | start profile position ticket => exact orderly_stepsOfStart ..
  | token kind first stop => exact uses.orderly_token follows kind first stop
  | error profile raised => trivial
  | ended profile ticket ending =>
    cases ending with
    | finished values stop => exact uses.orderly_close follows stop
    | canceled stop => exact uses.orderly_close follows stop
    | declined => exact orderly_stepsOfBacktrack builder

private theorem Uses.toldAll (calls : List Call) :
    stack.Orderly (builder.allSteps calls) ∧
      (builder.toldAll calls).Uses (session.afterAll (builder.allSteps calls)) := by
  induction calls generalizing builder session stack with
  | nil => exact ⟨trivial, uses⟩
  | cons call rest ih =>
    have orderly := uses.orderly follows call
    have after := follows.afterAll orderly fun _ => builder.keepsPlaces_steps call
    obtain ⟨others, used⟩ := ih (uses.told call) after
    refine ⟨NodeStack.orderly_append_iff.mpr ⟨orderly, others⟩, ?_⟩
    rw [allSteps, Session.afterAll_append]
    exact used

end Orderly

end TreeBuilder

namespace Tree.Arena

/-- An arena is a stack of nodes that is cut back to marks. Whatever is done to it, if ends are set
only for nodes that are newer than all marks in use: it answers as the stack does, and going back to
a mark takes it to where it was. A tree builder does no other things to its arena, whatever it is
told. -/
theorem arena_is_stack_of_nodes :
    Arena.empty 0 = Arena.empty 1 ∧
      (∀ (slabCapacity : Nat) (steps : List Arena.Step), NodeStack.empty.Orderly steps →
        let session := (Session.empty slabCapacity).afterAll steps
        session.arena.Answers (NodeStack.empty.afterAll steps).entries ∧
          (∀ earlier ∈ session.marked, Restores earlier session.arena) ∧
          ((∀ step ∈ steps, step.KeepsPlaces) →
            ∀ earlier ∈ session.marked, ∀ id < earlier.size,
              (session.arena.unwind earlier.mark).end? id = earlier.end? id)) ∧
      ∀ (config : TreeConfig) (calls : List Call),
        let steps := (TreeBuilder.empty config).allSteps calls
        NodeStack.empty.Orderly steps ∧ (∀ step ∈ steps, step.KeepsPlaces) ∧
          ((TreeBuilder.empty config).toldAll calls).Uses
            ((Session.empty config.slabCapacity).afterAll steps) := by
  refine ⟨rfl, ?_, ?_⟩
  · intro slabCapacity steps orderly
    have follows := (Session.follows_empty slabCapacity).afterAll orderly id
    exact ⟨follows.answers, follows.restores, follows.restores_stops⟩
  · intro config calls
    have follows : (Session.empty config.slabCapacity).Follows True .empty :=
      Session.follows_empty config.slabCapacity
    obtain ⟨orderly, used⟩ := (TreeBuilder.uses_empty config).toldAll follows calls
    exact ⟨orderly, TreeBuilder.keepsPlaces_allSteps _ calls, used⟩

/-- Slabs of one node. The second node is dropped with its end in the table, and the node that gets
its number is one that does not say where it ends. -/
def reusingSteps : List Arena.Step :=
  [.push (.opened (.production 0) 0), .setEnd 0 3 false, .mark,
    .push (.opened (.token .any) 3), .setEnd 1 7 false, .unwind,
    .push { Node.opened (.token .literal) 3 with ending := .tabled }]

theorem reused_node_has_no_end :
    NodeStack.empty.Orderly reusingSteps ∧
      ((Session.empty 0).afterAll reusingSteps).arena.end? 0 = some 3 ∧
      ((Session.empty 0).afterAll reusingSteps).arena.end? 1 = none := by
  have orderly : NodeStack.empty.Orderly reusingSteps := by
    simp [reusingSteps, NodeStack.Orderly, NodeStack.Allows, NodeStack.after, NodeStack.empty]
  have answers := (arena_is_stack_of_nodes.2.1 0 reusingSteps orderly).1
  refine ⟨orderly, ?_, ?_⟩
  · rw [answers.stop]
    rfl
  · rw [answers.stop]
    rfl

end Tree.Arena
end Descent
