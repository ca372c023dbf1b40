import Descent.Proofs.TreeClosing
import Descent.Proofs.TreeWalk

/-! The tree builder and the trees that histories stand for, over whole histories. -/

namespace Descent

open Descent.Tree SyntaxTree

namespace Growing

theorem withErrors {builder : TreeBuilder} {isToken : Bool} {base start : Nat}
    {older fresh : List SyntaxTree} (growing : Growing builder isToken base start older fresh)
    (errors : Array ParseError) :
    Growing { builder with errors } isToken base start older fresh ∧
      Keeping builder { builder with errors } base start (older ++ fresh) := by
  have unchanged : Keeping builder builder base start (older ++ fresh) := .refl growing.last
  have kept : Keeping builder { builder with errors } base start (older ++ fresh) :=
    ⟨unchanged.running, rfl, unchanged.agrees, unchanged.log⟩
  exact ⟨growing.keeping_after kept growing.sound growing.held growing.size, kept⟩

/-- How a production ends, given what was grown inside of it. -/
private theorem ended {builder after : TreeBuilder} {isToken : Bool} {base start : Nat}
    {older fresh : List SyntaxTree} (growing : Growing builder isToken base start older fresh)
    (profile : Profile) (first : Nat) (inside : List Happening) (ending : Ending)
    (ticket : Ticket)
    (within : ∀ {base start : Nat} {older : List SyntaxTree},
      Growing (builder.start profile first).2 profile.isToken base start older [] →
        Growing after profile.isToken base start older
            (Happening.growAll profile.isToken inside []) ∧
          Keeping (builder.start profile first).2 after base start
            (older ++ Happening.growAll profile.isToken inside [])) :
    Growing (ending.tell TreeBuilder.observer profile ticket after) isToken base start older
        ((Happening.production profile first inside ending).grow isToken fresh) ∧
      Keeping builder (ending.tell TreeBuilder.observer profile ticket after) base start
        (older ++ (Happening.production profile first inside ending).grow isToken fresh) := by
  by_cases transparent : profile.isTransparent
  · obtain ⟨grown, keeping⟩ := within (growing.started_transparent transparent)
    cases ending with
    | finished values stop =>
      rw [Happening.grow_transparent isToken fresh rfl transparent]
      exact close_transparent transparent growing keeping grown stop
    | canceled stop =>
      rw [Happening.grow_transparent isToken fresh rfl transparent]
      exact close_transparent transparent growing keeping grown stop
    | declined => exact backtrack_transparent transparent growing keeping grown
  · have visible : ¬(profile.isTransparent && !builder.running.isEmpty) := by
      simp [transparent]
    obtain ⟨grown, keeping⟩ := within (started growing.sound visible)
    cases ending with
    | finished values stop =>
      rw [Happening.grow_visible isToken fresh rfl transparent]
      exact close visible keeping growing grown stop
    | canceled stop =>
      rw [Happening.grow_visible isToken fresh rfl transparent]
      exact close visible keeping growing grown stop
    | declined => exact backtrack visible keeping growing grown

mutual

theorem tell (limit : Nat) (happening : Happening) (forward : happening.Forward)
    {isToken : Bool} {base start : Nat} {older fresh : List SyntaxTree}
    (ledger : Ledger TreeBuilder)
    (growing : Growing ledger.notes isToken base start older fresh) :
    Growing (happening.tell TreeBuilder.observer limit ledger).notes isToken base start older
        (happening.grow isToken fresh) ∧
      Keeping ledger.notes (happening.tell TreeBuilder.observer limit ledger).notes base start
        (older ++ happening.grow isToken fresh) := by
  match happening, forward with
  | .token kind first stop, .token ordered => exact growing.token kind ordered
  | .error profile raised, .error =>
    simp only [Happening.tell]
    split
    · exact growing.withErrors (ledger.notes.errors.push raised)
    · exact ⟨growing, .refl growing.last⟩
  | .production profile first inside ending, .production all =>
    rw [Happening.tell_production]
    exact growing.ended profile first inside ending _ fun begun =>
      tellAll limit inside all { ledger with notes := (ledger.notes.start profile first).2 } begun
termination_by structural happening

theorem tellAll (limit : Nat) (history : List Happening)
    (forward : ∀ happening ∈ history, happening.Forward)
    {isToken : Bool} {base start : Nat} {older fresh : List SyntaxTree}
    (ledger : Ledger TreeBuilder)
    (growing : Growing ledger.notes isToken base start older fresh) :
    Growing (Happening.tellAll TreeBuilder.observer limit history ledger).notes isToken base start
        older (Happening.growAll isToken history fresh) ∧
      Keeping ledger.notes (Happening.tellAll TreeBuilder.observer limit history ledger).notes base
        start (older ++ Happening.growAll isToken history fresh) := by
  match history with
  | [] => exact ⟨growing, .refl growing.last⟩
  | happening :: rest =>
    obtain ⟨grown, first⟩ := tell limit happening (forward happening (by simp)) ledger growing
    obtain ⟨all, second⟩ := tellAll limit rest
      (fun other member => forward other (by simp [member]))
      (happening.tell TreeBuilder.observer limit ledger) grown
    exact ⟨all, first.trans second⟩
termination_by structural history

end

end Growing
namespace TreeBuilder

variable {config : TreeConfig} {profile : Profile} {first stop : Nat} {inside : List Happening}
  {ending : Ending}

/-- Only declining takes a production back. -/
private theorem tell_of_stop? (ended : ending.stop? = some stop) (ticket : Ticket)
    (builder : TreeBuilder) : ending.tell observer profile ticket builder = builder.close stop := by
  cases ending with
  | finished values last => cases ended; rfl
  | canceled last => cases ended; rfl
  | declined => cases ended

/-- The tree of an outermost production lies at the beginning of the arena and fills it. -/
theorem planted_of_root (limit : Nat) (ended : ending.stop? = some stop)
    (forward : ∀ happening ∈ inside, happening.Forward) (ledger : Ledger TreeBuilder)
    (fresh : ledger.notes = .empty config) :
    ∃ tree errors, ((Happening.production profile first inside ending).tell observer limit
        ledger).notes.finish = .ok (tree, errors) ∧
      tree.Planted (.node profile.id (.between first stop)
        (Happening.growAll profile.isToken inside [])) := by
  have sound : (empty config).arena.Sound := Arena.sound_empty _
  have visible : ¬(profile.isTransparent && !(empty config).running.isEmpty) := by
    simp [empty]
  have growing : Growing ((empty config).start profile first).2 profile.isToken 0 1 [] [] :=
    Growing.started sound visible
  let begun := { ledger with notes := ((empty config).start profile first).2 }
  let last := (Happening.tellAll observer limit inside begun).notes
  obtain ⟨grown, keeping⟩ : Growing last profile.isToken 0 1 [] _ ∧ Keeping _ last 0 1 _ :=
    Growing.tellAll limit inside forward begun growing
  have closed := Growing.closed_inside visible keeping sound grown stop
  have opened : last.arena.get? 0 = _ := (Growing.opened_inside visible keeping sound).1
  have running := Growing.running_inside visible keeping
  have told : ((Happening.production profile first inside ending).tell observer limit
      ledger).notes = last.close stop := by
    rw [Happening.tell_production, fresh]
    exact tell_of_stop? ended _ _
  rw [told, close, running]
  refine ⟨_, _, rfl, rfl, ?_, closed.held, closed.link.trans ?_⟩
  · refine closed.size.trans (grown.size.trans ?_)
    rw [List.nil_append, SyntaxTree.size, Nat.add_comm]
  · exact congrArg (Option.map Node.link) opened

/-- The builder makes the tree of a history: for an outermost production that has not declined and
whatever is told inside of it, there is a tree in the end, and a walk through it ends by itself and
meets what is in the tree that the history stands for. -/
theorem finished_tree_walks_as_grown (config : TreeConfig) (limit : Nat) (profile : Profile)
    (first stop : Nat) (inside : List Happening) (ending : Ending) (ledger : Ledger TreeBuilder)
    (ended : ending.stop? = some stop) (forward : ∀ happening ∈ inside, happening.Forward)
    (fresh : ledger.notes = .empty config) :
    ∃ tree errors, ((Happening.production profile first inside ending).tell observer limit
        ledger).notes.finish = .ok (tree, errors) ∧
      (∃ root, tree.root = some root ∧ tree.Walked root (some (.visit root)) tree.walk) ∧
      tree.walk.map tree.meet =
        (SyntaxTree.node profile.id (.between first stop)
          (Happening.growAll profile.isToken inside [])).walk := by
  obtain ⟨tree, errors, finished, planted⟩ := planted_of_root limit ended forward ledger fresh
  exact ⟨tree, errors, finished, ⟨0, planted.root, planted.walked⟩, planted.walk⟩

/-- A word of two tokens, a production that declined, and a transparent one that failed. -/
def sampleInside : List Happening :=
  [.production ⟨1, "word", true, false⟩ 0 [.token .literal 0 1, .token .literal 1 2]
      (.finished [] 2),
    .production ⟨2, "attempt", false, false⟩ 2 [.token .any 2 3] .declined,
    .production ⟨3, "rest", false, true⟩ 2 [.token .any 2 4] (.canceled 4)]

theorem walk_of_sampleInside :
    ∃ tree errors, ((Happening.production ⟨0, "main", false, false⟩ 0 sampleInside
        (.canceled 4)).tell observer 100 ⟨0, 0, .empty .standard⟩).notes.finish =
          .ok (tree, errors) ∧
      (∃ root, tree.root = some root ∧ tree.Walked root (some (.visit root)) tree.walk) ∧
      tree.walk.map tree.meet =
        [(.enter, .production 0, .between 0 4), (.enter, .production 1, .between 0 2),
          (.leaf, .token .literal, .between 0 2), (.leave, .production 1, .between 0 2),
          (.leaf, .token .any, .between 2 4), (.leave, .production 0, .between 0 4)] := by
  have forward : ∀ happening ∈ sampleInside, happening.Forward := by
    simp only [sampleInside, List.forall_mem_cons, List.not_mem_nil, false_implies, implies_true,
      and_true]
    refine ⟨.production ?_, .production ?_, .production ?_⟩ <;>
      simp [Happening.Forward.token]
  exact finished_tree_walks_as_grown .standard 100 ⟨0, "main", false, false⟩ 0 4 sampleInside
    (.canceled 4) ⟨0, 0, .empty .standard⟩ rfl forward rfl

end TreeBuilder
end Descent
