import Descent.Proofs.LosslessGrowth
import Descent.Proofs.TreeFamilies

/-! What is found in a tree that lies in an arena and has lost nothing: at every node the
children, and in a walk the leaves. -/

namespace Descent

open Descent.Tree SyntaxTree

namespace SyntaxTree

def leafSpans (walk : List (WalkEvent × Content × Span)) : List Span :=
  (walk.filter fun met => met.1 = .leaf).map fun met => met.2.2

@[simp] theorem leafSpans_append (first rest : List (WalkEvent × Content × Span)) :
    leafSpans (first ++ rest) = leafSpans first ++ leafSpans rest := by
  simp [leafSpans]

mutual

theorem Lossless.leaves (tree : SyntaxTree) (lossless : tree.Lossless) :
    Span.Tiles tree.span.first (leafSpans tree.walk) tree.span.stop := by
  match tree with
  | .leaf kind span => exact .single span
  | .node production span children =>
    have inner := LosslessAll.leaves children lossless.2 lossless.1
    have same : leafSpans (SyntaxTree.node production span children).walk =
        leafSpans (walkAll children) := by
      simp [leafSpans, SyntaxTree.walk]
    rw [same]
    exact inner
termination_by structural tree

theorem LosslessAll.leaves {first last : Nat} (trees : List SyntaxTree)
    (lossless : LosslessAll trees) (tiles : Span.Tiles first (trees.map SyntaxTree.span) last) :
    Span.Tiles first (leafSpans (walkAll trees)) last := by
  match trees with
  | [] => exact tiles
  | tree :: rest =>
    obtain ⟨rfl, after⟩ := tiles.of_cons
    rw [walkAll, leafSpans_append]
    exact (Lossless.leaves tree lossless.1).append (LosslessAll.leaves rest lossless.2 after)
termination_by structural trees

end

theorem Part.lossless {tree inner : SyntaxTree} {number : Nat} (part : tree.Part number inner)
    (lossless : tree.Lossless) : inner.Lossless := by
  induction part with
  | root tree => exact lossless
  | inside production span before after part ih =>
    exact ih ((losslessAll_append ..).mp lossless.2).2.1

end SyntaxTree

namespace ParseTree

variable {tree : ParseTree} {id : Nat}

theorem span_of_held {inner : SyntaxTree} (held : inner.Held tree.arena id) :
    tree.span id = inner.span := by
  cases inner with
  | leaf kind span => exact span_of_shows held
  | node production span children => exact span_of_shows held.1

private theorem span_numbers {trees : List SyntaxTree} (held : HeldAll tree.arena id trees) :
    (numbers id trees).map tree.span = trees.map SyntaxTree.span := by
  induction trees generalizing id with
  | nil => rfl
  | cons first rest ih =>
    obtain ⟨inner, -, others⟩ := held
    rw [numbers, List.map_cons, List.map_cons, span_of_held inner, ih others]

def leaves (tree : ParseTree) : List NodeId :=
  (tree.walk.filter fun met => met.1 = .leaf).map fun met => met.2

private theorem leaves_span {inner : SyntaxTree} (walked : tree.walk.map tree.meet = inner.walk) :
    tree.leaves.map tree.span = leafSpans inner.walk := by
  rw [← walked, leafSpans, List.filter_map, leaves, List.map_map, List.map_map]
  rfl

variable {whole : SyntaxTree} (planted : tree.Planted whole) (lossless : whole.Lossless)

include planted lossless

/-- The children of every production's node tile its span. -/
theorem children_tile (less : id < tree.nodeCount) {production : ProductionId}
    (content : tree.content id = .production production) :
    Span.Tiles (tree.span id).first ((tree.children id).map tree.span) (tree.span id).stop := by
  obtain ⟨inner, part⟩ := planted.part less
  have here := planted.held_part part
  cases inner with
  | leaf kind span =>
    rw [content_of_shows here] at content
    cases content
  | node inner span children =>
    rw [(planted.family part).children, span_numbers here.2.1, span_of_shows here.1]
    exact (part.lossless lossless).1

/-- What the leaves cover is what the root covers. -/
theorem lexemes_of_leaves {U : Type} (source : Array U)
    (bounded : whole.span.stop ≤ source.size) :
    tree.leaves.flatMap (tree.lexeme source) =
      (source.extract whole.span.first whole.span.stop).toList := by
  have tiles := Lossless.leaves whole lossless
  rw [← leaves_span planted.walk] at tiles
  have joined := tiles.flatMap_extract source bounded
  rw [List.flatMap_map] at joined
  exact joined

end ParseTree
end Descent
