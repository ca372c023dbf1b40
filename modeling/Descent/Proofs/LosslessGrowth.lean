import Descent.Proofs.SyntaxTree
import Descent.Proofs.Tiling

/-! Histories that tile a stretch of input stand for trees that lose nothing of it: the children
of a node tile its span, and so do the leaves below it. -/

namespace Descent

namespace Span

/-- Spans that lead from one position to another, each beginning where the one before it ends. -/
inductive Tiles : Nat → List Span → Nat → Prop
  | done (position : Nat) : Tiles position [] position
  | next {span : Span} {rest : List Span} {last : Nat} (after : Tiles span.stop rest last) :
      Tiles span.first (span :: rest) last

namespace Tiles

variable {first middle last : Nat} {spans rest : List Span}

theorem single (span : Span) : Tiles span.first [span] span.stop :=
  .next (.done _)

theorem append (before : Tiles first spans middle) (after : Tiles middle rest last) :
    Tiles first (spans ++ rest) last := by
  induction before with
  | done => exact after
  | next _ ih => exact .next (ih after)

theorem of_nil (tiles : Tiles first [] last) : first = last := by
  cases tiles
  rfl

theorem of_cons {span : Span} (tiles : Tiles first (span :: rest) last) :
    first = span.first ∧ Tiles span.stop rest last := by
  cases tiles with
  | next after => exact ⟨rfl, after⟩

private theorem of_append (tiles : Tiles first (spans ++ rest) last) :
    ∃ middle, Tiles first spans middle ∧ Tiles middle rest last := by
  induction spans generalizing first with
  | nil => exact ⟨first, .done _, tiles⟩
  | cons span spans ih =>
    obtain ⟨rfl, after⟩ := of_cons tiles
    obtain ⟨middle, before, after⟩ := ih after
    exact ⟨middle, .next before, after⟩

theorem le (tiles : Tiles first spans last) : first ≤ last := by
  induction tiles with
  | done => exact Nat.le_refl _
  | @next span _ _ _ ih => exact Nat.le_trans span.first_le_stop ih

/-- What lies in spans that tile a stretch is what lies in the stretch. -/
theorem flatMap_extract {U : Type} (source : Array U) (tiles : Tiles first spans last)
    (bounded : last ≤ source.size) :
    (spans.flatMap fun span =>
      if span.stop ≤ source.size then (source.extract span.first span.stop).toList else []) =
      (source.extract first last).toList := by
  induction tiles with
  | done position => simp
  | @next span rest last after ih =>
    have inside := Nat.le_trans after.le bounded
    rw [List.flatMap_cons, if_pos inside, ih bounded, ← Array.toList_append,
      Array.extract_append_extract, Nat.min_eq_left span.first_le_stop,
      Nat.max_eq_right after.le]

end Tiles
end Span

namespace SyntaxTree

mutual

/-- Nothing is lost between a node and its children, here and below. -/
def Lossless : SyntaxTree → Prop
  | leaf .. => True
  | node _ span children =>
    Span.Tiles span.first (children.map SyntaxTree.span) span.stop ∧ LosslessAll children
termination_by structural tree => tree

def LosslessAll : List SyntaxTree → Prop
  | [] => True
  | first :: rest => first.Lossless ∧ LosslessAll rest
termination_by structural trees => trees

end

@[simp] theorem losslessAll_append (first rest : List SyntaxTree) :
    LosslessAll (first ++ rest) ↔ LosslessAll first ∧ LosslessAll rest := by
  induction first with
  | nil => simp [LosslessAll]
  | cons tree first ih => simp [LosslessAll, ih, and_assoc]

def Spread (first : Nat) (siblings : List SyntaxTree) (last : Nat) : Prop :=
  Span.Tiles first (siblings.map SyntaxTree.span) last ∧ LosslessAll siblings

namespace Spread

variable {origin first middle stop last : Nat} {siblings more : List SyntaxTree}

theorem nil (position : Nat) : Spread position [] position :=
  ⟨.done _, trivial⟩

theorem append (before : Spread origin siblings middle) (after : Spread middle more last) :
    Spread origin (siblings ++ more) last :=
  ⟨by rw [List.map_append]; exact before.1.append after.1,
    (losslessAll_append ..).mpr ⟨before.2, after.2⟩⟩

private theorem of_append (spread : Spread origin (siblings ++ more) last) :
    ∃ middle, Spread origin siblings middle ∧ Spread middle more last := by
  obtain ⟨tiles, all⟩ := spread
  rw [List.map_append] at tiles
  obtain ⟨middle, before, after⟩ := tiles.of_append
  obtain ⟨own, others⟩ := (losslessAll_append ..).mp all
  exact ⟨middle, ⟨before, own⟩, after, others⟩

theorem leaf (kind : TokenKind) (forward : first ≤ stop) :
    Spread first [.leaf kind (.between first stop)] stop := by
  have tiles := Span.Tiles.single (.between first stop)
  rw [Span.stop_between, Nat.max_eq_right forward] at tiles
  exact ⟨tiles, trivial, trivial⟩

theorem node (production : ProductionId) (inner : Spread first siblings stop) :
    Spread first [.node production (.between first stop) siblings] stop := by
  have ordered := Nat.max_eq_right inner.1.le
  have tiles := Span.Tiles.single (.between first stop)
  rw [Span.stop_between, ordered] at tiles
  refine ⟨tiles, ⟨?_, inner.2⟩, trivial⟩
  rw [Span.stop_between, ordered]
  exact inner.1

theorem addToken (spread : Spread origin siblings first) (merging : Bool) (kind : TokenKind)
    (forward : first ≤ stop) :
    Spread origin (SyntaxTree.addToken merging kind first stop siblings) stop := by
  have added := spread.append (.leaf kind forward)
  rcases List.eq_nil_or_concat siblings with rfl | ⟨init, last, rfl⟩
  · exact added
  · rw [List.concat_eq_append] at *
    cases last with
    | node production span children => simpa [SyntaxTree.addToken] using added
    | leaf kind' span =>
      simp only [SyntaxTree.addToken, List.getLast?_concat, List.dropLast_concat]
      split <;> rename_i same
      · obtain ⟨middle, before, after⟩ := spread.of_append
        obtain ⟨rfl, ended⟩ := Span.Tiles.of_cons after.1
        have ended : span.stop = first := ended.of_nil
        exact before.append (.leaf kind (Nat.le_trans span.first_le_stop (ended ▸ forward)))
      · exact added

end Spread
end SyntaxTree

namespace Happening

open SyntaxTree

/-- A history that tiles a stretch of input adds trees that do the same. -/
theorem Tiles.spread {first last : Nat} {history : List Happening}
    (tiles : Tiles first history last) (merging : Bool) {origin : Nat}
    {siblings : List SyntaxTree} (spread : Spread origin siblings first) :
    Spread origin (growAll merging history siblings) last := by
  induction tiles generalizing merging origin siblings with
  | done => exact spread
  | token forward _ ih => exact ih merging (spread.addToken merging _ forward)
  | error _ ih => exact ih merging spread
  | @production profile ending first stop last inside rest ended _ _ inner ih =>
    have grown := inner profile.isToken (.nil first)
    rw [growAll_cons]
    apply ih merging
    by_cases transparent : profile.isTransparent
    · rw [grow_transparent merging siblings ended transparent]
      exact spread.append grown
    · rw [grow_visible merging siblings ended transparent]
      exact spread.append (.node profile.id grown)
  | declined _ _ ih => exact ih merging spread

mutual

theorem Declined.forward {happening : Happening} (declined : happening.Declined) :
    happening.Forward := by
  match happening, declined with
  | .production profile first inside .declined, .production all =>
    exact .production (forward_of_declined inside all)
termination_by structural happening

private theorem forward_of_declined (history : List Happening)
    (declined : ∀ happening ∈ history, happening.Declined) :
    ∀ happening ∈ history, happening.Forward := by
  match history with
  | [] => nofun
  | first :: rest =>
    exact List.forall_mem_cons.mpr ⟨(declined first (by simp)).forward,
      forward_of_declined rest fun other inside => declined other (by simp [inside])⟩
termination_by structural history

end

theorem Tiles.forward {first last : Nat} {history : List Happening}
    (tiles : Tiles first history last) : ∀ happening ∈ history, happening.Forward := by
  induction tiles with
  | done => nofun
  | token forward _ ih => exact List.forall_mem_cons.mpr ⟨.token forward, ih⟩
  | error _ ih => exact List.forall_mem_cons.mpr ⟨.error, ih⟩
  | production _ _ _ inner ih => exact List.forall_mem_cons.mpr ⟨.production inner, ih⟩
  | declined all _ ih =>
    exact List.forall_mem_cons.mpr ⟨.production (forward_of_declined _ all), ih⟩

end Happening
end Descent
