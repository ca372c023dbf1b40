import Descent.Proofs.History
import Descent.Tree.Walk

/-! Trees as values, without numbers and links, and which tree a history stands for. -/

namespace Descent

open Descent.Tree

inductive SyntaxTree where
  | leaf (kind : TokenKind) (span : Span)
  | node (production : ProductionId) (span : Span) (children : List SyntaxTree)

namespace SyntaxTree

def span : SyntaxTree → Span
  | leaf _ span => span
  | node _ span _ => span

mutual

def size : SyntaxTree → Nat
  | leaf .. => 1
  | node _ _ children => sizeAll children + 1
termination_by structural tree => tree

def sizeAll : List SyntaxTree → Nat
  | [] => 0
  | first :: rest => first.size + sizeAll rest
termination_by structural trees => trees

end

mutual

def walk : SyntaxTree → List (WalkEvent × Content × Span)
  | leaf kind span => [(.leaf, .token kind, span)]
  | node production span children =>
    (.enter, .production production, span) ::
      (walkAll children ++ [(.leave, .production production, span)])
termination_by structural tree => tree

def walkAll : List SyntaxTree → List (WalkEvent × Content × Span)
  | [] => []
  | first :: rest => first.walk ++ walkAll rest
termination_by structural trees => trees

end

/-- Adds a token behind some siblings. It continues the last one if merging is allowed and that
is a leaf of its kind that ends where the token begins. -/
def addToken (merging : Bool) (kind : TokenKind) (first stop : Nat)
    (siblings : List SyntaxTree) : List SyntaxTree :=
  match siblings.getLast? with
  | some (leaf last span) =>
    if merging ∧ last = kind ∧ span.stop = first then
      siblings.dropLast ++ [leaf kind (.between span.first stop)]
    else siblings ++ [leaf kind (.between first stop)]
  | _ => siblings ++ [leaf kind (.between first stop)]

@[simp] theorem sizeAll_nil : sizeAll [] = 0 := rfl

@[simp] theorem sizeAll_cons (first : SyntaxTree) (rest : List SyntaxTree) :
    sizeAll (first :: rest) = first.size + sizeAll rest := rfl

@[simp] theorem sizeAll_append (first rest : List SyntaxTree) :
    sizeAll (first ++ rest) = sizeAll first + sizeAll rest := by
  induction first with
  | nil => simp
  | cons tree first ih => rw [List.cons_append, sizeAll_cons, ih, sizeAll_cons, Nat.add_assoc]

theorem size_pos (tree : SyntaxTree) : 0 < tree.size := by
  cases tree with
  | leaf kind span => exact Nat.one_pos
  | node production span children => exact Nat.succ_pos _

end SyntaxTree

namespace Happening

open SyntaxTree

mutual

/-- What a happening adds to what is there since the innermost production started. Tokens
merge only inside a token production. A transparent production adds what is inside of it, and one
that declined adds nothing. -/
def grow (merging : Bool) : Happening → List SyntaxTree → List SyntaxTree
  | token kind first stop, siblings => addToken merging kind first stop siblings
  | error .., siblings => siblings
  | production profile first inside ending, siblings =>
    match ending.stop? with
    | none => siblings
    | some stop =>
      let grown := growAll profile.isToken inside []
      if profile.isTransparent then siblings ++ grown
      else siblings ++ [.node profile.id (.between first stop) grown]
termination_by structural happening => happening

def growAll (merging : Bool) : List Happening → List SyntaxTree → List SyntaxTree
  | [], siblings => siblings
  | first :: rest, siblings => growAll merging rest (first.grow merging siblings)
termination_by structural history => history

end

/-- No token inside ends before it begins. -/
inductive Forward : Happening → Prop
  | token {kind : TokenKind} {first stop : Nat} (forward : first ≤ stop) :
      Forward (.token kind first stop)
  | error {profile : Profile} {raised : ParseError} : Forward (.error profile raised)
  | production {profile : Profile} {first : Nat} {inside : List Happening} {ending : Ending}
      (all : ∀ happening ∈ inside, happening.Forward) :
      Forward (.production profile first inside ending)

@[simp] theorem growAll_cons (merging : Bool) (first : Happening) (rest : List Happening)
    (siblings : List SyntaxTree) :
    growAll merging (first :: rest) siblings =
      growAll merging rest (first.grow merging siblings) := rfl

section Production

variable (merging : Bool) {profile : Profile} {first stop : Nat} {inside : List Happening}
  {ending : Ending} (siblings : List SyntaxTree)

theorem grow_transparent (ended : ending.stop? = some stop) (transparent : profile.isTransparent) :
    (production profile first inside ending).grow merging siblings =
      siblings ++ growAll profile.isToken inside [] := by
  simp [grow, ended, transparent]

theorem grow_visible (ended : ending.stop? = some stop) (visible : ¬profile.isTransparent) :
    (production profile first inside ending).grow merging siblings =
      siblings ++
        [.node profile.id (.between first stop) (growAll profile.isToken inside [])] := by
  simp [grow, ended, visible]

end Production

end Happening
end Descent
