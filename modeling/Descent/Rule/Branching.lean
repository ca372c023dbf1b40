import Descent.Rule.Basic
/-!
How rules behave when they are tried. Only a conditional rule may decline the input; the kind of a
rule is read off its form, without looking into the productions that it calls.
-/

namespace Descent

inductive Branching where
  /-- No branch: trying it is running it. -/
  | notBranch
  /-- May decline the input. -/
  | conditional
  /-- A branch that is always taken. -/
  | unconditional
  deriving DecidableEq, Repr

namespace Operation

variable {R : Type}

def branching : Operation R → Branching
  | requireFlag _ | requireCounter _ => .conditional
  | _ => .notBranch

end Operation

namespace Rule

variable {U : Type}

mutual

def branching : Rule U → Branching
  | token _ | tokenized .. | identifier .. | integer .. | symbol .. | symbolHere _ => .conditional
  | peek .. | lookahead .. | call _ => .conditional
  | otherwise | leave => .unconditional
  | capture rule | repeatedOnce rule | recovering rule _ | withoutWhitespace rule =>
    rule.branching
  | list item _ => item.branching
  | delimited opening .. => opening.branching
  | sequence rules => branchingOfFirst rules
  | branch condition _ =>
    match condition.branching with
    | .conditional => .conditional
    | _ => .unconditional
  | choice members => if allConditional members then .conditional else .unconditional
  | onVariable _ operation => operation.branching
  | position | constant _ | codePoint _ | optional _ | loop _ | repeated _ | times .. => .notBranch
  | terminatedList .. | find .. | recover .. | whitespace _ | combination .. => .notBranch
termination_by structural rule => rule

/-- A sequence is the branch that its first member is. -/
def branchingOfFirst : List (Rule U) → Branching
  | [] => .notBranch
  | first :: _ => first.branching
termination_by structural rules => rules

/-- A member that cannot decline is always taken. -/
def allConditional : List (Rule U) → Bool
  | [] => true
  | first :: rest => first.branching == .conditional && allConditional rest
termination_by structural rules => rules

end

def isBranch (rule : Rule U) : Bool :=
  rule.branching != .notBranch

end Rule
end Descent
