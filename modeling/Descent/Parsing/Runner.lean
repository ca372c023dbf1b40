import Descent.Parsing.Reporting
import Descent.Parsing.Scoping
/-!
Runners: what a rule needs to run the rules inside it. A rule can be run in two ways, parsed or
tried; a tried rule may decline the input, and then nothing has happened.
-/

namespace Descent

/-- The answer of a rule that was tried. -/
inductive Attempt where
  | accepted
  /-- The rule was taken and failed, and has reported why. -/
  | canceled
  /-- The rule declined. -/
  | backtracked
  deriving DecidableEq, Repr

namespace Attempt

def ofBool : Bool → Attempt
  | true => accepted
  | false => canceled

def isAccepted : Attempt → Bool
  | accepted => true
  | _ => false

def isBacktracked : Attempt → Bool
  | backtracked => true
  | _ => false

end Attempt

structure Runner (U σ : Type) where
  /-- Runs a rule that has to match, and says whether it did. -/
  parse : Rule U → Parser U σ Bool
  attempt : Rule U → Parser U σ Attempt
  /-- How often a loop may go round. -/
  fuel : Nat

namespace Runner

open Descent.Parser

variable {U σ α β : Type} (run : Runner U σ)

def loop (start : α) (round : α → Parser U σ (Round α β)) : Parser U σ β :=
  iterate round run.fuel start

/-- How a rule would answer here. -/
def probe (rule : Rule U) : Parser U σ Attempt := do
  return (← lookAhead (quietly (speculate (run.attempt rule)))).1

/-- Whether one of the rules would match here. -/
def anyAccepts : List (Rule U) → Parser U σ Bool
  | [] => return false
  | rule :: rest => do
    if (← run.probe rule).isAccepted then return true else anyAccepts rest

def firstTaken : List (Rule U) → Parser U σ (Option (Rule U))
  | [] => return none
  | rule :: rest => do
    if (← run.probe rule).isBacktracked then firstTaken rest else return some rule

def parseAll : List (Rule U) → Parser U σ Bool
  | [] => return true
  | rule :: rest => do
    if ← run.parse rule then parseAll rest else return false

def attemptThen (first : Rule U) (rest : Parser U σ Bool) : Parser U σ Attempt := do
  match ← run.attempt first with
  | .accepted => return .ofBool (← rest)
  | other => return other

/-- Skips what a rule for whitespace matches, as often as it does and moves. It is reported as one
token. -/
def skipWith (whitespace : Rule U) : Parser U σ Unit := do
  let before ← cursor
  let inside := (← scope).inWhitespace
  modifyScope fun scope => { scope with inWhitespace := true }
  modifyReport fun report => { report with muted := report.muted + 1 }
  run.loop () fun _ => do
    let start ← cursor
    let attempt ← quietly (run.attempt whitespace)
    if attempt.isAccepted && (← cursor).position != start.position then return .again ()
    else return .done ()
  modifyReport fun report => { report with muted := report.muted - 1 }
  modifyScope fun scope => { scope with inWhitespace := inside }
  let after ← cursor
  if before.position < after.position then
    reportToken .whitespace before.position after.position

/-- Skips whitespace by the rule in effect, where that is not forbidden. -/
def skipWhitespace : Parser U σ Unit := do
  match (← scope).whitespace? with
  | none => return
  | some whitespace => run.skipWith whitespace

/-- Reports a match as a token and skips the whitespace after it. -/
def acceptToken (kind : TokenKind) (before after : Cursor U) : Parser U σ Unit := do
  setCursor after
  reportToken kind before.position after.position
  run.skipWhitespace

end Runner
end Descent
