import Descent.Parsing.Runner
import Descent.Rule.Build
/-!
Going on after errors, and members in any order.
-/

namespace Descent.Runner

open Descent.Parser

variable {U σ : Type} [CodeUnit U] (run : Runner U σ)

def skipMalformed (rule : Rule U) : Parser U σ Bool := do
  let (skipped, after) := rule.skipMalformed (← cursor)
  setCursor after
  return skipped

/-- Goes on after a rule that failed and has reported it: by a rule for that, or else past one
malformed occurrence as far as the rule knows how to skip one. -/
def recoverFrom (rule : Rule U) : Option (Rule U) → Parser U σ Bool
  | some recovery => run.parse recovery
  | none => do
    let before ← cursor
    let _ ← skipMalformed rule
    reportSkipped before (← cursor)
    return true

/-- The values of a rule that failed are dropped. -/
def parseRecovering (rule : Rule U) (recovery : Option (Rule U)) : Parser U σ Bool := do
  match ← collect (run.parse rule) with
  | (true, values) =>
    emitAll values
    return true
  | (false, _) => run.recoverFrom rule recovery

def attemptRecovering (rule : Rule U) (recovery : Option (Rule U)) : Parser U σ Attempt := do
  match ← collect (run.attempt rule) with
  | (.canceled, _) => return .ofBool (← run.recoverFrom rule recovery)
  | (attempt, values) =>
    emitAll values
    return attempt

/-- Skips input up to a target, and none of it if a limit or the end comes first. -/
def parseFind (targets limits : List (Rule U)) : Parser U σ Bool := do
  let before ← cursor
  let target : Parser U σ (Option Unit) := do
    return if ← run.anyAccepts targets then some () else none
  match ← seek target (run.anyAccepts limits) with
  | some () =>
    reportSkipped before (← cursor)
    return true
  | none =>
    setCursor before
    return false

/-- Skips input up to where one of some branches is taken, and takes it. -/
def parseRecover (branches limits : List (Rule U)) : Parser U σ Bool := do
  let before ← cursor
  let taken ← seek (run.firstTaken branches) (run.anyAccepts limits)
  reportSkipped before (← cursor)
  match taken with
  | some branch => run.parse branch
  | none => return false

/-- The index of the first member that is taken, with its answer; `index` is that of the first
one. -/
def attemptMember (index : Nat) : List (Rule U) → Parser U σ (Option (Nat × Attempt))
  | [] => return none
  | member :: rest => do
    match ← run.attempt member with
    | .backtracked => attemptMember (index + 1) rest
    | taken => return some (index, taken)

/-- Members in any order, while `missing` of them have not been seen. A member that comes twice
ends them, which is an error but no failure. -/
def parseMembers (members : List (Rule U)) (partly : Bool) (seen : List Nat) :
    Nat → Parser U σ Bool
  | 0 => return true
  | missing + 1 => do
    let before ← cursor
    match ← run.attemptMember 0 members with
    | none =>
      if partly then return true
      reportErrorAt .exhaustedChoice before.position
      return false
    | some (index, taken) =>
      if !taken.isAccepted then return false
      if seen.contains index then
        reportError .combinationDuplicate before.position (before.spanTo (← cursor))
        return true
      parseMembers members partly (index :: seen) missing

end Descent.Runner
