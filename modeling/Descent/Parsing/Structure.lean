import Descent.Parsing.Runner
/-!
Sequences, choices, conditions and repetitions.
-/

namespace Descent.Runner

open Descent.Parser

variable {U σ : Type} [CodeUnit U] (run : Runner U σ)

/-- A sequence declines if its first member does; after that it is taken. -/
def attemptSequence : List (Rule U) → Parser U σ Attempt
  | [] => return .accepted
  | first :: rest => run.attemptThen first (run.parseAll rest)

def attemptChoice : List (Rule U) → Parser U σ Attempt
  | [] => return .backtracked
  | first :: rest => do
    match ← run.attempt first with
    | .backtracked => attemptChoice rest
    | taken => return taken

def parseChoice (members : List (Rule U)) : Parser U σ Bool := do
  match ← run.attemptChoice members with
  | .accepted => return true
  | .canceled => return false
  | .backtracked =>
    reportErrorAt .exhaustedChoice (← cursor).position
    return false

def parseOptional (rule : Rule U) : Parser U σ Bool := do
  match ← run.attempt rule with
  | .accepted => return true
  | .canceled => return false
  | .backtracked =>
    emit .absent
    return true

def peekHolds (rule : Rule U) (expected : Bool) : Parser U σ Bool := do
  return (← run.probe rule).isAccepted == expected

def attemptPeek (rule : Rule U) (expected : Bool) : Parser U σ Attempt := do
  return if ← run.peekHolds rule expected then .accepted else .backtracked

/-- A condition that does not hold is an error, but no failure. -/
def parsePeek (rule : Rule U) (expected : Bool) : Parser U σ Bool := do
  unless ← run.peekHolds rule expected do
    let message := if expected then "expected input not found" else "unexpected input"
    reportErrorAt (.custom message) (← cursor).position
  return true

def attemptLookahead (needle limit : Pattern U) : Parser U σ Attempt := do
  return if (Pattern.lookahead needle limit).matchesAt (← cursor) then .accepted else .backtracked

def parseLookahead (needle limit : Pattern U) : Parser U σ Bool := do
  unless (Pattern.lookahead needle limit).matchesAt (← cursor) do
    reportErrorAt .notFound (← cursor).position
  return true

def parseRepeated (body : Rule U) : Parser U σ Bool :=
  run.loop () fun _ => do
    let before ← cursor
    match ← run.attempt body with
    | .accepted =>
      if before.position < (← cursor).position then return .again () else return .done true
    | .backtracked => return .done true
    | .canceled => return .done false

def parseRepeatedOnce (body : Rule U) : Parser U σ Bool := do
  if ← run.parse body then run.parseRepeated body else return false

def parseTimes (body : Rule U) (separator : Option (Rule U)) : Nat → Parser U σ Bool
  | 0 => return true
  | 1 => run.parse body
  | count + 1 => do
    if !(← run.parse body) then return false
    if let some separator := separator then
      if !(← run.parse separator) then return false
    parseTimes body separator count

/-- One round of a loop: what the body binds lasts one round. The loop goes on if the body is
taken, moves, and has not asked to leave. -/
def loopRound (body : Rule U) (height : Nat) : Parser U σ (Round Unit Bool) := do
  let before ← cursor
  match ← run.attempt body with
  | .backtracked => return .done true
  | .canceled => return .done false
  | .accepted =>
    restoreBindings height
    let leaves := (← findVariable loopExit) == some (.flag true)
    if leaves || (← cursor).position == before.position then return .done true
    else return .again ()

/-- The wish to leave is a variable, so a production called by the body can express it too. -/
def parseLoop (body : Rule U) : Parser U σ Bool := do
  let height ← bindingsHeight
  bindVariable loopExit (.flag false)
  let result ← run.loop () fun _ => run.loopRound body (height + 1)
  restoreBindings height
  return result

def parseLeave : Parser U σ Bool := do
  if ← assignVariable loopExit fun _ => .flag true then return true
  reportErrorAt (.custom "break outside of a loop") (← cursor).position
  return false

/-- The whitespace after a rule without whitespace is skipped again. -/
def attemptWithoutWhitespace (rule : Rule U) : Parser U σ Attempt := do
  let attempt ← withoutWhitespace (run.attempt rule)
  if attempt.isAccepted then run.skipWhitespace
  return attempt

def parseWithoutWhitespace (rule : Rule U) : Parser U σ Bool := do
  let parsed ← withoutWhitespace (run.parse rule)
  if parsed then run.skipWhitespace
  return parsed

end Descent.Runner
