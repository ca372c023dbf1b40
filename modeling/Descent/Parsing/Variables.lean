import Descent.Parsing.Runner
/-!
Rules on variables.
-/

namespace Descent.Runner

open Descent.Parser

variable {U σ : Type} [CodeUnit U] (run : Runner U σ)

def missingVariable (name : String) (position : Nat) : Parser U σ Bool := do
  let message := "context variable " ++ Text.quoted name ++ " does not exist"
  reportErrorAt (.custom message) position
  return false

def contextMismatch (position : Nat) (span : Span) : Parser U σ Bool := do
  reportError .contextMismatch position span
  return false

def findFlag (name : String) : Parser U σ (Option Bool) := do
  return (← findVariable name).bind Binding.flag?

def findCounter (name : String) : Parser U σ (Option Int) := do
  return (← findVariable name).bind Binding.counter?

def findLexeme (name : String) : Parser U σ (Option Span) := do
  return (← findVariable name).bind Binding.lexeme?

/-- Whether a requirement holds; none if there is no such variable, and for an operation that
requires nothing, that it holds. -/
def requirement (name : String) : Operation (Rule U) → Parser U σ (Option Bool)
  | .requireFlag expected => do return (← findFlag name).map (· == expected)
  | .requireCounter expected => do return (← findCounter name).map (· == expected)
  | _ => return some true

def parseRequirement (name : String) (operation : Operation (Rule U)) : Parser U σ Bool := do
  let position := (← cursor).position
  match ← requirement name operation with
  | some true => return true
  | some false => contextMismatch position (.empty position)
  | none => missingVariable name position

def attemptRequirement (name : String) (operation : Operation (Rule U)) : Parser U σ Attempt := do
  match ← requirement name operation with
  | some true => return .accepted
  | some false => return .backtracked
  | none => return .ofBool (← missingVariable name (← cursor).position)

def addTo (amount : Int) : Binding → Binding
  | .counter value => .addCounter value amount
  | other => other

def parseMeasure (name : String) (rule : Rule U) (negative : Bool) : Parser U σ Bool := do
  let before ← cursor
  if (← findCounter name).isNone then return ← missingVariable name before.position
  if !(← run.parse rule) then return false
  let amount : Int := ((← cursor).position - before.position : Nat)
  assignVariable name (addTo (if negative then -amount else amount))

def parseCaptureVariable (name : String) (rule : Rule U) : Parser U σ Bool := do
  let before ← cursor
  if !(← withoutWhitespace (run.parse rule)) then return false
  let lexeme := Binding.lexeme (before.spanTo (← cursor))
  if !(← assignVariable name fun _ => lexeme) then bindVariable name lexeme
  run.skipWhitespace
  return true

def parseRematch (name : String) (rule : Rule U) : Parser U σ Bool := do
  let before ← cursor
  match ← findLexeme name with
  | none => missingVariable name before.position
  | some expected =>
    if !(← withoutWhitespace (run.parse rule)) then return false
    let after ← cursor
    let span := before.spanTo after
    if after.slice span = after.slice expected then
      run.skipWhitespace
      return true
    else contextMismatch before.position span

def parseVariable (name : String) (operation : Operation (Rule U)) : Parser U σ Bool := do
  let position := (← cursor).position
  match operation with
  | .create initial =>
    bindVariable name initial
    return true
  | .setFlag value =>
    if ← assignVariable name fun _ => .flag value then return true
    missingVariable name position
  | .toggleFlag =>
    match ← findFlag name with
    | some value => assignVariable name fun _ => .flag !value
    | none => missingVariable name position
  | .selectFlag set unset =>
    match ← findFlag name with
    | some true => run.parse set
    | some false => run.parse unset
    | none => missingVariable name position
  | .requireFlag _ | .requireCounter _ => parseRequirement name operation
  | .add amount =>
    match ← findCounter name with
    | some value => assignVariable name fun _ => .addCounter value amount
    | none => missingVariable name position
  | .measure rule negative => run.parseMeasure name rule negative
  | .compareCounter value less equal greater =>
    match ← findCounter name with
    | some counter =>
      if counter < value then run.parse less
      else if counter = value then run.parse equal
      else run.parse greater
    | none => missingVariable name position
  | .capture rule => run.parseCaptureVariable name rule
  | .rematch rule => run.parseRematch name rule

end Descent.Runner
