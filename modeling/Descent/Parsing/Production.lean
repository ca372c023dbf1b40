import Descent.Parsing.Runner
/-!
Calling productions. A call opens a frame, runs the rule of the production with its values kept
apart, closes the frame, and tells the observer how it ended.
-/

namespace Descent.Runner

open Descent.Parser

variable {U σ : Type} (run : Runner U σ)

/-- The rule for whitespace inside a production: none inside a token, else its own, else that of
the caller, else that of the grammar. -/
def whitespaceOf (production : Production U) : Parser U σ (Option (Rule U)) := do
  if production.profile.isToken then return none
  match production.whitespace, (← scope).frames with
  | some own, _ => return some own
  | none, caller :: _ => return caller.whitespace
  | none, [] => return (← environment).grammar.whitespace

def start (profile : Profile) (position : Nat) : Parser U σ Ticket := do
  if ← isMuted then return .unseen
  let (ticket, notes) :=
    (← environment).observer.start profile position (← state).report.notes
  modifyReport fun report => { report with notes }
  return ticket

/-- Tells the observer that a production ended well, and produces the value made of its values. -/
def finish (profile : Profile) (ticket : Ticket) (values : List Value) : Parser U σ Unit := do
  unless ← isMuted do
    let (value, notes) := (← environment).observer.finish profile ticket values
      (← cursor).position (← state).report.notes
    modifyReport fun report => { report with notes }
    emitUnlessNothing value

def pushFrame (production : Production U) (whitespace : Option (Rule U)) : Parser U σ Unit :=
  modifyScope fun scope =>
    { scope with frames := ⟨production, whitespace, scope.bindings.length⟩ :: scope.frames }

/-- Closes the innermost frame and drops what was bound since it was opened. -/
def popFrame : Parser U σ Unit :=
  modifyScope fun scope =>
    match scope.frames with
    | [] => scope
    | frame :: frames =>
      { scope with frames, bindings := scope.bindings.restore frame.height }

/-- Runs the rule of a production in a frame of its own. At the outermost level, whitespace is
skipped first if that is asked for. -/
def inFrame (production : Production U) (asBranch : Bool) : Parser U σ (Attempt × List Value) := do
  let whitespace ← whitespaceOf production
  let outermost := (← scope).frames.isEmpty
  pushFrame production whitespace
  if outermost && (← environment).config.skipLeadingWhitespace then run.skipWhitespace
  let result ← collect <|
    if asBranch then run.attempt production.rule
    else do return .ofBool (← run.parse production.rule)
  popFrame
  return result

def callProduction (production : Production U) (asBranch : Bool) : Parser U σ Attempt := do
  let profile := production.profile
  let before ← cursor
  count fun statistics => { statistics with productions := statistics.productions + 1 }
  let ticket ← start profile before.position
  let (attempt, values) ← run.inFrame production asBranch
  match attempt with
  | .accepted =>
    finish profile ticket values
    if profile.isToken then run.skipWhitespace
  | .backtracked =>
    count fun statistics => { statistics with backtracks := statistics.backtracks + 1 }
    setCursor before
    unless ← isMuted do notify fun observer => observer.backtrack profile ticket
  | .canceled =>
    let stopped := (← cursor).position
    unless ← isMuted do notify fun observer => observer.cancel profile ticket stopped
  return attempt

/-- Calls the production with a number; that there is none is an error. -/
def call (id : ProductionId) (asBranch : Bool) : Parser U σ Attempt := do
  match (← environment).grammar.production? id with
  | some production => run.callProduction production asBranch
  | none =>
    reportErrorAt (.custom ("unknown production " ++ Nat.repr id)) (← cursor).position
    return .canceled

end Descent.Runner
