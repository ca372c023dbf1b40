import Descent.Parsing.Runner
/-!
Lists. A plain list ends with the last item that matches. A list with a terminator goes on until it
sees it: after a malformed item it skips input up to a separator, the next item or the terminator.
-/

namespace Descent

inductive ListPhase where
  | terminator
  | separator
  /-- A separator with this span has just been read. -/
  | afterSeparator (span : Span)
  | item
  | recovery

namespace Runner

open Descent.Parser

variable {U σ : Type} [CodeUnit U] (run : Runner U σ)

/-- A separator after the last item is an error where it is not allowed, but no failure. -/
def checkTrailing (separator : Separator (Rule U)) (span : Span) : Parser U σ Unit := do
  unless separator.trailing do
    reportError .unexpectedTrailingSeparator span.first span

def nextItem (item : Rule U) (items : List (List Value)) (before : Cursor U)
    (declined : Parser U σ Unit) :
    Parser U σ (Round (List (List Value)) (Option (List (List Value)))) := do
  let (attempt, values) ← collect (run.attempt item)
  match attempt with
  | .canceled => return .done none
  | .backtracked =>
    declined
    return .done (some items)
  | .accepted =>
    let items := items ++ [values]
    if (← cursor).position == before.position then return .done (some items)
    else return .again items

/-- The items after the first ones, all together; none if one of them fails. -/
def restOfList (item : Rule U) (separator : Option (Separator (Rule U)))
    (items : List (List Value)) : Parser U σ (Option (List (List Value))) :=
  run.loop items fun items => do
    let before ← cursor
    match separator with
    | none => run.nextItem item items before (pure ())
    | some separator =>
      match ← quietly (run.attempt separator.rule) with
      | .backtracked => return .done (some items)
      | .canceled => return .done none
      | .accepted =>
        let span := before.spanTo (← cursor)
        run.nextItem item items before (checkTrailing separator span)

/-- Goes on with a list after its first item, and produces what the sink makes of it. -/
def finishList (item : Rule U) (separator : Option (Separator (Rule U))) (sink : Sink)
    (first : List Value) : Parser U σ Bool := do
  match ← run.restOfList item separator [first] with
  | none => return false
  | some items =>
    emitUnlessNothing (sink items)
    return true

def attemptList (item : Rule U) (separator : Option (Separator (Rule U))) :
    Parser U σ Attempt := do
  let sink ← currentSink
  match ← collect (run.attempt item) with
  | (.accepted, values) => return .ofBool (← run.finishList item separator sink values)
  | (other, _) => return other

def parseList (item : Rule U) (separator : Option (Separator (Rule U))) : Parser U σ Bool := do
  let sink ← currentSink
  match ← collect (run.parse item) with
  | (true, values) => run.finishList item separator sink values
  | (false, _) => return false

structure TerminatedList (U : Type) where
  terminator : Rule U
  item : Rule U
  separator : Option (Separator (Rule U))
  limits : List (Rule U)

/-- What a list with a terminator can go on with at this place, if anything: a separator, the next
item if there are no separators, or the terminator. -/
def resumption (list : TerminatedList U) (start : Cursor U) :
    Parser U σ (Option ListPhase) := do
  match list.separator with
  | some separator =>
    if (← run.probe separator.rule).isAccepted then return some .separator
  | none =>
    if start.position < (← cursor).position then
      if !(← run.probe list.item).isBacktracked then return some .item
  if (← run.probe list.terminator).isAccepted then return some .terminator
  return none

/-- Whether skipping input ends at this place, and how the list goes on if it can: a limit ends it
as well. -/
def recoveryAt (list : TerminatedList U) (start : Cursor U) :
    Parser U σ (Option (Option ListPhase)) := do
  match ← run.resumption list start with
  | some phase => return some (some phase)
  | none => return if ← run.anyAccepts list.limits then some none else none

/-- Skips input up to where the list can go on, and says how; none if it cannot. At the end of the
view, the limits are tried before the search is given up. -/
def recoverList (list : TerminatedList U) : Parser U σ (Option ListPhase) := do
  let before ← cursor
  let ended ← seek (run.recoveryAt list before) (return false)
  reportSkipped before (← cursor)
  return ended.join

def listStep (list : TerminatedList U) (phase : ListPhase) (items : List (List Value)) :
    Parser U σ (Round (ListPhase × List (List Value))
      (Option (List (List Value) × List Value))) := do
  match phase with
  | .terminator =>
    match ← collect (run.attempt list.terminator) with
    | (.accepted, closing) => return .done (some (items, closing))
    | (.canceled, _) => return .done none
    | (.backtracked, _) =>
      let next := if list.separator.isSome && !items.isEmpty then .separator else .item
      return .again (next, items)
  | .separator =>
    match list.separator with
    | none => return .done none
    | some separator =>
      let before ← cursor
      if ← quietly (run.parse separator.rule) then
        return .again (.afterSeparator (before.spanTo (← cursor)), items)
      else return .again (.recovery, items)
  | .afterSeparator span =>
    match ← collect (run.attempt list.terminator) with
    | (.accepted, closing) =>
      if let some separator := list.separator then checkTrailing separator span
      return .done (some (items, closing))
    | (.canceled, _) => return .done none
    | (.backtracked, _) => return .again (.item, items)
  | .item =>
    let (parsed, values) ← collect (run.parse list.item)
    if parsed then return .again (.terminator, items ++ [values])
    else return .again (.recovery, items)
  | .recovery =>
    match ← run.recoverList list with
    | some next => return .again (next, items)
    | none => return .done none

def parseTerminatedList (list : TerminatedList U) (mayBeEmpty : Bool) : Parser U σ Bool := do
  let sink ← currentSink
  let start := if mayBeEmpty then ListPhase.terminator else .item
  let result ← run.loop (start, []) fun (phase, items) => run.listStep list phase items
  match result with
  | none => return false
  | some (items, closing) =>
    emitUnlessNothing (sink items)
    emitAll closing
    return true

end Runner
end Descent
