import Descent.Parsing.Tokens
/-!
Content between delimiters. Adjacent content units are one token and one lexeme, and escape
sequences have values of their own; together they are the items of the sink.
-/

namespace Descent.Runner

open Descent.Parser

variable {U σ : Type} [CodeUnit U] (run : Runner U σ)

def escapeUnit (value : Cursor U → Cursor U → Value) : Parser U σ Attempt := do
  let before ← cursor
  let after := before.next
  setCursor after
  reportToken .literal before.position after.position
  emit (value before after)
  return .accepted

/-- What follows the introducer of an escape sequence: the first action that applies. -/
def escapeSequence : List (EscapeAction (Rule U)) → Parser U σ Attempt
  | [] => return .backtracked
  | .map unit value :: rest => do
    if (← cursor).peek.any (CodeUnit.value · == unit) then escapeUnit fun _ _ => value
    else escapeSequence rest
  | .capture members :: rest => do
    if (← cursor).peek.any members.accepts then
      escapeUnit fun before after => .lexeme (before.spanTo after)
    else escapeSequence rest
  | .rule rule :: rest => do
    match ← run.attempt rule with
    | .backtracked => escapeSequence rest
    | taken => return taken

structure Content where
  /-- Where a run of content units began that has not been reported yet. -/
  pending : Option Nat
  /-- The items so far. -/
  items : List (List Value)

def flush (content : Content) (stop : Nat) : Parser U σ Content := do
  match content.pending with
  | none => return content
  | some first =>
    reportToken .unknown first stop
    return ⟨none, content.items ++ [[.lexeme (.between first stop)]]⟩

/-- Delimited content: the rule that closes it and what may be inside. -/
structure Delimited (U : Type) where
  closing : Rule U
  content : UnitClass
  escapes : List (Escape U (Rule U))

/-- Tries to close. A pending run is reported before that, but only if the closing rule will be
taken. -/
def closeContent (form : Delimited U) (content : Content) :
    Parser U σ (Content × Attempt × List Value) := do
  if content.pending.isSome then
    if (← run.probe form.closing).isBacktracked then return (content, .backtracked, [])
  let content ← flush content (← cursor).position
  return (content, ← collect (run.attempt form.closing))

/-- An escape sequence; one that no action applies to is an error, but no failure. -/
def escaped (escape : Escape U (Rule U)) (content : Content) :
    Parser U σ (Round Content (Option (List (List Value) × List Value))) := do
  let before ← cursor
  let content ← flush content before.position
  if !(← quietly (run.parseToken escape.introducer)) then return .done none
  match ← collect (run.escapeSequence escape.actions) with
  | (.accepted, values) => return .again { content with items := content.items ++ [values] }
  | (.canceled, _) => return .done none
  | (.backtracked, _) =>
    reportError .invalidEscapeSequence before.position (before.spanTo (← cursor))
    return .again content

/-- One unit of content; one outside the class is reported and skipped. -/
def contentUnit (form : Delimited U) (content : Content) (unit : U) :
    Parser U σ Content := do
  let before ← cursor
  let after := before.next
  if form.content.accepts unit then
    setCursor after
    return { content with pending := some (content.pending.getD before.position) }
  else
    let content ← flush content before.position
    setCursor after
    reportToken .error before.position after.position
    reportError (.expectedCharClass form.content.name) before.position (before.spanTo after)
    return content

/-- One step through delimited content that was opened at `opened`. The result is the items and
the values of the closing rule. -/
def contentStep (form : Delimited U) (opened : Nat) (content : Content) :
    Parser U σ (Round Content (Option (List (List Value) × List Value))) := do
  let (content, attempt, closing) ← run.closeContent form content
  match attempt with
  | .accepted => return .done (some (content.items, closing))
  | .canceled => return .done none
  | .backtracked =>
    let here ← cursor
    match here.peek with
    | none =>
      discard (flush content here.position)
      reportError .missingDelimiter here.position (.between opened here.position)
      return .done none
    | some unit =>
      match form.escapes.find? fun escape => escape.introducer.pattern.matchesAt here with
      | some escape => run.escaped escape content
      | none => return .again (← contentUnit form content unit)

def parseContent (form : Delimited U) (opened : Nat) : Parser U σ Bool := do
  let sink ← currentSink
  match ← run.loop ⟨none, []⟩ (run.contentStep form opened) with
  | none => return false
  | some (items, closing) =>
    emitUnlessNothing (sink items)
    emitAll closing
    return true

def attemptDelimited (opening : Rule U) (form : Delimited U) : Parser U σ Attempt := do
  let opened := (← cursor).position
  let attempt ← withoutWhitespace (run.attemptThen opening (run.parseContent form opened))
  if attempt.isAccepted then run.skipWhitespace
  return attempt

def parseDelimited (opening : Rule U) (form : Delimited U) : Parser U σ Bool := do
  let opened := (← cursor).position
  let parsed ← withoutWhitespace do
    if ← run.parse opening then run.parseContent form opened else return false
  if parsed then run.skipWhitespace
  return parsed

end Descent.Runner
