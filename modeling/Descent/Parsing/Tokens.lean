import Descent.Parsing.Runner
import Descent.Rule.Build
/-!
Rules that match one piece of input: tokens, and rules that are read as one token or as a value.
-/

namespace Descent.Runner

open Descent.Parser

variable {U σ : Type} [CodeUnit U] (run : Runner U σ)

def attemptToken (token : Token U) : Parser U σ Attempt := do
  let before ← cursor
  match token.pattern.run before with
  | .failed .. => return .backtracked
  | .matched after =>
    run.acceptToken token.kind before after
    return .accepted

/-- A token that does not match leaves what it had begun to match behind. -/
def parseToken (token : Token U) : Parser U σ Bool := do
  let before ← cursor
  match token.pattern.run before with
  | .failed failure stopped =>
    setCursor stopped
    reportFailure before stopped (token.errorKind failure)
    return false
  | .matched after =>
    run.acceptToken token.kind before after
    return true

/-- Whether a rule matches as one token, and where it stops: inside it nothing is reported and no
whitespace is skipped. -/
def probeWhole (rule : Rule U) : Parser U σ (Bool × Cursor U) :=
  lookAhead (quietly (speculate (withoutWhitespace (run.parse rule))))

def attemptTokenized (rule : Rule U) (kind : TokenKind) : Parser U σ Attempt := do
  let before ← cursor
  let (isMatch, after) ← run.probeWhole rule
  if isMatch then
    run.acceptToken kind before after
    return .accepted
  else return .backtracked

def parseTokenized (rule : Rule U) (kind : TokenKind) : Parser U σ Bool := do
  let before ← cursor
  let (isMatch, after) ← run.probeWhole rule
  if isMatch then
    run.acceptToken kind before after
    return true
  else
    setCursor after
    reportSkipped before after
    reportError .missingToken before.position (before.spanTo after)
    return false

/-- Produces the lexeme of an identifier. That it is reserved is an error, but no failure. -/
def acceptIdentifier (reserved : Trie U) (before after : Cursor U) : Parser U σ Unit := do
  let span := before.spanTo after
  setCursor after
  reportToken .identifier before.position after.position
  if (reserved.lookup (after.slice span)).isSome then
    reportError .reservedIdentifier before.position span
  emit (.lexeme span)
  run.skipWhitespace

def attemptIdentifier (shape : IdentifierShape) (reserved : Trie U) : Parser U σ Attempt := do
  let before ← cursor
  match shape.run before with
  | .failed .. => return .backtracked
  | .matched after =>
    run.acceptIdentifier reserved before after
    return .accepted

def parseIdentifier (shape : IdentifierShape) (reserved : Trie U) : Parser U σ Bool := do
  let before ← cursor
  match shape.run before with
  | .failed failure stopped =>
    setCursor stopped
    reportFailure before stopped ((Pattern.identifier (U := U) shape).errorKind failure)
    return false
  | .matched after =>
    run.acceptIdentifier reserved before after
    return true

/-- A rule that reads without whitespace; its lexeme comes before its values, and all of them only
if it matches. -/
def acceptCapture (before : Cursor U) (values : List Value) : Parser U σ Unit := do
  emit (.lexeme (before.spanTo (← cursor)))
  emitAll values
  run.skipWhitespace

def attemptCapture (rule : Rule U) : Parser U σ Attempt := do
  let before ← cursor
  let (attempt, values) ← collect (withoutWhitespace (run.attempt rule))
  if attempt.isAccepted then run.acceptCapture before values
  return attempt

def parseCapture (rule : Rule U) : Parser U σ Bool := do
  let before ← cursor
  let (parsed, values) ← collect (withoutWhitespace (run.parse rule))
  if parsed then run.acceptCapture before values
  return parsed

/-- The current position as a value, with a token of no width. -/
def parsePosition : Parser U σ Bool := do
  let position := (← cursor).position
  reportToken .position position position
  emit (.integer position)
  return true

/-- Whether a minus sign comes next, and the cursor after the sign, where signs are allowed. -/
def readSign (signed : Bool) (cursor : Cursor U) : Bool × Cursor U :=
  if signed && cursor.peek.any (CodeUnit.isChar · '-') then (true, cursor.next)
  else if signed && cursor.peek.any (CodeUnit.isChar · '+') then (false, cursor.next)
  else (false, cursor)

/-- Digits are a token before they are a number, so a number that is too large has been read. -/
def acceptInteger (type : IntegerType) (digits : DigitRun) (negative : Bool)
    (before first after : Cursor U) : Parser U σ Bool := do
  let span := first.spanTo after
  setCursor after
  reportToken .digits before.position after.position
  match digits.convert type negative after span with
  | .error _ =>
    reportError .integerOverflow first.position span
    return false
  | .ok number =>
    emit (.integer number)
    run.skipWhitespace
    return true

def attemptInteger (type : IntegerType) (digits : DigitRun) (signed : Bool) :
    Parser U σ Attempt := do
  let before ← cursor
  let (negative, first) := readSign signed before
  match digits.run first with
  | .failed .. => return .backtracked
  | .matched after => return .ofBool (← run.acceptInteger type digits negative before first after)

def parseInteger (type : IntegerType) (digits : DigitRun) (signed : Bool) : Parser U σ Bool := do
  let before ← cursor
  let (negative, first) := readSign signed before
  match digits.run first with
  | .failed failure stopped =>
    setCursor stopped
    reportFailure before stopped ((Pattern.digits (U := U) digits).errorKind failure)
    return false
  | .matched after => run.acceptInteger type digits negative before first after

def parseCodePoint (digits : DigitCount) : Parser U σ Bool := do
  let before ← cursor
  match digits.readCodePoint before with
  | (.error failure, stopped) =>
    setCursor stopped
    reportFailure before stopped (DigitCount.codePointError failure)
    return false
  | (.ok c, after) =>
    setCursor after
    reportToken .digits before.position after.position
    emit (.codePoint c)
    run.skipWhitespace
    return true

def acceptSymbol (value : Value) : Parser U σ Unit := do
  emit value
  run.skipWhitespace

/-- The longest symbol here, whose value and end are the answer. -/
def acceptSymbolHere (before after : Cursor U) (value : Value) : Parser U σ Unit := do
  setCursor after
  reportToken .identifier before.position after.position
  run.acceptSymbol value

def attemptSymbolHere (table : SymbolTable U) : Parser U σ Attempt := do
  let before ← cursor
  match table.longest before with
  | none => return .backtracked
  | some (value, after) =>
    run.acceptSymbolHere before after value
    return .accepted

def parseSymbolHere (table : SymbolTable U) : Parser U σ Bool := do
  let before ← cursor
  match table.longest before with
  | none =>
    reportErrorAt .unknownSymbol before.position
    return false
  | some (value, after) =>
    run.acceptSymbolHere before after value
    return true

/-- Nothing is reported before the word is known to be a symbol; then it is read once more. -/
def attemptSymbol (table : SymbolTable U) (word : Rule U) : Parser U σ Attempt := do
  let before ← cursor
  let (attempt, after) ←
    lookAhead (quietly (speculate (withoutWhitespace (run.attempt word))))
  if !attempt.isAccepted then return attempt
  match table.find (after.slice (before.spanTo after)) with
  | none => return .backtracked
  | some value =>
    discard (quietly (withoutWhitespace (run.parse word)))
    run.acceptSymbol value
    return .accepted

def parseSymbol (table : SymbolTable U) (word : Rule U) : Parser U σ Bool := do
  let before ← cursor
  if !(← quietly (withoutWhitespace (run.parse word))) then return false
  let after ← cursor
  let span := before.spanTo after
  match table.find (after.slice span) with
  | none =>
    reportError .unknownSymbol span.first span
    return false
  | some value =>
    run.acceptSymbol value
    return true

end Descent.Runner
