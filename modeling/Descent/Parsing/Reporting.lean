import Descent.Parsing.Parser
/-!
Reporting to the observer. Whitespace is skipped with the observer muted: it sees no productions and
tokens then, but it does see errors.
-/

namespace Descent.Parser

variable {U σ : Type}

def notify (change : Observer σ → σ → σ) : Parser U σ Unit := do
  let observer := (← environment).observer
  modifyReport fun report => { report with notes := change observer report.notes }

def count (change : Statistics → Statistics) : Parser U σ Unit :=
  modifyReport fun report => { report with statistics := change report.statistics }

def isMuted : Parser U σ Bool := do return (← state).report.isMuted

/-- Reports a token. One that is not seen is not counted either. -/
def reportToken (kind : TokenKind) (first stop : Nat) : Parser U σ Unit := do
  unless ← isMuted do
    count fun statistics => { statistics with tokens := statistics.tokens + 1 }
    notify fun observer => observer.token kind first stop

def reportSkipped (before after : Cursor U) : Parser U σ Unit := do
  if before.position < after.position then
    reportToken .error before.position after.position

/-- Reports an error. It is always counted, and seen up to the limit. -/
def raise (error : ParseError) : Parser U σ Unit := do
  count fun statistics => { statistics with errors := statistics.errors + 1 }
  if (← state).report.statistics.errors ≤ (← environment).config.maxErrors then
    let profile := (← scope).profile
    notify fun observer => observer.error profile error

/-- Reports an error in the name of the innermost production. -/
def reportError (kind : ParseError.Kind) (position : Nat) (span : Span) : Parser U σ Unit := do
  raise ⟨(← scope).profile.name, position, span, kind⟩

def reportErrorAt (kind : ParseError.Kind) (position : Nat) : Parser U σ Unit :=
  reportError kind position (.empty position)

/-- Reports a failed match: what was read is skipped input, and the error lies at its end. -/
def reportFailure (before stopped : Cursor U) (kind : ParseError.Kind) : Parser U σ Unit := do
  reportSkipped before stopped
  reportError kind stopped.position (before.spanTo stopped)

/-- What becomes of the items of a list here. -/
def currentSink : Parser U σ Sink := do
  return (← environment).observer.sink (← scope).profile

end Descent.Parser
