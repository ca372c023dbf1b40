import Descent.Parsing.Interpreter
/-!
Runs of a grammar from its entry, and how they end. A run needs not read all of the input; a grammar
that has to reach the end says so.
-/

namespace Descent

inductive Outcome where
  | success
  /-- There were errors, but the entry got through. -/
  | recoveredFailure
  /-- The entry failed. -/
  | fatalFailure
  deriving DecidableEq, Repr

namespace Outcome

def ofRun (parsed : Bool) (errors : Nat) : Outcome :=
  if !parsed then fatalFailure else if errors = 0 then success else recoveredFailure

def isSuccess (outcome : Outcome) : Bool := outcome == success

def isError (outcome : Outcome) : Bool := outcome != success

def isRecoveredError (outcome : Outcome) : Bool := outcome == recoveredFailure

def isFatalError (outcome : Outcome) : Bool := outcome == fatalFailure

end Outcome

structure Verdict where
  outcome : Outcome
  /-- Where the entry stopped. -/
  position : Nat
  statistics : Statistics
  deriving DecidableEq, Repr

namespace Verdict

/-- How many errors there were, with those that the observer has not seen. -/
def errorCount (verdict : Verdict) : Nat := verdict.statistics.errors

end Verdict

structure Completion (σ : Type) where
  parsed : Bool
  verdict : Verdict
  values : List Value
  notes : σ

/-- How a run ended, with its result and the errors that were seen. -/
structure ParseResult (α : Type) where
  verdict : Verdict
  value : Option α
  errors : List ParseError

namespace Grammar

variable {U σ : Type} [CodeUnit U]

/-- Runs the entry of a grammar; none if the fuel did not suffice. -/
def run (grammar : Grammar U) (config : ParseConfig) (observer : Observer σ) (notes : σ)
    (cursor : Cursor U) (fuel : Nat) : Option (Completion σ) :=
  let environment := ⟨grammar, config, observer⟩
  let call := (Runner.withFuel fuel).call grammar.entry false
  (call environment (.initial cursor notes)).map fun step =>
    let statistics := step.state.report.statistics
    let parsed := step.answer.isAccepted
    { parsed
      verdict := ⟨.ofRun parsed statistics.errors, step.state.cursor.position, statistics⟩
      values := step.values
      notes := step.state.report.notes }

end Grammar
end Descent
