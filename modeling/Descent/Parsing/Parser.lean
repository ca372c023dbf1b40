import Descent.Parsing.State
/-!
Parsers: what rules mean. A parser changes the state and gives an answer and values; values are
collected in the order in which they are produced, also by a parser whose answer is that it failed.
A parser with no outcome at all has run out of fuel.
-/

namespace Descent

/-- What stays the same during a run. -/
structure Environment (U σ : Type) where
  grammar : Grammar U
  config : ParseConfig
  observer : Observer σ

structure Step (U σ α : Type) where
  answer : α
  values : List Value
  state : State U σ

def Parser (U σ α : Type) := Environment U σ → State U σ → Option (Step U σ α)

namespace Parser

variable {U σ α β : Type}

protected def pure (answer : α) : Parser U σ α := fun _ state => some ⟨answer, [], state⟩

protected def bind (first : Parser U σ α) (rest : α → Parser U σ β) : Parser U σ β :=
  fun environment state =>
    match first environment state with
    | none => none
    | some step =>
      match rest step.answer environment step.state with
      | none => none
      | some last => some { last with values := step.values ++ last.values }

instance : Monad (Parser U σ) where
  pure := Parser.pure
  bind := Parser.bind

def outOfFuel : Parser U σ α := fun _ _ => none

def environment : Parser U σ (Environment U σ) := fun environment state =>
  some ⟨environment, [], state⟩

def state : Parser U σ (State U σ) := fun _ state => some ⟨state, [], state⟩

def modify (change : State U σ → State U σ) : Parser U σ Unit := fun _ state =>
  some ⟨(), [], change state⟩

def cursor : Parser U σ (Cursor U) := do return (← state).cursor

def setCursor (cursor : Cursor U) : Parser U σ Unit :=
  modify fun state => { state with cursor }

def scope : Parser U σ (Scope U) := do return (← state).scope

def modifyScope (change : Scope U → Scope U) : Parser U σ Unit :=
  modify fun state => { state with scope := change state.scope }

def modifyReport (change : Report σ → Report σ) : Parser U σ Unit :=
  modify fun state => { state with report := change state.report }

def emit (value : Value) : Parser U σ Unit := fun _ state => some ⟨(), [value], state⟩

def emitUnlessNothing (value : Value) : Parser U σ Unit :=
  if value.isNothing then pure () else emit value

def emitAll (values : List Value) : Parser U σ Unit := fun _ state => some ⟨(), values, state⟩

def collect (inner : Parser U σ α) : Parser U σ (α × List Value) := fun environment state =>
  (inner environment state).map fun step => ⟨(step.answer, step.values), [], step.state⟩

def quietly (inner : Parser U σ α) : Parser U σ α := do return (← collect inner).1

/-- Runs a parser only for its answer, its values and the place where it stopped: nothing that it
reports is seen or counted, and all that it puts in scope is gone. -/
def speculate (inner : Parser U σ α) : Parser U σ α := fun environment state =>
  let alone := { state with report := Report.fresh state.report.notes }
  (inner { environment with observer := Observer.silent } alone).map fun step =>
    { step with state := { step.state with scope := state.scope, report := state.report } }

/-- A parser after which reading goes on from where it began; the answer comes with the place
where it stopped. -/
def lookAhead (inner : Parser U σ α) : Parser U σ (α × Cursor U) := do
  let before ← cursor
  let answer ← inner
  let after ← cursor
  setCursor before
  return (answer, after)

inductive Round (α β : Type) where
  | again (next : α)
  | done (result : β)

/-- Goes round a loop, at most as often as there is fuel. -/
def iterate (round : α → Parser U σ (Round α β)) : Nat → α → Parser U σ β
  | 0, _ => outOfFuel
  | fuel + 1, start => do
    match ← round start with
    | .again next => iterate round fuel next
    | .done result => return result

/-- Skips input up to where `target` gives an answer. The end of the view ends the search, and so
does a place where `isLimit` holds; the answer is looked for there as well. -/
def seek (target : Parser U σ (Option α)) (isLimit : Parser U σ Bool) : Parser U σ (Option α) := do
  go (← cursor).left
where
  go : Nat → Parser U σ (Option α)
    | 0 => target
    | left + 1 => do
      match ← target with
      | some answer => return some answer
      | none =>
        if ← isLimit then return none
        modify fun state => { state with cursor := state.cursor.next }
        go left

end Parser
end Descent
