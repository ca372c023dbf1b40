import Descent.Grammar.Basic
import Descent.ParseError
/-!
Observers: what becomes of the things that happen while a grammar runs. A run sends every observer
the same calls, and each decides what to keep of them: nothing, a value or a tree. Productions open
and close like brackets.
-/

namespace Descent

/-- What an observer gets back when a production ends, as it gave it out when it started. -/
structure Ticket where
  position : Nat
  state : Nat
  deriving DecidableEq, Repr

namespace Ticket

def unseen : Ticket := ⟨0, 0⟩

end Ticket

/-- An observer that keeps its notes in `σ`. -/
structure Observer (σ : Type) where
  /-- A production starts at a position. -/
  start : Profile → Nat → σ → Ticket × σ
  /-- A token from one position to another. -/
  token : TokenKind → Nat → Nat → σ → σ
  /-- A production ends well, and its values become one. -/
  finish : Profile → Ticket → List Value → Nat → σ → Value × σ
  /-- A production declined the input and is as if it had never started. -/
  backtrack : Profile → Ticket → σ → σ
  /-- A production failed at a position. -/
  cancel : Profile → Ticket → Nat → σ → σ
  error : Profile → ParseError → σ → σ
  /-- What becomes of the items of a list inside a production. -/
  sink : Profile → Sink

namespace Observer

variable {σ : Type}

def silent : Observer σ where
  start _ position notes := (⟨position, 0⟩, notes)
  token _ _ _ notes := notes
  finish _ _ _ _ notes := (.nothing, notes)
  backtrack _ _ notes := notes
  cancel _ _ _ notes := notes
  error _ _ notes := notes
  sink _ := .list

end Observer
end Descent
