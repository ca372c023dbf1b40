import Descent.Run.Basic
/-!
Checking input against a grammar: nothing is kept but the errors.
-/

namespace Descent

def Observer.errors {σ : Type} (receive : ParseError → σ → σ) : Observer σ :=
  { Observer.silent with
    error := fun _ error notes => receive error notes
    sink := fun _ => .null }

namespace Grammar

variable {U σ : Type} [CodeUnit U]

/-- Checks input; the errors go to `receive` one by one. -/
def validate (grammar : Grammar U) (config : ParseConfig) (receive : ParseError → σ → σ)
    (start : σ) (cursor : Cursor U) (fuel : Nat) : Option (Verdict × σ) :=
  (grammar.run config (.errors receive) start cursor fuel).map fun completion =>
    (completion.verdict, completion.notes)

end Grammar
end Descent
