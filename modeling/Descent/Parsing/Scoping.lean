import Descent.Parsing.Parser
/-!
Variables and the switches for whitespace.
-/

namespace Descent

/-- The variable that a loop watches. Its name is no word that a grammar would choose. -/
def loopExit : String := "<loop break>"

namespace Parser

variable {U σ α : Type}

def bindings : Parser U σ Bindings := do return (← scope).bindings

def modifyBindings (change : Bindings → Bindings) : Parser U σ Unit :=
  modifyScope fun scope => { scope with bindings := change scope.bindings }

def bindVariable (name : String) (binding : Binding) : Parser U σ Unit :=
  modifyBindings fun bindings => (name, binding) :: bindings

def findVariable (name : String) : Parser U σ (Option Binding) := do
  return (← bindings).find name

/-- Changes the innermost variable of a name, and says whether there is one. -/
def assignVariable (name : String) (change : Binding → Binding) : Parser U σ Bool := do
  match ← findVariable name with
  | none => return false
  | some old =>
    modifyBindings fun bindings => bindings.assign name (change old)
    return true

def bindingsHeight : Parser U σ Nat := do return (← bindings).length

def restoreBindings (height : Nat) : Parser U σ Unit :=
  modifyBindings fun bindings => bindings.restore height

/-- A parser during which no whitespace is skipped by itself. -/
def withoutWhitespace (inner : Parser U σ α) : Parser U σ α := do
  modifyScope fun scope => { scope with noWhitespace := scope.noWhitespace + 1 }
  let answer ← inner
  modifyScope fun scope => { scope with noWhitespace := scope.noWhitespace - 1 }
  return answer

end Parser
end Descent
