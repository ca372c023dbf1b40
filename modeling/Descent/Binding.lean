import Descent.Span
/-!
Variables of a running grammar. A production sees the variables of its callers and shadows them by
its own; what it binds is gone when it ends.
-/

namespace Descent

inductive Binding where
  | flag (value : Bool)
  /-- A signed number of 64 bits. -/
  | counter (value : Int)
  | lexeme (span : Span)
  deriving DecidableEq, Repr

namespace Binding

def flag? : Binding → Option Bool
  | flag value => some value
  | _ => none

def counter? : Binding → Option Int
  | counter value => some value
  | _ => none

/-- A counter after an amount was added; what does not fit into 64 bits wraps around. -/
def addCounter (value amount : Int) : Binding :=
  counter ((value + amount).bmod UInt64.size)

def lexeme? : Binding → Option Span
  | lexeme span => some span
  | _ => none

end Binding

/-- Bindings with their names, the innermost one first. -/
abbrev Bindings := List (String × Binding)

namespace Bindings

def find (bindings : Bindings) (name : String) : Option Binding :=
  bindings.lookup name

/-- The same variables, where the innermost one of a name has a new content. -/
def assign (name : String) (binding : Binding) : Bindings → Bindings
  | [] => []
  | (key, old) :: rest =>
    if key = name then (key, binding) :: rest else (key, old) :: assign name binding rest

def restore (bindings : Bindings) (height : Nat) : Bindings :=
  bindings.drop (bindings.length - height)

end Bindings
end Descent
