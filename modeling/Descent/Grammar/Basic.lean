import Descent.Rule.Basic
import Descent.Value.Callback
/-!
Grammars: productions, one of which is the entry, and the rule for whitespace.
-/

namespace Descent

/-- What observers see of a production. -/
structure Profile where
  id : ProductionId
  name : String
  /-- No whitespace is skipped inside, and adjacent tokens of a kind are one in a tree. -/
  isToken : Bool
  /-- It has no node of its own in a tree. -/
  isTransparent : Bool
  deriving DecidableEq, Repr

namespace Profile

/-- Stands for the place outside all productions. -/
def detached : Profile :=
  ⟨UInt32.size - 1, "", false, false⟩

end Profile

structure Production (U : Type) where
  profile : Profile
  rule : Rule U
  /-- The rule for whitespace inside, where that is not the caller's. -/
  whitespace : Option (Rule U)
  callback : Option (Callback U)
  sink : Option Sink

structure Grammar (U : Type) where
  productions : Array (Production U)
  whitespace : Option (Rule U)
  entry : ProductionId

namespace Grammar

variable {U : Type}

def production? (grammar : Grammar U) (id : ProductionId) : Option (Production U) :=
  grammar.productions[id]?

def find? (grammar : Grammar U) (name : String) : Option ProductionId :=
  grammar.productions.findIdx? fun production => production.profile.name == name

def names (grammar : Grammar U) : List String :=
  grammar.productions.toList.map fun production => production.profile.name

def size (grammar : Grammar U) : Nat :=
  grammar.productions.size

def isEmpty (grammar : Grammar U) : Bool :=
  grammar.productions.isEmpty

end Grammar
end Descent
