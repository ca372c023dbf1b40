import Descent.Value.Basic
/-!
Sinks: what becomes of the items of a list. A sink sees all items at once, each as the values that
it produced.
-/

namespace Descent

abbrev Sink := List (List Value) → Value

namespace Sink

/-- One value stands for itself, several become a list inside the list. -/
def itemValues : List Value → List Value
  | [] => []
  | [value] => [value]
  | values => [.list values]

def list : Sink := fun items => .list (items.flatMap itemValues)

def count : Sink := fun items => .integer items.length

def null : Sink := fun _ => .nothing

end Sink
end Descent
