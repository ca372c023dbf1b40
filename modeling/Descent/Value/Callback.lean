import Descent.Value.Sink
/-!
Callbacks: what a production makes of the values that its rule produced.
-/

namespace Descent

structure CallbackInput (U : Type) where
  /-- The name of the production. -/
  name : String
  source : Array U
  /-- From the start of the production to its end. -/
  span : Span

abbrev Callback (U : Type) := CallbackInput U → List Value → Value

namespace Callback

variable {U : Type}

def production : Callback U := fun input values => .production input.name values

/-- One value as it is, several as a list. -/
def forward : Callback U := fun _ values =>
  match values with
  | [] => .nothing
  | [value] => value
  | values => .list values

/-- What a value adds to a list of all values: lists add their items. -/
def spliced : Value → List Value
  | .list items => items
  | value => [value]

def asList : Callback U := fun _ values => .list (values.flatMap spliced)

def asString [CodeUnit U] : Callback U := fun input values =>
  .text (Value.listText input.source values)

def lexemeText [CodeUnit U] : Callback U := fun input _ =>
  .text (Value.spanText input.source input.span)

def construct (function : List Value → Value) : Callback U := fun _ values => function values

def fold (start : Value) (function : Value → Value → Value) : Callback U := fun _ values =>
  values.foldl function start

def noop : Callback U := fun _ _ => .nothing

end Callback
end Descent
