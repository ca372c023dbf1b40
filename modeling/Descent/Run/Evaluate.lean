import Descent.Run.Basic
/-!
The value of an input: the callbacks of productions make one value of the values inside.
-/

namespace Descent

namespace Observer

variable {U : Type}

def callbackOf (grammar : Grammar U) (profile : Profile) : Callback U :=
  ((grammar.production? profile.id).bind Production.callback).getD .production

def values (grammar : Grammar U) (source : Array U) : Observer (Array ParseError) :=
  { Observer.silent with
    finish := fun profile ticket values position errors =>
      let span := Span.between ticket.position position
      (callbackOf grammar profile ⟨profile.name, source, span⟩ values, errors)
    error := fun _ error errors => errors.push error
    sink := fun profile => ((grammar.production? profile.id).bind Production.sink).getD .list }

end Observer

namespace Grammar

variable {U : Type} [CodeUnit U]

/-- The value of the entry, unless that failed. -/
def parse (grammar : Grammar U) (config : ParseConfig) (cursor : Cursor U) (fuel : Nat) :
    Option (ParseResult Value) :=
  (grammar.run config (.values grammar cursor.source) #[] cursor fuel).map fun completion =>
    { verdict := completion.verdict
      value := if completion.parsed then some (completion.values.headD .nothing) else none
      errors := completion.notes.toList }

end Grammar
end Descent
