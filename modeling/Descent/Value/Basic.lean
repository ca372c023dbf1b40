import Descent.Span
import Descent.Text.CodeUnit
/-!
The values that rules produce and productions combine.
-/

namespace Descent

inductive Value where
  /-- No value: it is dropped where a production collects values. -/
  | nothing
  /-- An optional rule did not match. -/
  | absent
  | bool (value : Bool)
  | integer (value : Int)
  | codePoint (value : Char)
  /-- A part of the input. -/
  | lexeme (span : Span)
  | text (value : String)
  | list (items : List Value)
  /-- What a production makes of its values by itself. -/
  | production (name : String) (values : List Value)
  deriving Repr

namespace Value

instance : Inhabited Value := ⟨nothing⟩

def isNothing : Value → Bool
  | nothing => true
  | _ => false

def integer? : Value → Option Int
  | integer value => some value
  | _ => none

def lexeme? : Value → Option Span
  | lexeme span => some span
  | _ => none

def text? : Value → Option String
  | text value => some value
  | _ => none

def list? : Value → Option (List Value)
  | list items => some items
  | _ => none

def production? : Value → Option (String × List Value)
  | production name values => some (name, values)
  | _ => none

def spanText {U : Type} [CodeUnit U] (source : Array U) (span : Span) : String :=
  CodeUnit.toText (source.extract span.first span.stop).toList

mutual

/-- The text of a value: lexemes are decoded from the source, and the values inside a value
follow each other. -/
def toText {U : Type} [CodeUnit U] (source : Array U) : Value → String
  | lexeme span => spanText source span
  | codePoint value => String.singleton value
  | text value => value
  | integer value => toString value
  | bool value => if value then "true" else "false"
  | list items => listText source items
  | production _ values => listText source values
  | nothing => ""
  | absent => ""

def listText {U : Type} [CodeUnit U] (source : Array U) : List Value → String
  | [] => ""
  | first :: rest => first.toText source ++ listText source rest

end

end Value
end Descent
