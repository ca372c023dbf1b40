import Descent.Ascii
import Descent.Text.CodeUnit
/-!
Classes of code units, told apart by their numeric value.
-/

namespace Descent

inductive UnitClass where
  | ascii (members : AsciiClass)
  /-- Both bounds are included. -/
  | range (low high : Nat)
  | set (values : List Nat)
  | union (members : List UnitClass)
  | complement (excluded : UnitClass)
  | any
  /-- A class that mismatches are reported under another name for. -/
  | named (name : String) (content : UnitClass)

namespace UnitClass

def chars (low high : Char) : UnitClass :=
  range low.toNat high.toNat

def ofText (text : String) : UnitClass :=
  set (text.toList.map Char.toNat)

def ofChar (c : Char) : UnitClass :=
  set [c.toNat]

/-- A class on the left that is a union already takes the other one as its last member. -/
def or : UnitClass → UnitClass → UnitClass
  | union members, other => union (members ++ [other])
  | first, other => union [first, other]

/-- The complement of a complement is the class itself. -/
def not : UnitClass → UnitClass
  | complement excluded => excluded
  | other => complement other

mutual

def contains : UnitClass → Nat → Bool
  | ascii members, value => members.contains value
  | range low high, value => low ≤ value && value ≤ high
  | set values, value => values.contains value
  | union members, value => containsAny members value
  | complement excluded, value => !excluded.contains value
  | any, _ => true
  | .named _ content, value => content.contains value

def containsAny : List UnitClass → Nat → Bool
  | [], _ => false
  | first :: rest, value => first.contains value || containsAny rest value

end

def accepts {U : Type} [CodeUnit U] (members : UnitClass) (unit : U) : Bool :=
  members.contains (CodeUnit.value unit)

/-- A bound of a range as it is shown: the character, or its number in upper case hexadecimal. -/
def showBound (value : Nat) : String :=
  if h : value.isValidChar then String.singleton (Char.ofNatAux value h)
  else "\\u\x7b" ++ (String.ofList (Nat.toDigits 16 value)).toUpper ++ "\x7d"

def name : UnitClass → String
  | ascii members => members.name
  | range low high => showBound low ++ "-" ++ showBound high
  | set _ => "char-set"
  | union _ => "char-union"
  | complement excluded => "complement of " ++ excluded.name
  | any => "code-unit"
  | named name _ => name

end UnitClass
end Descent
