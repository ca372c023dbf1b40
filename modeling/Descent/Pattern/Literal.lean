import Descent.Pattern.Result
import Descent.UnitClass
/-!
Literals, identifier shapes and keywords. A keyword is a literal that is a whole identifier: the
identifier is read first and then compared.
-/

namespace Descent

/-- Units to be matched one by one, and the text they are shown as. -/
structure Literal (U : Type) where
  units : List U
  text : String
  foldCase : Bool

/-- One leading unit, then any number of trailing ones. -/
structure IdentifierShape where
  leading : UnitClass
  trailing : UnitClass

variable {U : Type} [CodeUnit U]

namespace Literal

def ofText (text : String) : Literal U :=
  ⟨CodeUnit.ofText text, text, false⟩

/-- The same literal, where letters of ASCII match in either case. -/
def ignoringCase (literal : Literal U) : Literal U :=
  { literal with foldCase := true }

/-- An upper case letter of ASCII as its lower case one. -/
def fold (value : Nat) : Nat :=
  if 'A'.toNat ≤ value ∧ value ≤ 'Z'.toNat then value + 0x20 else value

def sameUnit (foldCase : Bool) (expected actual : U) : Bool :=
  expected = actual ||
    (foldCase && fold (CodeUnit.value expected) == fold (CodeUnit.value actual))

def runFrom (foldCase : Bool) (index : Nat) (cursor : Cursor U) : List U → MatchResult U
  | [] => .matched cursor
  | expected :: rest =>
    if cursor.peek.any (sameUnit foldCase expected) then
      runFrom foldCase (index + 1) cursor.next rest
    else .failed (.literalMismatch index) cursor

def run (literal : Literal U) (cursor : Cursor U) : MatchResult U :=
  runFrom literal.foldCase 0 cursor literal.units

end Literal

namespace IdentifierShape

/-- The identifiers of C: letters, digits and underscores, no digit first. -/
def c : IdentifierShape :=
  ⟨.ascii .alphaUnderscore, .ascii .word⟩

def run (shape : IdentifierShape) (cursor : Cursor U) : MatchResult U :=
  if cursor.peek.any shape.leading.accepts then
    .matched (cursor.next.skip shape.trailing.accepts)
  else .failed .mismatch cursor

def runKeyword (shape : IdentifierShape) (keyword : Literal U) (cursor : Cursor U) :
    MatchResult U :=
  match shape.run cursor with
  | .failed _ stopped => .failed .keywordMismatch stopped
  | .matched after =>
    if after.slice (cursor.spanTo after) = keyword.units then .matched after
    else .failed .keywordMismatch after

end IdentifierShape
end Descent
