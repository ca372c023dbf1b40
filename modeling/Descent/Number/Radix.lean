/-!
Number bases and the units that are digits in them.
-/

namespace Descent

inductive Radix where
  | binary
  | octal
  | decimal
  /-- Letters in either case. -/
  | hex
  | hexLower
  | hexUpper
  deriving DecidableEq, Repr

namespace Radix

def base : Radix → Nat
  | binary => 2
  | octal => 8
  | decimal => 10
  | hex | hexLower | hexUpper => 16

def allowsLower (radix : Radix) : Bool := radix != hexUpper

def allowsUpper (radix : Radix) : Bool := radix != hexLower

/-- The value of a unit as a digit, whatever the base. -/
def letterValue (radix : Radix) (unit : Nat) : Option Nat :=
  if '0'.toNat ≤ unit ∧ unit ≤ '9'.toNat then some (unit - '0'.toNat)
  else if radix.allowsLower ∧ 'a'.toNat ≤ unit ∧ unit ≤ 'f'.toNat then
    some (unit - 'a'.toNat + 10)
  else if radix.allowsUpper ∧ 'A'.toNat ≤ unit ∧ unit ≤ 'F'.toNat then
    some (unit - 'A'.toNat + 10)
  else none

def digitValue (radix : Radix) (unit : Nat) : Option Nat :=
  (radix.letterValue unit).filter (· < radix.base)

def isDigit (radix : Radix) (unit : Nat) : Bool :=
  (radix.digitValue unit).isSome

def name : Radix → String
  | binary => "digit.binary"
  | octal => "digit.octal"
  | decimal => "digit.decimal"
  | hex => "digit.hex"
  | hexLower => "digit.hex-lower"
  | hexUpper => "digit.hex-upper"

end Radix
end Descent
