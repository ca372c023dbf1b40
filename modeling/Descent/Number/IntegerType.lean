import Descent.MatchFailure
import Descent.Number.Radix
import Descent.Text.CodeUnit
/-!
Integer types that digits can be converted to, and the conversion. It reads the digits from left to
right and stops at the first one that takes the magnitude above the limit of the type. Types of
less than 64 bits are read in a machine word that wraps, and the limit keeps it from doing so;
wider ones are read in 128 bits, where a product or a sum that does not fit is refused.
-/

namespace Descent

/-- A binary integer type. Those of the size of a pointer are the ones of 64 bits. -/
structure IntegerType where
  bits : Nat
  signed : Bool
  supported : bits ∈ [8, 16, 32, 64] := by decide
  deriving DecidableEq, Repr

namespace IntegerType

def u8 : IntegerType := { bits := 8, signed := false }
def u16 : IntegerType := { bits := 16, signed := false }
def u32 : IntegerType := { bits := 32, signed := false }
def u64 : IntegerType := { bits := 64, signed := false }
def i8 : IntegerType := { bits := 8, signed := true }
def i16 : IntegerType := { bits := 16, signed := true }
def i32 : IntegerType := { bits := 32, signed := true }
def i64 : IntegerType := { bits := 64, signed := true }

/-- The largest magnitude of a value with a minus sign, or without one. A type without sign has
no value with a minus sign but zero. -/
def limit (type : IntegerType) (negative : Bool) : Nat :=
  match type.signed, negative with
  | false, false => Nat.pow 2 type.bits - 1
  | false, true => 0
  | true, false => Nat.pow 2 (type.bits - 1) - 1
  | true, true => Nat.pow 2 (type.bits - 1)

/-- One more digit in a machine word, unless the limit is exceeded. -/
def accumulateWord (base limit sum digit : UInt64) : Option UInt64 :=
  let next := sum * base + digit
  if next ≤ limit then some next else none

def checkedMul (a b : BitVec 128) : Option (BitVec 128) :=
  if a.umulOverflow b then none else some (a * b)

def checkedAdd (a b : BitVec 128) : Option (BitVec 128) :=
  if a.uaddOverflow b then none else some (a + b)

/-- One more digit in 128 bits, unless they or the limit are exceeded. -/
def accumulateWide (base limit sum digit : BitVec 128) : Option (BitVec 128) :=
  ((checkedMul sum base).bind fun product => checkedAdd product digit).filter (· ≤ limit)

def wordOf (base limit : Nat) (digits : List Nat) : Option UInt64 :=
  digits.foldlM
    (fun sum digit => accumulateWord (.ofNat base) (.ofNat limit) sum (.ofNat digit)) 0

def wideOf (base limit : Nat) (digits : List Nat) : Option (BitVec 128) :=
  digits.foldlM
    (fun sum digit => accumulateWide (.ofNat 128 base) (.ofNat 128 limit) sum (.ofNat 128 digit)) 0

/-- The magnitude that digits spell, unless it exceeds the limit on the way. -/
def magnitude (type : IntegerType) (base limit : Nat) (digits : List Nat) : Option (BitVec 128) :=
  if type.bits < 64 then (wordOf base limit digits).map fun sum => sum.toBitVec.setWidth 128
  else wideOf base limit digits

/-- The value with a magnitude and a sign. What exceeds the width of the type is cut off. -/
def fromMagnitude (type : IntegerType) (magnitude : BitVec 128) (negative : Bool) : Int :=
  if type.signed then
    let signed := if negative then -magnitude else magnitude
    (signed.setWidth type.bits).toInt
  else (magnitude.setWidth type.bits).toNat

end IntegerType

/-- The values of the digits among some units; all other units are passed over. -/
def digitsOf {U : Type} [CodeUnit U] (radix : Radix) (units : List U) : List Nat :=
  units.filterMap fun unit => radix.digitValue (CodeUnit.value unit)

def parseInteger {U : Type} [CodeUnit U] (type : IntegerType) (radix : Radix) (negative : Bool)
    (units : List U) : Except MatchFailure Int :=
  match type.magnitude radix.base (type.limit negative) (digitsOf radix units) with
  | none => .error .overflow
  | some magnitude => .ok (type.fromMagnitude magnitude negative)

end Descent
