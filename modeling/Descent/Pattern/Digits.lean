import Descent.Number.IntegerType
import Descent.ParseError
import Descent.Pattern.Result
import Descent.UnitClass
/-!
Runs of digits, and the numbers that they spell.
-/

namespace Descent

/-- One or more digits. Where leading zeroes are forbidden, a zero in front has to stand alone. A
separator has to stand between two digits. -/
structure DigitRun where
  radix : Radix
  trimmed : Bool
  separator : Option UnitClass

namespace DigitRun

variable {U : Type} [CodeUnit U]

def ofRadix (radix : Radix) : DigitRun :=
  ⟨radix, false, none⟩

def digitAt (digits : DigitRun) (cursor : Cursor U) : Bool :=
  cursor.peek.any fun unit => digits.radix.isDigit (CodeUnit.value unit)

def isSeparator (digits : DigitRun) (unit : U) : Bool :=
  digits.separator.any fun members => members.accepts unit

def separatorAt (digits : DigitRun) (cursor : Cursor U) : Bool :=
  cursor.peek.any digits.isSeparator

/-- The run after its first digit. A unit that is both is read as a separator. -/
def runRest (digits : DigitRun) (cursor : Cursor U) : MatchResult U :=
  go cursor.left cursor
where
  go : Nat → Cursor U → MatchResult U
    | 0, cursor => .matched cursor
    | left + 1, cursor =>
      if digits.separatorAt cursor then
        if digits.digitAt cursor.next then go left cursor.next.next
        else .failed .missingSeparatorDigit cursor.next
      else if digits.digitAt cursor then go left cursor.next
      else .matched cursor

def run (digits : DigitRun) (cursor : Cursor U) : MatchResult U :=
  if !digits.digitAt cursor then .failed .expectedDigit cursor
  else if digits.trimmed && cursor.peek.any (CodeUnit.isChar · '0') then
    if digits.digitAt cursor.next || digits.separatorAt cursor.next then
      .failed .leadingZero cursor.next
    else .matched cursor.next
  else digits.runRest cursor.next

/-- Past all digits and separators, however they are mixed. -/
def skipMalformed (digits : DigitRun) (cursor : Cursor U) : Cursor U :=
  cursor.skip fun unit =>
    digits.radix.isDigit (CodeUnit.value unit) || digits.isSeparator unit

def convert (digits : DigitRun) (type : IntegerType) (negative : Bool) (cursor : Cursor U)
    (span : Span) : Except MatchFailure Int :=
  parseInteger type digits.radix negative (cursor.slice span)

def readInteger (digits : DigitRun) (type : IntegerType) (cursor : Cursor U) :
    Except MatchFailure Int × Cursor U :=
  match digits.run cursor with
  | .failed failure stopped => (.error failure, stopped)
  | .matched after => (digits.convert type false after (cursor.spanTo after), after)

end DigitRun

structure DigitCount where
  radix : Radix
  count : Nat

namespace DigitCount

variable {U : Type} [CodeUnit U]

def run (digits : DigitCount) (cursor : Cursor U) : MatchResult U :=
  go digits.count cursor
where
  go : Nat → Cursor U → MatchResult U
    | 0, cursor => .matched cursor
    | count + 1, cursor =>
      match cursor.peek with
      | none => .failed .unexpectedEnd cursor
      | some unit =>
        if digits.radix.isDigit (CodeUnit.value unit) then go count cursor.next
        else .failed .expectedDigit cursor

def scalar (number : Int) : Except MatchFailure Char :=
  if h : number.toNat.isValidChar then .ok (Char.ofNatAux number.toNat h)
  else .error .invalidCodePoint

/-- The character that the digits name, and the cursor after them or where they failed. A number
of more than 32 bits names none either. -/
def readCodePoint (digits : DigitCount) (cursor : Cursor U) :
    Except MatchFailure Char × Cursor U :=
  match digits.run cursor with
  | .failed failure stopped => (.error failure, stopped)
  | .matched after =>
    match parseInteger .u32 digits.radix false (after.slice (cursor.spanTo after)) with
    | .error _ => (.error .invalidCodePoint, after)
    | .ok number => (scalar number, after)

/-- What a failure to read a code point is reported as. -/
def codePointError : MatchFailure → ParseError.Kind
  | .invalidCodePoint | .overflow => .invalidCodePoint
  | _ => .expectedDigit

end DigitCount
end Descent
