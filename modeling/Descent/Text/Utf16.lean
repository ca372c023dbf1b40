import Descent.Text.Utf8
/-!
UTF-16 as a codec between scalar values and 16-bit units. Decoding reads every surrogate without
its partner as one replacement character.
-/

namespace Descent.Text.Utf16

/-- Scalar values above U+FFFF are split into a high and a low surrogate of ten bits each. -/
def encodeChar (c : Char) : List UInt16 :=
  let n := c.toNat
  if n < 0x10000 then [UInt16.ofNat n]
  else
    let bits := n - 0x10000
    [UInt16.ofNat (0xD800 + bits / 0x400), UInt16.ofNat (0xDC00 + bits % 0x400)]

def encode (text : List Char) : List UInt16 :=
  text.flatMap encodeChar

def IsHigh (unit : Nat) : Prop := 0xD800 ≤ unit ∧ unit < 0xDC00

def IsLow (unit : Nat) : Prop := 0xDC00 ≤ unit ∧ unit < 0xE000

instance (unit : Nat) : Decidable (IsHigh unit) := inferInstanceAs (Decidable (_ ∧ _))

instance (unit : Nat) : Decidable (IsLow unit) := inferInstanceAs (Decidable (_ ∧ _))

/-- A unit that no high surrogate waits for: the text it completes, and itself if it is a high
surrogate. -/
def start (unit : Nat) : List Char × Option Nat :=
  if IsHigh unit then ([], some unit)
  else if IsLow unit then ([replacement], none)
  else ([Char.ofNat unit], none)

def step (high : Option Nat) (unit : Nat) : List Char × Option Nat :=
  match high with
  | none => start unit
  | some high =>
    if IsLow unit then
      ([Char.ofNat (0x10000 + (high - 0xD800) * 0x400 + (unit - 0xDC00))], none)
    else
      let (text, next) := start unit
      (replacement :: text, next)

def decodeFrom (high : Option Nat) : List UInt16 → List Char
  | [] => if high.isSome then [replacement] else []
  | unit :: rest =>
    let (text, next) := step high unit.toNat
    text ++ decodeFrom next rest

def decode (units : List UInt16) : List Char :=
  decodeFrom none units

end Descent.Text.Utf16
