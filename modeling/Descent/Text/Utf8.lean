/-!
UTF-8 as a codec between scalar values and bytes. Decoding never fails: every maximal prefix of an
ill-formed sequence is read as one replacement character, and decoding resumes at the byte that
could not continue it.
-/

namespace Descent.Text

/-- The scalar value U+FFFD, which stands for input that could not be decoded. -/
def replacement : Char := '\uFFFD'

namespace Utf8

/-- A scalar value takes one to four bytes; every byte but the first carries six of its bits. -/
def encodeChar (c : Char) : List UInt8 :=
  let n := c.toNat
  if n < 0x80 then [UInt8.ofNat n]
  else if n < 0x800 then [UInt8.ofNat (0xC0 + n / 0x40), UInt8.ofNat (0x80 + n % 0x40)]
  else if n < 0x10000 then
    [UInt8.ofNat (0xE0 + n / 0x1000), UInt8.ofNat (0x80 + n / 0x40 % 0x40),
      UInt8.ofNat (0x80 + n % 0x40)]
  else
    [UInt8.ofNat (0xF0 + n / 0x40000), UInt8.ofNat (0x80 + n / 0x1000 % 0x40),
      UInt8.ofNat (0x80 + n / 0x40 % 0x40), UInt8.ofNat (0x80 + n % 0x40)]

def encode (text : List Char) : List UInt8 :=
  text.flatMap encodeChar

/-- A sequence that has begun: how many bytes it still needs after the next one, the bounds of
the next one, and the bits read so far. The bounds rule out overlong forms, surrogates and values
above U+10FFFF at the first byte where they show. -/
structure Pending where
  further : Nat
  low : Nat
  high : Nat
  bits : Nat
  deriving DecidableEq, Repr

abbrev Progress := List Char × Option Pending

/-- A byte that does not continue a sequence. -/
def start (byte : Nat) : Progress :=
  if byte < 0x80 then ([Char.ofNat byte], none)
  else if byte < 0xC2 then ([replacement], none)
  else if byte < 0xE0 then ([], some ⟨0, 0x80, 0xBF, byte % 0x20⟩)
  else if byte = 0xE0 then ([], some ⟨1, 0xA0, 0xBF, 0⟩)
  else if byte = 0xED then ([], some ⟨1, 0x80, 0x9F, 0xD⟩)
  else if byte < 0xF0 then ([], some ⟨1, 0x80, 0xBF, byte % 0x10⟩)
  else if byte = 0xF0 then ([], some ⟨2, 0x90, 0xBF, 0⟩)
  else if byte < 0xF4 then ([], some ⟨2, 0x80, 0xBF, byte % 8⟩)
  else if byte = 0xF4 then ([], some ⟨2, 0x80, 0x8F, 4⟩)
  else ([replacement], none)

/-- A byte after an open sequence either continues it, or ends it with a replacement character
and is then read on its own. -/
def step (pending : Option Pending) (byte : Nat) : Progress :=
  match pending with
  | none => start byte
  | some sequence =>
    if sequence.low ≤ byte ∧ byte ≤ sequence.high then
      let bits := sequence.bits * 0x40 + byte % 0x40
      match sequence.further with
      | 0 => ([Char.ofNat bits], none)
      | further + 1 => ([], some ⟨further, 0x80, 0xBF, bits⟩)
    else
      let (text, next) := start byte
      (replacement :: text, next)

/-- Decoding with a sequence possibly open; one that the input leaves open is ill-formed too. -/
def decodeFrom (pending : Option Pending) : List UInt8 → List Char
  | [] => if pending.isSome then [replacement] else []
  | byte :: rest =>
    let (text, next) := step pending byte.toNat
    text ++ decodeFrom next rest

def decode (bytes : List UInt8) : List Char :=
  decodeFrom none bytes

end Utf8
end Descent.Text
