import Descent.Text.Quoted
import Descent.Text.Utf16
/-!
Code units: what a source is made of. Patterns compare units by their numeric value and never
decode; decoding is for text in answers. The four encodings are UTF-8 bytes, UTF-16 units, 32-bit
units and scalar values.
-/

namespace Descent

/-- A code unit of some encoding. `decode` reads every unit list, replacing what is ill-formed. -/
class CodeUnit (U : Type) where
  value : U → Nat
  value_injective : ∀ {a b : U}, value a = value b → a = b
  /-- The unit with the value of a byte. -/
  ofByte : UInt8 → U
  value_ofByte : ∀ byte, value (ofByte byte) = byte.toNat
  encode : List Char → List U
  decode : List U → List Char
  /-- The unit as it is shown to a reader. -/
  describe : U → String

namespace CodeUnit

variable {U : Type} [CodeUnit U]

instance : DecidableEq U := fun a b =>
  if h : value a = value b then isTrue (value_injective h)
  else isFalse fun equal => h (equal ▸ rfl)

/-- Whether the unit has the value of the character `c`, which is meant to be an ASCII one. -/
def isChar (unit : U) (c : Char) : Bool :=
  value unit == c.toNat

def ofText (text : String) : List U :=
  encode text.toList

def toText (units : List U) : String :=
  String.ofList (decode units)

end CodeUnit

instance : CodeUnit UInt8 where
  value := UInt8.toNat
  value_injective := UInt8.toNat_inj.mp
  ofByte byte := byte
  value_ofByte _ := rfl
  encode := Text.Utf8.encode
  decode := Text.Utf8.decode
  describe unit := Nat.repr unit.toNat

instance : CodeUnit UInt16 where
  value := UInt16.toNat
  value_injective := UInt16.toNat_inj.mp
  ofByte byte := byte.toUInt16
  value_ofByte _ := rfl
  encode := Text.Utf16.encode
  decode := Text.Utf16.decode
  describe unit := Nat.repr unit.toNat

/-- A 32-bit unit that is no scalar value is read as a replacement character. -/
def Text.scalarOf (unit : UInt32) : Char :=
  if h : unit.toNat.isValidChar then Char.ofNatAux unit.toNat h else Text.replacement

instance : CodeUnit UInt32 where
  value := UInt32.toNat
  value_injective := UInt32.toNat_inj.mp
  ofByte byte := byte.toUInt32
  value_ofByte _ := rfl
  encode text := text.map Char.val
  decode units := units.map Text.scalarOf
  describe unit := Nat.repr unit.toNat

instance : CodeUnit Char where
  value := Char.toNat
  value_injective h := Char.toNat_inj.mp h
  ofByte byte := Char.ofUInt8 byte
  value_ofByte _ := rfl
  encode text := text
  decode units := units
  describe := Text.quotedChar

end Descent
