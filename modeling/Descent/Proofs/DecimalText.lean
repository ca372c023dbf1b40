import Descent.Proofs.IntegerRange

/-! Decimal text. The digits that a number is written with spell that number, for every type that
has it. -/

namespace Descent

namespace DecimalText

private theorem digitValue_of_isDigit {c : Char} (digit : c.isDigit = true) :
    Radix.decimal.digitValue c.toNat = some (c.toNat - '0'.toNat) := by
  obtain ⟨low, high⟩ := Char.isDigit_iff_toNat.mp digit
  have below : c.toNat - '0'.toNat < Radix.decimal.base := by
    change _ < 10
    have nine : '9'.toNat = '0'.toNat + 9 := rfl
    omega
  rw [Radix.digitValue, Radix.letterValue, if_pos ⟨low, high⟩, Option.filter_some,
    if_pos (decide_eq_true below)]

private theorem encodeChar_of_isDigit {c : Char} (digit : c.isDigit = true) :
    Text.Utf8.encodeChar c = [UInt8.ofNat c.toNat] ∧
      (UInt8.ofNat c.toNat).toNat = c.toNat := by
  obtain ⟨-, high⟩ := Char.isDigit_iff_toNat.mp digit
  have nine : '9'.toNat = 57 := rfl
  refine ⟨?_, ?_⟩
  · simp only [Text.Utf8.encodeChar]
    rw [if_pos (by omega)]
  · rw [UInt8.toNat_ofNat']
    omega

theorem digitsOf_encode {text : List Char} (digits : ∀ c ∈ text, c.isDigit = true) :
    digitsOf .decimal (Text.Utf8.encode text) = text.map fun c => c.toNat - '0'.toNat := by
  induction text with
  | nil => rfl
  | cons c text ih =>
    have digit := digits c List.mem_cons_self
    obtain ⟨encoded, value⟩ := encodeChar_of_isDigit digit
    have others := ih fun other member => digits other (.tail _ member)
    unfold digitsOf Text.Utf8.encode at others ⊢
    rw [List.flatMap_cons, encoded, List.singleton_append, List.filterMap_cons, others]
    simp only [CodeUnit.value, value, digitValue_of_isDigit digit, List.map_cons]

def bytes (number : Nat) : List UInt8 :=
  CodeUnit.ofText (Nat.repr number)

private theorem bytes_eq (number : Nat) :
    bytes number = Text.Utf8.encode (Nat.toDigits 10 number) :=
  congrArg Text.Utf8.encode Nat.toList_repr

theorem isDigit_of_mem_bytes {number : Nat} {unit : UInt8} (member : unit ∈ bytes number) :
    Radix.decimal.isDigit (CodeUnit.value unit) = true := by
  rw [bytes_eq, Text.Utf8.encode, List.mem_flatMap] at member
  obtain ⟨c, member, encodes⟩ := member
  have digit := Nat.isDigit_of_mem_toDigits (by decide) (by decide) member
  obtain ⟨encoded, value⟩ := encodeChar_of_isDigit digit
  rw [encoded, List.mem_singleton] at encodes
  rw [encodes, Radix.isDigit]
  simp only [CodeUnit.value, value, digitValue_of_isDigit digit, Option.isSome_some]

theorem bytes_ne_nil (number : Nat) : bytes number ≠ [] := by
  rw [bytes_eq]
  obtain ⟨c, text, written⟩ := List.exists_cons_of_ne_nil
    (Nat.toDigits_ne_nil (n := number) (b := 10))
  have digit := Nat.isDigit_of_mem_toDigits (b := 10) (n := number) (c := c) (by decide) (by decide)
    (written ▸ List.mem_cons_self)
  rw [written, Text.Utf8.encode, List.flatMap_cons, (encodeChar_of_isDigit digit).1]
  exact List.cons_ne_nil _ _

/-- The text of a number spells it, if the type has it. -/
theorem parseInteger_bytes {type : IntegerType} {number : Nat}
    (within : number ≤ type.limit false) :
    parseInteger type .decimal false (bytes number) = .ok (number : Int) := by
  have digits : ∀ c ∈ Nat.toDigits 10 number, c.isDigit = true := fun c member =>
    Nat.isDigit_of_mem_toDigits (by decide) (by decide) member
  have spells : IntegerType.spelled 10 ((Nat.toDigits 10 number).map fun c => c.toNat - '0'.toNat) =
      number := by
    have read := Nat.ofDigitChars_toDigits (b := 10) (n := number) (by decide) (by decide)
    rw [IntegerType.spelled_eq_foldl, List.foldl_map]
    simpa only [Nat.ofDigitChars, Nat.mul_comm] using read
  have base : Radix.decimal.base = 10 := rfl
  rw [parseInteger_eq, bytes_eq, digitsOf_encode digits, base, spells, if_pos within]
  rfl

end DecimalText
end Descent
