import Descent.Text.Utf8

/-! The sequences of UTF-8. The decoder learns one byte at a time what a sequence may go on with;
the table of sequences says it of the sequence as a whole. Both agree with the encoder: a sequence
is what encodes some scalar value, and it is read as that one whatever comes after it. -/

namespace Descent.Text

/-- A character's number is a scalar value. -/
theorem toNat_scalar (c : Char) : c.toNat < 0xD800 ∨ 0xDFFF < c.toNat ∧ c.toNat < 0x110000 :=
  c.valid

theorem toNat_ofNat {n : Nat} (valid : n.isValidChar) : (Char.ofNat n).toNat = n := by
  rw [Char.ofNat, dif_pos valid]
  rfl

namespace Utf8

/-- A byte that can only continue a sequence. -/
def IsTail (byte : UInt8) : Prop :=
  0x80 ≤ byte.toNat ∧ byte.toNat ≤ 0xBF

/-- The byte sequences of one scalar value. Where three or four bytes could spell a value that fewer
spell, a surrogate or a value above U+10FFFF, the second byte is bounded further. -/
inductive Sequence : List UInt8 → Prop
  | one {lead : UInt8} (ascii : lead.toNat ≤ 0x7F) : Sequence [lead]
  | two {lead second : UInt8} (low : 0xC2 ≤ lead.toNat) (high : lead.toNat ≤ 0xDF)
      (tail : IsTail second) : Sequence [lead, second]
  | three {lead second third : UInt8} (low : 0xE0 ≤ lead.toNat) (high : lead.toNat ≤ 0xEF)
      (tail : IsTail second) (last : IsTail third)
      (shortest : lead.toNat = 0xE0 → 0xA0 ≤ second.toNat)
      (surrogate : lead.toNat = 0xED → second.toNat ≤ 0x9F) : Sequence [lead, second, third]
  | four {lead second third fourth : UInt8} (low : 0xF0 ≤ lead.toNat) (high : lead.toNat ≤ 0xF4)
      (tail : IsTail second) (further : IsTail third) (last : IsTail fourth)
      (shortest : lead.toNat = 0xF0 → 0x90 ≤ second.toNat)
      (greatest : lead.toNat = 0xF4 → second.toNat ≤ 0x8F) : Sequence [lead, second, third, fourth]

/-- The number that the bytes of a sequence spell: what the lead has beside its length, and six bits
of every other byte. -/
def number : List UInt8 → Nat
  | [lead] => lead.toNat
  | [lead, second] => lead.toNat % 0x20 * 0x40 + second.toNat % 0x40
  | [lead, second, third] =>
    (lead.toNat % 0x10 * 0x40 + second.toNat % 0x40) * 0x40 + third.toNat % 0x40
  | [lead, second, third, fourth] =>
    ((lead.toNat % 8 * 0x40 + second.toNat % 0x40) * 0x40 + third.toNat % 0x40) * 0x40 +
      fourth.toNat % 0x40
  | _ => 0

theorem sequence_encodeChar (c : Char) : Sequence (encodeChar c) := by
  have scalar := toNat_scalar c
  fun_cases encodeChar c with
  | case1 n small =>
    apply Sequence.one
    rw [UInt8.toNat_ofNat']
    omega
  | case2 => apply Sequence.two <;> simp only [IsTail, UInt8.toNat_ofNat'] <;> omega
  | case3 => apply Sequence.three <;> simp only [IsTail, UInt8.toNat_ofNat'] <;> omega
  | case4 => apply Sequence.four <;> simp only [IsTail, UInt8.toNat_ofNat'] <;> omega

theorem number_encodeChar (c : Char) : number (encodeChar c) = c.toNat := by
  have scalar := toNat_scalar c
  fun_cases encodeChar c <;> simp only [number, UInt8.toNat_ofNat'] <;> omega

theorem isValidChar_number {bytes : List UInt8} (valid : Sequence bytes) :
    (number bytes).isValidChar := by
  unfold Nat.isValidChar
  cases valid with
  | one ascii => simp only [number]; omega
  | two low high tail => simp only [number, IsTail] at *; omega
  | three low high tail last shortest surrogate => simp only [number, IsTail] at *; omega
  | four low high tail further last shortest greatest => simp only [number, IsTail] at *; omega

/-- A sequence is what its number is encoded as. -/
theorem encodeChar_number {bytes : List UInt8} (valid : Sequence bytes) :
    encodeChar (Char.ofNat (number bytes)) = bytes := by
  unfold encodeChar
  rw [toNat_ofNat (isValidChar_number valid)]
  generalize spelt : number bytes = n
  cases valid with
  | one ascii =>
    simp only [number] at spelt
    rw [if_pos (by omega), ← spelt, UInt8.ofNat_toNat]
  | two low high tail =>
    simp only [number, IsTail] at spelt tail
    rw [if_neg (by omega), if_pos (by omega)]
    simp only [List.cons.injEq, ← UInt8.toNat_inj, UInt8.toNat_ofNat', and_true]
    omega
  | three low high tail last shortest surrogate =>
    simp only [number, IsTail] at spelt tail last
    rw [if_neg (by omega), if_neg (by omega), if_pos (by omega)]
    simp only [List.cons.injEq, ← UInt8.toNat_inj, UInt8.toNat_ofNat', and_true]
    omega
  | four low high tail further last shortest greatest =>
    simp only [number, IsTail] at spelt tail further last
    rw [if_neg (by omega), if_neg (by omega), if_neg (by omega)]
    simp only [List.cons.injEq, ← UInt8.toNat_inj, UInt8.toNat_ofNat', and_true]
    omega

/-- The encoder writes what strings are stored as. -/
theorem encodeChar_eq (c : Char) : encodeChar c = String.utf8EncodeChar c := by
  have scalar := toNat_scalar c
  unfold encodeChar String.utf8EncodeChar
  rw [Char.toNat_val]
  generalize c.toNat = n at scalar ⊢
  dsimp only
  by_cases one : n ≤ 0x7F
  · rw [if_pos one, if_pos (Nat.lt_succ_of_le one)]
  rw [if_neg one, if_neg (mt Nat.le_of_lt_succ one)]
  by_cases two : n ≤ 0x7FF
  · rw [if_pos two, if_pos (Nat.lt_succ_of_le two)]
    simp only [List.cons.injEq, ← UInt8.toNat_inj, UInt8.toNat_ofNat', and_true]
    omega
  rw [if_neg two, if_neg (mt Nat.le_of_lt_succ two)]
  by_cases three : n ≤ 0xFFFF
  · rw [if_pos three, if_pos (Nat.lt_succ_of_le three)]
    simp only [List.cons.injEq, ← UInt8.toNat_inj, UInt8.toNat_ofNat', and_true]
    omega
  · rw [if_neg three, if_neg (mt Nat.le_of_lt_succ three)]
    simp only [List.cons.injEq, ← UInt8.toNat_inj, UInt8.toNat_ofNat', and_true]
    omega

section Decoding

variable {lead further low high bits : Nat} {byte : UInt8} {rest : List UInt8}

private theorem start_two (from_low : 0xC2 ≤ lead) (to_high : lead ≤ 0xDF) :
    start lead = ([], some ⟨0, 0x80, 0xBF, lead % 0x20⟩) := by
  rw [start, if_neg (by omega), if_neg (by omega), if_pos (by omega)]

private theorem start_three (from_low : 0xE0 ≤ lead) (to_high : lead ≤ 0xEF) :
    start lead = ([], some ⟨1, if lead = 0xE0 then 0xA0 else 0x80,
      if lead = 0xED then 0x9F else 0xBF, lead % 0x10⟩) := by
  rw [start, if_neg (by omega), if_neg (by omega), if_neg (by omega)]
  by_cases shortest : lead = 0xE0
  · subst shortest; rfl
  by_cases surrogate : lead = 0xED
  · subst surrogate; rfl
  rw [if_neg shortest, if_neg surrogate, if_pos (by omega), if_neg shortest, if_neg surrogate]

private theorem start_four (from_low : 0xF0 ≤ lead) (to_high : lead ≤ 0xF4) :
    start lead = ([], some ⟨2, if lead = 0xF0 then 0x90 else 0x80,
      if lead = 0xF4 then 0x8F else 0xBF, lead % 8⟩) := by
  rw [start, if_neg (by omega), if_neg (by omega), if_neg (by omega), if_neg (by omega),
    if_neg (by omega), if_neg (by omega)]
  by_cases shortest : lead = 0xF0
  · subst shortest; rfl
  by_cases greatest : lead = 0xF4
  · subst greatest; rfl
  rw [if_neg shortest, if_pos (by omega), if_neg shortest, if_neg greatest]

private theorem decodeFrom_lead {pending : Pending}
    (starts : start byte.toNat = ([], some pending)) :
    decodeFrom none (byte :: rest) = decodeFrom (some pending) rest := by
  simp only [decodeFrom, step, starts, List.nil_append]

private theorem decodeFrom_further (inside : low ≤ byte.toNat ∧ byte.toNat ≤ high) :
    decodeFrom (some ⟨further + 1, low, high, bits⟩) (byte :: rest) =
      decodeFrom (some ⟨further, 0x80, 0xBF, bits * 0x40 + byte.toNat % 0x40⟩) rest := by
  simp only [decodeFrom, step, if_pos inside, List.nil_append]

private theorem decodeFrom_last (inside : low ≤ byte.toNat ∧ byte.toNat ≤ high) :
    decodeFrom (some ⟨0, low, high, bits⟩) (byte :: rest) =
      Char.ofNat (bits * 0x40 + byte.toNat % 0x40) :: decodeFrom none rest := by
  simp only [decodeFrom, step, if_pos inside, List.singleton_append]

/-- A sequence is read as its number, and what comes after it from the start. -/
theorem decode_sequence {bytes : List UInt8} (valid : Sequence bytes) (rest : List UInt8) :
    decode (bytes ++ rest) = Char.ofNat (number bytes) :: decode rest := by
  unfold decode
  cases valid with
  | one ascii =>
    simp only [List.singleton_append, decodeFrom, step, start, number]
    rw [if_pos (by omega), List.singleton_append]
  | two from_low to_high tail =>
    exact (decodeFrom_lead (start_two from_low to_high)).trans (decodeFrom_last tail)
  | @three lead second third from_low to_high tail last shortest surrogate =>
    have second_inside : (if lead.toNat = 0xE0 then 0xA0 else 0x80) ≤ second.toNat ∧
        second.toNat ≤ if lead.toNat = 0xED then 0x9F else 0xBF := by
      unfold IsTail at tail
      split <;> split <;> omega
    exact (decodeFrom_lead (start_three from_low to_high)).trans
      ((decodeFrom_further second_inside).trans (decodeFrom_last last))
  | @four lead second third fourth from_low to_high tail next last shortest greatest =>
    have second_inside : (if lead.toNat = 0xF0 then 0x90 else 0x80) ≤ second.toNat ∧
        second.toNat ≤ if lead.toNat = 0xF4 then 0x8F else 0xBF := by
      unfold IsTail at tail
      split <;> split <;> omega
    exact (decodeFrom_lead (start_four from_low to_high)).trans
      ((decodeFrom_further second_inside).trans
        ((decodeFrom_further next).trans (decodeFrom_last last)))

end Decoding

end Utf8
end Descent.Text
