import Descent.Number.IntegerType
import Mathlib.Data.List.Induction
import Mathlib.Data.Nat.Digits.Defs

/-! Conversion of digits to integers is exact. The digits spell a number, and a type has it or the
conversion refuses it. No accumulator leaves its machine word on the way. -/

namespace Descent

namespace Radix

private theorem base_pos (radix : Radix) : 0 < radix.base := by
  cases radix <;> decide

theorem base_le (radix : Radix) : radix.base ≤ 16 := by
  cases radix <;> decide

private theorem digitValue_lt {radix : Radix} {unit digit : Nat}
    (value : radix.digitValue unit = some digit) : digit < radix.base := by
  rw [digitValue, Option.filter_eq_some_iff] at value
  exact of_decide_eq_true value.2

end Radix

private theorem digitsOf_lt {U : Type} [CodeUnit U] {radix : Radix} {units : List U} {digit : Nat}
    (member : digit ∈ digitsOf radix units) : digit < radix.base := by
  obtain ⟨unit, -, value⟩ := List.mem_filterMap.mp member
  exact Radix.digitValue_lt value

namespace IntegerType

section Positional

/-- The number that digits spell, the last one counting ones. -/
def spelled (base : Nat) (digits : List Nat) : Nat :=
  Nat.ofDigits base digits.reverse

@[simp] theorem spelled_nil (base : Nat) : spelled base [] = 0 := rfl

private theorem spelled_concat (base : Nat) (digits : List Nat) (digit : Nat) :
    spelled base (digits ++ [digit]) = spelled base digits * base + digit := by
  rw [spelled, List.reverse_concat, Nat.ofDigits_cons, Nat.add_comm, Nat.mul_comm]
  rfl

theorem spelled_eq_foldl (base : Nat) (digits : List Nat) :
    spelled base digits = digits.foldl (fun number digit => number * base + digit) 0 := by
  induction digits using List.reverseRecOn with
  | nil => rfl
  | append_singleton digits digit ih =>
    rw [spelled_concat, ih, List.foldl_append, List.foldl_cons, List.foldl_nil]

/-- One more digit does not make a number smaller. -/
theorem spelled_le_concat {base : Nat} (positive : 0 < base) (digits : List Nat) (digit : Nat) :
    spelled base digits ≤ spelled base (digits ++ [digit]) := by
  rw [spelled_concat]
  exact Nat.le_add_right_of_le (Nat.le_mul_of_pos_right _ positive)

end Positional

section Accumulators

variable {base limit sum digit : Nat}

/-- The limit of a narrow type leaves room for one more digit in the word. -/
theorem next_lt (small : base ≤ 16) (below : digit < base) (low : limit < 2 ^ 32)
    (within : sum ≤ limit) : sum * base + digit < 2 ^ 64 := by
  have product : sum * base ≤ 2 ^ 32 * 16 := Nat.mul_le_mul (Nat.le_of_lt (by omega)) small
  omega

private theorem accumulateWord_ofNat (low : limit < 2 ^ 64) (fits : sum * base + digit < 2 ^ 64) :
    accumulateWord (.ofNat base) (.ofNat limit) (.ofNat sum) (.ofNat digit) =
      if sum * base + digit ≤ limit then some (.ofNat (sum * base + digit)) else none := by
  have next : UInt64.ofNat sum * .ofNat base + .ofNat digit = .ofNat (sum * base + digit) := by
    rw [UInt64.ofNat_add, UInt64.ofNat_mul]
  rw [accumulateWord, next]
  simp only [UInt64.le_iff_toNat_le, UInt64.toNat_ofNat_of_lt' fits, UInt64.toNat_ofNat_of_lt' low]

private theorem checkedMul_ofNat {a b : Nat} (first : a < 2 ^ 128) (second : b < 2 ^ 128) :
    checkedMul (.ofNat 128 a) (.ofNat 128 b) =
      if a * b < 2 ^ 128 then some (.ofNat 128 (a * b)) else none := by
  simp only [checkedMul, BitVec.umulOverflow, BitVec.toNat_ofNat, Nat.mod_eq_of_lt first,
    Nat.mod_eq_of_lt second, ← BitVec.ofNat_mul, decide_eq_true_eq, ge_iff_le]
  split <;> rename_i large
  · rw [if_neg (by omega)]
  · rw [if_pos (by omega)]

private theorem checkedAdd_ofNat {a b : Nat} (first : a < 2 ^ 128) (second : b < 2 ^ 128) :
    checkedAdd (.ofNat 128 a) (.ofNat 128 b) =
      if a + b < 2 ^ 128 then some (.ofNat 128 (a + b)) else none := by
  simp only [checkedAdd, BitVec.uaddOverflow, BitVec.toNat_ofNat, Nat.mod_eq_of_lt first,
    Nat.mod_eq_of_lt second, ← BitVec.ofNat_add, decide_eq_true_eq, ge_iff_le]
  split <;> rename_i large
  · rw [if_neg (by omega)]
  · rw [if_pos (by omega)]

private theorem accumulateWide_ofNat (low : limit < 2 ^ 128) (small : base < 2 ^ 128)
    (room : sum < 2 ^ 128) (below : digit < 2 ^ 128) :
    accumulateWide (.ofNat 128 base) (.ofNat 128 limit) (.ofNat 128 sum) (.ofNat 128 digit) =
      if sum * base + digit ≤ limit then some (.ofNat 128 (sum * base + digit)) else none := by
  rw [accumulateWide, checkedMul_ofNat room small]
  by_cases product : sum * base < 2 ^ 128
  · rw [if_pos product, Option.bind_some, checkedAdd_ofNat product below]
    by_cases next : sum * base + digit < 2 ^ 128
    · simp only [if_pos next, Option.filter_some, BitVec.le_def, BitVec.toNat_ofNat,
        Nat.mod_eq_of_lt next, Nat.mod_eq_of_lt low, decide_eq_true_eq]
    · rw [if_neg next, if_neg (by omega), Option.filter_none]
  · rw [if_neg product, if_neg (by omega), Option.bind_none, Option.filter_none]

/-- A fold whose steps refuse what exceeds the limit reads digits as the number that they spell, or
refuses them if that exceeds the limit. -/
theorem foldlM_eq_spelled {W : Type} (wordOf : Nat → W) {step : W → Nat → Option W}
    (positive : 0 < base)
    (steps : ∀ sum digit, sum ≤ limit → digit < base → step (wordOf sum) digit =
      if sum * base + digit ≤ limit then some (wordOf (sum * base + digit)) else none)
    {digits : List Nat} (below : ∀ digit ∈ digits, digit < base) :
    digits.foldlM step (wordOf 0) =
      if spelled base digits ≤ limit then some (wordOf (spelled base digits)) else none := by
  induction digits using List.reverseRecOn with
  | nil => rfl
  | append_singleton digits digit ih =>
    have before := ih fun other member => below other (List.mem_append_left _ member)
    rw [List.foldlM_append, before]
    by_cases within : spelled base digits ≤ limit
    · have last := steps _ digit within (below digit (by simp))
      simp only [if_pos within, Option.bind_eq_bind, Option.bind_some, List.foldlM_cons,
        List.foldlM_nil, last, spelled_concat]
      split <;> rfl
    · have longer := spelled_le_concat positive digits digit
      rw [if_neg within, if_neg (by omega)]
      rfl

variable {digits : List Nat}

private theorem wordOf_eq (positive : 0 < base) (small : base ≤ 16) (low : limit < 2 ^ 32)
    (below : ∀ digit ∈ digits, digit < base) :
    wordOf base limit digits =
      if spelled base digits ≤ limit then some (.ofNat (spelled base digits)) else none :=
  foldlM_eq_spelled UInt64.ofNat positive
    (fun _ _ within smaller =>
      accumulateWord_ofNat (by omega) (next_lt small smaller low within)) below

private theorem wideOf_eq (positive : 0 < base) (small : base ≤ 16) (low : limit < 2 ^ 64)
    (below : ∀ digit ∈ digits, digit < base) :
    wideOf base limit digits =
      if spelled base digits ≤ limit then some (.ofNat 128 (spelled base digits)) else none :=
  foldlM_eq_spelled (BitVec.ofNat 128) positive
    (fun _ _ _ _ => accumulateWide_ofNat (by omega) (by omega) (by omega) (by omega)) below

end Accumulators

section Range

def least (type : IntegerType) : Int :=
  if type.signed then -2 ^ (type.bits - 1) else 0

def greatest (type : IntegerType) : Int :=
  if type.signed then 2 ^ (type.bits - 1) - 1 else 2 ^ type.bits - 1

def withSign (negative : Bool) (magnitude : Nat) : Int :=
  if negative then -magnitude else magnitude

variable {type : IntegerType} {negative : Bool} {magnitude : Nat}

theorem width (type : IntegerType) :
    type.bits = 8 ∨ type.bits = 16 ∨ type.bits = 32 ∨ type.bits = 64 := by
  simpa using type.supported

/-- The limit for a sign is how far the type reaches to that side. -/
theorem le_limit_iff : magnitude ≤ type.limit negative ↔
    type.least ≤ withSign negative magnitude ∧ withSign negative magnitude ≤ type.greatest := by
  unfold limit least greatest withSign
  rcases type.width with bits | bits | bits | bits <;> rw [bits] <;>
    cases type.signed <;> cases negative <;> simp

private theorem limit_lt (type : IntegerType) (negative : Bool) : type.limit negative < 2 ^ 64 := by
  unfold limit
  rcases type.width with bits | bits | bits | bits <;> rw [bits] <;>
    cases type.signed <;> cases negative <;> decide

private theorem limit_lt_of_narrow (narrow : type.bits < 64) : type.limit negative < 2 ^ 32 := by
  unfold limit
  rcases type.width with bits | bits | bits | bits <;> rw [bits] at narrow ⊢ <;>
    cases type.signed <;> cases negative <;> simp at narrow ⊢

/-- The negation wraps just as the cut to the width does. -/
theorem setWidth_withSign {bits : Nat} (narrower : bits ≤ 128) :
    (if negative then -BitVec.ofNat 128 magnitude else .ofNat 128 magnitude).setWidth bits =
      BitVec.ofInt bits (withSign negative magnitude) := by
  have cut : (BitVec.ofNat 128 magnitude).setWidth bits = BitVec.ofInt bits magnitude := by
    rw [BitVec.setWidth_ofNat_of_le narrower, BitVec.ofInt_natCast]
  cases negative with
  | false => exact cut
  | true =>
    rw [withSign, if_pos rfl, if_pos rfl, BitVec.setWidth_neg_of_le narrower, cut, BitVec.ofInt_neg]

/-- A magnitude within the limit is not cut when it gets its sign and width. -/
theorem fromMagnitude_ofNat (within : magnitude ≤ type.limit negative) :
    type.fromMagnitude (.ofNat 128 magnitude) negative = withSign negative magnitude := by
  obtain ⟨low, high⟩ := le_limit_iff.mp within
  have narrower : type.bits ≤ 128 := by have := type.width; omega
  have positive : 0 < type.bits := by have := type.width; omega
  unfold fromMagnitude
  unfold least at low
  unfold greatest at high
  cases signed : type.signed with
  | true =>
    rw [signed, if_pos rfl] at low high
    rw [if_pos rfl]
    dsimp only
    rw [setWidth_withSign narrower, BitVec.toInt_ofInt_eq_self positive low
      (Int.lt_of_le_sub_one high)]
  | false =>
    rw [signed, if_neg Bool.false_ne_true] at low high
    have plain : withSign negative magnitude = magnitude := by
      cases negative with
      | false => rfl
      | true =>
        rw [withSign, if_pos rfl] at low ⊢
        omega
    have fits : magnitude < 2 ^ type.bits := by
      rw [plain] at high
      exact_mod_cast Int.lt_of_le_sub_one high
    rw [if_neg Bool.false_ne_true, BitVec.setWidth_ofNat_of_le narrower, BitVec.toNat_ofNat,
      Nat.mod_eq_of_lt fits, plain]

end Range

section Conversion

variable {U : Type} [CodeUnit U]

private theorem magnitude_eq {type : IntegerType} {base : Nat} {negative : Bool} {digits : List Nat}
    (positive : 0 < base) (small : base ≤ 16) (below : ∀ digit ∈ digits, digit < base) :
    type.magnitude base (type.limit negative) digits =
      if spelled base digits ≤ type.limit negative then some (.ofNat 128 (spelled base digits))
      else none := by
  have low := type.limit_lt negative
  unfold magnitude
  by_cases narrow : type.bits < 64
  · rw [if_pos narrow, wordOf_eq positive small (limit_lt_of_narrow narrow) below]
    by_cases within : spelled base digits ≤ type.limit negative
    · have fits : spelled base digits < 2 ^ 64 := by omega
      rw [if_pos within, if_pos within, Option.map_some, Option.some_inj]
      refine BitVec.eq_of_toNat_eq ?_
      rw [BitVec.toNat_setWidth, UInt64.toNat_toBitVec, UInt64.toNat_ofNat_of_lt' fits,
        BitVec.toNat_ofNat]
    · rw [if_neg within, if_neg within, Option.map_none]
  · rw [if_neg narrow, wideOf_eq positive small low below]

/-- After each digit that is taken, the product and the sum of the next step are those of the
numbers, so no accumulator wraps. -/
structure NeverWraps (type : IntegerType) (base limit : Nat) (digits : List Nat) : Prop where
  word (narrow : type.bits < 64) (before : List Nat) (digit : Nat) (after : List Nat)
    (split : digits = before ++ digit :: after) (sum : UInt64)
    (taken : wordOf base limit before = some sum) :
    (sum * .ofNat base).toNat = sum.toNat * base ∧
      (sum * .ofNat base + .ofNat digit).toNat = sum.toNat * base + digit
  wide (wide : ¬type.bits < 64) (before : List Nat) (digit : Nat) (after : List Nat)
    (split : digits = before ++ digit :: after) (sum : BitVec 128)
    (taken : wideOf base limit before = some sum) :
    (sum * .ofNat 128 base).toNat = sum.toNat * base ∧
      (sum * .ofNat 128 base + .ofNat 128 digit).toNat = sum.toNat * base + digit

private theorem neverWraps {type : IntegerType} {base : Nat} {negative : Bool} {digits : List Nat}
    (positive : 0 < base) (small : base ≤ 16) (below : ∀ digit ∈ digits, digit < base) :
    type.NeverWraps base (type.limit negative) digits where
  word narrow before digit after split sum taken := by
    subst split
    have low : type.limit negative < 2 ^ 32 := limit_lt_of_narrow narrow
    rw [wordOf_eq positive small low fun other member => below other (by simp [member]),
      Option.ite_none_right_eq_some] at taken
    obtain ⟨within, taken⟩ := taken
    cases taken
    have fits := next_lt small (below digit (by simp)) low within
    have size : UInt64.size = 2 ^ 64 := rfl
    rw [← UInt64.ofNat_mul, ← UInt64.ofNat_add, UInt64.toNat_ofNat_of_lt' (by omega),
      UInt64.toNat_ofNat_of_lt' (by omega), UInt64.toNat_ofNat_of_lt' (by omega)]
    exact ⟨rfl, rfl⟩
  wide wide before digit after split sum taken := by
    subst split
    have low := type.limit_lt negative
    have smaller : digit < base := below digit (by simp)
    rw [wideOf_eq positive small low fun other member => below other (by simp [member]),
      Option.ite_none_right_eq_some] at taken
    obtain ⟨within, taken⟩ := taken
    cases taken
    have product : spelled base before * base ≤ 2 ^ 64 * 16 := Nat.mul_le_mul (by omega) small
    rw [← BitVec.ofNat_mul, ← BitVec.ofNat_add, BitVec.toNat_ofNat, BitVec.toNat_ofNat,
      BitVec.toNat_ofNat, Nat.mod_eq_of_lt (by omega), Nat.mod_eq_of_lt (by omega),
      Nat.mod_eq_of_lt (by omega)]
    exact ⟨rfl, rfl⟩

end Conversion

end IntegerType

/-- The number that the digits among some units spell is what they are converted to. -/
theorem parseInteger_eq {U : Type} [CodeUnit U] (type : IntegerType) (radix : Radix)
    (negative : Bool) (units : List U) :
    parseInteger type radix negative units =
      if IntegerType.spelled radix.base (digitsOf radix units) ≤ type.limit negative then
        .ok (IntegerType.withSign negative (IntegerType.spelled radix.base (digitsOf radix units)))
      else .error .overflow := by
  rw [parseInteger, IntegerType.magnitude_eq radix.base_pos radix.base_le fun _ => digitsOf_lt]
  by_cases within : IntegerType.spelled radix.base (digitsOf radix units) ≤ type.limit negative
  · rw [if_pos within, if_pos within]
    exact congrArg Except.ok (IntegerType.fromMagnitude_ofNat within)
  · rw [if_neg within, if_neg within]

/-- Conversion is exact: a type has the number that the digits spell, with its sign, and that is
the answer, or it does not and the answer is an overflow. No accumulator wraps. -/
theorem parseInteger_exact {U : Type} [CodeUnit U] (type : IntegerType) (radix : Radix)
    (negative : Bool) (units : List U) :
    let digits := digitsOf radix units
    let number := IntegerType.withSign negative (IntegerType.spelled radix.base digits)
    (parseInteger type radix negative units =
      if type.least ≤ number ∧ number ≤ type.greatest then .ok number else .error .overflow) ∧
    type.NeverWraps radix.base (type.limit negative) digits := by
  refine ⟨?_, IntegerType.neverWraps radix.base_pos radix.base_le fun _ => digitsOf_lt⟩
  simp only [parseInteger_eq, IntegerType.le_limit_iff]

/-- The least value has no positive counterpart, and the separator is passed over. -/
example : parseInteger .i8 .decimal true ['1', '_', '2', '8'] = .ok (-128) := by decide

end Descent
