import Descent.Proofs.DigitRuns
import Descent.Proofs.Halting
import Descent.Proofs.IntegerRange
import Descent.Proofs.TokenOutcomes

/-! Integers are read back from the texts that they are written as, with all the signs, leading
zeroes and separators that a text may have, and are too large for a type or not. -/

namespace Descent

open Descent.Parser

variable {U σ : Type} [CodeUnit U]

inductive Sign (U : Type) [CodeUnit U] : (negative : Bool) → List U → Prop
  | minus {unit : U} (isMinus : CodeUnit.isChar unit '-' = true) : Sign U true [unit]
  | plus {unit : U} (isPlus : CodeUnit.isChar unit '+' = true) : Sign U false [unit]
  | absent : Sign U false []

structure Numeral (U : Type) [CodeUnit U] (digits : DigitRun) (number : Int) where
  sign : List U
  body : List U
  signed : Sign U (decide (number < 0)) sign
  member : body ∈ digits.language
  trim : digits.IsTrim body
  magnitude : IntegerType.spelled digits.radix.base (digitsOf digits.radix body) = number.natAbs

def Numeral.text {digits : DigitRun} {number : Int} (numeral : Numeral U digits number) : List U :=
  numeral.sign ++ numeral.body

namespace DigitRun

variable {digits : DigitRun}

theorem isChar_of_isDigit {unit : U} (isDigit : digits.isDigit unit = true) {c : Char}
    (lower : c.toNat < '0'.toNat) : CodeUnit.isChar unit c = false := by
  apply Bool.eq_false_iff.mpr
  intro isChar
  have value : CodeUnit.value unit = c.toNat := eq_of_beq isChar
  have none : digits.radix.letterValue (CodeUnit.value unit) = none := by
    have letters : '0'.toNat < 'a'.toNat ∧ '0'.toNat < 'A'.toNat := by decide
    rw [Radix.letterValue, value, if_neg (by omega), if_neg (by omega), if_neg (by omega)]
  rw [DigitRun.isDigit, Radix.isDigit, Radix.digitValue, none] at isDigit
  cases isDigit

/-- A sign in front of a digit is read. -/
theorem readSign_of_sign {negative : Bool} {sign : List U} (signed : Sign U negative sign)
    {before first : Cursor U} (passes : before.Passes sign first)
    (starts : first.remaining.head?.any digits.isDigit = true) :
    Runner.readSign true before = (negative, first) := by
  unfold Runner.readSign
  rw [Cursor.peek_eq_head?, passes.remaining]
  cases signed with
  | minus isMinus =>
    rw [(Cursor.Passes.next passes.remaining).unique passes]
    simp [isMinus]
  | @plus unit isPlus =>
    have other : CodeUnit.isChar unit '-' = false := by
      apply Bool.eq_false_iff.mpr
      intro isMinus
      have same : '-'.toNat = '+'.toNat := (eq_of_beq isMinus).symm.trans (eq_of_beq isPlus)
      exact absurd same (by decide)
    rw [(Cursor.Passes.next passes.remaining).unique passes]
    simp [isPlus, other]
  | absent =>
    rw [passes.unique (.nil before)] at starts ⊢
    cases text : before.remaining with
    | nil => simp
    | cons unit rest =>
      rw [text] at starts
      have isDigit : digits.isDigit unit = true := starts
      simp [isChar_of_isDigit isDigit (c := '-') (by decide),
        isChar_of_isDigit isDigit (c := '+') (by decide)]

end DigitRun

namespace Numeral

variable {digits : DigitRun} {number : Int} (numeral : Numeral U digits number)
  {type : IntegerType} {first after : Cursor U}

omit [CodeUnit U] in
private theorem withSign_natAbs (number : Int) :
    IntegerType.withSign (decide (number < 0)) number.natAbs = number := by
  unfold IntegerType.withSign
  by_cases negative : number < 0
  · rw [if_pos (decide_eq_true negative), Int.ofNat_natAbs_of_nonpos (Int.le_of_lt negative),
      Int.neg_neg]
  · rw [if_neg (by simpa using negative), Int.natAbs_of_nonneg (Int.not_lt.mp negative)]

/-- The digits of a numeral are the number, if the type has it. -/
theorem convert_body (passes : first.Passes numeral.body after) :
    digits.convert type (decide (number < 0)) after (first.spanTo after) =
      if type.least ≤ number ∧ number ≤ type.greatest then .ok number else .error .overflow := by
  rw [DigitRun.convert, passes.slice, parseInteger_eq, numeral.magnitude]
  simp only [IntegerType.le_limit_iff, withSign_natAbs]

end Numeral

namespace Runner

section Reading

variable {environment : Environment U σ} {state : State U σ} {run : Runner U σ}
  {type : IntegerType} {digits : DigitRun} {negative : Bool} {first after : Cursor U}

def afterDigits (environment : Environment U σ) (state : State U σ) (after : Cursor U) :
    State U σ :=
  State.withToken environment.observer .digits state.cursor.position after.position
    { state with cursor := after }

/-- Digits that the type does not have are read all the same. -/
theorem gives_acceptInteger_alone (alone : state.scope.whitespace? = none)
    (post : Bool → List Value → State U σ → Prop) :
    (run.acceptInteger type digits negative state.cursor first after).Gives environment state
        post ↔
      match digits.convert type negative after (first.spanTo after) with
      | .ok number => post true [.integer number] (afterDigits environment state after)
      | .error _ => post false [] ((afterDigits environment state after).withError environment
          .integerOverflow first.position (first.spanTo after)) := by
  have alone : (afterDigits environment state after).scope.whitespace? = none := alone
  simp only [acceptInteger, gives_bind, gives_setCursor, gives_reportToken]
  cases digits.convert type negative after (first.spanTo after) with
  | error => simp [afterDigits]
  | ok number =>
    simp only [gives_bind, gives_emit, gives_pure]
    exact gives_skipWhitespace_alone alone _

variable {number : Int} (numeral : Numeral U digits number)

/-- What becomes of a numeral: it is read as its number, or the type has no such number, and the
error covers the digits. -/
def ReadsNumeral (environment : Environment U σ) (state : State U σ) (type : IntegerType)
    (numeral : Numeral U digits number) (after : Cursor U) (read : Bool) (values : List Value)
    (last : State U σ) : Prop :=
  if type.least ≤ number ∧ number ≤ type.greatest then
    read = true ∧ values = [.integer number] ∧ last = afterDigits environment state after
  else
    read = false ∧ values = [] ∧
      last = (afterDigits environment state after).withError environment .integerOverflow
        (state.cursor.position + numeral.sign.length)
        (.between (state.cursor.position + numeral.sign.length) after.position)

variable (alone : state.scope.whitespace? = none)
  (passes : state.cursor.Passes numeral.text after) (ends : digits.Ends after.remaining)
include alone passes ends

private theorem gives_acceptInteger_numeral (run : Runner U σ) (type : IntegerType) :
    ∃ first, readSign true state.cursor = (decide (number < 0), first) ∧
      digits.run first = .matched after ∧
      (run.acceptInteger type digits (decide (number < 0)) state.cursor first after).Gives
        environment state (ReadsNumeral environment state type numeral after) := by
  have text := passes.remaining
  rw [Numeral.text, List.append_assoc] at text
  obtain ⟨first, sign, rest⟩ := Cursor.Passes.of_remaining text
  obtain ⟨other, body, same⟩ := Cursor.Passes.of_remaining rest
  cases (sign.trans body).unique passes
  have starts : first.remaining.head?.any digits.isDigit = true := by
    obtain ⟨unit, more, isDigit, -, begins⟩ := DigitRun.mem_language_iff.mp numeral.member
    rw [rest, begins]
    exact isDigit
  refine ⟨first, DigitRun.readSign_of_sign numeral.signed sign starts,
    DigitRun.run_of_word body numeral.member numeral.trim ends, ?_⟩
  rw [gives_acceptInteger_alone alone, numeral.convert_body body]
  unfold ReadsNumeral
  by_cases within : type.least ≤ number ∧ number ≤ type.greatest
  · simp [within]
  · simp [within, ← sign.position, Cursor.spanTo]

/-- Every number is read back from every text that it is written as, if the type has it, and is
reported as too large where its digits stand otherwise. A trial never declines it. -/
theorem numerals_are_read_back (fuel : Nat) :
    ((withFuel (fuel + 1)).parse (.integer type digits true)).Gives environment state
      (ReadsNumeral environment state type numeral after) ∧
    ((withFuel (fuel + 1)).attempt (.integer type digits true)).Gives environment state
      fun attempt values last => ∃ read, attempt = .ofBool read ∧
        ReadsNumeral environment state type numeral after read values last := by
  obtain ⟨first, signed, matched, accepts⟩ :=
    gives_acceptInteger_numeral numeral alone passes ends (withFuel fuel) type
  constructor
  · show ((withFuel fuel).parseInteger type digits true).Gives environment state _
    simpa only [parseInteger, gives_bind, gives_cursor, signed, matched, List.nil_append] using
      accepts
  · show ((withFuel fuel).attemptInteger type digits true).Gives environment state _
    simp only [attemptInteger, gives_bind, gives_cursor, signed, matched, gives_pure]
    refine accepts.mono ?_
    intro read values last reads
    rw [List.append_nil]
    exact ⟨read, rfl, reads⟩

end Reading

section Examples

def grouped : DigitRun :=
  ⟨.decimal, false, some (.ofChar '_')⟩

def groupedNumeral : Numeral Char grouped (-128) where
  sign := ['-']
  body := ['0', '_', '1', '_', '2', '8']
  signed := .minus (by decide)
  member := DigitRun.mem_language_iff.mpr ⟨'0', ['_', '1', '_', '2', '8'], by decide,
    .separated (by decide) (by decide) (.separated (by decide) (by decide)
      (.plain (by decide) (by decide) .nil)), rfl⟩
  trim := fun trimmed => nomatch trimmed
  magnitude := by decide

def groupedState (type : IntegerType) : State Char Unit :=
  soleState (.integer type grouped true) groupedNumeral.text.toArray

private theorem groupedState_passes (type : IntegerType) :
    (groupedState type).cursor.Passes groupedNumeral.text
      (Cursor.between groupedNumeral.text []) :=
  ⟨rfl, rfl, rfl, rfl⟩

private theorem groupedState_ends :
    grouped.Ends (Cursor.between groupedNumeral.text []).remaining := rfl

/-- A type with signs has it, and one without finds it too large. -/
theorem grouped_numeral_is_read_back :
    (∀ fuel, ((withFuel (fuel + 1)).parse (.integer .i8 grouped true)).Gives
      (soleEnvironment (.integer .i8 grouped true)) (groupedState .i8) fun read values last =>
        read = true ∧ values = [.integer (-128)] ∧ last.cursor.position = 7) ∧
    ∀ fuel, ((withFuel (fuel + 1)).parse (.integer .u8 grouped true)).Gives
      (soleEnvironment (.integer .u8 grouped true)) (groupedState .u8) fun read values last =>
        read = false ∧ values = [] ∧ last.cursor.position = 7 := by
  constructor
  · intro fuel
    refine (numerals_are_read_back groupedNumeral rfl (groupedState_passes .i8) groupedState_ends
      fuel).1.mono ?_
    intro read values last reads
    unfold ReadsNumeral at reads
    rw [if_pos (by decide)] at reads
    exact ⟨reads.1, reads.2.1, reads.2.2 ▸ rfl⟩
  · intro fuel
    refine (numerals_are_read_back groupedNumeral rfl (groupedState_passes .u8) groupedState_ends
      fuel).1.mono ?_
    intro read values last reads
    unfold ReadsNumeral at reads
    rw [if_neg (by decide)] at reads
    exact ⟨reads.1, reads.2.1, reads.2.2 ▸ rfl⟩

end Examples

end Runner
end Descent
