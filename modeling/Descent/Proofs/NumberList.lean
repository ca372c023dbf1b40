import Descent.Grammar.Builder
import Descent.Proofs.DecimalText
import Descent.Proofs.TokenOutcomes

/-! A grammar for lists of numbers in brackets, and the inputs that are such lists but for some
malformed fields. -/

namespace Descent.NumberList

open Descent.Runner

def number : Production UInt8 where
  profile := ⟨0, "number", false, false⟩
  rule := .integer .u32 (.ofRadix .decimal) false
  whitespace := none
  callback := none
  sink := none

def numbers : Production UInt8 where
  profile := ⟨1, "numbers", false, false⟩
  rule := .brackets (.literal "[") (.literal "]") (.call 0) (some ⟨.literal ",", false⟩) [] true
  whitespace := none
  callback := none
  sink := none

def grammar : Grammar UInt8 where
  productions := #[number, numbers]
  whitespace := some (.token (.oneOf (.ascii .space)))
  entry := 1

def builder : GrammarBuilder UInt8 :=
  let (number, builder) := GrammarBuilder.empty.production "number"
    (.integer .u32 (.ofRadix .decimal) false)
  let (numbers, builder) := builder.production "numbers"
    (.brackets (.literal "[") (.literal "]") (.call number) (some ⟨.literal ",", false⟩) [] true)
  (builder.setWhitespace (.token (.oneOf (.ascii .space)))).setEntry numbers

theorem build_builder : builder.build = .ok grammar := by
  simp [builder, GrammarBuilder.production, GrammarBuilder.declare, GrammarBuilder.add,
    GrammarBuilder.find?, GrammarBuilder.empty, Declaration.named, GrammarBuilder.define,
    GrammarBuilder.modify, GrammarBuilder.build, GrammarBuilder.chosenEntry,
    GrammarBuilder.productionsFrom, Declaration.production, Declaration.setRule,
    ProductionOptions.none, GrammarBuilder.setWhitespace, GrammarBuilder.setEntry]
  rfl

def utf8 (text : String) : List UInt8 := CodeUnit.ofText text

/-- Whether a text is no number, nor the beginning of one, but could stand in a field: it is not
empty, it does not contain what ends a field, and it begins where the field does. -/
def isMalformed (text : List UInt8) : Bool :=
  text.all (fun unit => !CodeUnit.isChar unit ',' && !CodeUnit.isChar unit ']') &&
    text.head?.any fun unit =>
      !Radix.decimal.isDigit (CodeUnit.value unit) && !(UnitClass.ascii .space).accepts unit

/-- Nothing in malformed text ends a field. -/
theorem unended_of_isMalformed {text : List UInt8} (malformed : isMalformed text = true)
    {unit : UInt8} (member : unit ∈ text) :
    CodeUnit.isChar unit ',' = false ∧ CodeUnit.isChar unit ']' = false := by
  obtain ⟨unended, -⟩ := (Bool.and_eq_true ..).mp malformed
  simpa using List.all_eq_true.mp unended unit member

/-- Malformed text begins with neither a digit nor whitespace. -/
theorem begins_of_isMalformed {text : List UInt8} (malformed : isMalformed text = true) :
    ∃ unit rest, text = unit :: rest ∧ Radix.decimal.isDigit (CodeUnit.value unit) = false ∧
      (UnitClass.ascii .space).accepts unit = false := by
  obtain ⟨-, begins⟩ := (Bool.and_eq_true ..).mp malformed
  cases text with
  | nil => cases begins
  | cons unit rest => exact ⟨unit, rest, rfl, by simpa using begins⟩

theorem no_digit_of_isMalformed {text : List UInt8} (malformed : isMalformed text = true)
    (rest : List UInt8) :
    (text ++ rest).head?.any (fun unit => Radix.decimal.isDigit (CodeUnit.value unit)) = false := by
  obtain ⟨unit, text, rfl, digit, -⟩ := begins_of_isMalformed malformed
  exact digit

inductive Field where
  | number (value : UInt32)
  | garbage (text : List UInt8) (malformed : isMalformed text = true)

namespace Field

def text : Field → List UInt8
  | number value => DecimalText.bytes value.toNat
  | garbage text _ => text

def isGarbage : Field → Bool
  | number _ => false
  | garbage .. => true

def value? : Field → Option Value
  | number value => some (.production "number" [.integer value.toNat])
  | garbage .. => none

end Field

def input (fields : List Field) : List UInt8 :=
  utf8 "[" ++ (utf8 ", ").intercalate (fields.map Field.text) ++ utf8 "]"

/-- The errors of some fields, the first of which begins at `first`: one for each malformed field,
where it begins. -/
def errorsFrom : Nat → List Field → List ParseError
  | _, [] => []
  | first, field :: rest =>
    let others := errorsFrom (first + (field.text ++ utf8 ", ").length) rest
    match field with
    | .number _ => others
    | .garbage .. => .atPosition "number" first .expectedDigit :: others

def opened (done : List Field) : List UInt8 :=
  utf8 "[" ++ done.flatMap fun field => field.text ++ utf8 ", "

def closing (rest : List Field) : List UInt8 :=
  (rest.flatMap fun field => utf8 ", " ++ field.text) ++ utf8 "]"

private theorem opened_concat (done : List Field) (field : Field) :
    opened (done ++ [field]) = opened done ++ field.text ++ utf8 ", " := by
  simp [opened]

private theorem closing_cons (field : Field) (rest : List Field) :
    closing (field :: rest) = utf8 ", " ++ (field.text ++ closing rest) := by
  simp [closing]

private theorem intercalate_cons {α : Type} (separator first : List α) (rest : List (List α)) :
    separator.intercalate (first :: rest) = first ++ rest.flatMap (separator ++ ·) := by
  induction rest generalizing first with
  | nil => simp
  | cons second rest ih => rw [List.intercalate_cons_cons, ih]; simp

private theorem intercalate_concat {α : Type} (separator last : List α) (before : List (List α)) :
    separator.intercalate (before ++ [last]) = before.flatMap (· ++ separator) ++ last := by
  induction before with
  | nil => simp
  | cons first before ih =>
    cases before with
    | nil => simp
    | cons second before =>
      rw [List.cons_append, List.cons_append, List.intercalate_cons_cons, ← List.cons_append, ih]
      simp

/-- The input from where these fields and the end of the list are still to come. -/
def coming : List Field → List UInt8
  | [] => utf8 "]"
  | field :: rest => field.text ++ closing rest

theorem input_eq (fields : List Field) : input fields = opened [] ++ coming fields := by
  cases fields with
  | nil => simp [input, opened, coming]
  | cons field rest =>
    simp [input, opened, coming, closing, intercalate_cons, List.flatMap_map]

theorem input_concat (done : List Field) (field : Field) :
    input (done ++ [field]) = opened done ++ field.text ++ utf8 "]" := by
  simp [input, opened, intercalate_concat, List.flatMap_map]

private theorem errorsFrom_append (first : Nat) (done rest : List Field) :
    errorsFrom first (done ++ rest) = errorsFrom first done ++
      errorsFrom (first + (done.flatMap fun field => field.text ++ utf8 ", ").length) rest := by
  induction done generalizing first with
  | nil => simp [errorsFrom]
  | cons field done ih =>
    cases field <;> simp [errorsFrom, ih, Nat.add_assoc]

theorem errorsFrom_concat (done : List Field) (field : Field) :
    errorsFrom 1 (done ++ [field]) =
      errorsFrom 1 done ++ errorsFrom (opened done).length [field] := by
  rw [errorsFrom_append, opened, List.length_append]
  rfl

theorem length_errorsFrom (first : Nat) (fields : List Field) :
    (errorsFrom first fields).length = fields.countP Field.isGarbage := by
  induction fields generalizing first with
  | nil => rfl
  | cons field fields ih =>
    cases field <;> simp [errorsFrom, Field.isGarbage, List.countP_cons, ih]

private theorem bounds_of_isDigit {value : Nat} (digit : Radix.decimal.isDigit value = true) :
    '0'.toNat ≤ value ∧ value ≤ '9'.toNat := by
  refine Decidable.byContradiction fun outside => ?_
  -- Letters have values, but too large ones.
  have letter (first : Nat) :
      (some (value - first + 10)).filter (· < Radix.decimal.base) = none := by
    rw [Option.filter_some, if_neg]
    exact fun small => absurd (of_decide_eq_true small) (Nat.not_lt_of_le (Nat.le_add_left 10 _))
  have none : Radix.decimal.digitValue value = none := by
    rw [Radix.digitValue, Radix.letterValue, if_neg outside]
    split
    · exact letter _
    · split
      · exact letter _
      · rfl
  rw [Radix.isDigit, none] at digit
  cases digit

theorem ends_nothing_of_isDigit {unit : UInt8}
    (digit : Radix.decimal.isDigit (CodeUnit.value unit) = true) :
    (UnitClass.ascii .space).accepts unit = false ∧ CodeUnit.isChar unit ',' = false ∧
      CodeUnit.isChar unit ']' = false := by
  obtain ⟨low, high⟩ := bounds_of_isDigit digit
  simp only [UnitClass.accepts, UnitClass.contains, AsciiClass.contains, AsciiClass.isBlank,
    AsciiClass.isNewline, AsciiClass.isOtherSpace, CodeUnit.isChar]
  generalize CodeUnit.value unit = value at low high
  have zero : '0'.toNat = 48 := rfl
  have nine : '9'.toNat = 57 := rfl
  have comma : ','.toNat = 44 := rfl
  have bracket : ']'.toNat = 93 := rfl
  simp only [Bool.or_eq_false_iff, beq_eq_false_iff_ne]
  omega

/-- A field begins with something that is neither whitespace nor the end of a field. -/
theorem Field.begins (field : Field) : ∃ unit text, field.text = unit :: text ∧
    (UnitClass.ascii .space).accepts unit = false ∧ CodeUnit.isChar unit ',' = false ∧
      CodeUnit.isChar unit ']' = false := by
  cases field with
  | number value =>
    obtain ⟨unit, text, written⟩ :=
      List.exists_cons_of_ne_nil (DecimalText.bytes_ne_nil value.toNat)
    refine ⟨unit, text, written, ends_nothing_of_isDigit ?_⟩
    exact DecimalText.isDigit_of_mem_bytes (written ▸ List.mem_cons_self)
  | garbage text malformed =>
    obtain ⟨unit, rest, rfl, -, space⟩ := begins_of_isMalformed malformed
    exact ⟨unit, rest, rfl, space, unended_of_isMalformed malformed List.mem_cons_self⟩

theorem ne_head_of_isChar {unit : UInt8} {c : Char} {text : List UInt8}
    (differs : CodeUnit.isChar unit c = false)
    (begins : text.head?.any (CodeUnit.isChar · c) = true) : some unit ≠ text.head? := by
  intro same
  rw [← same, Option.any_some, differs] at begins
  cases begins

/-- No whitespace comes before a field, and the list does not end there. -/
theorem coming_cons (field : Field) (rest : List Field) :
    Leads (.ascii .space) [] (coming (field :: rest)) ∧
      (coming (field :: rest)).head? ≠ (utf8 "]").head? := by
  obtain ⟨unit, text, written, space, -, bracket⟩ := field.begins
  rw [coming, written, List.cons_append]
  exact ⟨leads_nil space, ne_head_of_isChar bracket rfl⟩

theorem leads_coming (fields : List Field) : Leads (.ascii .space) [] (coming fields) := by
  cases fields with
  | nil => exact leads_nil rfl
  | cons field rest => exact (coming_cons field rest).1

theorem leads_input (fields : List Field) : Leads (.ascii .space) [] (input fields) := by
  rw [input_eq]
  exact leads_nil rfl

theorem head_closing (rest : List Field) :
    (closing rest).head? = if rest.isEmpty then (utf8 "]").head? else (utf8 ",").head? := by
  cases rest with
  | nil => rfl
  | cons field rest => rw [closing_cons]; rfl

theorem leads_closing (rest : List Field) : Leads (.ascii .space) [] (closing rest) := by
  refine leads_nil ?_
  rw [head_closing]
  cases rest <;> rfl

theorem ends_closing (rest : List Field) : (closing rest).head?.any
    (fun unit => Radix.decimal.isDigit (CodeUnit.value unit)) = false := by
  rw [head_closing]
  cases rest <;> rfl

/-- A comma after a field comes with one space. -/
theorem opened_eq (done : List Field) (field : Field) :
    opened done ++ field.text ++ utf8 "," ++ utf8 " " = opened (done ++ [field]) := by
  rw [opened_concat, List.append_assoc (opened done ++ field.text)]
  rfl

theorem closing_eq (field : Field) (rest : List Field) :
    closing (field :: rest) = utf8 "," ++ (utf8 " " ++ coming (field :: rest)) :=
  closing_cons field rest

theorem leads_space (field : Field) (rest : List Field) :
    Leads (.ascii .space) (utf8 " ") (coming (field :: rest)) := by
  have space : utf8 " " = [32] := rfl
  rw [space]
  exact ⟨List.forall_mem_singleton.mpr rfl, (coming_cons field rest).1.ends⟩

end Descent.NumberList
