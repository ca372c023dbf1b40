import Descent.Proofs.Evaluation
import Descent.Proofs.ListRecovery
import Descent.Proofs.NumberList

/-! How a list of numbers is read. Whatever else stands in a field is reported there and passed
over, and all numbers before and after it are kept. -/

namespace Descent.NumberList

open Descent.Parser Descent.Runner Cursor
open Evaluation (Stands)

abbrev environment (config : ParseConfig) (source : Array UInt8) :
    Environment UInt8 (Array ParseError) :=
  Evaluation.environment grammar config source

def listScope : Scope UInt8 :=
  Scope.outermost.inside grammar numbers

def itemScope : Scope UInt8 :=
  listScope.inside grammar number

def list : TerminatedList UInt8 where
  terminator := .literal "]"
  item := .call 0
  separator := some ⟨.literal ",", false⟩
  limits := []

section States

variable {config : ParseConfig} {source : Array UInt8} {scope : Scope UInt8}
  {before rest : List UInt8} {errors : List ParseError} {state : State UInt8 (Array ParseError)}

private theorem skips_list : Skips (environment config source) listScope (.ascii .space) :=
  ⟨Evaluation.ignoresTokens, _, _, rfl⟩

private theorem skips_item : Skips (environment config source) itemScope (.ascii .space) :=
  ⟨Evaluation.ignoresTokens, _, _, rfl⟩

section Steps

variable {fuel : Nat} {text : String} {spaces : List UInt8}

/-- The literals of the list are read with the whitespace after them. -/
theorem parse_literal (leads : Leads (.ascii .space) spaces rest) (enough : spaces.length ≤ fuel)
    (stands : Stands config listScope before (utf8 text ++ (spaces ++ rest)) errors state) :
    ((withFuel (fuel + 2)).parse (.literal text)).Gives (environment config source) state
      fun parsed values after => parsed = true ∧ values = [] ∧
        Stands config listScope (before ++ utf8 text ++ spaces) rest errors after := by
  refine (gives_parse_literal leads (stands.scope ▸ skips_list) enough stands.cursor).mono ?_
  rintro _ _ after ⟨rfl, rfl, arrives⟩
  exact ⟨rfl, rfl, stands.arrives arrives⟩

private theorem attempt_terminator
    (stands : Stands config listScope before (utf8 "]") errors state) :
    ((withFuel (fuel + 2)).attempt (.literal "]")).Gives (environment config source) state
      fun attempt values after => attempt = .accepted ∧ values = [] ∧
        Stands config listScope (before ++ utf8 "]") [] errors after := by
  have leads : Leads (.ascii .space) ([] : List UInt8) [] := leads_nil rfl
  refine (gives_attempt_literal leads (stands.scope ▸ skips_list) (Nat.zero_le fuel)
    stands.cursor).mono ?_
  rintro _ _ after ⟨rfl, rfl, arrives⟩
  rw [List.append_nil] at arrives
  exact ⟨rfl, rfl, stands.arrives arrives⟩

private theorem attempt_terminator_of_head (other : rest.head? ≠ (utf8 "]").head?)
    (stands : Stands config scope before rest errors state) :
    ((withFuel (fuel + 1)).attempt (.literal "]")).Gives (environment config source) state
      fun attempt _ after => attempt = .backtracked ∧
        Stands config scope before rest errors after := by
  refine (gives_attempt_literal_of_head (by decide) other stands.cursor).mono ?_
  rintro _ _ after ⟨rfl, -, rfl⟩
  exact ⟨rfl, stands⟩

/-- An item is what the rule of its production reads, in a scope of its own. -/
theorem parse_item {answer : Bool} {produced : List Value} {before' rest' : List UInt8}
    {errors' : List ParseError} (stands : Stands config listScope before rest errors state)
    (reads : ((withFuel fuel).parseRule number.rule).Gives (environment config source)
      (state.inside (environment config source) number) fun parsed values after =>
        parsed = answer ∧ values = produced ∧
          Stands config itemScope before' rest' errors' after) :
    ((withFuel (fuel + 2)).parse (.call 0)).Gives (environment config source) state
      fun parsed values after => parsed = answer ∧
        values = (if answer then [.production "number" produced] else []) ∧
        Stands config listScope before' rest' errors' after := by
  change ((withFuel (fuel + 1)).parseRule (.call 0)).Gives _ _ _
  have found : (environment config source).grammar.production? 0 = some number := rfl
  have plain : number.profile.isToken = false := rfl
  have inner : state.scope.frames.isEmpty = false := by rw [stands.scope]; rfl
  simp only [parseRule, gives_bind, gives_call found, gives_callProduction plain, inner,
    skipLeading_false, gives_pure, List.nil_append, List.append_nil]
  refine reads.mono ?_
  rintro parsed values after ⟨same, rfl, inside⟩
  cases parsed with
  | true =>
    subst same
    exact ⟨rfl, inside.produced number rfl rfl .., inside.ended ..⟩
  | false =>
    subst same
    exact ⟨rfl, rfl, inside.ended ..⟩

/-- A number is an item, and reading it stops where it ends. -/
theorem parse_number {value : UInt32} (leads : Leads (.ascii .space) [] rest)
    (ends : rest.head?.any (fun unit => Radix.decimal.isDigit (CodeUnit.value unit)) = false)
    (stands : Stands config listScope before (DecimalText.bytes value.toNat ++ rest) errors state) :
    ((withFuel (fuel + 3)).parse (.call 0)).Gives (environment config source) state
      fun parsed values after => parsed = true ∧
        values = [.production "number" [.integer value.toNat]] ∧
        Stands config listScope (before ++ DecimalText.bytes value.toNat) rest errors after := by
  have inside : Stands config itemScope before (DecimalText.bytes value.toNat ++ rest) errors
    (state.inside (environment config source) number) := stands.inside number
  have matched := DigitRun.run_between .decimal (DecimalText.bytes_ne_nil value.toNat)
    (fun _ => DecimalText.isDigit_of_mem_bytes) ends before
  have within : value.toNat ≤ IntegerType.u32.limit false := Nat.le_of_lt_succ value.toNat_lt
  have converts : (DigitRun.ofRadix .decimal).convert .u32 false
      (between (before ++ DecimalText.bytes value.toNat) rest)
      ((between before (DecimalText.bytes value.toNat ++ rest)).spanTo
        (between (before ++ DecimalText.bytes value.toNat) rest)) = .ok (value.toNat : Int) := by
    rw [DigitRun.convert, slice_spanTo_between]
    exact DecimalText.parseInteger_bytes within
  rw [← inside.cursor] at matched converts
  have skips : Skips (environment config source)
      (state.inside (environment config source) number).scope (.ascii .space) :=
    inside.scope ▸ skips_item
  refine parse_item stands ((gives_parseInteger leads skips (Nat.zero_le fuel) matched
    converts).mono ?_)
  rintro _ _ after ⟨rfl, rfl, arrives⟩
  rw [List.append_nil] at arrives
  exact ⟨rfl, rfl, inside.arrives arrives⟩

/-- Where there is no digit, an item fails with an error there. -/
theorem parse_garbage
    (other : rest.head?.any (fun unit => Radix.decimal.isDigit (CodeUnit.value unit)) = false)
    (stands : Stands config listScope before rest errors state) :
    ((withFuel (fuel + 2)).parse (.call 0)).Gives (environment config source) state
      fun parsed values after => parsed = false ∧ values = [] ∧
        Stands config listScope before rest
          (errors ++ [.atPosition "number" before.length .expectedDigit]) after := by
  have inside : Stands config itemScope before rest errors
    (state.inside (environment config source) number) := stands.inside number
  have failed := DigitRun.run_between_of_head .decimal other before
  rw [← inside.cursor] at failed
  have reads : ((withFuel fuel).parseRule number.rule).Gives (environment config source)
      (state.inside (environment config source) number) fun parsed values after =>
        parsed = false ∧ values = [] ∧ Stands config itemScope before rest
          (errors ++ [.atPosition "number" before.length .expectedDigit]) after := by
    refine (gives_parseInteger_of_failed failed).mono ?_
    rintro _ _ after ⟨rfl, rfl, rfl⟩
    rw [inside.cursor]
    exact ⟨rfl, rfl, inside.withError ..⟩
  exact parse_item stands reads

/-- The list does not go on within a malformed field. -/
theorem resumption_none (start : Cursor UInt8) (comma : rest.head? ≠ (utf8 ",").head?)
    (bracket : rest.head? ≠ (utf8 "]").head?) (here : state.cursor = between before rest) :
    ((withFuel (fuel + 1)).resumption list start).Gives (environment config source) state
      fun answer values after => answer = none ∧ values = [] ∧ after = state := by
  simp only [resumption, list, gives_bind]
  refine (gives_probe_literal_of_head (by decide) comma here).mono ?_
  rintro _ _ _ ⟨rfl, rfl, rfl⟩
  simp only [Attempt.isAccepted, Bool.false_eq_true, if_false, gives_bind]
  refine (gives_probe_literal_of_head (by decide) bracket here).mono ?_
  rintro _ _ _ ⟨rfl, rfl, rfl⟩
  simp

/-- After a field, the list goes on with a separator if there are more fields. -/
theorem resumption_closing (start : Cursor UInt8) (fields : List Field)
    (scope : state.scope = listScope) (here : state.cursor = between before (closing fields)) :
    ((withFuel (fuel + 3)).resumption list start).Gives (environment config source) state
      fun answer values after =>
        answer = some (if fields.isEmpty then .terminator else .separator) ∧ values = [] ∧
          after = state := by
  have skips : Skips (environment config source) state.scope (.ascii .space) := scope ▸ skips_list
  simp only [resumption, list, gives_bind]
  cases fields with
  | nil =>
    have leads : Leads (.ascii .space) ([] : List UInt8) [] := leads_nil rfl
    refine (gives_probe_literal_of_head (by decide) (by decide) here).mono ?_
    rintro _ _ _ ⟨rfl, rfl, rfl⟩
    simp only [Attempt.isAccepted, Bool.false_eq_true, if_false, gives_bind]
    refine (gives_probe_literal leads skips (Nat.zero_le _) here).mono ?_
    rintro _ _ _ ⟨rfl, rfl, rfl⟩
    simp
  | cons field rest =>
    rw [closing_eq] at here
    refine (gives_probe_literal (leads_space field rest) skips (Nat.le_add_left 1 _) here).mono ?_
    rintro _ _ _ ⟨rfl, rfl, rfl⟩
    simp [Attempt.isAccepted]

/-- The list has no limits, so its recovery ends nowhere else. -/
theorem recoveryAt_none (start : Cursor UInt8) (comma : rest.head? ≠ (utf8 ",").head?)
    (bracket : rest.head? ≠ (utf8 "]").head?) (here : state.cursor = between before rest) :
    ((withFuel (fuel + 1)).recoveryAt list start).Gives (environment config source) state
      fun answer values after => answer = none ∧ values = [] ∧ after = state := by
  rw [recoveryAt, gives_bind]
  refine (resumption_none start comma bracket here).mono ?_
  rintro _ _ _ ⟨rfl, rfl, rfl⟩
  simp [list, anyAccepts]

private theorem recoveryAt_closing (start : Cursor UInt8) (fields : List Field)
    (scope : state.scope = listScope) (here : state.cursor = between before (closing fields)) :
    ((withFuel (fuel + 3)).recoveryAt list start).Gives (environment config source) state
      fun answer values after =>
        answer = some (some (if fields.isEmpty then .terminator else .separator)) ∧ values = [] ∧
          after = state := by
  rw [recoveryAt, gives_bind]
  refine (resumption_closing start fields scope here).mono ?_
  rintro _ _ _ ⟨rfl, rfl, rfl⟩
  simp

/-- The rest of a malformed field is passed over. -/
theorem recover {garbage : List UInt8} {fields : List Field}
    (malformed : isMalformed garbage = true)
    (stands : Stands config listScope before (garbage ++ closing fields) errors state) :
    ((withFuel (fuel + 3)).recoverList list).Gives (environment config source) state
      fun phase values after =>
        phase = some (if fields.isEmpty then .terminator else .separator) ∧ values = [] ∧
          Stands config listScope (before ++ garbage) (closing fields) errors after := by
  -- No unit of the field is one that the list can go on with, but the one after the field is.
  rw [State.eq_between stands.cursor, recoverList]
  simp only [gives_bind, gives_cursor, gives_reportSkipped, gives_pure]
  refine (gives_seek ?unlimited ?passes (recoveryAt_closing _ fields stands.scope rfl)).mono ?_
  case unlimited => exact fun there => (gives_pure ..).mpr ⟨rfl, rfl, rfl⟩
  case passes =>
    intro before unit rest member
    obtain ⟨comma, bracket⟩ := unended_of_isMalformed malformed member
    have no_comma : (unit :: rest).head? ≠ (utf8 ",").head? :=
      ne_head_of_isChar comma rfl
    have no_bracket : (unit :: rest).head? ≠ (utf8 "]").head? :=
      ne_head_of_isChar bracket rfl
    exact recoveryAt_none _ no_comma no_bracket rfl
  rintro _ _ _ ⟨rfl, rfl, rfl⟩
  have arrives := State.Arrives.between state (before ++ garbage) (closing fields)
  exact ⟨rfl, rfl, stands.arrives (arrives.withSkipped (fun _ _ _ _ => rfl) ..)⟩

end Steps

end States

/-- Where a run is among the fields, told by the text that it has behind it. -/
def marks (config : ParseConfig) : Landmarks Field UInt8 (Array ParseError) where
  start done rest := Stands config listScope (opened done) (coming rest) (errorsFrom 1 done)
  failed done field rest state := ∃ text malformed, field = .garbage text malformed ∧
    Stands config listScope (opened done) (text ++ closing rest) (errorsFrom 1 (done ++ [field]))
      state
  stop done rest state := ∃ earlier field, done = earlier ++ [field] ∧
    Stands config listScope (opened earlier ++ field.text) (closing rest) (errorsFrom 1 done) state
  closed done := Stands config listScope (input done) [] (errorsFrom 1 done)

/-- The rules of the list do what there is to do at each field. -/
theorem reads_list (config : ParseConfig) (source : Array UInt8) (fuel : Nat) :
    (marks config).Reads (withFuel (fuel + 3)) (environment config source) list
      ⟨.literal ",", false⟩ fun field => field.value?.map fun value => [value] where
  separated := rfl
  empty here := by
    have whole : input [] = opened [] ++ utf8 "]" := input_eq []
    refine (attempt_terminator here).mono ?_
    rintro _ _ after ⟨rfl, rfl, stands⟩
    rw [← whole] at stands
    exact ⟨rfl, rfl, stands⟩
  more here := attempt_terminator_of_head (coming_cons ..).2 here
  reads {done rest field produced state} here good := by
    cases field with
    | garbage => cases good
    | number value =>
      cases good
      have same : errorsFrom 1 done = errorsFrom 1 (done ++ [.number value]) := by
        simp [errorsFrom_concat, errorsFrom]
      refine (parse_number (leads_closing rest) (ends_closing rest) here).mono ?_
      rintro _ _ after ⟨rfl, rfl, stands⟩
      rw [same] at stands
      exact ⟨rfl, rfl, done, .number value, rfl, stands⟩
  fails {done rest field state} here bad := by
    cases field with
    | number => cases bad
    | garbage text malformed =>
      have more : errorsFrom 1 (done ++ [.garbage text malformed]) = errorsFrom 1 done ++
          [.atPosition "number" (opened done).length .expectedDigit] := errorsFrom_concat ..
      refine (parse_garbage (no_digit_of_isMalformed malformed _) here).mono ?_
      rintro _ _ after ⟨rfl, -, stands⟩
      rw [← more] at stands
      exact ⟨rfl, text, malformed, rfl, stands⟩
  recovers {done rest field state} here := by
    obtain ⟨text, malformed, rfl, stands⟩ := here
    refine (recover malformed stands).mono ?_
    rintro _ _ after ⟨rfl, rfl, stands⟩
    exact ⟨rfl, rfl, done, _, rfl, stands⟩
  next {done rest field state} here := by
    obtain ⟨earlier, last, rfl, stands⟩ := here
    have comma : (closing (field :: rest)).head? ≠ (utf8 "]").head? :=
      (head_closing (field :: rest)).trans_ne (by decide : (utf8 ",").head? ≠ (utf8 "]").head?)
    refine (attempt_terminator_of_head comma stands).mono ?_
    rintro _ _ after ⟨rfl, stands⟩
    exact ⟨rfl, earlier, last, rfl, stands⟩
  separates {done rest field state} here := by
    obtain ⟨earlier, last, rfl, stands⟩ := here
    rw [closing_eq] at stands
    refine (parse_literal (leads_space field rest) (Nat.le_add_left 1 _) stands).mono ?_
    rintro _ _ after ⟨rfl, -, stands⟩
    rw [opened_eq] at stands
    exact ⟨rfl, stands⟩
  last {done state} here := by
    obtain ⟨earlier, field, rfl, stands⟩ := here
    refine (attempt_terminator stands).mono ?_
    rintro _ _ after ⟨rfl, rfl, stands⟩
    rw [← input_concat] at stands
    exact ⟨rfl, rfl, stands⟩

section Run

variable {config : ParseConfig} (source : Array UInt8) {fields : List Field} {fuel : Nat}
  {errors : List ParseError} {before rest : List UInt8} {state : State UInt8 (Array ParseError)}

/-- Nothing is skipped in front of a text without whitespace there. -/
theorem skip_leading (outermost : Bool) (leads : Leads (.ascii .space) [] rest)
    (stands : Stands config listScope before rest errors state) :
    ((withFuel (fuel + 1)).skipLeading outermost (environment config source)).Gives
      (environment config source) state fun _ values after =>
        values = [] ∧ Stands config listScope before rest errors after := by
  rw [skipLeading, gives_ite]
  split
  · refine (gives_skipWhitespace leads (stands.scope ▸ skips_list) (Nat.zero_le fuel)
      stands.cursor).mono ?_
    rintro _ _ after ⟨rfl, arrives⟩
    rw [List.append_nil] at arrives
    exact ⟨rfl, stands.arrives arrives⟩
  · exact (gives_pure ..).mpr ⟨rfl, stands⟩

theorem sink_values :
    Sink.list (fields.filterMap fun field => field.value?.map fun value => [value]) =
    .list (fields.filterMap Field.value?) := by
  rw [← Sink.list_map_singleton, List.map_filterMap]

/-- The whole list is read, with its brackets. -/
theorem parse_numbers (enough : 4 * fields.length ≤ fuel)
    (stands : Stands config listScope [] (input fields) [] state) :
    ((withFuel (fuel + 5)).parse numbers.rule).Gives (environment config source) state
      fun parsed values after => parsed = true ∧ values = [.list (fields.filterMap Field.value?)] ∧
        Stands config listScope (input fields) [] (errorsFrom 1 fields) after := by
  change ((withFuel (fuel + 4)).parseAll [_, _]).Gives _ _ _
  simp only [parseAll, gives_bind]
  have opening : input fields = utf8 "[" ++ ([] ++ coming fields) := input_eq fields
  rw [opening] at stands
  refine (parse_literal (leads_coming fields) (Nat.zero_le _) stands).mono ?_
  rintro _ _ middle ⟨rfl, rfl, start⟩
  rw [if_pos rfl, gives_bind]
  refine ((reads_list config source fuel).gives_parseTerminatedList ?_ start).mono ?_
  · exact Nat.le_trans (Nat.succ_le_succ enough) (Nat.le_add_right _ 2)
  rintro _ _ after ⟨rfl, rfl, closed⟩
  have value : (environment config source).observer.sink middle.scope.profile
      (fields.filterMap fun field => field.value?.map fun value => [value]) =
        .list (fields.filterMap Field.value?) := by
    rw [start.scope]
    exact sink_values
  refine (gives_pure ..).mpr ⟨rfl, ?_, closed⟩
  rw [value]
  rfl

/-- The entry of the grammar makes one value of the list. -/
theorem call_numbers (enough : 4 * fields.length ≤ fuel)
    (stands : Stands config .outermost [] (input fields) [] state) :
    ((withFuel (fuel + 5)).call 1 false).Gives (environment config source) state
      fun attempt values after => attempt = .accepted ∧
        values = [.production "numbers" [.list (fields.filterMap Field.value?)]] ∧
        Stands config .outermost (input fields) [] (errorsFrom 1 fields) after := by
  have found : (environment config source).grammar.production? 1 = some numbers := rfl
  have plain : numbers.profile.isToken = false := rfl
  rw [gives_call found, gives_callProduction plain]
  refine (skip_leading source _ (leads_input fields) (stands.inside numbers)).mono ?_
  rintro _ _ middle ⟨rfl, inside⟩
  refine (parse_numbers source enough inside).mono ?_
  rintro _ _ after ⟨rfl, rfl, closed⟩
  rw [if_pos rfl, List.nil_append]
  exact ⟨rfl, closed.produced numbers rfl rfl .., closed.ended ..⟩

end Run

/-- Recovery isolates the malformed fields of a list: the list is read to its end, it has all the
numbers, in order, and there is one error for each malformed field, where that begins. -/
theorem malformed_fields_are_isolated (config : ParseConfig) (fields : List Field) (fuel : Nat)
    (enough : 4 * fields.length + 5 ≤ fuel) :
    ∃ built result, builder.build = .ok built ∧
      built.parse config (.start (input fields).toArray) fuel = some result ∧
      result.verdict.position = (input fields).length ∧
      result.value = some (.production "numbers" [.list (fields.filterMap Field.value?)]) ∧
      result.verdict.errorCount = fields.countP Field.isGarbage ∧
      result.errors = (errorsFrom 1 fields).take config.maxErrors ∧
      result.verdict.outcome =
        if fields.any Field.isGarbage then .recoveredFailure else .success := by
  obtain ⟨spare, rfl⟩ := Nat.exists_eq_add_of_le' enough
  have initial : Stands config .outermost [] (input fields) []
      (.initial (.start (input fields).toArray) #[]) :=
    ⟨start_eq_between _, rfl, rfl, rfl, by rw [List.take_nil]; rfl⟩
  obtain ⟨step, ran, accepted, values, stands⟩ :=
    call_numbers (input fields).toArray (Nat.le_add_left _ spare) initial
  have count : step.state.report.statistics.errors = fields.countP Field.isGarbage :=
    stands.counted.trans (length_errorsFrom 1 fields)
  rw [← Nat.add_assoc]
  refine ⟨grammar, _, build_builder, congrArg (Option.map _) (congrArg (Option.map _) ran),
    congrArg Cursor.position stands.cursor, ?value, count, congrArg Array.toList stands.kept,
    ?outcome⟩
  case value => simp [accepted, values, Attempt.isAccepted]
  case outcome =>
    have none : fields.countP Field.isGarbage = 0 ↔ fields.any Field.isGarbage = false := by
      simp [List.countP_eq_zero]
    simp only [Outcome.ofRun, accepted, count, none]
    cases fields.any Field.isGarbage <;> rfl

/-- A number between malformed fields, the first of which begins with a digit of another radix. -/
def mixed : List Field :=
  [.garbage (utf8 "a1") rfl, .number 42, .garbage (utf8 "x y") rfl]

theorem numbers_of_mixed : input mixed = utf8 "[a1, 42, x y]" ∧
    ∃ built result, builder.build = .ok built ∧
      built.parse .standard (.start (input mixed).toArray) 17 = some result ∧
      result.verdict.position = 13 ∧
      result.value = some (.production "numbers" [.list [.production "number" [.integer 42]]]) ∧
      result.verdict.errorCount = 2 ∧
      result.errors =
        [.atPosition "number" 1 .expectedDigit, .atPosition "number" 9 .expectedDigit] ∧
      result.verdict.outcome = .recoveredFailure :=
  ⟨by decide, malformed_fields_are_isolated .standard mixed 17 (by decide)⟩

end Descent.NumberList
