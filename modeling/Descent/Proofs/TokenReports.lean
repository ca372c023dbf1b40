import Descent.Proofs.StructureReports

/-! Rules that match one piece of input report their failures. A symbol hands on a failure
that its word had in a speculation only, so its word must not have one. -/

namespace Descent.Runner

open Descent.Parser

variable {U σ : Type} {run : Runner U σ} {environment : Environment U σ}
  {sound : Rule U → Prop}

theorem reports_attemptTokenized (rule : Rule U) (kind : TokenKind) :
    (run.attemptTokenized rule kind).Reports environment (· = .canceled) := by
  intro state framed
  simp only [attemptTokenized, probeWhole, ensures_bind, ensures_cursor, ensures_lookAhead,
    ensures_quietly, ensures_speculate]
  refine .of_forall fun isMatch values after => ?_
  cases isMatch <;> simp

theorem reports_parseTokenized (rule : Rule U) (kind : TokenKind) :
    (run.parseTokenized rule kind).Reports environment (· = false) := by
  intro state framed
  simp only [parseTokenized, probeWhole, ensures_bind, ensures_cursor, ensures_lookAhead,
    ensures_quietly, ensures_speculate]
  refine .of_forall fun isMatch values after => ?_
  cases isMatch <;> simp [State.withError, State.withSkipped]

theorem reports_attemptCapture (settles : run.Settles) (reports : run.ReportsOf environment sound)
    (rule : Rule U) (ruleSound : sound rule) :
    (run.attemptCapture rule).Reports environment (· = .canceled) := by
  refine looks_cursor.settles.bind_reports fun start => ?_
  refine (reports_collect (reports_withoutWhitespace (reports.attempt rule ruleSound))).bind
    (settles_collect (settles_withoutWhitespace (settles.attempt rule))) ?_
  intro answer
  obtain ⟨attempt, values⟩ := answer
  cases attempt with
  | accepted =>
    exact .inr ((settles_acceptCapture settles start values).bind_reports
      fun _ => reports_pure (by simp))
  | canceled => exact .inl ⟨rfl, settles_pure _⟩
  | backtracked => exact .inr (reports_pure (by simp))

theorem reports_parseCapture (settles : run.Settles) (reports : run.ReportsOf environment sound)
    (rule : Rule U) (ruleSound : sound rule) :
    (run.parseCapture rule).Reports environment (· = false) := by
  refine looks_cursor.settles.bind_reports fun start => ?_
  refine (reports_collect (reports_withoutWhitespace (reports.parse rule ruleSound))).bind
    (settles_collect (settles_withoutWhitespace (settles.parse rule))) ?_
  intro answer
  obtain ⟨parsed, values⟩ := answer
  cases parsed with
  | true =>
    exact .inr ((settles_acceptCapture settles start values).bind_reports
      fun _ => reports_pure (by simp))
  | false => exact .inl ⟨rfl, settles_pure _⟩

theorem reports_parsePosition :
    (parsePosition : Parser U σ Bool).Reports environment (· = false) := by
  intro state framed
  simp [parsePosition]

theorem reports_reportFailure (stopped : Cursor U) (kind : ParseError.Kind) (state : State U σ) :
    (do
      setCursor stopped
      reportFailure state.cursor stopped kind
      return false : Parser U σ Bool).Ensures environment state fun parsed _ after =>
        parsed = false →
          state.report.statistics.errors < after.report.statistics.errors := by
  simp [State.withError, State.withSkipped]

variable [CodeUnit U]

theorem reports_attemptToken (token : Token U) :
    (run.attemptToken token).Reports environment (· = .canceled) := by
  intro state framed
  rw [attemptToken, ensures_bind, ensures_cursor]
  cases token.pattern.run state.cursor <;> simp

theorem reports_parseToken (token : Token U) :
    (run.parseToken token).Reports environment (· = false) := by
  intro state framed
  rw [parseToken, ensures_bind, ensures_cursor]
  cases token.pattern.run state.cursor with
  | failed failure stopped => exact reports_reportFailure stopped _ state
  | matched after => simp

theorem reports_attemptIdentifier (shape : IdentifierShape) (reserved : Trie U) :
    (run.attemptIdentifier shape reserved).Reports environment (· = .canceled) := by
  intro state framed
  rw [attemptIdentifier, ensures_bind, ensures_cursor]
  cases shape.run state.cursor <;> simp

theorem reports_parseIdentifier (shape : IdentifierShape) (reserved : Trie U) :
    (run.parseIdentifier shape reserved).Reports environment (· = false) := by
  intro state framed
  rw [parseIdentifier, ensures_bind, ensures_cursor]
  cases shape.run state.cursor with
  | failed failure stopped => exact reports_reportFailure stopped _ state
  | matched after => simp

private theorem reports_acceptInteger (type : IntegerType) (digits : DigitRun) (negative : Bool)
    (before first after : Cursor U) :
    (run.acceptInteger type digits negative before first after).Reports environment
      (· = false) := by
  intro state framed
  simp only [acceptInteger, ensures_bind, ensures_setCursor, ensures_reportToken]
  cases digits.convert type negative after (first.spanTo after) <;>
    simp [State.withError, State.withToken]

theorem reports_attemptInteger (type : IntegerType) (digits : DigitRun) (signed : Bool) :
    (run.attemptInteger type digits signed).Reports environment (· = .canceled) := by
  refine looks_cursor.settles.bind_reports fun start => ?_
  rcases readSign signed start with ⟨negative, first⟩
  dsimp only
  cases digits.run first with
  | failed failure stopped => exact reports_pure (by simp)
  | matched after => exact reports_ofBool (reports_acceptInteger type digits negative _ _ _)

theorem reports_parseInteger (type : IntegerType) (digits : DigitRun) (signed : Bool) :
    (run.parseInteger type digits signed).Reports environment (· = false) := by
  intro state framed
  rw [parseInteger, ensures_bind, ensures_cursor]
  rcases readSign signed state.cursor with ⟨negative, first⟩
  dsimp only
  cases digits.run first with
  | failed failure stopped => exact reports_reportFailure stopped _ state
  | matched after => exact reports_acceptInteger type digits negative _ _ _ state framed

theorem reports_parseCodePoint (digits : DigitCount) :
    (run.parseCodePoint digits).Reports environment (· = false) := by
  intro state framed
  rw [parseCodePoint, ensures_bind, ensures_cursor]
  rcases digits.readCodePoint state.cursor with ⟨answer, after⟩
  cases answer with
  | error failure => exact reports_reportFailure after _ state
  | ok character => simp

theorem reports_attemptSymbolHere (table : SymbolTable U) :
    (run.attemptSymbolHere table).Reports environment (· = .canceled) := by
  intro state framed
  rw [attemptSymbolHere, ensures_bind, ensures_cursor]
  cases table.longest state.cursor <;> simp

theorem reports_parseSymbolHere (table : SymbolTable U) :
    (run.parseSymbolHere table).Reports environment (· = false) := by
  intro state framed
  rw [parseSymbolHere, ensures_bind, ensures_cursor]
  cases table.longest state.cursor <;> simp [State.withError]

theorem reports_attemptSymbol (table : SymbolTable U) (word : Rule U)
    (never : ∀ state : State U σ, state.scope.frames ≠ [] →
      (run.attempt word).Ensures (unobserved environment) (unreported state).withoutWhitespace
        fun attempt _ _ => attempt ≠ .canceled) :
    (run.attemptSymbol table word).Reports environment (· = .canceled) := by
  intro state framed
  simp only [attemptSymbol, ensures_bind, ensures_cursor, ensures_lookAhead, ensures_quietly,
    ensures_speculate, ensures_withoutWhitespace]
  refine (never state framed).mono ?_
  intro attempt values after uncanceled
  cases attempt with
  | accepted =>
    simp only [Attempt.isAccepted]
    cases table.find (after.againWithWhitespace.cursor.slice
      (state.cursor.spanTo after.againWithWhitespace.cursor)) <;> simp
  | canceled => exact absurd rfl uncanceled
  | backtracked => simp [Attempt.isAccepted]

theorem reports_parseSymbol (settles : run.Settles) (reports : run.ReportsOf environment sound)
    (table : SymbolTable U) (word : Rule U) (wordSound : sound word) :
    (run.parseSymbol table word).Reports environment (· = false) := by
  refine looks_cursor.settles.bind_reports fun start => ?_
  refine (reports_quietly (reports_withoutWhitespace (reports.parse word wordSound))).bind
    (settles_quietly (settles_withoutWhitespace (settles.parse word))) fun parsed => ?_
  cases parsed with
  | false => exact .inl ⟨rfl, settles_pure _⟩
  | true =>
    refine .inr (looks_cursor.settles.bind_reports fun here => ?_)
    intro state framed
    cases found : table.find (here.slice (start.spanTo here)) <;> simp [found, State.withError]

end Descent.Runner
