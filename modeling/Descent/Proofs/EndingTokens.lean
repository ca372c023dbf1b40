import Descent.Proofs.FailureReports
import Descent.Proofs.Halting

/-! Every kind of token comes to an end, where skipping the whitespace after it does. -/

namespace Descent

namespace Runner

open Descent.Parser

variable {U σ : Type} [CodeUnit U] {environment : Environment U σ}
  {places : List (Frame U) → Bool → Prop} {rule : Rule U}

/-- A rule that is no branch is tried by parsing it. -/
theorem terminatesAt_of_parse (ends : Ends environment places fun run => run.parseRule rule)
    (same : ∀ run : Runner U σ, run.attemptRule rule = do return .ofBool (← run.parseRule rule)) :
    TerminatesAt environment places rule :=
  terminatesAt ends (by simpa only [same] using ends.ofBool)

private theorem ends_probeWhole (ends : Ends environment places fun run => run.parse rule) :
    Ends environment places fun run => run.probeWhole rule where
  halts state held :=
    (Halts.withoutWhitespace (ends.halts state.withoutWhitespace held).parse_unobserved).speculation
  stays _ := (looks_lookAhead_speculate _).keeps.stays

theorem ends_reportedHere {α : Type} (kind : ParseError.Kind) (answer : α) :
    Ends environment places fun _ => do
      reportErrorAt kind (← cursor).position
      return answer :=
  ends_plain fun _ _ => by
    simp only [gives_bind, gives_cursor, reportErrorAt, gives_reportError, gives_pure]
    exact ⟨rfl, rfl⟩

theorem terminatesAt_position : TerminatesAt environment places (.position : Rule U) := by
  have ends : Ends environment places fun _ => (parsePosition : Parser U σ Bool) :=
    ends_plain fun _ _ => by simp [parsePosition, State.withToken]
  exact terminatesAt_of_parse ends fun _ => rfl

theorem terminatesAt_constant (value : Value) :
    TerminatesAt environment places (.constant value : Rule U) := by
  have ends : Ends environment places fun _ => (do
      emit value
      return true : Parser U σ Bool) := ends_plain fun _ _ => by simp
  exact terminatesAt_of_parse ends fun _ => rfl

section Tokens

variable (skips : Ends environment places fun run => run.skipWhitespace)
include skips

theorem TerminatesAt.tokenized (ends : TerminatesAt environment places rule) (kind : TokenKind) :
    TerminatesAt environment places (.tokenized rule kind) := by
  apply terminatesAt
  · apply ends_cursor
    intro before
    apply (ends_probeWhole ends.parse).bind
    rintro ⟨isMatch, after⟩
    cases isMatch with
    | true => exact (ends_acceptToken skips kind before after).bind fun _ => ends_pure true
    | false =>
      simp only [Bool.false_eq_true, if_false]
      exact ends_plain fun _ _ => by simp [State.withSkipped, State.withError]
  · apply ends_cursor
    intro before
    apply (ends_probeWhole ends.parse).bind
    rintro ⟨isMatch, after⟩
    cases isMatch with
    | true => exact (ends_acceptToken skips kind before after).bind fun _ => ends_pure _
    | false => exact ends_pure _

private theorem ends_acceptIdentifier (reserved : Trie U) (before after : Cursor U) :
    Ends environment places fun run => run.acceptIdentifier reserved before after := by
  apply ends_then fun _ _ => by simp
  intro _
  apply ends_then fun _ _ => by simp [State.withToken]
  intro _
  dsimp only
  split
  · apply ends_then fun _ _ => by simp [State.withError]
    intro _
    apply ends_then fun _ _ => by simp
    exact fun _ => skips
  · apply ends_then fun _ _ => by simp
    exact fun _ => skips

theorem terminatesAt_identifier (shape : IdentifierShape) (reserved : Trie U) :
    TerminatesAt environment places (.identifier shape reserved) := by
  apply terminatesAt
  · apply ends_cursor
    intro before
    cases shape.run before with
    | failed failure stopped => exact ends_failure before stopped _
    | matched after =>
      exact (ends_acceptIdentifier skips reserved before after).bind fun _ => ends_pure true
  · apply ends_cursor
    intro before
    cases shape.run before with
    | failed failure stopped => exact ends_pure _
    | matched after =>
      apply (ends_acceptIdentifier skips reserved before after).bind
      exact fun _ => ends_pure Attempt.accepted

private theorem ends_acceptCapture (before : Cursor U) (values : List Value) :
    Ends environment places fun run => run.acceptCapture before values := by
  apply ends_cursor
  intro after
  apply ends_then fun _ _ => by simp
  intro _
  apply ends_then fun _ _ => by simp
  exact fun _ => skips

theorem TerminatesAt.capture (ends : TerminatesAt environment places rule) :
    TerminatesAt environment places (.capture rule) := by
  apply terminatesAt
  · apply ends_cursor
    intro before
    apply ends.parse.withoutWhitespace.collect.bind
    rintro ⟨parsed, values⟩
    cases parsed with
    | true => exact (ends_acceptCapture skips before values).bind fun _ => ends_pure true
    | false => exact ends_pure false
  · apply ends_cursor
    intro before
    apply ends.attempt.withoutWhitespace.collect.bind
    rintro ⟨attempt, values⟩
    cases attempt with
    | accepted => exact (ends_acceptCapture skips before values).bind fun _ => ends_pure _
    | canceled => exact ends_pure _
    | backtracked => exact ends_pure _

private theorem ends_acceptInteger (type : IntegerType) (digits : DigitRun) (negative : Bool)
    (before first after : Cursor U) :
    Ends environment places fun run =>
      run.acceptInteger type digits negative before first after := by
  apply ends_then fun _ _ => by simp
  intro _
  apply ends_then fun _ _ => by simp [State.withToken]
  intro _
  cases digits.convert type negative after (first.spanTo after) with
  | error failure =>
    dsimp only
    exact ends_plain fun _ _ => by simp [State.withError]
  | ok number =>
    apply ends_then fun _ _ => by simp
    exact fun _ => skips.bind fun _ => ends_pure true

theorem terminatesAt_integer (type : IntegerType) (digits : DigitRun) (signed : Bool) :
    TerminatesAt environment places (.integer type digits signed : Rule U) := by
  apply terminatesAt
  · apply ends_cursor
    intro before
    obtain ⟨negative, first⟩ := readSign signed before
    dsimp only
    cases digits.run first with
    | failed failure stopped => exact ends_failure before stopped _
    | matched after => exact ends_acceptInteger skips type digits negative before first after
  · apply ends_cursor
    intro before
    obtain ⟨negative, first⟩ := readSign signed before
    dsimp only
    cases digits.run first with
    | failed failure stopped => exact ends_pure _
    | matched after =>
      exact (ends_acceptInteger skips type digits negative before first after).ofBool

theorem terminatesAt_codePoint (digits : DigitCount) :
    TerminatesAt environment places (.codePoint digits : Rule U) := by
  refine terminatesAt_of_parse ?_ fun _ => rfl
  apply ends_cursor
  intro before
  rcases digits.readCodePoint before with ⟨failure | c, after⟩
  · exact ends_failure before after _
  · apply ends_then fun _ _ => by simp
    intro _
    apply ends_then fun _ _ => by simp [State.withToken]
    intro _
    apply ends_then fun _ _ => by simp
    exact fun _ => skips.bind fun _ => ends_pure true

private theorem ends_acceptSymbol (value : Value) :
    Ends environment places fun run => run.acceptSymbol value :=
  ends_then (fun _ _ => by simp) fun _ => skips

private theorem ends_acceptSymbolHere (before after : Cursor U) (value : Value) :
    Ends environment places fun run => run.acceptSymbolHere before after value := by
  apply ends_then fun _ _ => by simp
  intro _
  apply ends_then fun _ _ => by simp [State.withToken]
  exact fun _ => ends_acceptSymbol skips value

theorem terminatesAt_symbolHere (table : SymbolTable U) :
    TerminatesAt environment places (.symbolHere table) := by
  apply terminatesAt
  · apply ends_cursor
    intro before
    cases table.longest before with
    | none =>
      dsimp only
      exact ends_plain fun _ _ => by simp [reportErrorAt, State.withError]
    | some found =>
      exact (ends_acceptSymbolHere skips before found.2 found.1).bind fun _ => ends_pure true
  · apply ends_cursor
    intro before
    cases table.longest before with
    | none => exact ends_pure _
    | some found =>
      apply (ends_acceptSymbolHere skips before found.2 found.1).bind
      exact fun _ => ends_pure Attempt.accepted

theorem TerminatesAt.symbol (ends : TerminatesAt environment places rule) (table : SymbolTable U) :
    TerminatesAt environment places (.symbol table rule) := by
  apply terminatesAt
  · apply ends_cursor
    intro before
    apply ends.parse.withoutWhitespace.quietly.bind
    intro parsed
    cases parsed with
    | false => exact ends_pure false
    | true =>
      apply ends_cursor
      intro after
      dsimp only
      cases table.find (after.slice (before.spanTo after)) with
      | none =>
        dsimp only
        exact ends_plain fun _ _ => by simp [State.withError]
      | some value => exact (ends_acceptSymbol skips value).bind fun _ => ends_pure true
  · apply ends_cursor
    intro before
    have looked : Ends environment places fun run =>
        lookAhead (quietly (speculate (withoutWhitespace (run.attempt rule)))) :=
      ⟨fun state held => (Halts.withoutWhitespace
        (ends.attempt.halts state.withoutWhitespace held).attempt_unobserved).speculation,
        fun _ => (looks_lookAhead_speculate _).keeps.stays⟩
    apply looked.bind
    rintro ⟨attempt, after⟩
    dsimp only
    split
    · exact ends_pure _
    · cases table.find (after.slice (before.spanTo after)) with
      | none => exact ends_pure _
      | some value =>
        have again : Ends environment places fun run =>
            (discard (quietly (withoutWhitespace (run.parse rule))) : Parser U σ PUnit) :=
          ends.parse.withoutWhitespace.quietly.bind fun _ => ends_pure _
        apply again.bind
        exact fun _ => (ends_acceptSymbol skips value).bind fun _ => ends_pure Attempt.accepted

theorem TerminatesAt.withoutWhitespace (ends : TerminatesAt environment places rule) :
    TerminatesAt environment places (.withoutWhitespace rule) :=
  terminatesAt (ends_ifParsed skips ends.parse.withoutWhitespace)
    (ends_ifAccepted skips ends.attempt.withoutWhitespace)

end Tokens

end Runner
end Descent
