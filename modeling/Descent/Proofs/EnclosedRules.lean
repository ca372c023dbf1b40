import Descent.Proofs.WhitespaceBlindness

/-! Rules that read what is inside of them without whitespace. Rules for whitespace make no
difference to what they read; they decide only what is skipped after it. -/

namespace Descent

open Descent.Parser

/-- The rules inside of which no whitespace is skipped by itself. -/
def Rule.encloses {U : Type} : Rule U → Bool
  | .capture _ | .tokenized .. | .symbol .. | .delimited .. | .withoutWhitespace _ => true
  | .onVariable _ (.capture _) | .onVariable _ (.rematch _) => true
  | _ => false

namespace Runner

variable {U σ α : Type} [CodeUnit U] {environment other : Environment U σ}

section Regions

variable (kin : environment.Alike other) (fuel : Nat)
include kin

private theorem blind_parse_within (rule : Rule U) :
    Blind environment other (withoutWhitespace ((withFuel fuel).parse rule)) := by
  have fits (source : Array U) := (Alignment.isWhole_whole source).fits rule
  have followed : (withFuel fuel : Runner U σ).FollowedBy False (withFuel fuel : Runner U σ) :=
    followedBy_withFuel (Nat.le_refl fuel)
  exact blind_withoutWhitespace (fun source => followed.parse (kin.kept source) (fits source))
    fun source => followed.parse (kin.symm.kept source) (fits source)

private theorem blind_attempt_within (rule : Rule U) :
    Blind environment other (withoutWhitespace ((withFuel fuel).attempt rule)) := by
  have fits (source : Array U) := (Alignment.isWhole_whole source).fits rule
  have followed : (withFuel fuel : Runner U σ).FollowedBy False (withFuel fuel : Runner U σ) :=
    followedBy_withFuel (Nat.le_refl fuel)
  exact blind_withoutWhitespace (fun source => followed.attempt (kin.kept source) (fits source))
    fun source => followed.attempt (kin.symm.kept source) (fits source)

section Tokens

private theorem blind_probeWhole (rule : Rule U) :
    Blind environment other ((withFuel fuel).probeWhole rule) :=
  (blind_parse_within kin.unobserved fuel rule).speculate.quietly.lookAhead

omit [CodeUnit U] in
private theorem encloses_acceptToken {run : Runner U σ} (kind : TokenKind)
    (before after : Cursor U) :
    run.Encloses (fun _ => true) environment other (run.acceptToken kind before after) :=
  .after (blind_setCursor after) fun _ =>
    .after (blind_reportToken kin kind before.position after.position) fun _ =>
      encloses_skipWhitespace

private theorem encloses_parseTokenized (rule : Rule U) (kind : TokenKind) :
    (withFuel fuel).Encloses id environment other ((withFuel fuel).parseTokenized rule kind) := by
  apply Encloses.after blind_cursor
  intro before
  apply Encloses.after (blind_probeWhole kin fuel rule)
  intro probed
  obtain ⟨isMatch, stopped⟩ := probed
  cases isMatch with
  | true => exact (encloses_acceptToken kin kind before stopped).answering fun _ => rfl
  | false =>
    apply Encloses.after (blind_setCursor stopped)
    intro _
    apply Encloses.after (blind_reportSkipped kin before stopped)
    intro _
    apply Encloses.after (blind_reportError kin .missingToken before.position _)
    exact fun _ => encloses_pure rfl

private theorem encloses_attemptTokenized (rule : Rule U) (kind : TokenKind) :
    (withFuel fuel).Encloses Attempt.isAccepted environment other
      ((withFuel fuel).attemptTokenized rule kind) := by
  apply Encloses.after blind_cursor
  intro before
  apply Encloses.after (blind_probeWhole kin fuel rule)
  intro probed
  obtain ⟨isMatch, stopped⟩ := probed
  cases isMatch with
  | true => exact (encloses_acceptToken kin kind before stopped).answering fun _ => rfl
  | false => exact encloses_pure rfl

omit [CodeUnit U] kin in
/-- The lexeme of a capture is told before the whitespace after it is skipped. -/
theorem encloses_acceptCapture {run : Runner U σ} (before : Cursor U) (values : List Value) :
    run.Encloses (fun _ => true) environment other (run.acceptCapture before values) :=
  .after blind_cursor fun _ => .after (blind_emitAll _) fun _ =>
    .after (blind_emitAll values) fun _ => encloses_skipWhitespace

private theorem encloses_parseCapture (rule : Rule U) :
    (withFuel fuel).Encloses id environment other ((withFuel fuel).parseCapture rule) := by
  apply Encloses.after blind_cursor
  intro before
  apply Encloses.after (blind_parse_within kin fuel rule).collect
  intro result
  obtain ⟨parsed, values⟩ := result
  cases parsed with
  | true => exact (encloses_acceptCapture before values).answering fun _ => rfl
  | false => exact encloses_pure rfl

private theorem encloses_attemptCapture (rule : Rule U) :
    (withFuel fuel).Encloses Attempt.isAccepted environment other
      ((withFuel fuel).attemptCapture rule) := by
  apply Encloses.after blind_cursor
  intro before
  apply Encloses.after (blind_attempt_within kin fuel rule).collect
  intro result
  obtain ⟨attempt, values⟩ := result
  cases attempt with
  | accepted => exact (encloses_acceptCapture before values).answering fun _ => rfl
  | canceled => exact encloses_pure rfl
  | backtracked => exact encloses_pure rfl

omit [CodeUnit U] kin in
private theorem encloses_acceptSymbol {run : Runner U σ} (value : Value) :
    run.Encloses (fun _ => true) environment other (run.acceptSymbol value) :=
  .after (blind_emitAll _) fun _ => encloses_skipWhitespace

private theorem encloses_parseSymbol (table : SymbolTable U) (word : Rule U) :
    (withFuel fuel).Encloses id environment other ((withFuel fuel).parseSymbol table word) := by
  apply Encloses.after blind_cursor
  intro before
  apply Encloses.after (blind_parse_within kin fuel word).quietly
  intro parsed
  cases parsed with
  | false => exact encloses_pure rfl
  | true =>
    apply Encloses.after blind_cursor
    intro after
    dsimp only
    cases table.find (after.slice (before.spanTo after)) with
    | none =>
      apply Encloses.after (blind_reportError kin .unknownSymbol _ _)
      exact fun _ => encloses_pure rfl
    | some value => exact (encloses_acceptSymbol value).answering fun _ => rfl

/-- The word is tried ahead, and then read once more. -/
theorem encloses_attemptSymbol (table : SymbolTable U) (word : Rule U) :
    (withFuel fuel).Encloses Attempt.isAccepted environment other
      ((withFuel fuel).attemptSymbol table word) := by
  apply Encloses.after blind_cursor
  intro before
  apply Encloses.after (blind_attempt_within kin.unobserved fuel word).speculate.quietly.lookAhead
  intro tried
  obtain ⟨attempt, after⟩ := tried
  cases attempt with
  | canceled => exact encloses_pure rfl
  | backtracked => exact encloses_pure rfl
  | accepted =>
    dsimp only
    cases table.find (after.slice (before.spanTo after)) with
    | none => exact encloses_pure rfl
    | some value =>
      have reads : Blind environment other
          (discard (quietly (withoutWhitespace ((withFuel fuel).parse word))) :
            Parser U σ PUnit) :=
        (blind_parse_within kin fuel word).quietly.bind fun _ => blind_pure _
      apply Encloses.after reads
      exact fun _ => (encloses_acceptSymbol value).answering fun _ => rfl

end Tokens

section Delimiters

variable (opening : Rule U) (form : Delimited U)

omit [CodeUnit U] kin in
private theorem fitsContent_whole (source : Array U) : FitsContent (.whole source) form where
  closing := (Alignment.isWhole_whole source).fits form.closing
  escapes _ _ rule _ := (Alignment.isWhole_whole source).fits rule

private theorem encloses_parseDelimited :
    (withFuel fuel).Encloses id environment other
      ((withFuel fuel).parseDelimited opening form) := by
  have opens (source : Array U) := (Alignment.isWhole_whole source).fits opening
  have followed : (withFuel fuel : Runner U σ).FollowedBy False (withFuel fuel : Runner U σ) :=
    followedBy_withFuel (Nat.le_refl fuel)
  apply Encloses.after blind_cursor
  intro before
  apply Encloses.after (blind_withoutWhitespace
    (fun source => agrees_parseWithin followed (kin.kept source) (opens source)
      (fitsContent_whole form source) rfl)
    fun source => agrees_parseWithin followed (kin.symm.kept source) (opens source)
      (fitsContent_whole form source) rfl)
  intro parsed
  cases parsed with
  | true => exact encloses_skipWhitespace.answering fun _ => rfl
  | false => exact encloses_pure rfl

private theorem encloses_attemptDelimited :
    (withFuel fuel).Encloses Attempt.isAccepted environment other
      ((withFuel fuel).attemptDelimited opening form) := by
  have opens (source : Array U) := (Alignment.isWhole_whole source).fits opening
  have followed : (withFuel fuel : Runner U σ).FollowedBy False (withFuel fuel : Runner U σ) :=
    followedBy_withFuel (Nat.le_refl fuel)
  apply Encloses.after blind_cursor
  intro before
  apply Encloses.after (blind_withoutWhitespace
    (fun source => agrees_attemptThen followed (kin.kept source) (opens source)
      (agrees_parseContent followed (kin.kept source) (fitsContent_whole form source) rfl))
    fun source => agrees_attemptThen followed (kin.symm.kept source) (opens source)
      (agrees_parseContent followed (kin.symm.kept source) (fitsContent_whole form source) rfl))
  intro attempt
  cases attempt with
  | accepted => exact encloses_skipWhitespace.answering fun _ => rfl
  | canceled => exact encloses_pure rfl
  | backtracked => exact encloses_pure rfl

end Delimiters

section Rules

variable (rule : Rule U)

private theorem encloses_parseWithoutWhitespace :
    (withFuel fuel).Encloses id environment other
      ((withFuel fuel).parseWithoutWhitespace rule) := by
  apply Encloses.after (blind_parse_within kin fuel rule)
  intro parsed
  cases parsed with
  | true => exact encloses_skipWhitespace.answering fun _ => rfl
  | false => exact encloses_pure rfl

private theorem encloses_attemptWithoutWhitespace :
    (withFuel fuel).Encloses Attempt.isAccepted environment other
      ((withFuel fuel).attemptWithoutWhitespace rule) := by
  apply Encloses.after (blind_attempt_within kin fuel rule)
  intro attempt
  cases attempt with
  | accepted => exact encloses_skipWhitespace.answering fun _ => rfl
  | canceled => exact encloses_pure rfl
  | backtracked => exact encloses_pure rfl

private theorem encloses_parseCaptureVariable (name : String) :
    (withFuel fuel).Encloses id environment other
      ((withFuel fuel).parseCaptureVariable name rule) := by
  apply Encloses.after blind_cursor
  intro before
  apply Encloses.after (blind_parse_within kin fuel rule)
  intro parsed
  cases parsed with
  | false => exact encloses_pure rfl
  | true =>
    apply Encloses.after blind_cursor
    intro after
    apply Encloses.after (blind_assignVariable name _)
    intro assigned
    cases assigned with
    | true => exact encloses_skipWhitespace.answering fun _ => rfl
    | false =>
      apply Encloses.after (blind_modifyBindings _)
      exact fun _ => encloses_skipWhitespace.answering fun _ => rfl

private theorem encloses_parseRematch (name : String) :
    (withFuel fuel).Encloses id environment other ((withFuel fuel).parseRematch name rule) := by
  apply Encloses.after blind_cursor
  intro before
  have finds : Blind environment other (findLexeme name : Parser U σ (Option Span)) :=
    (blind_findVariable name).bind fun _ => blind_pure _
  apply Encloses.after finds
  intro lexeme
  cases lexeme with
  | none =>
    apply Encloses.after (blind_reportError kin _ before.position _)
    exact fun _ => encloses_pure rfl
  | some expected =>
    apply Encloses.after (blind_parse_within kin fuel rule)
    intro parsed
    cases parsed with
    | false => exact encloses_pure rfl
    | true =>
      apply Encloses.after blind_cursor
      intro after
      dsimp only
      split
      · exact encloses_skipWhitespace.answering fun _ => rfl
      · apply Encloses.after (blind_reportError kin _ before.position _)
        exact fun _ => encloses_pure rfl

/-- Each rule of this kind reads what is inside of it without whitespace. -/
theorem encloses_parse (encloses : rule.encloses = true) :
    (withFuel fuel).Encloses id environment other ((withFuel (fuel + 1)).parse rule) := by
  change (withFuel fuel).Encloses id environment other ((withFuel fuel).parseRule rule)
  cases rule with
  | capture rule => exact encloses_parseCapture kin fuel rule
  | tokenized rule kind => exact encloses_parseTokenized kin fuel rule kind
  | symbol table word => exact encloses_parseSymbol kin fuel table word
  | delimited opening closing content escapes =>
    exact encloses_parseDelimited kin fuel opening ⟨closing, content, escapes⟩
  | withoutWhitespace rule => exact encloses_parseWithoutWhitespace kin fuel rule
  | onVariable name operation =>
    apply Encloses.after blind_cursor
    intro position
    cases operation with
    | capture rule => exact encloses_parseCaptureVariable kin fuel rule name
    | rematch rule => exact encloses_parseRematch kin fuel rule name
    | _ => cases encloses
  | _ => cases encloses

private theorem encloses_attempt (encloses : rule.encloses = true) :
    (withFuel fuel).Encloses Attempt.isAccepted environment other
      ((withFuel (fuel + 1)).attempt rule) := by
  have parses := encloses_parse kin fuel rule encloses
  change (withFuel fuel).Encloses _ environment other ((withFuel fuel).attemptRule rule)
  cases rule with
  | capture rule => exact encloses_attemptCapture kin fuel rule
  | tokenized rule kind => exact encloses_attemptTokenized kin fuel rule kind
  | symbol table word => exact encloses_attemptSymbol kin fuel table word
  | delimited opening closing content escapes =>
    exact encloses_attemptDelimited kin fuel opening ⟨closing, content, escapes⟩
  | withoutWhitespace rule => exact encloses_attemptWithoutWhitespace kin fuel rule
  | onVariable name operation =>
    have answers (parsed : Bool) : (Attempt.ofBool parsed).isAccepted = id parsed := by
      cases parsed <;> rfl
    cases operation with
    | capture rule => exact parses.answering answers
    | rematch rule => exact parses.answering answers
    | _ => cases encloses
  | _ => cases encloses

end Rules

end Regions

/-- Where whitespace is not to be skipped, rules for it are ignored. With grammars and productions
that differ in nothing else, a rule has the same answer and values, stops in the same state and
reports the same. A rule that reads what is inside of it without whitespace does the same anywhere,
up to where it ends: only then is whitespace skipped, if it has matched. So its answer and its
values are the same, the lexeme of a capture among them. -/
theorem hidden_whitespace_is_ignored {grammar grammar' : Grammar U} (config : ParseConfig)
    (observer : Observer σ) {state twin : State U σ} (rule : Rule U)
    (grammars : grammar'.bare = grammar.bare) (states : twin.bare = state.bare) :
    (0 < state.scope.noWhitespace → ∀ fuel,
      ((withFuel fuel).parse rule ⟨grammar, config, observer⟩ state).map Step.bare =
          ((withFuel fuel).parse rule ⟨grammar', config, observer⟩ twin).map Step.bare ∧
        ((withFuel fuel).attempt rule ⟨grammar, config, observer⟩ state).map Step.bare =
          ((withFuel fuel).attempt rule ⟨grammar', config, observer⟩ twin).map Step.bare) ∧
    (rule.encloses = true →
      (∀ fuel,
        (withFuel fuel).EndsAlike id ⟨grammar, config, observer⟩ ⟨grammar', config, observer⟩
            ((withFuel (fuel + 1)).parse rule) state twin ∧
          (withFuel fuel).EndsAlike Attempt.isAccepted ⟨grammar, config, observer⟩
            ⟨grammar', config, observer⟩ ((withFuel (fuel + 1)).attempt rule) state twin) ∧
      (∀ fuel fuel' step step',
        (withFuel fuel).parse rule ⟨grammar, config, observer⟩ state = some step →
        (withFuel fuel').parse rule ⟨grammar', config, observer⟩ twin = some step' →
          step'.answer = step.answer ∧ step'.values = step.values) ∧
      ∀ fuel fuel' step step',
        (withFuel fuel).attempt rule ⟨grammar, config, observer⟩ state = some step →
        (withFuel fuel').attempt rule ⟨grammar', config, observer⟩ twin = some step' →
          step'.answer = step.answer ∧ step'.values = step.values) := by
  have kin : Environment.Alike ⟨grammar, config, observer⟩ ⟨grammar', config, observer⟩ :=
    ⟨grammars, rfl, rfl⟩
  have enough (fuel fuel' : Nat) : fuel ≤ max fuel fuel' + 1 ∧ fuel' ≤ max fuel fuel' + 1 := by
    omega
  refine ⟨fun hides fuel => ⟨?_, ?_⟩, fun encloses => ⟨fun fuel => ⟨?_, ?_⟩, ?_, ?_⟩⟩
  · exact bare_parse config observer rule grammars states hides fuel
  · exact bare_attempt config observer rule grammars states hides fuel
  · exact encloses_parse kin fuel rule encloses state twin states
  · exact encloses_attempt kin fuel rule encloses state twin states
  · intro fuel fuel' step step' ran ran'
    obtain ⟨less, less'⟩ := enough fuel fuel'
    exact (encloses_parse kin (max fuel fuel') rule encloses state twin states).alike
      (parse_with_more_fuel less ran) (parse_with_more_fuel less' ran')
  · intro fuel fuel' step step' ran ran'
    obtain ⟨less, less'⟩ := enough fuel fuel'
    exact (encloses_attempt kin (max fuel fuel') rule encloses state twin states).alike
      (attempt_with_more_fuel less ran) (attempt_with_more_fuel less' ran')

def unitRule (unit : Char) : Rule Char :=
  .token ⟨.literal ⟨[unit], unit.toString, false⟩, .literal, none⟩

def pairRule : Rule Char := .capture (.sequence [unitRule 'a', unitRule 'b'])

def pairProduction (whitespace : Option (Rule Char)) : Production Char :=
  ⟨⟨0, "pair", false, false⟩, pairRule, whitespace, none, none⟩

def pairGrammar (whitespace : Option (Rule Char)) : Grammar Char :=
  ⟨#[pairProduction whitespace], whitespace, 0⟩

def pairState (whitespace : Option (Rule Char)) : State Char Unit :=
  ⟨.start #['a', 'b', ' '], ⟨[⟨pairProduction whitespace, whitespace, 0⟩], [], false, 0⟩, .fresh ()⟩

def parsePair (whitespace : Option (Rule Char)) : Option (Step Char Unit Bool) :=
  (withFuel 4).parse pairRule ⟨pairGrammar whitespace, .standard, .silent⟩ (pairState whitespace)

/-- The blank after what is captured is skipped or not, and the values are the same; up to the
blank, so is everything. Where whitespace is not to be skipped anyway, nothing differs. -/
theorem pair_captured_before_blank :
    let blank := some (unitRule ' ')
    let spaced : Environment Char Unit := ⟨pairGrammar blank, .standard, .silent⟩
    let plain : Environment Char Unit := ⟨pairGrammar none, .standard, .silent⟩
    (∃ step step', parsePair blank = some step ∧ parsePair none = some step' ∧
      step'.values = step.values ∧ step.state.cursor.position = 3 ∧
        step'.state.cursor.position = 2) ∧
    (withFuel 3).EndsAlike id spaced plain ((withFuel 4).parse pairRule) (pairState blank)
      (pairState none) ∧
    ((withFuel 4).parse pairRule spaced (pairState blank).withoutWhitespace).map Step.bare =
      ((withFuel 4).parse pairRule plain (pairState none).withoutWhitespace).map Step.bare := by
  intro blank spaced plain
  have grammars : (pairGrammar none).bare = (pairGrammar blank).bare := by
    simp [pairGrammar, pairProduction, Grammar.bare, Production.bare]
  have states : (pairState none).bare = (pairState blank).bare := rfl
  have hidden : (pairState none).withoutWhitespace.bare =
      (pairState blank).withoutWhitespace.bare := rfl
  obtain ⟨-, enclosed⟩ :=
    hidden_whitespace_is_ignored .standard .silent pairRule grammars states
  obtain ⟨ends, parsed, -⟩ := enclosed rfl
  obtain ⟨ignored, -⟩ := hidden_whitespace_is_ignored .standard .silent pairRule grammars hidden
  refine ⟨?_, (ends 3).1, (ignored (by decide) 4).1⟩
  have skips : (parsePair blank).map (·.state.cursor.position) = some 3 := by
    decide +kernel
  have stops : (parsePair none).map (·.state.cursor.position) = some 2 := by
    decide +kernel
  obtain ⟨step, ran, position⟩ := Option.map_eq_some_iff.mp skips
  obtain ⟨step', ran', position'⟩ := Option.map_eq_some_iff.mp stops
  exact ⟨step, step', ran, ran', (parsed 4 4 step step' ran ran').2, position, position'⟩

end Runner
end Descent
