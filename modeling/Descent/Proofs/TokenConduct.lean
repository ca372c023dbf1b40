import Descent.Proofs.Settling

/-! Rules that match one piece of input account for it: a match by a token, a mistake by
skipped input and an error. -/

namespace Descent.Runner

open Descent.Parser

variable {U σ : Type} {run : Runner U σ} {environment : Environment U σ} {origin : Nat}
  {before state : State U σ}

private theorem ensures_acceptToken (settles : run.Settles) (framed : before.scope.frames ≠ [])
    (settled : Settled environment origin before state) (kind : TokenKind) {after : Cursor U}
    (reaches : state.cursor.Reaches after) :
    (run.acceptToken kind state.cursor after).Ensures environment state fun _ _ last =>
      Settled environment origin before last := by
  simp only [acceptToken, ensures_bind, ensures_setCursor, ensures_reportToken]
  exact (settles_skipWhitespace settles).after framed (settled.read kind reaches)

/-- A speculation leaves the state as it was and stops further on. -/
theorem ensures_speculation {α : Type} {parser : Parser U σ α} (settles : parser.Settles)
    (framed : state.scope.frames ≠ []) :
    (lookAhead (quietly (speculate (withoutWhitespace parser)))).Ensures environment state
      fun answer values after =>
        values = [] ∧ after = state ∧ state.cursor.Reaches answer.2 := by
  simp only [ensures_lookAhead, ensures_quietly, ensures_speculate]
  refine (settles_withoutWhitespace settles _ (unreported state) framed).mono ?_
  intro answer values after settled
  simp only [true_and]
  exact settled.reaches

theorem settles_attemptTokenized (settles : run.Settles) (rule : Rule U) (kind : TokenKind) :
    (run.attemptTokenized rule kind).Settles := by
  intro environment state framed
  have settled := Conduct.start environment state
  rw [attemptTokenized, ensures_bind, ensures_cursor, ensures_bind]
  refine (ensures_speculation (settles.parse rule) framed).mono ?_
  intro answer _ _ ensured
  obtain ⟨isMatch, after⟩ := answer
  obtain ⟨rfl, rfl, reaches⟩ := ensured
  cases isMatch with
  | true => simpa using ensures_acceptToken settles framed settled kind reaches
  | false => simpa using settled

theorem settles_parseTokenized (settles : run.Settles) (rule : Rule U) (kind : TokenKind) :
    (run.parseTokenized rule kind).Settles := by
  intro environment state framed
  have settled := Conduct.start environment state
  rw [parseTokenized, ensures_bind, ensures_cursor, ensures_bind]
  refine (ensures_speculation (settles.parse rule) framed).mono ?_
  intro answer _ _ ensured
  obtain ⟨isMatch, after⟩ := answer
  obtain ⟨rfl, rfl, reaches⟩ := ensured
  cases isMatch with
  | true => simpa using ensures_acceptToken settles framed settled kind reaches
  | false =>
    simpa using settled.readMistaken .missingToken reaches (Nat.le_refl _) reaches.position

theorem settles_acceptCapture (settles : run.Settles) (start : Cursor U) (values : List Value) :
    (run.acceptCapture start values).Settles :=
  looks_cursor.settles.bind fun _ => (settles_emit _).bind fun _ =>
    (settles_emitAll values).bind fun _ => settles_skipWhitespace settles

theorem settles_attemptCapture (settles : run.Settles) (rule : Rule U) :
    (run.attemptCapture rule).Settles := by
  refine looks_cursor.settles.bind fun start => ?_
  apply (settles_collect (settles_withoutWhitespace (settles.attempt rule))).bind
  intro answer
  obtain ⟨attempt, values⟩ := answer
  cases attempt with
  | accepted => exact (settles_acceptCapture settles start values).bind fun _ => settles_pure _
  | canceled => exact settles_pure _
  | backtracked => exact settles_pure _

theorem settles_parseCapture (settles : run.Settles) (rule : Rule U) :
    (run.parseCapture rule).Settles := by
  refine looks_cursor.settles.bind fun start => ?_
  apply (settles_collect (settles_withoutWhitespace (settles.parse rule))).bind
  intro answer
  obtain ⟨parsed, values⟩ := answer
  cases parsed with
  | true => exact (settles_acceptCapture settles start values).bind fun _ => settles_pure _
  | false => exact settles_pure _

theorem settles_parsePosition : (parsePosition : Parser U σ Bool).Settles := by
  intro environment state framed
  have settled := Conduct.start environment state
  simp only [parsePosition, ensures_bind, ensures_cursor, ensures_reportToken, ensures_emit,
    ensures_pure]
  exact settled.read .position (.refl _)

theorem settles_acceptSymbol (settles : run.Settles) (value : Value) :
    (run.acceptSymbol value).Settles :=
  (settles_emit value).bind fun _ => settles_skipWhitespace settles

/-- The longest symbol is read as an identifier. -/
theorem ensures_acceptSymbolHere (settles : run.Settles) (framed : before.scope.frames ≠ [])
    (settled : Settled environment origin before state) {after : Cursor U} (value : Value)
    (reaches : state.cursor.Reaches after) :
    (run.acceptSymbolHere state.cursor after value).Ensures environment state fun _ _ last =>
      Settled environment origin before last := by
  simp only [acceptSymbolHere, ensures_bind, ensures_setCursor, ensures_reportToken]
  exact (settles_acceptSymbol settles value).after framed (settled.read .identifier reaches)

/-- What a pattern left behind when it failed is skipped input. -/
theorem ensures_reportFailure_settled (settled : Settled environment origin before state)
    {stopped : Cursor U} (reaches : state.cursor.Reaches stopped) (kind : ParseError.Kind) :
    (do
      setCursor stopped
      reportFailure state.cursor stopped kind
      return false : Parser U σ Bool).Ensures environment state fun _ _ last =>
        Settled environment origin before last := by
  simp only [ensures_bind, ensures_setCursor, ensures_reportFailure, ensures_pure]
  exact settled.readMistaken kind reaches reaches.position (Nat.le_refl _)

variable [CodeUnit U]

theorem settles_attemptToken (settles : run.Settles) (token : Token U) :
    (run.attemptToken token).Settles := by
  intro environment state framed
  have settled := Conduct.start environment state
  have forward := token.pattern.forward_run state.cursor
  rw [attemptToken, ensures_bind, ensures_cursor]
  cases found : token.pattern.run state.cursor with
  | failed failure stopped => simpa using settled
  | matched after =>
    simpa using ensures_acceptToken settles framed settled token.kind (forward.matched found)

theorem settles_parseToken (settles : run.Settles) (token : Token U) :
    (run.parseToken token).Settles := by
  intro environment state framed
  have settled := Conduct.start environment state
  have forward := token.pattern.forward_run state.cursor
  rw [parseToken, ensures_bind, ensures_cursor]
  cases found : token.pattern.run state.cursor with
  | failed failure stopped => exact ensures_reportFailure_settled settled (forward.failed found) _
  | matched after =>
    simpa using ensures_acceptToken settles framed settled token.kind (forward.matched found)

private theorem ensures_acceptIdentifier (settles : run.Settles) (framed : before.scope.frames ≠ [])
    (settled : Settled environment origin before state) (reserved : Trie U) {after : Cursor U}
    (reaches : state.cursor.Reaches after) :
    (run.acceptIdentifier reserved state.cursor after).Ensures environment state fun _ _ last =>
      Settled environment origin before last := by
  have read := settled.read .identifier reaches
  have skips := settles_skipWhitespace settles
  have origin_le : origin ≤ (state.cursor.spanTo after).first :=
    Nat.le_trans settled.origin_le settled.reaches.position
  have reported := read.withError .reservedIdentifier origin_le (Nat.le_refl _)
    (Nat.le_max_left ..) (Nat.le_of_eq reaches.stop_spanTo)
  simp only [acceptIdentifier, ensures_bind, ensures_setCursor, ensures_reportToken, ensures_ite,
    ensures_reportError, ensures_emit]
  split
  · exact skips.after framed reported
  · exact skips.after framed read

theorem settles_attemptIdentifier (settles : run.Settles) (shape : IdentifierShape)
    (reserved : Trie U) : (run.attemptIdentifier shape reserved).Settles := by
  intro environment state framed
  have settled := Conduct.start environment state
  have forward := shape.forward_run state.cursor
  rw [attemptIdentifier, ensures_bind, ensures_cursor]
  cases found : shape.run state.cursor with
  | failed failure stopped => simpa using settled
  | matched after =>
    simpa using ensures_acceptIdentifier settles framed settled reserved (forward.matched found)

theorem settles_parseIdentifier (settles : run.Settles) (shape : IdentifierShape)
    (reserved : Trie U) : (run.parseIdentifier shape reserved).Settles := by
  intro environment state framed
  have settled := Conduct.start environment state
  have forward := shape.forward_run state.cursor
  rw [parseIdentifier, ensures_bind, ensures_cursor]
  cases found : shape.run state.cursor with
  | failed failure stopped => exact ensures_reportFailure_settled settled (forward.failed found) _
  | matched after =>
    simpa using ensures_acceptIdentifier settles framed settled reserved (forward.matched found)

theorem reaches_readSign (signed : Bool) (cursor : Cursor U) :
    cursor.Reaches (readSign signed cursor).2 := by
  unfold readSign
  split
  · exact cursor.reaches_next
  · split
    · exact cursor.reaches_next
    · exact .refl cursor

/-- A number that is too large has been read all the same. -/
theorem ensures_acceptInteger (settles : run.Settles) (framed : before.scope.frames ≠ [])
    (settled : Settled environment origin before state) (type : IntegerType) (digits : DigitRun)
    (negative : Bool) {first after : Cursor U} (signed : state.cursor.Reaches first)
    (reaches : first.Reaches after) :
    (run.acceptInteger type digits negative state.cursor first after).Ensures environment state
      fun _ _ last => Settled environment origin before last := by
  have read := settled.read .digits (signed.trans reaches)
  have first_le := Nat.le_trans (Nat.le_trans settled.origin_le settled.reaches.position)
    signed.position
  simp only [acceptInteger, ensures_bind, ensures_setCursor, ensures_reportToken]
  cases digits.convert type negative after (first.spanTo after) with
  | error failure =>
    simp only [ensures_bind, ensures_reportError, ensures_pure]
    exact read.withError .integerOverflow first_le (Nat.le_refl _) (Nat.le_max_left ..)
      (Nat.le_of_eq reaches.stop_spanTo)
  | ok number =>
    simp only [ensures_bind, ensures_emit, ensures_pure]
    exact (settles_skipWhitespace settles).after framed read

theorem settles_attemptInteger (settles : run.Settles) (type : IntegerType) (digits : DigitRun)
    (signed : Bool) : (run.attemptInteger type digits signed).Settles := by
  intro environment state framed
  have settled := Conduct.start environment state
  have sign := reaches_readSign signed state.cursor
  rw [attemptInteger, ensures_bind, ensures_cursor]
  rcases read : readSign signed state.cursor with ⟨negative, first⟩
  rw [read] at sign
  have forward := digits.forward_run first
  dsimp only
  cases found : digits.run first with
  | failed failure stopped => simpa using settled
  | matched after =>
    simpa using ensures_acceptInteger settles framed settled type digits negative sign
      (forward.matched found)

theorem settles_parseInteger (settles : run.Settles) (type : IntegerType) (digits : DigitRun)
    (signed : Bool) : (run.parseInteger type digits signed).Settles := by
  intro environment state framed
  have settled := Conduct.start environment state
  have sign := reaches_readSign signed state.cursor
  rw [parseInteger, ensures_bind, ensures_cursor]
  rcases read : readSign signed state.cursor with ⟨negative, first⟩
  rw [read] at sign
  have forward := digits.forward_run first
  dsimp only
  cases found : digits.run first with
  | failed failure stopped =>
    exact ensures_reportFailure_settled settled (sign.trans (forward.failed found)) _
  | matched after =>
    exact ensures_acceptInteger settles framed settled type digits negative sign
      (forward.matched found)

theorem settles_parseCodePoint (settles : run.Settles) (digits : DigitCount) :
    (run.parseCodePoint digits).Settles := by
  intro environment state framed
  have settled := Conduct.start environment state
  have reaches := digits.reaches_readCodePoint state.cursor
  rw [parseCodePoint, ensures_bind, ensures_cursor]
  rcases read : digits.readCodePoint state.cursor with ⟨answer, after⟩
  rw [read] at reaches
  cases answer with
  | error failure => exact ensures_reportFailure_settled settled reaches _
  | ok character =>
    simp only [ensures_bind, ensures_setCursor, ensures_reportToken, ensures_emit, ensures_pure]
    exact (settles_skipWhitespace settles).after framed (settled.read .digits reaches)

theorem settles_attemptSymbolHere (settles : run.Settles) (table : SymbolTable U) :
    (run.attemptSymbolHere table).Settles := by
  intro environment state framed
  have settled := Conduct.start environment state
  rw [attemptSymbolHere, ensures_bind, ensures_cursor]
  cases found : table.longest state.cursor with
  | none => simpa using settled
  | some longest =>
    simpa using ensures_acceptSymbolHere settles framed settled longest.1
      (SymbolTable.longest_reaches found)

theorem settles_parseSymbolHere (settles : run.Settles) (table : SymbolTable U) :
    (run.parseSymbolHere table).Settles := by
  intro environment state framed
  have settled := Conduct.start environment state
  rw [parseSymbolHere, ensures_bind, ensures_cursor]
  cases found : table.longest state.cursor with
  | none =>
    simpa using settled.withErrorHere .unknownSymbol
  | some longest =>
    simpa using ensures_acceptSymbolHere settles framed settled longest.1
      (SymbolTable.longest_reaches found)

theorem settles_attemptSymbol (settles : run.Settles) (table : SymbolTable U) (word : Rule U) :
    (run.attemptSymbol table word).Settles := by
  refine looks_cursor.settles.bind fun start => ?_
  apply (looks_lookAhead_speculate _).settles.bind
  intro answer
  obtain ⟨attempt, after⟩ := answer
  cases attempt with
  | accepted =>
    simp only [Attempt.isAccepted]
    cases table.find (after.slice (start.spanTo after)) with
    | none => exact settles_pure _
    | some value =>
      exact (settles_discard (settles_quietly (settles_withoutWhitespace
        (settles.parse word)))).bind fun _ =>
          (settles_acceptSymbol settles value).bind fun _ => settles_pure _
  | canceled => exact settles_pure _
  | backtracked => exact settles_pure _

theorem settles_parseSymbol (settles : run.Settles) (table : SymbolTable U) (word : Rule U) :
    (run.parseSymbol table word).Settles := by
  intro environment state framed
  rw [parseSymbol, ensures_bind, ensures_cursor, ensures_bind]
  refine (settles_quietly (settles_withoutWhitespace (settles.parse word)) environment state
    framed).mono ?_
  intro parsed values after settled
  cases parsed with
  | false => simpa using settled
  | true =>
    simp only [Bool.not_true, Bool.false_eq_true, if_false, ensures_bind, ensures_cursor]
    cases table.find (after.cursor.slice (state.cursor.spanTo after.cursor)) with
    | none =>
      simp only [ensures_bind, ensures_reportError, ensures_pure]
      exact settled.withError .unknownSymbol (Nat.le_refl _) (Nat.le_refl _) (Nat.le_max_left ..)
        (Nat.le_of_eq settled.reaches.stop_spanTo)
    | some value =>
      simp only [ensures_bind, ensures_pure]
      exact (settles_acceptSymbol settles value).after framed settled

end Descent.Runner
