import Descent.Proofs.ExitFlags

/-! Whitespace, productions and rules that match one piece of input set the variable that a loop
watches only by leaves that are counted. -/

namespace Descent.Runner

open Descent.Parser

variable {U : Type} {run : Runner U Nat} {environment : Environment U Nat} {state : State U Nat}

structure Marks (run : Runner U Nat) : Prop where
  parse {rule : Rule U} (unnamed : ¬rule.Names loopExit) : (run.parse rule).Marks
  attempt {rule : Rule U} (unnamed : ¬rule.Names loopExit) : (run.attempt rule).Marks

section Whitespace

variable (marks : run.Marks)
include marks

theorem marks_skipWith {whitespace : Rule U} (unnamed : ¬whitespace.Names loopExit) :
    (run.skipWith whitespace).Marks := by
  intro environment state undisturbed
  simp only [skipWith, ensures_bind, ensures_cursor, ensures_scope, ensures_modifyScope,
    ensures_modifyReport, ensures_ite, ensures_pure, loop]
  have rounds : (iterate (fun _ => do
      let start ← cursor
      let attempt ← quietly (run.attempt whitespace)
      if attempt.isAccepted && (← cursor).position != start.position then return .again ()
      else return .done ()) run.fuel () : Parser U Nat Unit).Marks := by
    refine marks_iterate (fun _ => ?_) _ _
    refine marks_cursor.bind fun start => ?_
    refine (marks_quietly (marks.attempt unnamed)).bind fun attempt => ?_
    refine marks_cursor.bind fun here => ?_
    split <;> exact marks_pure _
  have muffled : Marked state state.muffled := .of_eq rfl rfl rfl
  refine (rounds.after muffled undisturbed).mono fun _ _ after marked => ?_
  have skipped : Marked state (after.unmuffled state.scope.inWhitespace) := marked.congr rfl rfl rfl
  split
  · exact (marks_reportToken _ _ _).after skipped undisturbed
  · exact skipped

theorem marks_skipWhitespace : run.skipWhitespace.Marks := by
  intro environment state undisturbed
  rw [skipWhitespace, ensures_bind, ensures_scope]
  cases found : state.scope.whitespace? with
  | none => exact (ensures_pure ..).mpr (.refl state)
  | some whitespace =>
    refine marks_skipWith marks (fun names => ?_) environment state undisturbed
    -- The whitespace that is skipped is that of the innermost production.
    unfold Scope.whitespace? at found
    split at found
    · cases found
    · obtain ⟨frame, innermost, own⟩ := Option.bind_eq_some_iff.mp found
      exact undisturbed.scope ⟨frame, List.mem_of_mem_head? innermost, whitespace, own, names⟩

theorem marks_ifAccepted {parser : Parser U Nat Attempt} (inner : parser.Marks) :
    (do
      let attempt ← parser
      if attempt.isAccepted then run.skipWhitespace
      return attempt : Parser U Nat Attempt).Marks := by
  refine inner.bind fun attempt => ?_
  cases attempt with
  | accepted => exact (marks_skipWhitespace marks).bind fun _ => marks_pure _
  | canceled => exact marks_pure _
  | backtracked => exact marks_pure _

theorem marks_ifParsed {parser : Parser U Nat Bool} (inner : parser.Marks) :
    (do
      let parsed ← parser
      if parsed then run.skipWhitespace
      return parsed : Parser U Nat Bool).Marks := by
  refine inner.bind fun parsed => ?_
  cases parsed with
  | true => exact (marks_skipWhitespace marks).bind fun _ => marks_pure _
  | false => exact marks_pure _

end Whitespace

section Calls

/-- The whitespace inside a production is its own, its caller's or that of the grammar. -/
theorem undisturbed_inside (undisturbed : Undisturbed environment state) {production : Production U}
    (member : production ∈ environment.grammar.productions) :
    Undisturbed environment (state.inside environment production) := by
  refine { undisturbed with scope := ?_ }
  intro names
  obtain ⟨frame, running, whitespace, own, names⟩ := names
  rcases List.mem_cons.mp running with rfl | outside
  · have own : whitespace ∈ state.scope.whitespaceFor environment.grammar production := own
    unfold Scope.whitespaceFor at own
    split at own
    · cases own
    · split at own
      next kept => exact undisturbed.grammar (.own member (kept.trans own) names)
      next caller callers _ frames =>
        exact undisturbed.scope ⟨caller, by rw [frames]; exact .head _, whitespace, own, names⟩
      next => exact undisturbed.grammar (.whitespace own names)
  · exact undisturbed.scope ⟨frame, outside, whitespace, own, names⟩

/-- What a production has bound is gone after it, but leaves inside it are counted outside. -/
theorem marked_outside {production : Production U} {after : State U Nat}
    (undisturbed : Undisturbed environment state)
    (marked : Marked (state.inside environment production) after) : Marked state after.outside := by
  obtain ⟨leaves, count, signals⟩ := marked
  have begun : (state.inside environment production).report.notes = state.report.notes := by
    simp only [State.inside, Report.withStart]
    rw [undisturbed.observer]
    exact ite_self _
  have frames : after.scope.frames = (state.scope.inside environment.grammar production).frames :=
    signals.frames
  have scope : after.outside.scope = { after.scope with
      frames := state.scope.frames
      bindings := after.scope.bindings.restore state.scope.bindings.length } := by
    simp [State.outside, Scope.outside, frames, Scope.inside]
  refine ⟨leaves, count.trans (by rw [begun]), ?_⟩
  rw [scope]
  exact ⟨rfl, 0, signals.restored⟩

variable (marks : run.Marks)
include marks

private theorem marks_skipLeading (outermost : Bool) (environment : Environment U Nat) :
    (run.skipLeading outermost environment).Marks := by
  unfold skipLeading
  split
  · exact marks_skipWhitespace marks
  · exact marks_pure ()

private theorem marks_runAs (asBranch : Bool) {rule : Rule U} (unnamed : ¬rule.Names loopExit) :
    (run.runAs asBranch rule).Marks := by
  cases asBranch with
  | true => exact marks.attempt unnamed
  | false => exact marks_ofBool (marks.parse unnamed)

private theorem ensures_callProduction_marked (undisturbed : Undisturbed environment state)
    {production : Production U} (member : production ∈ environment.grammar.productions)
    (asBranch : Bool) :
    (run.callProduction production asBranch).Ensures environment state
      fun _ _ after => Marked state after := by
  rw [ensures_callProduction]
  have inside := undisturbed_inside undisturbed member
  have unnamed : ¬production.rule.Names loopExit :=
    fun names => undisturbed.grammar (.rule member names)
  refine (marks_skipLeading marks _ environment _ _ inside).mono fun _ skipped middle leading => ?_
  refine ((marks_runAs marks asBranch unnamed).after leading inside).mono
    fun attempt values after marked => ?_
  have outside := marked_outside undisturbed marked
  have ended (ticket : Ticket) (ending : Ending) :
      (after.report.withEnd environment.observer production.profile ticket ending).notes =
        after.report.notes := by
    rw [undisturbed.observer]
    cases ending <;> exact ite_self _
  unfold CallEnsures
  cases attempt with
  | accepted =>
    let finished := after.outside.withEnd environment production.profile
      (state.report.ticket environment.observer production.profile state.cursor.position)
      (.finished values after.cursor.position)
    have marked : Marked state finished := outside.congr rfl rfl (ended _ _)
    change (if production.profile.isToken then run.skipWhitespace else pure ()).Ensures environment
      finished _
    split
    · exact (marks_skipWhitespace marks).after marked undisturbed
    · exact (ensures_pure ..).mpr marked
  | canceled => exact outside.congr rfl rfl (ended _ _)
  | backtracked => exact outside.congr rfl rfl (ended _ _)

theorem marks_call (id : ProductionId) (asBranch : Bool) : (run.call id asBranch).Marks := by
  intro environment state undisturbed
  rw [call, ensures_bind, ensures_environment]
  cases found : environment.grammar.production? id with
  | some production =>
    exact ensures_callProduction_marked marks undisturbed (Array.mem_of_getElem? found) asBranch
  | none => exact marks_reportedHere _ Attempt.canceled environment state undisturbed

end Calls

section Tokens

variable (marks : run.Marks)
include marks

private theorem marks_acceptToken (kind : TokenKind) (before after : Cursor U) :
    (run.acceptToken kind before after).Marks :=
  (marks_setCursor _).bind fun _ => (marks_reportToken _ _ _).bind fun _ =>
    marks_skipWhitespace marks

omit marks in
theorem marks_failure (before stopped : Cursor U) (kind : ParseError.Kind) :
    (do
      setCursor stopped
      reportFailure before stopped kind
      return false : Parser U Nat Bool).Marks :=
  (marks_setCursor _).bind fun _ => (marks_reportFailure _ _ _).bind fun _ => marks_pure false

theorem marks_attemptTokenized (rule : Rule U) (kind : TokenKind) :
    (run.attemptTokenized rule kind).Marks := by
  refine marks_cursor.bind fun before => (looks_lookAhead_speculate _).marks.bind fun answer => ?_
  obtain ⟨isMatch, after⟩ := answer
  cases isMatch with
  | true => exact (marks_acceptToken marks kind before after).bind fun _ => marks_pure _
  | false => exact marks_pure _

theorem marks_parseTokenized (rule : Rule U) (kind : TokenKind) :
    (run.parseTokenized rule kind).Marks := by
  refine marks_cursor.bind fun before => (looks_lookAhead_speculate _).marks.bind fun answer => ?_
  obtain ⟨isMatch, after⟩ := answer
  cases isMatch with
  | true => exact (marks_acceptToken marks kind before after).bind fun _ => marks_pure _
  | false =>
    exact (marks_setCursor after).bind fun _ => (marks_reportSkipped before after).bind fun _ =>
      marks_reported _ _ _ false

private theorem marks_acceptCapture (start : Cursor U) (values : List Value) :
    (run.acceptCapture start values).Marks :=
  marks_cursor.bind fun _ => (marks_emit _).bind fun _ => (marks_emitAll values).bind fun _ =>
    marks_skipWhitespace marks

theorem marks_attemptCapture {rule : Rule U} (unnamed : ¬rule.Names loopExit) :
    (run.attemptCapture rule).Marks := by
  refine marks_cursor.bind fun start => ?_
  refine (marks_collect (marks_withoutWhitespace (marks.attempt unnamed))).bind fun answer => ?_
  obtain ⟨attempt, values⟩ := answer
  cases attempt with
  | accepted => exact (marks_acceptCapture marks start values).bind fun _ => marks_pure _
  | canceled => exact marks_pure _
  | backtracked => exact marks_pure _

theorem marks_parseCapture {rule : Rule U} (unnamed : ¬rule.Names loopExit) :
    (run.parseCapture rule).Marks := by
  refine marks_cursor.bind fun start => ?_
  refine (marks_collect (marks_withoutWhitespace (marks.parse unnamed))).bind fun answer => ?_
  obtain ⟨parsed, values⟩ := answer
  cases parsed with
  | true => exact (marks_acceptCapture marks start values).bind fun _ => marks_pure _
  | false => exact marks_pure _

omit marks in
theorem marks_parsePosition : (parsePosition : Parser U Nat Bool).Marks :=
  marks_cursor.bind fun _ => (marks_reportToken _ _ _).bind fun _ =>
    (marks_emit _).bind fun _ => marks_pure _

private theorem marks_acceptSymbol (value : Value) : (run.acceptSymbol value).Marks :=
  (marks_emit value).bind fun _ => marks_skipWhitespace marks

private theorem marks_acceptSymbolHere (before after : Cursor U) (value : Value) :
    (run.acceptSymbolHere before after value).Marks :=
  (marks_setCursor _).bind fun _ => (marks_reportToken _ _ _).bind fun _ =>
    marks_acceptSymbol marks value

variable [CodeUnit U]

theorem marks_attemptToken (token : Token U) : (run.attemptToken token).Marks := by
  refine marks_cursor.bind fun before => ?_
  cases token.pattern.run before with
  | failed failure stopped => exact marks_pure _
  | matched after => exact (marks_acceptToken marks _ before after).bind fun _ => marks_pure _

theorem marks_parseToken (token : Token U) : (run.parseToken token).Marks := by
  refine marks_cursor.bind fun before => ?_
  cases token.pattern.run before with
  | failed failure stopped => exact marks_failure before stopped _
  | matched after => exact (marks_acceptToken marks _ before after).bind fun _ => marks_pure _

private theorem marks_acceptIdentifier (reserved : Trie U) (before after : Cursor U) :
    (run.acceptIdentifier reserved before after).Marks := by
  refine (marks_setCursor _).bind fun _ => (marks_reportToken _ _ _).bind fun _ => ?_
  have accepts : (do
      emit (.lexeme (before.spanTo after))
      run.skipWhitespace : Parser U Nat Unit).Marks :=
    (marks_emit _).bind fun _ => marks_skipWhitespace marks
  dsimp only
  split
  · exact (marks_reportError _ _ _).bind fun _ => accepts
  · exact accepts

theorem marks_attemptIdentifier (shape : IdentifierShape) (reserved : Trie U) :
    (run.attemptIdentifier shape reserved).Marks := by
  refine marks_cursor.bind fun before => ?_
  cases shape.run before with
  | failed failure stopped => exact marks_pure _
  | matched after =>
    exact (marks_acceptIdentifier marks reserved before after).bind fun _ => marks_pure _

theorem marks_parseIdentifier (shape : IdentifierShape) (reserved : Trie U) :
    (run.parseIdentifier shape reserved).Marks := by
  refine marks_cursor.bind fun before => ?_
  cases shape.run before with
  | failed failure stopped => exact marks_failure before stopped _
  | matched after =>
    exact (marks_acceptIdentifier marks reserved before after).bind fun _ => marks_pure _

private theorem marks_acceptInteger (type : IntegerType) (digits : DigitRun) (negative : Bool)
    (before first after : Cursor U) :
    (run.acceptInteger type digits negative before first after).Marks := by
  refine (marks_setCursor _).bind fun _ => (marks_reportToken _ _ _).bind fun _ => ?_
  cases digits.convert type negative after (first.spanTo after) with
  | error failure => exact marks_reported _ _ _ false
  | ok number =>
    exact (marks_emit _).bind fun _ => (marks_skipWhitespace marks).bind fun _ => marks_pure _

theorem marks_attemptInteger (type : IntegerType) (digits : DigitRun) (signed : Bool) :
    (run.attemptInteger type digits signed).Marks := by
  refine marks_cursor.bind fun before => ?_
  obtain ⟨negative, first⟩ := readSign signed before
  dsimp only
  cases digits.run first with
  | failed failure stopped => exact marks_pure _
  | matched after =>
    exact marks_ofBool (marks_acceptInteger marks type digits negative before first after)

theorem marks_parseInteger (type : IntegerType) (digits : DigitRun) (signed : Bool) :
    (run.parseInteger type digits signed).Marks := by
  refine marks_cursor.bind fun before => ?_
  obtain ⟨negative, first⟩ := readSign signed before
  dsimp only
  cases digits.run first with
  | failed failure stopped => exact marks_failure before stopped _
  | matched after => exact marks_acceptInteger marks type digits negative before first after

theorem marks_parseCodePoint (digits : DigitCount) : (run.parseCodePoint digits).Marks := by
  refine marks_cursor.bind fun before => ?_
  obtain ⟨answer, after⟩ := digits.readCodePoint before
  cases answer with
  | error failure => exact marks_failure before after _
  | ok character =>
    exact (marks_setCursor _).bind fun _ => (marks_reportToken _ _ _).bind fun _ =>
      (marks_emit _).bind fun _ => (marks_skipWhitespace marks).bind fun _ => marks_pure true

theorem marks_attemptSymbolHere (table : SymbolTable U) :
    (run.attemptSymbolHere table).Marks := by
  refine marks_cursor.bind fun before => ?_
  cases table.longest before with
  | none => exact marks_pure _
  | some longest =>
    exact (marks_acceptSymbolHere marks before longest.2 longest.1).bind fun _ => marks_pure _

theorem marks_parseSymbolHere (table : SymbolTable U) : (run.parseSymbolHere table).Marks := by
  refine marks_cursor.bind fun before => ?_
  cases table.longest before with
  | none => exact marks_reported _ _ _ false
  | some longest =>
    exact (marks_acceptSymbolHere marks before longest.2 longest.1).bind fun _ => marks_pure _

theorem marks_attemptSymbol (table : SymbolTable U) {word : Rule U}
    (unnamed : ¬word.Names loopExit) : (run.attemptSymbol table word).Marks := by
  refine marks_cursor.bind fun start => ?_
  refine (looks_lookAhead_speculate _).marks.bind fun answer => ?_
  obtain ⟨attempt, after⟩ := answer
  cases attempt with
  | accepted =>
    simp only [Attempt.isAccepted]
    cases table.find (after.slice (start.spanTo after)) with
    | none => exact marks_pure _
    | some value =>
      exact (marks_discard (marks_quietly (marks_withoutWhitespace (marks.parse unnamed)))).bind
        fun _ => (marks_acceptSymbol marks value).bind fun _ => marks_pure _
  | canceled => exact marks_pure _
  | backtracked => exact marks_pure _

theorem marks_parseSymbol (table : SymbolTable U) {word : Rule U}
    (unnamed : ¬word.Names loopExit) : (run.parseSymbol table word).Marks := by
  refine marks_cursor.bind fun start => ?_
  refine (marks_quietly (marks_withoutWhitespace (marks.parse unnamed))).bind fun parsed => ?_
  cases parsed with
  | false => exact marks_pure _
  | true =>
    refine marks_cursor.bind fun here => ?_
    dsimp only
    cases table.find (here.slice (start.spanTo here)) with
    | none => exact marks_reported _ _ _ false
    | some value => exact (marks_acceptSymbol marks value).bind fun _ => marks_pure _

end Tokens

end Descent.Runner
