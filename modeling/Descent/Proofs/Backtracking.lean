import Descent.Proofs.Lookahead
import Descent.Proofs.Productions
import Descent.Run.Record

/-! A rule that is tried and declines leaves no trace: nothing is read, bound, produced or
counted, and all that the observer has seen is productions that declined as well. The rules
inside a rule that declines were tried before anything else happened, so each rule restores
the state because they do. -/

namespace Descent

/-- A state that differs from an earlier one at most in how often productions were started
and declined, of which the observer may know. -/
structure Restored {U σ : Type} (environment : Environment U σ) (before : State U σ)
    (values : List Value) (after : State U σ) : Prop where
  values : values = []
  cursor : after.cursor = before.cursor
  scope : after.scope = before.scope
  muted : after.report.muted = before.report.muted
  told : ∃ history : List Happening, (∀ happening ∈ history, happening.Declined) ∧
    (before.report.muted ≠ 0 → history = []) ∧
    after.report.ledger = Happening.tellAll environment.observer environment.config.maxErrors
      history before.report.ledger

namespace Restored

variable {U σ : Type} {environment : Environment U σ} {before middle after : State U σ}
  {values more : List Value}

protected theorem refl (state : State U σ) : Restored environment state [] state :=
  ⟨rfl, rfl, rfl, rfl, [], by simp, fun _ => rfl, rfl⟩

protected theorem trans (first : Restored environment before values middle)
    (second : Restored environment middle more after) :
    Restored environment before (values ++ more) after := by
  obtain ⟨history, declined, unseen, told⟩ := first.told
  obtain ⟨rest, also, unseen', last⟩ := second.told
  refine ⟨by rw [first.values, second.values, List.append_nil], second.cursor.trans first.cursor,
    second.scope.trans first.scope, second.muted.trans first.muted, history ++ rest, ?_, ?_, ?_⟩
  · intro happening member
    rcases List.mem_append.mp member with member | member
    · exact declined happening member
    · exact also happening member
  · intro muted
    rw [unseen muted, unseen' (by rwa [first.muted]), List.append_nil]
  · rw [last, told, Happening.tellAll_append]

/-- Rules without whitespace switch back what they have switched. -/
theorem againWithWhitespace
    (restored : Restored environment before.withoutWhitespace values after) :
    Restored environment before values after.againWithWhitespace where
  values := restored.values
  cursor := restored.cursor
  scope := by simp [State.againWithWhitespace, State.withoutWhitespace, restored.scope]
  muted := restored.muted
  told := restored.told

/-- A production whose rule declined is one production more of that kind, unless the observer
does not see it. -/
theorem takenBack {production : Production U}
    (restored : Restored environment (before.inside environment production) values after) :
    Restored environment before []
      (after.outside.takenBack environment production.profile
        (before.report.ticket environment.observer production.profile before.cursor.position)
        before.cursor) := by
  obtain ⟨history, declined, silent, told⟩ := restored.told
  have muted : after.report.muted = before.report.muted := restored.muted
  refine ⟨rfl, rfl, ?_, muted, ?_⟩
  · change after.scope.outside = before.scope
    rw [restored.scope]
    exact Scope.outside_inside ..
  by_cases unseen : before.report.muted = 0
  · refine ⟨[.production production.profile before.cursor.position history .declined], ?_,
      fun muted => absurd unseen muted, ?_⟩
    · intro happening member
      rw [List.mem_singleton.mp member]
      exact .production declined
    · simp [State.inside, Report.ledger, Report.withStart, Report.isMuted, unseen] at told
      simp [State.takenBack, State.outside, Report.ledger, Report.withEnd, Report.withBacktrack,
        Report.ticket, Report.isMuted, Happening.tell_production, Ending.tell, muted, unseen,
        ← told]
  · refine ⟨history, declined, silent, ?_⟩
    simp [State.inside, Report.ledger, Report.withStart, Report.isMuted, unseen] at told
    simp [State.takenBack, State.outside, Report.ledger, Report.withEnd, Report.withBacktrack,
      Report.isMuted, muted, unseen, told]

end Restored

namespace Runner

open Descent.Parser

variable {U σ : Type} {run : Runner U σ} {environment : Environment U σ} {state : State U σ}

def Shy (parser : Parser U σ Attempt) (environment : Environment U σ) (state : State U σ) :
    Prop :=
  parser.Ensures environment state fun attempt values after =>
    attempt = .backtracked → Restored environment state values after

/-- A runner all of whose attempts restore the state if they decline, at least inside of
productions: only the outermost one skips whitespace before its rule. -/
def AlwaysShy (run : Runner U σ) : Prop :=
  ∀ rule environment state, state.scope.frames ≠ [] → Shy (run.attempt rule) environment state

@[simp] theorem ofBool_ne_backtracked (parsed : Bool) :
    Attempt.ofBool parsed ≠ .backtracked := by
  cases parsed <;> simp [Attempt.ofBool]

private theorem shy_attemptThen (always : run.AlwaysShy) (first : Rule U) (rest : Parser U σ Bool)
    (framed : state.scope.frames ≠ []) : Shy (run.attemptThen first rest) environment state := by
  simp only [Shy, attemptThen, ensures_bind]
  refine (always first environment state framed).mono ?_
  intro attempt values after restored
  cases attempt with
  | accepted => simp
  | canceled => simp
  | backtracked => simpa using restored rfl

private theorem shy_attemptSequence (always : run.AlwaysShy) (rules : List (Rule U))
    (framed : state.scope.frames ≠ []) :
    Shy (run.attemptSequence rules) environment state := by
  cases rules with
  | nil => simp [Shy, attemptSequence]
  | cons first rest => exact shy_attemptThen always first _ framed

/-- Each member that declines hands the state to the next one as it was. -/
theorem shy_attemptChoice (always : run.AlwaysShy) (members : List (Rule U))
    (framed : state.scope.frames ≠ []) :
    Shy (run.attemptChoice members) environment state := by
  induction members generalizing state with
  | nil => simpa [Shy, attemptChoice] using Restored.refl state
  | cons first rest ih =>
    simp only [Shy, attemptChoice, ensures_bind]
    refine (always first environment state framed).mono ?_
    intro attempt values after restored
    cases attempt with
    | accepted => simp
    | canceled => simp
    | backtracked =>
      have first := restored rfl
      have framed : after.scope.frames ≠ [] := by rwa [first.scope]
      refine (ih framed).mono ?_
      intro attempt more last second declined
      exact first.trans (second declined)

private theorem shy_ofBool (parser : Parser U σ Bool) :
    Shy (do return .ofBool (← parser)) environment state := by
  simp [Shy]

private theorem shy_withoutWhitespace {parser : Parser U σ Attempt}
    (shy : Shy parser environment state.withoutWhitespace) :
    Shy (withoutWhitespace parser) environment state := by
  rw [Shy, ensures_withoutWhitespace]
  exact shy.mono fun _ _ _ restored declined => (restored declined).againWithWhitespace

/-- What is done only if a rule is accepted does not matter when it declines. -/
theorem shy_ifAccepted {parser : Parser U σ Attempt} (next : Parser U σ Unit)
    (shy : Shy parser environment state) :
    Shy (do
      let attempt ← parser
      if attempt.isAccepted then next
      return attempt) environment state := by
  simp only [Shy, ensures_bind]
  refine shy.mono ?_
  intro attempt values after restored
  cases attempt with
  | accepted => simp [Attempt.isAccepted]
  | canceled => simp [Attempt.isAccepted]
  | backtracked => simpa [Attempt.isAccepted] using restored rfl

private theorem shy_attemptWithoutWhitespace (always : run.AlwaysShy) (rule : Rule U)
    (framed : state.scope.frames ≠ []) :
    Shy (run.attemptWithoutWhitespace rule) environment state :=
  shy_ifAccepted _ (shy_withoutWhitespace (always rule _ _ framed))

private theorem shy_attemptTokenized (rule : Rule U) (kind : TokenKind) :
    Shy (run.attemptTokenized rule kind) environment state := by
  simp only [Shy, attemptTokenized, probeWhole, ensures_bind, ensures_cursor, ensures_lookAhead,
    ensures_quietly, ensures_speculate]
  refine Ensures.of_forall fun isMatch values after => ?_
  cases isMatch with
  | false => simpa using Restored.refl state
  | true => simp

/-- The values of a lexeme are produced with it, if at all. -/
theorem shy_attemptCapture (always : run.AlwaysShy) (rule : Rule U)
    (framed : state.scope.frames ≠ []) : Shy (run.attemptCapture rule) environment state := by
  have shy : Shy (withoutWhitespace (run.attempt rule)) environment state :=
    shy_withoutWhitespace (always rule _ _ framed)
  simp only [Shy, attemptCapture, ensures_bind, ensures_cursor, ensures_collect]
  refine shy.mono ?_
  intro attempt values after restored
  cases attempt with
  | accepted => simp [Attempt.isAccepted]
  | canceled => simp [Attempt.isAccepted]
  | backtracked =>
    have restored := restored rfl
    cases restored.values
    simpa [Attempt.isAccepted] using restored

private theorem shy_attemptList (always : run.AlwaysShy) (item : Rule U)
    (separator : Option (Separator (Rule U))) (framed : state.scope.frames ≠ []) :
    Shy (run.attemptList item separator) environment state := by
  simp only [Shy, attemptList, ensures_bind, ensures_currentSink, ensures_collect]
  refine (always item environment state framed).mono ?_
  intro attempt values after restored
  cases attempt with
  | accepted => simp
  | canceled => simp
  | backtracked =>
    have restored := restored rfl
    cases restored.values
    simpa using restored

private theorem shy_attemptPeek (rule : Rule U) (expected : Bool) :
    Shy (run.attemptPeek rule expected) environment state := by
  simp only [Shy, attemptPeek, ensures_bind]
  refine (looks_peekHolds rule expected).ensures fun holds => ?_
  simpa using fun _ => Restored.refl state

private theorem shy_attemptRequirement (name : String) (operation : Operation (Rule U)) :
    Shy (attemptRequirement name operation) environment state := by
  simp only [Shy, attemptRequirement, ensures_bind]
  refine (looks_requirement name operation).ensures fun answer => ?_
  rcases answer with _ | _ | _
  · simp
  · simpa using Restored.refl state
  · simp

private theorem shy_callProduction (always : run.AlwaysShy) (production : Production U)
    (framed : state.scope.frames ≠ []) :
    Shy (run.callProduction production true) environment state := by
  rw [Shy, ensures_callProduction]
  have inner : state.scope.frames.isEmpty = false := by simpa using framed
  simp only [inner, skipLeading_false, ensures_pure, runAs, if_true]
  refine (always production.rule environment (state.inside environment production)
    (by simp [State.inside, Scope.inside])).mono ?_
  intro attempt values after restored
  cases attempt with
  | accepted => simp [CallEnsures]
  | canceled => simp [CallEnsures]
  | backtracked => exact fun _ => (restored rfl).takenBack

private theorem shy_call (always : run.AlwaysShy) (id : ProductionId)
    (framed : state.scope.frames ≠ []) : Shy (run.call id true) environment state := by
  rw [Shy, call, ensures_bind, ensures_environment]
  cases environment.grammar.production? id with
  | none => simp
  | some production => exact shy_callProduction always production framed

variable [CodeUnit U]

private theorem shy_attemptToken (token : Token U) :
    Shy (run.attemptToken token) environment state := by
  rw [Shy, attemptToken, ensures_bind, ensures_cursor]
  cases token.pattern.run state.cursor with
  | failed failure stopped => simpa using Restored.refl state
  | matched after => simp

private theorem shy_attemptIdentifier (shape : IdentifierShape) (reserved : Trie U) :
    Shy (run.attemptIdentifier shape reserved) environment state := by
  rw [Shy, attemptIdentifier, ensures_bind, ensures_cursor]
  cases shape.run state.cursor with
  | failed failure stopped => simpa using Restored.refl state
  | matched after => simp

private theorem shy_attemptInteger (type : IntegerType) (digits : DigitRun) (signed : Bool) :
    Shy (run.attemptInteger type digits signed) environment state := by
  rw [Shy, attemptInteger, ensures_bind, ensures_cursor]
  obtain ⟨negative, first⟩ := readSign signed state.cursor
  dsimp only
  cases digits.run first with
  | failed failure stopped => simpa using Restored.refl state
  | matched after => simp

/-- The word is read for good only when it is known to be a symbol. -/
theorem shy_attemptSymbol (table : SymbolTable U) (word : Rule U) :
    Shy (run.attemptSymbol table word) environment state := by
  simp only [Shy, attemptSymbol, ensures_bind, ensures_cursor, ensures_lookAhead,
    ensures_quietly, ensures_speculate]
  refine Ensures.of_forall fun attempt values after => ?_
  cases attempt with
  | backtracked => simpa [Attempt.isAccepted] using Restored.refl state
  | canceled => simp [Attempt.isAccepted]
  | accepted =>
    simp only [Attempt.isAccepted]
    cases table.find (after.cursor.slice (state.cursor.spanTo after.cursor)) with
    | none => simpa using Restored.refl state
    | some value => simp

private theorem shy_attemptSymbolHere (table : SymbolTable U) :
    Shy (run.attemptSymbolHere table) environment state := by
  rw [Shy, attemptSymbolHere, ensures_bind, ensures_cursor]
  cases table.longest state.cursor with
  | none => simpa using Restored.refl state
  | some found => simp

private theorem shy_attemptDelimited (always : run.AlwaysShy) (opening : Rule U)
    (form : Delimited U) (framed : state.scope.frames ≠ []) :
    Shy (run.attemptDelimited opening form) environment state := by
  rw [Shy, attemptDelimited, ensures_bind, ensures_cursor]
  exact shy_ifAccepted _ (shy_withoutWhitespace (shy_attemptThen always opening _ framed))

private theorem shy_attemptLookahead (needle limit : Pattern U) :
    Shy (attemptLookahead needle limit) environment state := by
  simpa [Shy, attemptLookahead] using fun _ => Restored.refl state

private theorem shy_attemptRecovering (always : run.AlwaysShy) (rule : Rule U)
    (recovery : Option (Rule U)) (framed : state.scope.frames ≠ []) :
    Shy (run.attemptRecovering rule recovery) environment state := by
  simp only [Shy, attemptRecovering, ensures_bind, ensures_collect]
  refine (always rule environment state framed).mono ?_
  intro attempt values after restored
  cases attempt with
  | accepted => simp
  | canceled => simp
  | backtracked => simpa using restored rfl

/-- Every way to try a rule restores the state, if those inside do. -/
theorem shy_attemptRule (always : run.AlwaysShy) (rule : Rule U)
    (framed : state.scope.frames ≠ []) : Shy (run.attemptRule rule) environment state := by
  cases rule with
  | token token => exact shy_attemptToken token
  | tokenized rule kind => exact shy_attemptTokenized rule kind
  | identifier shape reserved => exact shy_attemptIdentifier shape reserved
  | capture rule => exact shy_attemptCapture always rule framed
  | integer type digits signed => exact shy_attemptInteger type digits signed
  | symbol table word => exact shy_attemptSymbol table word
  | symbolHere table => exact shy_attemptSymbolHere table
  | sequence rules => exact shy_attemptSequence always rules framed
  | branch condition rest => exact shy_attemptThen always condition _ framed
  | choice members => exact shy_attemptChoice always members framed
  | repeatedOnce body => exact shy_attemptThen always body _ framed
  | list item separator => exact shy_attemptList always item separator framed
  | delimited opening closing content escapes =>
    exact shy_attemptDelimited always opening ⟨closing, content, escapes⟩ framed
  | onVariable name operation =>
    cases operation with
    | requireFlag expected => exact shy_attemptRequirement name _
    | requireCounter expected => exact shy_attemptRequirement name _
    | _ => exact shy_ofBool _
  | recovering rule recovery => exact shy_attemptRecovering always rule recovery framed
  | peek rule expected => exact shy_attemptPeek rule expected
  | lookahead needle limit => exact shy_attemptLookahead needle limit
  | call production => exact shy_call always production framed
  | withoutWhitespace rule => exact shy_attemptWithoutWhitespace always rule framed
  | _ => exact shy_ofBool _

theorem alwaysShy_withFuel (fuel : Nat) : (withFuel (U := U) (σ := σ) fuel).AlwaysShy := by
  induction fuel with
  | zero => exact fun _ _ _ _ => ensures_outOfFuel _
  | succ fuel ih => exact fun rule _ _ framed => shy_attemptRule ih rule framed

/-- Backtracking leaves no trace: when a rule declines inside a production, all is as before, and
the observer was told of nothing but productions that declined. -/
theorem declined_attempt_leaves_no_trace (fuel : Nat) (rule : Rule U)
    (environment : Environment U σ) (state : State U σ) (step : Step U σ Attempt)
    (framed : state.scope.frames ≠ [])
    (ran : (withFuel fuel).attempt rule environment state = some step)
    (declined : step.answer = .backtracked) :
    step.values = [] ∧
      step.state.cursor = state.cursor ∧
      step.state.scope = state.scope ∧
      step.state.report.muted = state.report.muted ∧
      step.state.report.statistics.tokens = state.report.statistics.tokens ∧
      step.state.report.statistics.errors = state.report.statistics.errors ∧
      ∃ history : List Happening, (∀ happening ∈ history, happening.Declined) ∧
        step.state.report.notes =
          (Happening.tellAll environment.observer environment.config.maxErrors history
            state.report.ledger).notes := by
  have restored := alwaysShy_withFuel fuel rule environment state framed step ran declined
  obtain ⟨history, all, -, told⟩ := restored.told
  have counted := Happening.declined_counts environment.observer environment.config.maxErrors
    history all state.report.ledger
  rw [← told] at counted
  exact ⟨restored.values, restored.cursor, restored.scope, restored.muted, counted.1, counted.2,
    history, all, congrArg Ledger.notes told⟩

def soleUnit : Grammar Char where
  productions := #[⟨⟨0, "unit", false, false⟩,
    .token ⟨.literal ⟨['a'], "a", false⟩, .literal, none⟩, none, none, none⟩]
  whitespace := none
  entry := 0

/-- Inside a production of `soleUnit`, before another unit than `a`. -/
def beforeOtherUnit : State Char Recording where
  cursor := .start #['b']
  scope := ⟨[⟨⟨.detached, .otherwise, none, none, none⟩, none, 0⟩], [], false, 0⟩
  report := .fresh .empty

theorem declined_call_of_unit_leaves_no_trace :
    ∃ step, (withFuel 2).attempt (.call 0) ⟨soleUnit, .standard, Recording.observer true⟩
        beforeOtherUnit = some step ∧
      step.answer = .backtracked ∧ step.state.report.statistics.backtracks = 1 ∧
      step.values = [] ∧ step.state.cursor = .start #['b'] := by
  have framed : beforeOtherUnit.scope.frames ≠ [] := by simp [beforeOtherUnit]
  have traceless := declined_attempt_leaves_no_trace 2 (.call 0)
    ⟨soleUnit, .standard, Recording.observer true⟩ beforeOtherUnit _ framed rfl rfl
  exact ⟨_, rfl, rfl, rfl, traceless.1, traceless.2.1⟩

end Runner
end Descent
