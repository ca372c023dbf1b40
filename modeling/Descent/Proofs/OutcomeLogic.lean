import Descent.Proofs.Productions
import Mathlib.Logic.Basic

/-! Assertions that a parser has an outcome. They are the counterpart of those that every outcome
satisfies a condition, and their rules follow from the rules for these. -/

namespace Descent.Parser

variable {U σ α β : Type} {environment : Environment U σ} {state : State U σ}

/-- A parser has an outcome from a state: its fuel suffices, and its answer, its values and the
state after it satisfy a condition. -/
def Gives (parser : Parser U σ α) (environment : Environment U σ) (state : State U σ)
    (post : α → List Value → State U σ → Prop) : Prop :=
  ∃ step, parser environment state = some step ∧ post step.answer step.values step.state

/-- There is an outcome with a property if not all outcomes lack it. -/
theorem gives_iff {parser : Parser U σ α} {post : α → List Value → State U σ → Prop} :
    parser.Gives environment state post ↔
      ¬parser.Ensures environment state fun answer values after => ¬post answer values after := by
  simp only [Gives, Ensures, not_forall, not_not, exists_prop]

/-- What is so of a parser whatever is asked of its outcome. -/
theorem gives_point {parser : Parser U σ α} {answer : α} {values : List Value} {after : State U σ}
    (computes : ∀ post, parser.Ensures environment state post ↔ post answer values after)
    (post : α → List Value → State U σ → Prop) :
    parser.Gives environment state post ↔ post answer values after := by
  rw [gives_iff, computes, not_not]

theorem Gives.mono {parser : Parser U σ α} {post weaker : α → List Value → State U σ → Prop}
    (gives : parser.Gives environment state post)
    (implies : ∀ answer values after, post answer values after → weaker answer values after) :
    parser.Gives environment state weaker := by
  obtain ⟨step, ran, holds⟩ := gives
  exact ⟨step, ran, implies _ _ _ holds⟩

/-- What every outcome satisfies, the one that there is satisfies too. -/
theorem Gives.and_ensures {parser : Parser U σ α} {post other : α → List Value → State U σ → Prop}
    (gives : parser.Gives environment state post)
    (ensures : parser.Ensures environment state other) :
    parser.Gives environment state fun answer values after =>
      post answer values after ∧ other answer values after := by
  obtain ⟨step, ran, holds⟩ := gives
  exact ⟨step, ran, holds, ensures step ran⟩

@[simp] theorem gives_pure (answer : α) (post : α → List Value → State U σ → Prop) :
    (pure answer : Parser U σ α).Gives environment state post ↔ post answer [] state :=
  gives_point (ensures_pure answer) post

@[simp] theorem gives_bind (first : Parser U σ α) (rest : α → Parser U σ β)
    (post : β → List Value → State U σ → Prop) :
    (first >>= rest).Gives environment state post ↔
      first.Gives environment state fun answer values middle =>
        (rest answer).Gives environment middle fun last more after =>
          post last (values ++ more) after := by
  simp only [gives_iff, ensures_bind, not_not]

@[simp] theorem gives_ite (condition : Prop) [Decidable condition] (yes no : Parser U σ α)
    (post : α → List Value → State U σ → Prop) :
    (if condition then yes else no).Gives environment state post ↔
      if condition then yes.Gives environment state post
      else no.Gives environment state post := by
  split <;> rfl

@[simp] theorem gives_environment (post : Environment U σ → List Value → State U σ → Prop) :
    Parser.environment.Gives environment state post ↔ post environment [] state :=
  gives_point ensures_environment post

@[simp] theorem gives_modify (change : State U σ → State U σ)
    (post : Unit → List Value → State U σ → Prop) :
    (modify change).Gives environment state post ↔ post () [] (change state) :=
  gives_point (ensures_modify change) post

@[simp] theorem gives_emit (value : Value) (post : Unit → List Value → State U σ → Prop) :
    (emit value).Gives environment state post ↔ post () [value] state :=
  gives_point (ensures_emit value) post

@[simp] theorem gives_emitAll (values : List Value) (post : Unit → List Value → State U σ → Prop) :
    (emitAll values).Gives environment state post ↔ post () values state :=
  gives_point (ensures_emitAll values) post

@[simp] theorem gives_cursor (post : Cursor U → List Value → State U σ → Prop) :
    cursor.Gives environment state post ↔ post state.cursor [] state :=
  gives_point ensures_cursor post

@[simp] theorem gives_setCursor (moved : Cursor U) (post : Unit → List Value → State U σ → Prop) :
    (setCursor moved).Gives environment state post ↔ post () [] { state with cursor := moved } :=
  gives_point (ensures_setCursor moved) post

@[simp] theorem gives_scope (post : Scope U → List Value → State U σ → Prop) :
    scope.Gives environment state post ↔ post state.scope [] state :=
  gives_point ensures_scope post

@[simp] theorem gives_modifyScope (change : Scope U → Scope U)
    (post : Unit → List Value → State U σ → Prop) :
    (modifyScope change).Gives environment state post ↔
      post () [] { state with scope := change state.scope } :=
  gives_point (ensures_modifyScope change) post

@[simp] theorem gives_modifyReport (change : Report σ → Report σ)
    (post : Unit → List Value → State U σ → Prop) :
    (modifyReport change).Gives environment state post ↔
      post () [] { state with report := change state.report } :=
  gives_point (ensures_modifyReport change) post

@[simp] theorem gives_reportToken (kind : TokenKind) (first stop : Nat)
    (post : Unit → List Value → State U σ → Prop) :
    (reportToken kind first stop).Gives environment state post ↔
      post () [] (state.withToken environment.observer kind first stop) :=
  gives_point (ensures_reportToken kind first stop) post

@[simp] theorem gives_reportSkipped (before after : Cursor U)
    (post : Unit → List Value → State U σ → Prop) :
    (reportSkipped before after).Gives environment state post ↔
      post () [] (state.withSkipped environment.observer before after) :=
  gives_point (ensures_reportSkipped before after) post

@[simp] theorem gives_reportError (kind : ParseError.Kind) (position : Nat) (span : Span)
    (post : Unit → List Value → State U σ → Prop) :
    (reportError kind position span).Gives environment state post ↔
      post () [] (state.withError environment kind position span) :=
  gives_point (ensures_reportError kind position span) post

@[simp] theorem gives_reportErrorAt (kind : ParseError.Kind) (position : Nat)
    (post : Unit → List Value → State U σ → Prop) :
    (reportErrorAt kind position).Gives environment state post ↔
      post () [] (state.withError environment kind position (.empty position)) :=
  gives_point (ensures_reportErrorAt kind position) post

@[simp] theorem gives_reportFailure (before stopped : Cursor U) (kind : ParseError.Kind)
    (post : Unit → List Value → State U σ → Prop) :
    (reportFailure before stopped kind).Gives environment state post ↔
      post () [] ((state.withSkipped environment.observer before stopped).withError environment
        kind stopped.position (before.spanTo stopped)) :=
  gives_point (ensures_reportFailure before stopped kind) post

@[simp] theorem gives_currentSink (post : Sink → List Value → State U σ → Prop) :
    currentSink.Gives environment state post ↔
      post (environment.observer.sink state.scope.profile) [] state :=
  gives_point ensures_currentSink post

@[simp] theorem gives_collect (inner : Parser U σ α)
    (post : α × List Value → List Value → State U σ → Prop) :
    (collect inner).Gives environment state post ↔
      inner.Gives environment state fun answer values after => post (answer, values) [] after := by
  simp only [gives_iff, ensures_collect]

@[simp] theorem gives_quietly (inner : Parser U σ α) (post : α → List Value → State U σ → Prop) :
    (quietly inner).Gives environment state post ↔
      inner.Gives environment state fun answer _ after => post answer [] after := by
  simp only [gives_iff, ensures_quietly]

@[simp] theorem gives_discard (inner : Parser U σ α)
    (post : PUnit → List Value → State U σ → Prop) :
    (discard inner : Parser U σ PUnit).Gives environment state post ↔
      inner.Gives environment state fun _ values after => post ⟨⟩ values after := by
  simp only [gives_iff, ensures_discard]

@[simp] theorem gives_speculate (inner : Parser U σ α)
    (post : α → List Value → State U σ → Prop) :
    (speculate inner).Gives environment state post ↔
      inner.Gives (unobserved environment) (unreported state) fun answer values after =>
        post answer values { state with cursor := after.cursor } := by
  simp only [gives_iff, ensures_speculate]

@[simp] theorem gives_lookAhead (inner : Parser U σ α)
    (post : α × Cursor U → List Value → State U σ → Prop) :
    (lookAhead inner).Gives environment state post ↔
      inner.Gives environment state fun answer values after =>
        post (answer, after.cursor) values { after with cursor := state.cursor } := by
  simp only [gives_iff, ensures_lookAhead]

@[simp] theorem gives_withoutWhitespace (inner : Parser U σ α)
    (post : α → List Value → State U σ → Prop) :
    (withoutWhitespace inner).Gives environment state post ↔
      inner.Gives environment state.withoutWhitespace fun answer values after =>
        post answer values after.againWithWhitespace := by
  simp only [gives_iff, ensures_withoutWhitespace]

/-- One round of a loop, for which there is fuel. -/
theorem gives_iterate_succ (round : α → Parser U σ (Round α β)) (fuel : Nat) (start : α)
    (post : β → List Value → State U σ → Prop) :
    (iterate round (fuel + 1) start).Gives environment state post ↔
      (round start).Gives environment state fun answer values middle =>
        match answer with
        | .again next => (iterate round fuel next).Gives environment middle fun last more after =>
            post last (values ++ more) after
        | .done result => post result values middle := by
  rw [iterate, gives_bind]
  constructor <;>
    refine fun gives => gives.mono fun answer values middle continued => ?_
  all_goals
    cases answer with
    | again next => exact continued
    | done result => simpa using continued

end Descent.Parser

namespace Descent.Runner

open Descent.Parser

variable {U σ : Type} {run : Runner U σ} {environment : Environment U σ} {state : State U σ}

theorem gives_call {id : ProductionId} {production : Production U}
    (found : environment.grammar.production? id = some production) (asBranch : Bool)
    (post : Attempt → List Value → State U σ → Prop) :
    (run.call id asBranch).Gives environment state post ↔
      (run.callProduction production asBranch).Gives environment state post := by
  simp [call, found]

/-- A call that skips no whitespace in the end runs the rule between its start and its end. -/
theorem gives_callProduction {production : Production U}
    (plain : production.profile.isToken = false) (post : Attempt → List Value → State U σ → Prop) :
    (run.callProduction production false).Gives environment state post ↔
      (run.skipLeading state.scope.frames.isEmpty environment).Gives environment
        (state.inside environment production) fun _ skipped middle =>
          (run.parse production.rule).Gives environment middle fun parsed values after =>
            let profile := production.profile
            let ticket := state.report.ticket environment.observer profile state.cursor.position
            let stop := after.cursor.position
            if parsed then
              post .accepted
                (skipped ++ after.report.produced environment.observer profile ticket values stop)
                (after.outside.withEnd environment profile ticket (.finished values stop))
            else
              post .canceled skipped
                (after.outside.withEnd environment profile ticket (.canceled stop)) := by
  simp only [gives_iff, ensures_callProduction, not_not, runAs, Bool.false_eq_true, if_false,
    ensures_bind, ensures_pure, CallEnsures, plain]
  refine not_congr (ensures_congr fun _ skipped middle => ensures_congr ?_)
  intro parsed values after
  cases parsed <;> simp [Attempt.ofBool]

end Descent.Runner
