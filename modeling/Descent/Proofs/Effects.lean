import Descent.Proofs.ParserLogic

/-! What reporting does to a report and scoping to a scope, as functions, so that a
condition on the outcome of a parser becomes one on the state that it began in. -/

namespace Descent

namespace Report

variable {U σ : Type}

def withToken (observer : Observer σ) (kind : TokenKind) (first stop : Nat)
    (report : Report σ) : Report σ :=
  if report.isMuted then report
  else
    { report with
      statistics := { report.statistics with tokens := report.statistics.tokens + 1 }
      notes := observer.token kind first stop report.notes }

def withSkipped (observer : Observer σ) (before after : Cursor U) (report : Report σ) : Report σ :=
  if before.position < after.position then
    report.withToken observer .error before.position after.position
  else report

/-- The report after an error, which the observer sees up to the limit. -/
def withError (environment : Environment U σ) (profile : Profile) (error : ParseError)
    (report : Report σ) : Report σ :=
  let errors := report.statistics.errors + 1
  { report with
    statistics := { report.statistics with errors }
    notes :=
      if errors ≤ environment.config.maxErrors then
        environment.observer.error profile error report.notes
      else report.notes }

@[simp] theorem muted_withToken (observer : Observer σ) (kind : TokenKind) (first stop : Nat)
    (report : Report σ) : (report.withToken observer kind first stop).muted = report.muted := by
  unfold withToken
  split <;> rfl

@[simp] theorem errors_withToken (observer : Observer σ) (kind : TokenKind) (first stop : Nat)
    (report : Report σ) :
    (report.withToken observer kind first stop).statistics.errors = report.statistics.errors := by
  unfold withToken
  split <;> rfl

@[simp] theorem errors_withSkipped (observer : Observer σ) (before after : Cursor U)
    (report : Report σ) :
    (report.withSkipped observer before after).statistics.errors =
      report.statistics.errors := by
  unfold withSkipped
  split <;> simp

@[simp] theorem errors_withError (environment : Environment U σ) (profile : Profile)
    (error : ParseError) (report : Report σ) :
    (report.withError environment profile error).statistics.errors =
      report.statistics.errors + 1 := rfl

end Report

namespace Scope

variable {U : Type}

def errorOf (scope : Scope U) (kind : ParseError.Kind) (position : Nat) (span : Span) :
    ParseError :=
  ⟨scope.profile.name, position, span, kind⟩

end Scope

namespace State

variable {U σ : Type}

def withToken (observer : Observer σ) (kind : TokenKind) (first stop : Nat) (state : State U σ) :
    State U σ :=
  { state with report := state.report.withToken observer kind first stop }

def withSkipped (observer : Observer σ) (before after : Cursor U) (state : State U σ) :
    State U σ :=
  { state with report := state.report.withSkipped observer before after }

def withError (environment : Environment U σ) (kind : ParseError.Kind) (position : Nat)
    (span : Span) (state : State U σ) : State U σ :=
  { state with
    report := state.report.withError environment state.scope.profile
      (state.scope.errorOf kind position span) }

def withBindings (change : Bindings → Bindings) (state : State U σ) : State U σ :=
  { state with scope := { state.scope with bindings := change state.scope.bindings } }

def withoutWhitespace (state : State U σ) : State U σ :=
  { state with scope := { state.scope with noWhitespace := state.scope.noWhitespace + 1 } }

def againWithWhitespace (state : State U σ) : State U σ :=
  { state with scope := { state.scope with noWhitespace := state.scope.noWhitespace - 1 } }

@[simp] theorem report_withoutWhitespace (state : State U σ) :
    state.withoutWhitespace.report = state.report := rfl

@[simp] theorem report_againWithWhitespace (state : State U σ) :
    state.againWithWhitespace.report = state.report := rfl

end State

namespace Parser

variable {U σ α : Type} {environment : Environment U σ} {state : State U σ}

@[simp] theorem ensures_notify (change : Observer σ → σ → σ)
    (post : Unit → List Value → State U σ → Prop) :
    (notify change).Ensures environment state post ↔
      post () [] { state with
        report := { state.report with
          notes := change environment.observer state.report.notes } } := by
  simp [notify]

@[simp] theorem ensures_count (change : Statistics → Statistics)
    (post : Unit → List Value → State U σ → Prop) :
    (count change).Ensures environment state post ↔
      post () [] { state with
        report := { state.report with statistics := change state.report.statistics } } := by
  simp [count]

@[simp] theorem ensures_isMuted (post : Bool → List Value → State U σ → Prop) :
    isMuted.Ensures environment state post ↔ post state.report.isMuted [] state := by
  simp [isMuted]

@[simp] theorem ensures_reportToken (kind : TokenKind) (first stop : Nat)
    (post : Unit → List Value → State U σ → Prop) :
    (reportToken kind first stop).Ensures environment state post ↔
      post () [] (state.withToken environment.observer kind first stop) := by
  cases muted : state.report.isMuted <;>
    simp [reportToken, State.withToken, Report.withToken, muted]

@[simp] theorem ensures_reportSkipped (before after : Cursor U)
    (post : Unit → List Value → State U σ → Prop) :
    (reportSkipped before after).Ensures environment state post ↔
      post () [] (state.withSkipped environment.observer before after) := by
  by_cases moved : before.position < after.position <;>
    simp [reportSkipped, State.withSkipped, Report.withSkipped, State.withToken, moved]

@[simp] theorem ensures_reportError (kind : ParseError.Kind) (position : Nat) (span : Span)
    (post : Unit → List Value → State U σ → Prop) :
    (reportError kind position span).Ensures environment state post ↔
      post () [] (state.withError environment kind position span) := by
  simp only [reportError, raise, ensures_bind, ensures_scope, ensures_count, ensures_state,
    ensures_environment, ensures_ite, ensures_notify, ensures_pure, State.withError,
    Report.withError, Scope.errorOf]
  by_cases seen : state.report.statistics.errors + 1 ≤ environment.config.maxErrors
  · simp only [if_pos seen, List.append_nil]
  · simp only [if_neg seen, List.append_nil]

@[simp] theorem ensures_reportErrorAt (kind : ParseError.Kind) (position : Nat)
    (post : Unit → List Value → State U σ → Prop) :
    (reportErrorAt kind position).Ensures environment state post ↔
      post () [] (state.withError environment kind position (.empty position)) :=
  ensures_reportError kind position (.empty position) post

@[simp] theorem ensures_reportFailure (before stopped : Cursor U) (kind : ParseError.Kind)
    (post : Unit → List Value → State U σ → Prop) :
    (reportFailure before stopped kind).Ensures environment state post ↔
      post () [] ((state.withSkipped environment.observer before stopped).withError environment
        kind stopped.position (before.spanTo stopped)) := by
  simp [reportFailure]

@[simp] theorem ensures_currentSink (post : Sink → List Value → State U σ → Prop) :
    currentSink.Ensures environment state post ↔
      post (environment.observer.sink state.scope.profile) [] state := by
  simp [currentSink]

@[simp] theorem ensures_bindings (post : Bindings → List Value → State U σ → Prop) :
    bindings.Ensures environment state post ↔ post state.scope.bindings [] state := by
  simp [bindings]

@[simp] theorem ensures_modifyBindings (change : Bindings → Bindings)
    (post : Unit → List Value → State U σ → Prop) :
    (modifyBindings change).Ensures environment state post ↔
      post () [] (state.withBindings change) := by
  simp [modifyBindings, State.withBindings]

@[simp] theorem ensures_bindVariable (name : String) (binding : Binding)
    (post : Unit → List Value → State U σ → Prop) :
    (bindVariable name binding).Ensures environment state post ↔
      post () [] (state.withBindings ((name, binding) :: ·)) := by
  simp [bindVariable]

@[simp] theorem ensures_findVariable (name : String)
    (post : Option Binding → List Value → State U σ → Prop) :
    (findVariable name).Ensures environment state post ↔
      post (state.scope.bindings.find name) [] state := by
  simp [findVariable]

theorem ensures_assignVariable (name : String) (change : Binding → Binding)
    (post : Bool → List Value → State U σ → Prop) :
    (assignVariable name change).Ensures environment state post ↔
      match state.scope.bindings.find name with
      | none => post false [] state
      | some old => post true [] (state.withBindings (Bindings.assign name (change old))) := by
  cases found : state.scope.bindings.find name <;> simp [assignVariable, found]

@[simp] theorem ensures_bindingsHeight (post : Nat → List Value → State U σ → Prop) :
    bindingsHeight.Ensures environment state post ↔
      post state.scope.bindings.length [] state := by
  simp [bindingsHeight]

@[simp] theorem ensures_restoreBindings (height : Nat)
    (post : Unit → List Value → State U σ → Prop) :
    (restoreBindings height).Ensures environment state post ↔
      post () [] (state.withBindings (Bindings.restore · height)) := by
  simp [restoreBindings]

@[simp] theorem ensures_withoutWhitespace (inner : Parser U σ α)
    (post : α → List Value → State U σ → Prop) :
    (withoutWhitespace inner).Ensures environment state post ↔
      inner.Ensures environment state.withoutWhitespace fun answer values after =>
        post answer values after.againWithWhitespace := by
  simp [withoutWhitespace, State.withoutWhitespace, State.againWithWhitespace]

theorem ran_withoutWhitespace {inner : Parser U σ α} {answer : α} {values : List Value}
    {after : State U σ}
    (ran : inner environment state.withoutWhitespace = some ⟨answer, values, after⟩) :
    withoutWhitespace inner environment state =
      some ⟨answer, values, after.againWithWhitespace⟩ := by
  rw [← List.append_nil values]
  exact ran_then () state.withoutWhitespace rfl
    (ran_bind ran (ran_then () after.againWithWhitespace rfl rfl))

end Parser
end Descent
