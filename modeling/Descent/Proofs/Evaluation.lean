import Descent.Proofs.TokenOutcomes
import Descent.Run.Evaluate

/-! Runs that compute a value. What is to be known of such a run at a place is how far it has read,
what is in scope, and which errors there were. -/

namespace Descent

/-- Items of one value each are the values of a list. -/
theorem Sink.list_map_singleton (values : List Value) :
    Sink.list (values.map fun value => [value]) = .list values := by
  simp [Sink.list, List.flatMap_map, Sink.itemValues]

namespace Evaluation

open Descent.Parser Descent.Runner Cursor

variable {U : Type}

def environment (grammar : Grammar U) (config : ParseConfig) (source : Array U) :
    Environment U (Array ParseError) :=
  ⟨grammar, config, .values grammar source⟩

/-- A place in the input, with these errors so far, of which the first ones were seen. -/
structure Stands (config : ParseConfig) (scope : Scope U) (before rest : List U)
    (errors : List ParseError) (state : State U (Array ParseError)) : Prop where
  cursor : state.cursor = .between before rest
  scope : state.scope = scope
  seen : state.report.muted = 0
  counted : state.report.statistics.errors = errors.length
  kept : state.report.notes = (errors.take config.maxErrors).toArray

variable {grammar : Grammar U} {config : ParseConfig} {source : Array U} {scope : Scope U}
  {before rest : List U} {errors : List ParseError} {state : State U (Array ParseError)}

theorem ignoresTokens : (environment grammar config source).observer.IgnoresTokens :=
  fun _ _ _ _ => rfl

/-- Where a run begins. -/
theorem stands_initial (config : ParseConfig) (units : List U) :
    Stands config .outermost [] units [] (.initial (.start units.toArray) #[]) :=
  ⟨start_eq_between _, rfl, rfl, rfl, by rw [List.take_nil]; rfl⟩

namespace Stands

variable (stands : Stands config scope before rest errors state)
include stands

theorem arrives {before' rest' : List U} {after : State U (Array ParseError)}
    (arrives : state.Arrives (.between before' rest') after) :
    Stands config scope before' rest' errors after :=
  ⟨arrives.cursor, arrives.scope.trans stands.scope, arrives.muted.trans stands.seen,
    arrives.errors.trans stands.counted, arrives.notes.trans stands.kept⟩

theorem moved (before' rest' : List U) :
    Stands config scope before' rest' errors { state with cursor := .between before' rest' } :=
  stands.arrives (.moved state _)

theorem withToken (kind : TokenKind) (first stop : Nat) :
    Stands config scope before rest errors
      (state.withToken (environment grammar config source).observer kind first stop) := by
  have here : state.Arrives (.between before rest) state := ⟨stands.cursor, rfl, rfl, rfl, rfl⟩
  exact stands.arrives (here.withToken ignoresTokens kind first stop)

theorem withError (kind : ParseError.Kind) (position : Nat) (span : Span) :
    Stands config scope before rest (errors ++ [scope.errorOf kind position span])
      (state.withError (environment grammar config source) kind position span) where
  cursor := stands.cursor
  scope := stands.scope
  seen := stands.seen
  counted := by simp [State.withError, stands.counted]
  kept := by
    simp only [State.withError, Report.withError, environment, Observer.values, stands.counted,
      stands.kept, stands.scope]
    -- Below the limit all errors so far were seen; from there on, no new one is.
    split
    · rw [List.take_of_length_le (by omega), List.take_of_length_le (by simp; omega)]
      simp
    · rw [List.take_append_of_le_length (by omega)]

theorem inside (production : Production U) :
    Stands config (scope.inside grammar production) before rest errors
      (state.inside (environment grammar config source) production) where
  cursor := stands.cursor
  scope := congrArg (Scope.inside grammar production) stands.scope
  seen := stands.seen
  counted := stands.counted
  kept := by
    simpa [State.inside, Report.withStart, environment, Observer.values, Observer.silent]
      using stands.kept

omit stands in
theorem ended {production : Production U}
    (stands : Stands config (scope.inside grammar production) before rest errors state)
    (ticket : Ticket) (ending : Ending) :
    Stands config scope before rest errors
      (state.outside.withEnd (environment grammar config source) production.profile ticket
        ending) where
  cursor := stands.cursor
  scope := by
    simp only [State.withEnd, State.outside, stands.scope]
    exact Scope.outside_inside ..
  seen := stands.seen
  counted := stands.counted
  kept := by
    have same (notes : Array ParseError) :
        ending.tell (environment grammar config source).observer production.profile ticket notes =
          notes := by
      cases ending <;> rfl
    simpa [State.withEnd, State.outside, Report.withEnd, same] using stands.kept

/-- A production without a callback has its values under its name. -/
theorem produced (production : Production U)
    (found : grammar.production? production.profile.id = some production)
    (plain : production.callback = none) (ticket : Ticket) (values : List Value) (stop : Nat) :
    state.report.produced (environment grammar config source).observer production.profile ticket
      values stop = [.production production.profile.name values] := by
  simp [Report.produced, Report.isMuted, stands.seen, environment, Observer.values,
    Observer.callbackOf, found, plain, Callback.production, Value.isNothing]

theorem withoutWhitespace :
    Stands config { scope with noWhitespace := scope.noWhitespace + 1 } before rest errors
      state.withoutWhitespace where
  cursor := stands.cursor
  scope := by rw [State.withoutWhitespace, stands.scope]
  seen := stands.seen
  counted := stands.counted
  kept := stands.kept

omit stands in
theorem againWithWhitespace
    (stands : Stands config { scope with noWhitespace := scope.noWhitespace + 1 } before rest errors
      state) : Stands config scope before rest errors state.againWithWhitespace where
  cursor := stands.cursor
  scope := by simp [State.againWithWhitespace, stands.scope]
  seen := stands.seen
  counted := stands.counted
  kept := stands.kept

end Stands

/-- What the entry of a grammar comes to is what a run of the grammar comes to. -/
theorem parse_of_call [CodeUnit U] {units : List U} {fuel : Nat} {value : Value}
    (called : ((withFuel fuel).call grammar.entry false).Gives
      (environment grammar config units.toArray) (.initial (.start units.toArray) #[])
      fun attempt values after => attempt = .accepted ∧ values = [value] ∧
        Stands config .outermost before rest errors after) :
    ∃ result, grammar.parse config (.start units.toArray) fuel = some result ∧
      result.verdict.position = before.length ∧ result.value = some value ∧
      result.verdict.errorCount = errors.length ∧
      result.errors = errors.take config.maxErrors ∧
      result.verdict.outcome = if errors = [] then .success else .recoveredFailure := by
  obtain ⟨step, ran, accepted, values, stands⟩ := called
  refine ⟨_, congrArg (Option.map _) (congrArg (Option.map _) ran),
    congrArg Cursor.position stands.cursor, ?value, stands.counted,
    congrArg Array.toList stands.kept, ?outcome⟩
  case value => simp [accepted, values, Attempt.isAccepted]
  case outcome =>
    simp only [Outcome.ofRun, accepted, stands.counted, List.length_eq_zero_iff]
    rfl

end Evaluation
end Descent
