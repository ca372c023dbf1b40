import Descent.Proofs.Conduct

/-! Parsers that account for all that they read, put together: in sequence, in loops, with
the observer kept from seeing tokens, and inside productions. -/

namespace Descent

namespace Parser

variable {U σ α β : Type} {environment : Environment U σ} {origin : Nat}
  {before state : State U σ}

/-- Inside a production, every outcome of the parser accounts for what was read. -/
def Settles (parser : Parser U σ α) : Prop :=
  ∀ environment state, state.scope.frames ≠ [] →
    parser.Ensures environment state fun _ _ after =>
      Settled environment state.cursor.position state after

namespace Settles

theorem after {parser : Parser U σ α} (settles : parser.Settles)
    (framed : before.scope.frames ≠ []) (settled : Settled environment origin before state) :
    parser.Ensures environment state fun _ _ after =>
      Settled environment origin before after := by
  refine (settles environment state ?_).mono fun _ _ _ next => settled.trans next
  rwa [settled.frames]

protected theorem bind {first : Parser U σ α} {rest : α → Parser U σ β}
    (settles : first.Settles) (then_settles : ∀ answer, (rest answer).Settles) :
    (first >>= rest).Settles := by
  intro environment state framed
  rw [ensures_bind]
  refine (settles environment state framed).mono ?_
  intro answer values middle settled
  exact (then_settles answer).after framed settled

end Settles

theorem Looks.settles {parser : Parser U σ α} (looks : parser.Looks) : parser.Settles :=
  fun environment state _ => looks.ensures fun _ => .start environment state

theorem settles_pure (answer : α) : (pure answer : Parser U σ α).Settles :=
  (looks_pure answer).settles

theorem settles_emit (value : Value) : (emit value : Parser U σ Unit).Settles := by
  simpa [Settles] using fun _ _ _ => Conduct.start _ _

theorem settles_emitAll (values : List Value) :
    (emitAll values : Parser U σ Unit).Settles := by
  simpa [Settles] using fun _ _ _ => Conduct.start _ _

theorem settles_emitUnlessNothing (value : Value) :
    (emitUnlessNothing value : Parser U σ Unit).Settles := by
  unfold emitUnlessNothing
  split
  · exact settles_pure ()
  · exact settles_emit value

theorem settles_ofBool {parser : Parser U σ Bool} (settles : parser.Settles) :
    (do return .ofBool (← parser) : Parser U σ Attempt).Settles :=
  settles.bind fun _ => settles_pure _

theorem settles_collect {parser : Parser U σ α} (settles : parser.Settles) :
    (collect parser).Settles := by
  simpa [Settles] using settles

theorem settles_quietly {parser : Parser U σ α} (settles : parser.Settles) :
    (quietly parser).Settles := by
  simpa [Settles] using settles

theorem settles_discard {parser : Parser U σ α} (settles : parser.Settles) :
    (discard parser : Parser U σ PUnit).Settles := by
  simpa [Settles] using settles

theorem settles_withoutWhitespace {parser : Parser U σ α} (settles : parser.Settles) :
    (withoutWhitespace parser).Settles := by
  intro environment state framed
  rw [ensures_withoutWhitespace]
  exact (settles environment state.withoutWhitespace framed).mono
    fun _ _ _ settled => settled.againWithWhitespace

theorem settles_iterate {round : α → Parser U σ (Round α β)}
    (settles : ∀ current, (round current).Settles) (fuel : Nat) (start : α) :
    (iterate round fuel start).Settles := by
  intro environment state framed
  refine ensures_iterate
    (fun _ _ middle => Settled environment state.cursor.position state middle) ?_ fuel start
    (.start environment state)
  intro current values middle settled
  refine ((settles current).after framed settled).mono ?_
  intro answer more after next
  cases answer <;> exact next

theorem settles_reportErrorHere (kind : ParseError.Kind) {rest : Parser U σ α}
    (settles : rest.Settles) :
    (do
      reportErrorAt kind (← cursor).position
      rest : Parser U σ α).Settles := by
  have reports : (do reportErrorAt kind (← cursor).position : Parser U σ Unit).Settles := by
    intro environment state framed
    rw [ensures_bind, ensures_cursor, ensures_reportErrorAt]
    exact (Conduct.start environment state).withErrorHere kind
  have both := reports.bind fun _ => settles
  intro environment state framed
  have ensured := both environment state framed
  simp only [ensures_bind] at ensured ⊢
  exact ensured

theorem settles_assignVariable (name : String) (change : Binding → Binding) :
    (assignVariable name change : Parser U σ Bool).Settles := by
  intro environment state framed
  rw [ensures_assignVariable]
  have settled := Conduct.start environment state
  cases state.scope.bindings.find name with
  | none => exact settled
  | some old => exact settled.withBindings (by simp)

theorem settles_bindVariable (name : String) (binding : Binding) :
    (bindVariable name binding : Parser U σ Unit).Settles := by
  intro environment state framed
  rw [ensures_bindVariable]
  exact (Conduct.start environment state).withBindings (List.suffix_cons _ _)

end Parser

namespace Runner

open Descent.Parser

variable {U σ : Type}

/-- A runner all of whose rules account for what they read. -/
structure Settles (run : Runner U σ) : Prop where
  parse : ∀ rule, (run.parse rule).Settles
  attempt : ∀ rule, (run.attempt rule).Settles

variable {run : Runner U σ}

theorem settles_parseAll (settles : run.Settles) (rules : List (Rule U)) :
    (run.parseAll rules).Settles := by
  induction rules with
  | nil => exact settles_pure true
  | cons rule rest ih =>
    refine (settles.parse rule).bind fun parsed => ?_
    cases parsed with
    | true => exact ih
    | false => exact settles_pure false

theorem settles_attemptThen (settles : run.Settles) (first : Rule U) {rest : Parser U σ Bool}
    (rest_settles : rest.Settles) : (run.attemptThen first rest).Settles := by
  refine (settles.attempt first).bind fun attempt => ?_
  cases attempt with
  | accepted => exact settles_ofBool rest_settles
  | canceled => exact settles_pure _
  | backtracked => exact settles_pure _

theorem settles_skipRounds (settles : run.Settles) (whitespace : Rule U) (rounds : Nat) :
    (iterate (fun _ => do
      let start ← cursor
      let attempt ← quietly (run.attempt whitespace)
      if attempt.isAccepted && (← cursor).position != start.position then return .again ()
      else return .done ()) rounds () : Parser U σ Unit).Settles := by
  refine settles_iterate (fun _ => ?_) _ _
  refine looks_cursor.settles.bind fun start => ?_
  refine (settles_quietly (settles.attempt whitespace)).bind fun attempt => ?_
  refine looks_cursor.settles.bind fun here => ?_
  split <;> exact settles_pure _

/-- A skip of whitespace is errors and then one token, if it moves. -/
theorem settles_skipWith (settles : run.Settles) (whitespace : Rule U) :
    (run.skipWith whitespace).Settles := by
  intro environment state framed
  simp only [skipWith, ensures_bind, ensures_cursor, ensures_scope, ensures_modifyScope,
    ensures_modifyReport, ensures_ite, ensures_reportToken, ensures_pure, loop]
  refine (settles_skipRounds settles whitespace run.fuel environment state.muffled framed).mono ?_
  intro _ values after settled
  have skipped := settled.unmuffled
  by_cases forward : state.cursor.position < after.cursor.position
  · rw [if_pos forward]
    exact skipped.withToken .whitespace skipped.covered_le (Nat.le_refl _)
  · rw [if_neg forward]
    have same : state.cursor.position = after.cursor.position :=
      Nat.le_antisymm skipped.covered_le (Nat.le_of_not_lt forward)
    rw [same] at skipped
    exact skipped

theorem settles_skipWhitespace (settles : run.Settles) : run.skipWhitespace.Settles := by
  intro environment state framed
  rw [skipWhitespace, ensures_bind, ensures_scope]
  cases state.scope.whitespace? with
  | none => exact settles_pure () environment state framed
  | some whitespace => exact settles_skipWith settles whitespace environment state framed

theorem ensures_ifAccepted (settles : run.Settles) {environment : Environment U σ}
    {origin : Nat} {before state : State U σ} (framed : before.scope.frames ≠ [])
    {parser : Parser U σ Attempt}
    (inner : parser.Ensures environment state fun _ _ after =>
      Settled environment origin before after) :
    (do
      let attempt ← parser
      if attempt.isAccepted then run.skipWhitespace
      return attempt : Parser U σ Attempt).Ensures environment state fun _ _ after =>
        Settled environment origin before after := by
  rw [ensures_bind]
  refine inner.mono ?_
  intro attempt values after settled
  cases attempt with
  | accepted =>
    simpa [Attempt.isAccepted] using (settles_skipWhitespace settles).after framed settled
  | canceled => simpa [Attempt.isAccepted] using settled
  | backtracked => simpa [Attempt.isAccepted] using settled

theorem ensures_ifParsed (settles : run.Settles) {environment : Environment U σ}
    {origin : Nat} {before state : State U σ} (framed : before.scope.frames ≠ [])
    {parser : Parser U σ Bool}
    (inner : parser.Ensures environment state fun _ _ after =>
      Settled environment origin before after) :
    (do
      let parsed ← parser
      if parsed then run.skipWhitespace
      return parsed : Parser U σ Bool).Ensures environment state fun _ _ after =>
        Settled environment origin before after := by
  rw [ensures_bind]
  refine inner.mono ?_
  intro parsed values after settled
  cases parsed with
  | true => simpa using (settles_skipWhitespace settles).after framed settled
  | false => simpa using settled

/-- Outside of productions no whitespace is skipped. -/
theorem ensures_skipWhitespace (settles : run.Settles) {environment : Environment U σ}
    {origin : Nat} {before state : State U σ} (settled : Settled environment origin before state) :
    run.skipWhitespace.Ensures environment state fun _ _ after =>
      Settled environment origin before after := by
  by_cases framed : state.scope.frames = []
  · simpa [skipWhitespace, Scope.whitespace?, framed] using settled
  · exact (settles_skipWhitespace settles environment state framed).mono
      fun _ _ _ next => settled.trans next

theorem settles_skipLeading (settles : run.Settles) (outermost : Bool)
    (environment : Environment U σ) : (run.skipLeading outermost environment).Settles := by
  unfold skipLeading
  split
  · exact settles_skipWhitespace settles
  · exact settles_pure ()

/-- The end of a call accounts for what the rule of the production has read. -/
theorem callEnsures_settled (settles : run.Settles) {environment : Environment U σ}
    {state after : State U σ} (production : Production U) {attempt : Attempt}
    (skipped : List Value) {values : List Value}
    (settled : Settled environment state.cursor.position (state.inside environment production)
      after)
    (declined : attempt = .backtracked →
      Restored environment (state.inside environment production) values after) :
    run.CallEnsures environment production state
      (fun _ _ last => Settled environment state.cursor.position state last)
      skipped attempt values after := by
  unfold CallEnsures
  cases attempt with
  | accepted =>
    have ended : Settled environment _ state (after.outside.withEnd environment
        production.profile _ (.finished values after.cursor.position)) := settled.ended rfl
    change (if _ then run.skipWhitespace else pure ()).Ensures environment _ _
    split
    · exact ensures_skipWhitespace settles ended
    · simpa using ended
  | canceled => exact settled.ended rfl
  | backtracked => exact .of_restored (declined rfl).takenBack (Nat.le_refl _)

/-- A rule that is only run, not tried, may also be called from outside of productions. -/
theorem ensures_callProduction_settled (settles : run.Settles) (shy : run.AlwaysShy)
    (production : Production U) (asBranch : Bool) (environment : Environment U σ)
    (state : State U σ) (framed : state.scope.frames ≠ [] ∨ asBranch = false) :
    (run.callProduction production asBranch).Ensures environment state fun _ _ after =>
      Settled environment state.cursor.position state after := by
  rw [ensures_callProduction]
  have inner : (state.inside environment production).scope.frames ≠ [] := by
    simp [State.inside, Scope.inside]
  have begun : Settled environment state.cursor.position (state.inside environment production)
      (state.inside environment production) :=
    .start environment (state.inside environment production)
  cases asBranch with
  | false =>
    refine ((settles_skipLeading settles _ environment).after inner begun).mono ?_
    intro _ skipped middle leading
    simp only [runAs, Bool.false_eq_true, if_false, ensures_bind, ensures_pure]
    refine ((settles.parse production.rule).after inner leading).mono ?_
    intro parsed values after settled
    exact callEnsures_settled settles production _ settled (by simp)
  | true =>
    have nested : state.scope.frames.isEmpty = false := by simpa using framed
    simp only [nested, skipLeading_false, ensures_pure, runAs, if_true]
    refine (((settles.attempt production.rule).after inner begun).and
      (shy production.rule environment _ inner)).mono ?_
    intro attempt values after ensured
    obtain ⟨settled, declined⟩ := ensured
    exact callEnsures_settled settles production _ settled declined

theorem settles_call (settles : run.Settles) (shy : run.AlwaysShy) (id : ProductionId)
    (asBranch : Bool) : (run.call id asBranch).Settles := by
  intro environment state framed
  rw [call, ensures_bind, ensures_environment]
  cases environment.grammar.production? id with
  | some production =>
    exact ensures_callProduction_settled settles shy production asBranch environment state
      (.inl framed)
  | none =>
    exact settles_reportErrorHere _ (settles_pure Attempt.canceled) environment state framed

end Runner
end Descent
