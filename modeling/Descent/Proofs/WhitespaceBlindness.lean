import Descent.Proofs.HiddenWhitespace

/-! Parsers to which rules for whitespace make no difference, whether or not it may be skipped where
they begin, and parsers that end with such a skip. Both are put together from their parts. -/

namespace Descent

open Descent.Parser

/-- Environments that differ in nothing but the rules for whitespace of their grammars. -/
structure Environment.Alike {U σ : Type} (environment other : Environment U σ) : Prop where
  grammar : other.grammar.bare = environment.grammar.bare
  config : other.config = environment.config
  observer : other.observer = environment.observer

namespace Environment.Alike

variable {U σ : Type} {environment other : Environment U σ} (kin : environment.Alike other)
include kin

theorem symm : other.Alike environment :=
  ⟨kin.grammar.symm, kin.config.symm, kin.observer.symm⟩

theorem unobserved : (unobserved environment).Alike (unobserved other) :=
  ⟨kin.grammar, kin.config, rfl⟩

theorem kept (source : Array U) : (Runner.covered source).Kept False environment other := by
  obtain ⟨grammar, config, observer⟩ := environment
  obtain ⟨twin, config', observer'⟩ := other
  obtain ⟨same, same_config, same_observer⟩ := kin
  cases same_config
  cases same_observer
  exact Runner.kept_identical source (Grammar.twins_of_bare same 0) config observer

end Environment.Alike

private theorem Scope.profile_bare {U : Type} (scope : Scope U) :
    scope.bare.profile = scope.profile := by
  obtain ⟨frames, bindings, inWhitespace, noWhitespace⟩ := scope
  cases frames <;> rfl

namespace State

variable {U σ : Type}

/-- An error is reported in the name of a production, which is the same without its whitespace. -/
theorem bare_withError (environment : Environment U σ) (kind : ParseError.Kind) (position : Nat)
    (span : Span) (state : State U σ) :
    (state.withError environment kind position span).bare =
      state.bare.withError environment kind position span := by
  have profile : state.bare.scope.profile = state.scope.profile := state.scope.profile_bare
  rw [withError, withError, Scope.errorOf, Scope.errorOf, profile]
  rfl

private theorem withError_of_alike {environment other : Environment U σ}
    (kin : environment.Alike other)
    (kind : ParseError.Kind) (position : Nat) (span : Span) (state : State U σ) :
    state.withError other kind position span = state.withError environment kind position span := by
  rw [withError, withError, Report.withError, Report.withError, kin.config, kin.observer]

end State

namespace Step

variable {U σ α β : Type}

def after (values : List Value) (step : Step U σ α) : Step U σ α :=
  { step with values := values ++ step.values }

/-- Outcomes that differ in nothing but the rules for whitespace of the running productions. -/
structure Alike (step twin : Step U σ α) : Prop where
  answer : twin.answer = step.answer
  values : twin.values = step.values
  state : twin.state.bare = step.state.bare

private theorem bare_eq_iff {step twin : Step U σ α} : step.bare = twin.bare ↔ step.Alike twin := by
  constructor
  · intro same
    obtain ⟨answer, values, state⟩ := Step.mk.inj same
    exact ⟨answer.symm, values.symm, state.symm⟩
  · intro alike
    exact Step.mk.injEq .. ▸ ⟨alike.answer.symm, alike.values.symm, alike.state.symm⟩

private theorem map_bare_eq_iff {outcome twin : Option (Step U σ α)} :
    outcome.map bare = twin.map bare ↔ Option.Rel Alike outcome twin := by
  constructor
  · intro same
    cases outcome with
    | none =>
      cases twin with
      | none => exact .none
      | some twin => cases same
    | some step =>
      cases twin with
      | none => cases same
      | some twin => exact .some (bare_eq_iff.mp (Option.some.inj same))
  · intro alike
    cases alike with
    | none => rfl
    | some alike => exact congrArg some (bare_eq_iff.mpr alike)

end Step

namespace Parser

variable {U σ α β : Type} {environment other : Environment U σ}

private theorem bind_apply (first : Parser U σ β) (rest : β → Parser U σ α) (state : State U σ) :
    (first >>= rest) environment state = (first environment state).bind fun step =>
      (rest step.answer environment step.state).map (Step.after step.values) := by
  change Parser.bind first rest environment state = _
  unfold Parser.bind
  cases first environment state with
  | none => rfl
  | some step => cases ran : rest step.answer environment step.state <;> simp [ran, Step.after]

private theorem withoutWhitespace_apply (inner : Parser U σ α) (state : State U σ) :
    withoutWhitespace inner environment state =
      (inner environment state.withoutWhitespace).map fun step =>
        { step with state := step.state.againWithWhitespace } := by
  cases ran : inner environment state.withoutWhitespace with
  | some step => exact ran_withoutWhitespace ran
  | none =>
    have never : (withoutWhitespace inner).Ensures environment state fun _ _ _ => False := by
      rw [ensures_withoutWhitespace]
      intro step found
      rw [ran] at found
      cases found
    cases outcome : withoutWhitespace inner environment state with
    | none => rfl
    | some step => exact (never step outcome).elim

/-- A parser to which rules for whitespace make no difference. -/
def Blind (environment other : Environment U σ) (parser : Parser U σ α) : Prop :=
  ∀ state twin, twin.bare = state.bare →
    Option.Rel Step.Alike (parser environment state) (parser other twin)

theorem blind_pure (answer : α) : Blind environment other (pure answer) :=
  fun _ _ same => .some ⟨rfl, rfl, same⟩

theorem Blind.bind {first : Parser U σ β} {rest : β → Parser U σ α}
    (blind : Blind environment other first)
    (rest_blind : ∀ answer, Blind environment other (rest answer)) :
    Blind environment other (first >>= rest) := by
  intro state twin same
  have outcomes := blind state twin same
  rw [bind_apply, bind_apply]
  generalize first environment state = outcome, first other twin = outcome' at outcomes
  cases outcomes with
  | none => exact .none
  | @some step step' alike =>
    have last := rest_blind step.answer step.state step'.state alike.state
    simp only [Option.bind_some, alike.answer]
    generalize rest step.answer environment step.state = outcome,
      rest step.answer other step'.state = outcome' at last
    cases last with
    | none => exact .none
    | some last => exact .some ⟨last.answer, congrArg₂ _ alike.values last.values, last.state⟩

theorem blind_of_ensures {parser : Parser U σ α} (step step' : State U σ → Step U σ α)
    (ensures : ∀ (state : State U σ) (post : α → List Value → State U σ → Prop),
      parser.Ensures environment state post ↔
        post (step state).answer (step state).values (step state).state)
    (ensures' : ∀ (state : State U σ) (post : α → List Value → State U σ → Prop),
      parser.Ensures other state post ↔
        post (step' state).answer (step' state).values (step' state).state)
    (alike : ∀ state twin, twin.bare = state.bare → (step state).Alike (step' twin)) :
    Blind environment other parser := by
  intro state twin same
  rw [ran_of_ensures (ensures state), ran_of_ensures (ensures' twin)]
  exact .some (alike state twin same)

theorem blind_cursor : Blind environment other (cursor : Parser U σ (Cursor U)) :=
  blind_of_ensures (fun state => ⟨state.cursor, [], state⟩) (fun state => ⟨state.cursor, [], state⟩)
    (fun _ _ => ensures_cursor _) (fun _ _ => ensures_cursor _)
    fun _ _ same => ⟨Runner.cursor_of_bare same, rfl, same⟩

theorem blind_setCursor (moved : Cursor U) :
    Blind environment other (setCursor moved : Parser U σ Unit) :=
  blind_of_ensures (fun state => ⟨(), [], { state with cursor := moved }⟩)
    (fun state => ⟨(), [], { state with cursor := moved }⟩)
    (fun _ _ => ensures_setCursor moved _) (fun _ _ => ensures_setCursor moved _)
    fun _ _ same =>
      ⟨rfl, rfl, congrArg (fun state : State U σ => { state with cursor := moved }) same⟩

theorem blind_emitAll (values : List Value) :
    Blind environment other (emitAll values : Parser U σ Unit) :=
  fun _ _ same => .some ⟨rfl, rfl, same⟩

theorem blind_findVariable (name : String) :
    Blind environment other (findVariable name : Parser U σ (Option Binding)) :=
  blind_of_ensures (fun state => ⟨state.scope.bindings.find name, [], state⟩)
    (fun state => ⟨state.scope.bindings.find name, [], state⟩)
    (fun _ _ => ensures_findVariable name _) (fun _ _ => ensures_findVariable name _)
    fun _ _ same => by
      have found := congrArg (fun state : State U σ => state.scope.bindings.find name) same
      exact ⟨found, rfl, same⟩

theorem blind_modifyBindings (change : Bindings → Bindings) :
    Blind environment other (modifyBindings change : Parser U σ Unit) :=
  blind_of_ensures (fun state => ⟨(), [], state.withBindings change⟩)
    (fun state => ⟨(), [], state.withBindings change⟩)
    (fun _ _ => ensures_modifyBindings change _) (fun _ _ => ensures_modifyBindings change _)
    fun _ _ same => ⟨rfl, rfl, congrArg (State.withBindings change) same⟩

theorem blind_assignVariable (name : String) (change : Binding → Binding) :
    Blind environment other (assignVariable name change : Parser U σ Bool) := by
  refine (blind_findVariable name).bind fun found => ?_
  cases found with
  | none => exact blind_pure false
  | some old => exact (blind_modifyBindings _).bind fun _ => blind_pure true

theorem Blind.collect {inner : Parser U σ α} (blind : Blind environment other inner) :
    Blind environment other (collect inner) := by
  intro state twin same
  have outcomes := blind state twin same
  unfold Parser.collect
  generalize inner environment state = outcome, inner other twin = outcome' at outcomes
  cases outcomes with
  | none => exact .none
  | some alike => exact .some ⟨Prod.ext alike.answer alike.values, rfl, alike.state⟩

theorem Blind.quietly {inner : Parser U σ α} (blind : Blind environment other inner) :
    Blind environment other (quietly inner) :=
  blind.collect.bind fun _ => blind_pure _

theorem Blind.lookAhead {inner : Parser U σ α} (blind : Blind environment other inner) :
    Blind environment other (lookAhead inner) :=
  blind_cursor.bind fun before => blind.bind fun _ => blind_cursor.bind fun _ =>
    (blind_setCursor before).bind fun _ => blind_pure _

theorem Blind.speculate {inner : Parser U σ α}
    (blind : Blind (unobserved environment) (unobserved other) inner) :
    Blind environment other (speculate inner) := by
  intro state twin same
  have alone : (unreported twin).bare = (unreported state).bare :=
    congrArg (fun state : State U σ => unreported state) same
  have outcomes := blind (unreported state) (unreported twin) alone
  change Option.Rel _ ((inner (unobserved environment) (unreported state)).map _)
    ((inner (unobserved other) (unreported twin)).map _)
  generalize inner (unobserved environment) (unreported state) = outcome,
    inner (unobserved other) (unreported twin) = outcome' at outcomes
  cases outcomes with
  | none => exact .none
  | @some step step' alike =>
    refine .some ⟨alike.answer, alike.values, ?_⟩
    change (⟨step'.state.bare.cursor, twin.bare.scope, twin.bare.report⟩ : State U σ) =
      ⟨step.state.bare.cursor, state.bare.scope, state.bare.report⟩
    rw [alike.state, same]

/-- Inside, where rules for whitespace are hidden, the two runs agree. -/
theorem blind_withoutWhitespace {inner : Parser U σ α}
    (agrees : ∀ source, (Runner.covered source).Agrees environment other inner inner)
    (conversely : ∀ source, (Runner.covered source).Agrees other environment inner inner) :
    Blind environment other (withoutWhitespace inner) := by
  intro state twin same
  have inside := Runner.map_bare_of_agrees (agrees _) (conversely _)
    (Runner.withoutWhitespace_of_bare same) (Nat.succ_pos _)
  rw [Step.map_bare_eq_iff] at inside
  rw [withoutWhitespace_apply, withoutWhitespace_apply]
  generalize inner environment state.withoutWhitespace = outcome,
    inner other twin.withoutWhitespace = outcome' at inside
  cases inside with
  | none => exact .none
  | some alike =>
    exact .some ⟨alike.answer, alike.values, congrArg State.againWithWhitespace alike.state⟩

section Reporting

variable (kin : environment.Alike other)
include kin

theorem blind_reportToken (kind : TokenKind) (first stop : Nat) :
    Blind environment other (reportToken kind first stop : Parser U σ Unit) :=
  blind_of_ensures
    (fun state => ⟨(), [], state.withToken environment.observer kind first stop⟩)
    (fun state => ⟨(), [], state.withToken other.observer kind first stop⟩)
    (fun _ _ => ensures_reportToken kind first stop _)
    (fun _ _ => ensures_reportToken kind first stop _)
    fun _ _ same => ⟨rfl, rfl, by
      rw [kin.observer]
      exact congrArg (State.withToken environment.observer kind first stop) same⟩

theorem blind_reportSkipped (before after : Cursor U) :
    Blind environment other (reportSkipped before after : Parser U σ Unit) := by
  unfold reportSkipped
  split
  · exact blind_reportToken kin .error before.position after.position
  · exact blind_pure ()

theorem blind_reportError (kind : ParseError.Kind) (position : Nat) (span : Span) :
    Blind environment other (reportError kind position span : Parser U σ Unit) :=
  blind_of_ensures
    (fun state => ⟨(), [], state.withError environment kind position span⟩)
    (fun state => ⟨(), [], state.withError other kind position span⟩)
    (fun _ _ => ensures_reportError kind position span _)
    (fun _ _ => ensures_reportError kind position span _)
    fun _ _ same => ⟨rfl, rfl, by
      rw [State.bare_withError, State.bare_withError, same, State.withError_of_alike kin]⟩

end Reporting

end Parser

namespace Runner

variable {U σ α β : Type} {run : Runner U σ} {environment other : Environment U σ}

section Skipping

private theorem ensures_skipWith_silent (whitespace : Rule U) {state : State U σ} :
    (run.skipWith whitespace).Ensures environment state fun _ values _ => values = [] := by
  simp only [skipWith, ensures_bind, ensures_cursor, ensures_scope, ensures_modifyScope,
    ensures_modifyReport, ensures_ite, ensures_reportToken, ensures_pure, loop]
  have rounds : (iterate (fun _ => do
      let start ← cursor
      let attempt ← quietly (run.attempt whitespace)
      if attempt.isAccepted && (← cursor).position != start.position then return .again ()
      else return .done ()) run.fuel () : Parser U σ Unit).Ensures environment state.muffled
        fun _ values _ => values = [] := by
    refine ensures_iterate (fun _ values _ => values = []) ?_ _ _ rfl
    intro _ values middle silent
    simp only [ensures_bind, ensures_cursor, ensures_quietly, ensures_ite, ensures_pure]
    apply Ensures.of_forall
    intro answer more after
    split <;> simpa using silent
  refine rounds.mono fun _ values after silent => ?_
  rw [silent]
  split <;> rfl

/-- Skipping whitespace produces no values. -/
theorem ensures_skipWhitespace_silent {state : State U σ} :
    run.skipWhitespace.Ensures environment state fun _ values _ => values = [] := by
  rw [skipWhitespace, ensures_bind, ensures_scope]
  cases state.scope.whitespace? with
  | none => exact (ensures_pure ..).mpr rfl
  | some whitespace => exact ensures_skipWith_silent whitespace

end Skipping

/-- Where a rule has ended, and then the whitespace that is skipped after it if it has matched. -/
def skipAfter (run : Runner U σ) (matched : α → Bool) (environment : Environment U σ)
    (ended : Step U σ α) : Option (Step U σ α) :=
  if matched ended.answer then
    (run.skipWhitespace environment ended.state).map fun skipped =>
      { ended with state := skipped.state }
  else some ended

/-- A parser that does the same in two runs up to where it ends, and from there on only skips
whitespace, if it has matched. -/
def EndsAlike (run : Runner U σ) (matched : α → Bool) (environment other : Environment U σ)
    (parser : Parser U σ α) (state twin : State U σ) : Prop :=
  ∃ ended ended' : Option (Step U σ α), ended.map Step.bare = ended'.map Step.bare ∧
    parser environment state = ended.bind (run.skipAfter matched environment) ∧
    parser other twin = ended'.bind (run.skipAfter matched other)

/-- The same for all states that differ in nothing but rules for whitespace. -/
def Encloses (run : Runner U σ) (matched : α → Bool) (environment other : Environment U σ)
    (parser : Parser U σ α) : Prop :=
  ∀ state twin, twin.bare = state.bare →
    run.EndsAlike matched environment other parser state twin

section Logic

variable {matched : α → Bool}

/-- A rule that has not matched ends where it is. -/
theorem encloses_pure {answer : α} (unmatched : matched answer = false) :
    run.Encloses matched environment other (pure answer) := by
  intro state twin same
  have stays (environment : Environment U σ) (state : State U σ) :
      run.skipAfter matched environment ⟨answer, [], state⟩ = some ⟨answer, [], state⟩ := by
    rw [skipAfter, if_neg (by simp [unmatched])]
  refine ⟨some ⟨answer, [], state⟩, some ⟨answer, [], twin⟩, ?_, ?_, ?_⟩
  · exact congrArg some (Step.bare_eq_iff.mpr ⟨rfl, rfl, same⟩)
  · exact (stays environment state).symm
  · exact (stays other twin).symm

theorem encloses_skipWhitespace :
    run.Encloses (fun _ => true) environment other run.skipWhitespace := by
  intro state twin same
  have skips (environment : Environment U σ) (state : State U σ) :
      run.skipWhitespace environment state =
        run.skipAfter (fun _ => true) environment ⟨(), [], state⟩ := by
    rw [skipAfter, if_pos rfl]
    cases ran : run.skipWhitespace environment state with
    | none => rfl
    | some step =>
      have silent : step.values = [] := ensures_skipWhitespace_silent step ran
      rw [Option.map_some, ← silent]
  refine ⟨some ⟨(), [], state⟩, some ⟨(), [], twin⟩, ?_, ?_, ?_⟩
  · exact congrArg some (Step.bare_eq_iff.mpr ⟨rfl, rfl, same⟩)
  · exact skips environment state
  · exact skips other twin

/-- What comes before makes no difference. -/
theorem Encloses.after {first : Parser U σ β} {rest : β → Parser U σ α}
    (blind : Blind environment other first)
    (encloses : ∀ answer, run.Encloses matched environment other (rest answer)) :
    run.Encloses matched environment other (first >>= rest) := by
  intro state twin same
  have outcomes := blind state twin same
  have commutes (environment : Environment U σ) (values : List Value)
      (ended : Option (Step U σ α)) :
      (ended.bind (run.skipAfter matched environment)).map (Step.after values) =
        (ended.map (Step.after values)).bind (run.skipAfter matched environment) := by
    cases ended with
    | none => rfl
    | some ended =>
      simp only [Option.bind_some, Option.map_some, skipAfter, Step.after]
      split
      · cases run.skipWhitespace environment ended.state <;> rfl
      · rfl
  rw [EndsAlike, bind_apply, bind_apply]
  generalize first environment state = outcome, first other twin = outcome' at outcomes
  cases outcomes with
  | none => exact ⟨none, none, rfl, rfl, rfl⟩
  | @some step step' alike =>
    obtain ⟨ended, ended', same, ran, ran'⟩ :=
      encloses step.answer step.state step'.state alike.state
    refine ⟨ended.map (Step.after step.values), ended'.map (Step.after step'.values), ?_, ?_, ?_⟩
    · rw [Step.map_bare_eq_iff] at same ⊢
      cases same with
      | none => exact .none
      | some last => exact .some ⟨last.answer, congrArg₂ _ alike.values last.values, last.state⟩
    · rw [Option.bind_some, ran, commutes]
    · rw [Option.bind_some, alike.answer, ran', commutes]

theorem Encloses.answering {parser : Parser U σ β} {tried : β → Bool}
    (encloses : run.Encloses tried environment other parser) {told : β → α}
    (same : ∀ answer, matched (told answer) = tried answer) :
    run.Encloses matched environment other (do return told (← parser)) := by
  intro state twin states
  let tell (step : Step U σ β) : Step U σ α := ⟨told step.answer, step.values, step.state⟩
  have tells (environment : Environment U σ) (ended : Option (Step U σ β)) :
      (ended.bind (run.skipAfter tried environment)).map tell =
        (ended.map tell).bind (run.skipAfter matched environment) := by
    cases ended with
    | none => rfl
    | some ended =>
      simp only [Option.bind_some, Option.map_some, skipAfter, tell, same]
      split
      · cases run.skipWhitespace environment ended.state <;> rfl
      · rfl
  have answers (environment : Environment U σ) (state : State U σ) :
      (do return told (← parser) : Parser U σ α) environment state =
        (parser environment state).map tell := by
    rw [bind_apply]
    cases parser environment state with
    | none => rfl
    | some step =>
      change some (Step.after step.values ⟨told step.answer, [], step.state⟩) = some (tell step)
      rw [Step.after, List.append_nil]
  obtain ⟨ended, ended', alike, ran, ran'⟩ := encloses state twin states
  refine ⟨ended.map tell, ended'.map tell, ?_, ?_, ?_⟩
  · rw [Step.map_bare_eq_iff] at alike ⊢
    cases alike with
    | none => exact .none
    | some alike => exact .some ⟨congrArg told alike.answer, alike.values, alike.state⟩
  · rw [answers, ran, tells]
  · rw [answers, ran', tells]

/-- The outcomes have the same answers and values, whatever is skipped after them. -/
theorem EndsAlike.alike {parser : Parser U σ α} {state twin : State U σ}
    (ends : run.EndsAlike matched environment other parser state twin) {step step' : Step U σ α}
    (ran : parser environment state = some step) (ran' : parser other twin = some step') :
    step'.answer = step.answer ∧ step'.values = step.values := by
  obtain ⟨ended, ended', same, from_ended, from_ended'⟩ := ends
  have keeps {environment : Environment U σ} {ended last : Step U σ α}
      (skips : run.skipAfter matched environment ended = some last) :
      last.answer = ended.answer ∧ last.values = ended.values := by
    unfold skipAfter at skips
    split at skips
    · obtain ⟨skipped, -, rfl⟩ := Option.map_eq_some_iff.mp skips
      exact ⟨rfl, rfl⟩
    · cases skips
      exact ⟨rfl, rfl⟩
  rw [ran, eq_comm, Option.bind_eq_some_iff] at from_ended
  rw [ran', eq_comm, Option.bind_eq_some_iff] at from_ended'
  obtain ⟨stop, rfl, skips⟩ := from_ended
  obtain ⟨stop', rfl, skips'⟩ := from_ended'
  have alike := Step.bare_eq_iff.mp (Option.some.inj same)
  rw [(keeps skips).1, (keeps skips).2, (keeps skips').1, (keeps skips').2]
  exact ⟨alike.answer, alike.values⟩

end Logic

end Runner
end Descent
