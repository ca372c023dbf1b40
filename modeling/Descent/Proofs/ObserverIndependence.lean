import Descent.Proofs.LosslessTrees
import Descent.Proofs.RunPairs
import Descent.Run.Evaluate
import Descent.Run.Validate

/-! What a grammar does to its input is the same whoever observes it. Observers that note errors
alike, but disagree on everything else, see the same errors and the same statistics. -/

namespace Descent

open Descent.Parser Pairing

/-- The answer of a parser, with where it stopped and what is in scope there. -/
def Step.course {U σ α : Type} (step : Step U σ α) : α × Cursor U × Scope U :=
  (step.answer, step.state.cursor, step.state.scope)

namespace Runner

variable {U σ σ' α : Type} {environment : Environment U σ} {other : Environment U σ'}
  {state : State U σ} {twin : State U σ'}

private theorem course_of_agrees {parser : Parser U σ α} {parser' : Parser U σ' α}
    (agrees : (places (.whole state.cursor.source) : Pairing U σ σ').Agrees environment other
      parser parser')
    (conversely : (places (.whole twin.cursor.source) : Pairing U σ' σ).Agrees other environment
      parser' parser)
    (cursor : twin.cursor = state.cursor) (scope : twin.scope = state.scope) :
    (parser environment state).map Step.course = (parser' other twin).map Step.course := by
  have whole := Alignment.isWhole_whole state.cursor.source
  cases ran : parser environment state with
  | some step =>
    obtain ⟨answer, values, after, twin_ran, same, -, stopped⟩ :=
      agrees state twin (places_states cursor scope) step ran
    rw [twin_ran, Option.map_some, Option.map_some]
    simp only [Step.course]
    rw [same, whole.cursors stopped.cursor, whole.scopes stopped.scope]
  | none =>
    cases twin_ran : parser' other twin with
    | none => rfl
    | some step =>
      obtain ⟨answer, values, after, back, -⟩ :=
        conversely twin state (places_states cursor.symm scope.symm) step twin_ran
      rw [ran] at back
      cases back

private theorem probe_eq (run : Runner U σ) (rule : Rule U) :
    run.probe rule environment state =
      (run.attempt rule (unobserved environment) (unreported state)).map fun step =>
        ⟨step.answer, [], state⟩ := by
  cases ran : run.attempt rule (unobserved environment) (unreported state) with
  | some step => exact ran_then _ state (ran_speculation ran) rfl
  | none =>
    have alone : run.attempt rule { environment with observer := Observer.silent }
        { state with report := Report.fresh state.report.notes } = none := ran
    simp [probe, lookAhead, quietly, collect, speculate, bind, Parser.bind, pure, Parser.pure,
      Parser.cursor, Parser.state, alone]

variable [CodeUnit U] (fuel : Nat) (rule : Rule U)
  (grammar : other.grammar = environment.grammar)
  (leading : other.config.skipLeadingWhitespace = environment.config.skipLeadingWhitespace)
  (cursor : twin.cursor = state.cursor) (scope : twin.scope = state.scope)
include grammar leading cursor scope

theorem course_parse :
    ((withFuel fuel).parse rule environment state).map Step.course =
      ((withFuel fuel).parse rule other twin).map Step.course :=
  have whole (source : Array U) := Alignment.isWhole_whole source
  course_of_agrees
    ((followedBy_withFuel (Nat.le_refl fuel)).parse
      (kept_places grammar leading ((whole _).fitsGrammar _)) ((whole _).fits rule))
    ((followedBy_withFuel (Nat.le_refl fuel)).parse
      (kept_places grammar.symm leading.symm ((whole _).fitsGrammar _)) ((whole _).fits rule))
    cursor scope

theorem course_attempt :
    ((withFuel fuel).attempt rule environment state).map Step.course =
      ((withFuel fuel).attempt rule other twin).map Step.course :=
  have whole (source : Array U) := Alignment.isWhole_whole source
  course_of_agrees
    ((followedBy_withFuel (Nat.le_refl fuel)).attempt
      (kept_places grammar leading ((whole _).fitsGrammar _)) ((whole _).fits rule))
    ((followedBy_withFuel (Nat.le_refl fuel)).attempt
      (kept_places grammar.symm leading.symm ((whole _).fitsGrammar _)) ((whole _).fits rule))
    cursor scope

omit grammar leading cursor scope in
/-- A rule that is looked at from outside answers as it does when it is tried. -/
theorem answer_probe :
    ((withFuel fuel).probe rule environment state).map Step.answer =
      ((withFuel fuel).attempt rule environment state).map Step.answer := by
  have alone : ((withFuel fuel).attempt rule environment state).map Step.course =
      ((withFuel fuel).attempt rule (unobserved environment) (unreported state)).map Step.course :=
    course_attempt fuel rule rfl rfl rfl rfl
  have answers := congrArg (Option.map Prod.fst) alone
  rw [Option.map_map, Option.map_map] at answers
  rw [probe_eq, Option.map_map]
  exact answers.symm

end Runner

namespace TreeBuilder

variable (builder : TreeBuilder)

theorem errors_token (kind : TokenKind) (first stop : Nat) :
    (builder.token kind first stop).errors = builder.errors := by
  unfold token
  split
  · rfl
  · split <;> rfl

theorem errors_start (profile : Profile) (position : Nat) :
    (builder.start profile position).2.errors = builder.errors := by
  have remembered : (builder.remember profile).errors = builder.errors := by
    unfold remember
    split <;> rfl
  unfold start
  dsimp only
  split <;> exact remembered

theorem errors_close (stop : Nat) : (builder.close stop).errors = builder.errors := by
  unfold close
  split
  · rfl
  · split
    · rfl
    · dsimp only
      split <;> rfl

theorem errors_backtrack : builder.backtrack.errors = builder.errors := by
  unfold backtrack
  split <;> rfl

private theorem errors_of_finish {builder : TreeBuilder} {tree : ParseTree}
    {errors : List ParseError}
    (finished : builder.finish = .ok (tree, errors)) : errors = builder.errors.toList := by
  unfold finish at finished
  split at finished
  · cases finished
    rfl
  · cases finished

end TreeBuilder

namespace Observer

variable {σ σ' : Type}

/-- Observers whose notes go on to compare when both are told of the same. Only if they have to
be exact, they are told of the same tickets and values, and answer in the same way. -/
structure Alike (notes : σ → σ' → Prop) (exact : Prop) (observer : Observer σ)
    (other : Observer σ') : Prop where
  sink (profile : Profile) : exact → observer.sink profile = other.sink profile
  start (profile : Profile) (position : Nat) {first : σ} {second : σ'} :
    notes first second →
      notes (observer.start profile position first).2 (other.start profile position second).2
  ticket (profile : Profile) (position : Nat) {first : σ} {second : σ'} :
    notes first second → exact →
      (observer.start profile position first).1 = (other.start profile position second).1
  token (kind : TokenKind) (origin stop : Nat) {first : σ} {second : σ'} :
    notes first second →
      notes (observer.token kind origin stop first) (other.token kind origin stop second)
  error (profile : Profile) (error : ParseError) {first : σ} {second : σ'} :
    notes first second →
      notes (observer.error profile error first) (other.error profile error second)
  ended (profile : Profile) {ticket ticket' : Ticket} {ending ending' : Ending}
    (same : exact → ticket = ticket' ∧ ending = ending') {first : σ} {second : σ'} :
    notes first second →
      notes (ending.tell observer profile ticket first) (ending'.tell other profile ticket' second)
  value (profile : Profile) (ticket : Ticket) (values : List Value) (stop : Nat) {first : σ}
    {second : σ'} : notes first second → exact →
      (observer.finish profile ticket values stop first).1 =
        (other.finish profile ticket values stop second).1

theorem alike_true (observer : Observer σ) (other : Observer σ') :
    Alike (fun _ _ => True) False observer other where
  sink _ := False.elim
  start _ _ _ _ _ := trivial
  ticket _ _ _ _ _ := False.elim
  token _ _ _ _ _ _ := trivial
  error _ _ _ _ _ := trivial
  ended _ _ _ _ _ _ _ _ _ := trivial
  value _ _ _ _ _ _ _ := False.elim

/-- The errors that were received, one by one, and those that were kept. -/
def Received {τ : Type} (receive : ParseError → τ → τ) (start notes : τ)
    (errors : Array ParseError) : Prop :=
  notes = errors.toList.foldl (fun notes error => receive error notes) start

variable {U : Type} (grammar : Grammar U) (source : Array U)

private theorem alike_errors {τ : Type} (receive : ParseError → τ → τ) (start : τ) :
    Alike (fun errors notes => Received receive start notes errors) False (values grammar source)
      (errors receive) where
  sink _ := False.elim
  start _ _ _ _ same := same
  ticket _ _ _ _ _ := False.elim
  token _ _ _ _ _ same := same
  ended _ _ _ ending ending' _ _ _ same := by cases ending <;> cases ending' <;> exact same
  value _ _ _ _ _ _ _ := False.elim
  error profile error errors notes same := by
    change receive error notes = (errors.push error).toList.foldl _ start
    rw [same, Array.toList_push, List.foldl_append]
    rfl

private theorem alike_tree :
    Alike (fun errors builder => builder.errors = errors) False (values grammar source)
      TreeBuilder.observer where
  sink _ := False.elim
  ticket _ _ _ _ _ := False.elim
  value _ _ _ _ _ _ _ := False.elim
  start profile position errors builder same := by
    rw [← same]
    exact TreeBuilder.errors_start builder profile position
  token kind origin stop errors builder same := by
    rw [← same]
    exact TreeBuilder.errors_token builder kind origin stop
  ended profile ticket ticket' ending ending' _ errors builder same := by
    have kept : ending.tell (values grammar source) profile ticket errors = errors := by
      cases ending <;> rfl
    rw [kept, ← same]
    cases ending' with
    | finished values stop => exact TreeBuilder.errors_close builder stop
    | canceled stop => exact TreeBuilder.errors_close builder stop
    | declined => exact TreeBuilder.errors_backtrack builder
  error profile error errors builder same := by
    rw [← same]
    rfl

end Observer

/-- Observers that are alike are told of the same by two runs on the same input. -/
theorem Observer.Alike.tells {U σ σ' : Type} {notes : σ → σ' → Prop} {exact : Prop}
    {observer : Observer σ} {other : Observer σ'} (alike : observer.Alike notes exact other)
    (source : Array U) (grammar : Grammar U) (config : ParseConfig) :
    Environment.Tells (.whole source) (fun _ => notes) exact ⟨grammar, config, observer⟩
      ⟨grammar, config, other⟩ where
  grammar := rfl
  leading := rfl
  fits := (Alignment.isWhole_whole source).fitsGrammar grammar
  whole _ := Alignment.isWhole_whole source
  sink := alike.sink
  start profile position position' here errors first second compare := by
    rw [(Alignment.isWhole_whole source).places here]
    exact alike.start profile position compare
  ticket profile position _ _ _ compare := alike.ticket profile position compare
  token kind origin origin' stop stop' begins ends errors first second compare := by
    rw [(Alignment.isWhole_whole source).places begins,
      (Alignment.isWhole_whole source).places ends]
    exact alike.token kind origin stop compare
  error profile error error' same errors first second compare := by
    rw [(Alignment.isWhole_whole source).errors same]
    unfold Environment.toldError
    dsimp only
    split
    · exact alike.error profile error compare
    · exact compare
  ended profile _ _ _ _ same _ _ _ _ compare := alike.ended profile same compare
  value profile ticket values stop _ _ _ compare := alike.value profile ticket values stop compare

namespace Grammar

variable {U σ σ' : Type} [CodeUnit U] {grammar : Grammar U} {config : ParseConfig}
  {cursor : Cursor U} {fuel : Nat} {observer : Observer σ} {other : Observer σ'} {start : σ}
  {start' : σ'}

structure Completes (notes : σ → σ' → Prop) (exact : Prop) (completion : Completion σ)
    (twin : Completion σ') : Prop where
  parsed : twin.parsed = completion.parsed
  verdict : twin.verdict = completion.verdict
  values : exact → twin.values = completion.values
  notes : notes completion.notes twin.notes

private theorem rel_run_of_alike {notes : σ → σ' → Prop} {exact : Prop}
    (alike : observer.Alike notes exact other) (compare : notes start start') :
    Option.Rel (Completes notes exact) (grammar.run config observer start cursor fuel)
      (grammar.run config other start' cursor fuel) := by
  have runs := rel_run (alike.tells cursor.source grammar config) (Alignment.cursors_whole cursor)
    compare fuel
  generalize grammar.run config observer start cursor fuel = result,
    grammar.run config other start' cursor fuel = result' at runs ⊢
  cases runs with
  | none => exact .none
  | some same =>
    exact .some ⟨same.parsed, same.verdict (Alignment.isWhole_whole _), same.values, same.notes⟩

theorem run_compares {notes : σ → σ' → Prop} {exact : Prop}
    (alike : observer.Alike notes exact other) (compare : notes start start')
    {completion : Completion σ}
    (ran : grammar.run config observer start cursor fuel = some completion) :
    ∃ twin, grammar.run config other start' cursor fuel = some twin ∧
      Completes notes exact completion twin := by
  have runs : Option.Rel (Completes notes exact) (grammar.run config observer start cursor fuel)
      (grammar.run config other start' cursor fuel) := rel_run_of_alike alike compare
  rw [ran] at runs
  generalize grammar.run config other start' cursor fuel = result at runs ⊢
  cases runs with
  | some completes => exact ⟨_, rfl, completes⟩

/-- What is read off two runs is the same if it is the same for all runs that compare. -/
theorem map_run_eq {γ : Type} {notes : σ → σ' → Prop} {exact : Prop}
    (alike : observer.Alike notes exact other) (compare : notes start start')
    {view : Completion σ → γ} {view' : Completion σ' → γ}
    (same : ∀ completion twin, grammar.run config other start' cursor fuel = some twin →
      Completes notes exact completion twin → view' twin = view completion) :
    (grammar.run config other start' cursor fuel).map view' =
      (grammar.run config observer start cursor fuel).map view := by
  have runs : Option.Rel (Completes notes exact) (grammar.run config observer start cursor fuel)
      (grammar.run config other start' cursor fuel) := rel_run_of_alike alike compare
  generalize grammar.run config observer start cursor fuel = result at runs ⊢
  cases twin_ran : grammar.run config other start' cursor fuel with
  | none =>
    rw [twin_ran] at runs
    cases runs
    rfl
  | some twin =>
    rw [twin_ran] at runs
    cases runs with
    | some completes => exact congrArg some (same _ twin twin_ran completes)

/-- All productions have ended when a run has, so there is a tree. -/
theorem finish_of_run {treeConfig : TreeConfig} {completion : Completion TreeBuilder}
    (ran : grammar.run config TreeBuilder.observer (.empty treeConfig) cursor fuel =
      some completion) :
    ∃ tree, completion.notes.finish = .ok (tree, completion.notes.errors.toList) := by
  suffices ∃ result, completion.notes.finish = .ok result by
    obtain ⟨⟨tree, errors⟩, finished⟩ := this
    exact ⟨tree, by rw [finished, TreeBuilder.errors_of_finish finished]⟩
  cases found : grammar.production? grammar.entry with
  | some production =>
    obtain ⟨inside, ending, ended, -, -, tiles, told⟩ := run_tells_of_entry found ran
    obtain ⟨tree, errors, finished, -⟩ :=
      TreeBuilder.planted_of_root config.maxErrors ended tiles.forward ⟨0, 0, .empty treeConfig⟩ rfl
    rw [← told] at finished
    exact ⟨_, finished⟩
  | none =>
    obtain ⟨step, called, rfl⟩ := Option.map_eq_some_iff.mp ran
    have unknown : ((Runner.withFuel fuel).call grammar.entry false).Ensures
        ⟨grammar, config, TreeBuilder.observer⟩ (.initial cursor (.empty treeConfig))
        fun _ _ after => after.report.notes.running = [] := by
      simp only [Runner.call, ensures_bind, ensures_environment, found, ensures_cursor,
        ensures_reportErrorAt, ensures_pure]
      unfold State.withError Report.withError
      dsimp only
      split <;> rfl
    exact ⟨_, if_pos (List.isEmpty_iff.mpr (unknown step called))⟩

/-- What happens to the input is up to the grammar alone. From the same place and with the same
things in scope, a rule answers in the same way, stops at the same place and leaves the same in
scope, whatever the observer is, has noted or is kept from seeing; so does a rule that is only
looked at. And whether errors are received, kept beside values or kept beside a tree, every run ends
with the same verdict after the same errors. -/
theorem course_whoever_observes {σ σ' τ : Type} (grammar : Grammar U) (config : ParseConfig)
    (fuel : Nat) :
    (∀ (rule : Rule U) (observer : Observer σ) (other : Observer σ') (cursor : Cursor U)
      (scope : Scope U) (report : Report σ) (report' : Report σ'),
      ((Runner.withFuel fuel).parse rule ⟨grammar, config, observer⟩
          ⟨cursor, scope, report⟩).map Step.course =
        ((Runner.withFuel fuel).parse rule ⟨grammar, config, other⟩
          ⟨cursor, scope, report'⟩).map Step.course ∧
      ((Runner.withFuel fuel).attempt rule ⟨grammar, config, observer⟩
          ⟨cursor, scope, report⟩).map Step.course =
        ((Runner.withFuel fuel).attempt rule ⟨grammar, config, other⟩
          ⟨cursor, scope, report'⟩).map Step.course ∧
      ((Runner.withFuel fuel).probe rule ⟨grammar, config, observer⟩
          ⟨cursor, scope, report⟩).map Step.answer =
        ((Runner.withFuel fuel).attempt rule ⟨grammar, config, observer⟩
          ⟨cursor, scope, report⟩).map Step.answer) ∧
    ∀ (treeConfig : TreeConfig) (receive : ParseError → τ → τ) (start : τ) (cursor : Cursor U),
      grammar.validate config receive start cursor fuel =
        (grammar.parse config cursor fuel).map (fun result => (result.verdict,
          result.errors.foldl (fun notes error => receive error notes) start)) ∧
      (grammar.parseTree config treeConfig cursor fuel).map
          (fun result => (result.verdict, result.errors)) =
        (grammar.parse config cursor fuel).map fun result => (result.verdict, result.errors) := by
  refine ⟨fun rule observer other cursor scope report report' => ⟨?_, ?_, ?_⟩,
    fun treeConfig receive start cursor => ⟨?_, ?_⟩⟩
  · exact Runner.course_parse fuel rule rfl rfl rfl rfl
  · exact Runner.course_attempt fuel rule rfl rfl rfl rfl
  · exact Runner.answer_probe fuel rule
  · rw [validate, parse, Option.map_map]
    have none_yet : Observer.Received receive start start #[] := rfl
    refine map_run_eq (Observer.alike_errors grammar cursor.source receive start) none_yet ?_
    intro completion twin ran completes
    rw [Function.comp_apply, completes.verdict, completes.notes]
  · rw [parseTree, parse, Option.map_map, Option.map_map]
    apply map_run_eq (Observer.alike_tree grammar cursor.source) rfl
    intro completion twin ran completes
    obtain ⟨tree, finished⟩ := finish_of_run ran
    simp only [Function.comp_apply, finished, completes.verdict, completes.notes]

end Grammar
end Descent
