import Descent.Proofs.ObserverIndependence

/-! The calls that an observer gets. They open and close productions like brackets, everything else
comes in between, and a skip of whitespace is seen as one token at most. -/

namespace Descent

open Descent.Parser

inductive Call where
  | start (profile : Profile) (position : Nat) (ticket : Ticket)
  | token (kind : TokenKind) (first stop : Nat)
  | error (profile : Profile) (error : ParseError)
  | ended (profile : Profile) (ticket : Ticket) (ending : Ending)

namespace Call

def isToken : Call → Bool
  | token .. => true
  | _ => false

def isError : Call → Bool
  | error .. => true
  | _ => false

/-- Calls in which every production that starts ends, once and after all that started inside of it,
with the ticket of its start. -/
inductive Nested : List Call → Prop
  | nil : Nested []
  | token (kind : TokenKind) (first stop : Nat) {rest : List Call} (nested : Nested rest) :
    Nested (.token kind first stop :: rest)
  | error (profile : Profile) (raised : ParseError) {rest : List Call} (nested : Nested rest) :
    Nested (.error profile raised :: rest)
  | production (profile : Profile) (position : Nat) (ticket : Ticket) (ending : Ending)
    {inside rest : List Call} (inner : Nested inside) (nested : Nested rest) :
    Nested (.start profile position ticket :: inside ++ .ended profile ticket ending :: rest)

theorem Nested.append {calls more : List Call} (nested : Nested calls) (also : Nested more) :
    Nested (calls ++ more) := by
  induction nested with
  | nil => exact also
  | token kind first stop _ ih => exact .token kind first stop ih
  | error profile raised _ ih => exact .error profile raised ih
  | production profile position ticket ending inner _ _ ih =>
    rw [List.append_assoc]
    exact .production profile position ticket ending inner ih

end Call

namespace Observer

variable {σ : Type}

def logged (observer : Observer σ) : Observer (σ × List Call) where
  start profile position notes :=
    let (ticket, after) := observer.start profile position notes.1
    (ticket, after, notes.2 ++ [.start profile position ticket])
  token kind first stop notes :=
    (observer.token kind first stop notes.1, notes.2 ++ [.token kind first stop])
  finish profile ticket values position notes :=
    let (value, after) := observer.finish profile ticket values position notes.1
    (value, after, notes.2 ++ [.ended profile ticket (.finished values position)])
  backtrack profile ticket notes :=
    (observer.backtrack profile ticket notes.1, notes.2 ++ [.ended profile ticket .declined])
  cancel profile ticket position notes :=
    (observer.cancel profile ticket position notes.1,
      notes.2 ++ [.ended profile ticket (.canceled position)])
  error profile error notes :=
    (observer.error profile error notes.1, notes.2 ++ [.error profile error])
  sink := observer.sink

/-- The log of an end, which is one of three. -/
theorem tell_logged (observer : Observer σ) (profile : Profile) (ticket : Ticket) (ending : Ending)
    (notes : σ × List Call) :
    ending.tell observer.logged profile ticket notes =
      (ending.tell observer profile ticket notes.1,
        notes.2 ++ [.ended profile ticket ending]) := by
  cases ending <;> rfl

/-- Nobody notices the log. -/
theorem alike_logged (observer : Observer σ) :
    Alike (fun notes logged => logged.1 = notes) True observer observer.logged where
  sink _ _ := rfl
  start profile position notes logged same := by rw [← same]; rfl
  ticket profile position notes logged same _ := by rw [← same]; rfl
  token kind origin stop notes logged same := by rw [← same]; rfl
  error profile error notes logged same := by rw [← same]; rfl
  ended profile ticket ticket' ending ending' same notes logged compare := by
    obtain ⟨rfl, rfl⟩ := same trivial
    rw [tell_logged, ← compare]
  value profile ticket values stop notes logged same _ := by rw [← same]; rfl

end Observer

namespace Happening

variable {σ : Type} (observer : Observer σ) (limit : Nat)

/-- What was told is in the log, well nested, and its tokens are counted. -/
structure Logs (before after : Ledger (σ × List Call)) (calls : List Call) : Prop where
  log : after.notes.2 = before.notes.2 ++ calls
  nested : Call.Nested calls
  tokens : after.tokens = before.tokens + calls.countP Call.isToken

/-- A production is in the log with the ticket that its start is answered with. -/
theorem logs_production (profile : Profile) (first : Nat) (inside : List Happening)
    (ending : Ending) (ledger : Ledger (σ × List Call)) {calls : List Call}
    (logs : Logs { ledger with notes := (observer.logged.start profile first ledger.notes).2 }
      (tellAll observer.logged limit inside
        { ledger with notes := (observer.logged.start profile first ledger.notes).2 }) calls) :
    let ticket := (observer.start profile first ledger.notes.1).1
    Logs ledger ((production profile first inside ending).tell observer.logged limit ledger)
      (.start profile first ticket :: calls ++ [.ended profile ticket ending]) := by
  obtain ⟨log, nested, tokens⟩ := logs
  refine ⟨?_, .production _ _ _ _ nested .nil, ?_⟩
  · simp only [tell_production, Observer.tell_logged, log]
    simp [Observer.logged]
  · simp only [tell_production, tokens]
    simp [Call.isToken]

mutual

private theorem logs_tell (happening : Happening) (ledger : Ledger (σ × List Call)) :
    ∃ calls, Logs ledger (happening.tell observer.logged limit ledger) calls := by
  match happening with
  | .token kind first stop => exact ⟨[.token kind first stop], rfl, .token _ _ _ .nil, rfl⟩
  | .error profile raised =>
    by_cases seen : ledger.errors + 1 ≤ limit
    · refine ⟨[.error profile raised], ?_, .error _ _ .nil, rfl⟩
      simp [tell, seen, Observer.logged]
    · refine ⟨[], ?_, .nil, rfl⟩
      simp [tell, seen]
  | .production profile first inside ending =>
    obtain ⟨calls, logs⟩ := logs_tellAll inside _
    exact ⟨_, logs_production observer limit profile first inside ending ledger logs⟩
termination_by structural happening

private theorem logs_tellAll (history : List Happening) (ledger : Ledger (σ × List Call)) :
    ∃ calls, Logs ledger (tellAll observer.logged limit history ledger) calls := by
  match history with
  | [] => exact ⟨[], (List.append_nil _).symm, .nil, rfl⟩
  | happening :: rest =>
    obtain ⟨calls, first⟩ := logs_tell happening ledger
    obtain ⟨more, last⟩ := logs_tellAll rest (happening.tell observer.logged limit ledger)
    refine ⟨calls ++ more, ?_, first.nested.append last.nested, ?_⟩
    · rw [tellAll_cons, last.log, first.log, List.append_assoc]
    · rw [tellAll_cons, last.tokens, first.tokens, List.countP_append, Nat.add_assoc]
termination_by structural history

end

/-- Where nothing but errors is told, nothing else is in the log. -/
theorem log_of_errors (history : List Happening) (ledger : Ledger (σ × List Call))
    (errors : ∀ happening ∈ history, ∃ profile raised, happening = .error profile raised) :
    ∃ calls, (∀ call ∈ calls, call.isError = true) ∧
      (tellAll observer.logged limit history ledger).notes.2 = ledger.notes.2 ++ calls := by
  induction history generalizing ledger with
  | nil => exact ⟨[], by simp, (List.append_nil _).symm⟩
  | cons happening rest ih =>
    obtain ⟨profile, raised, rfl⟩ := errors happening (.head _)
    obtain ⟨calls, all, log⟩ := ih ((error profile raised).tell observer.logged limit ledger)
      fun other member => errors other (.tail _ member)
    rw [tellAll_cons, log]
    by_cases seen : ledger.errors + 1 ≤ limit
    · refine ⟨.error profile raised :: calls, ?_, ?_⟩
      · simpa [Call.isError] using all
      · simp [tell, seen, Observer.logged]
    · exact ⟨calls, all, by simp [tell, seen]⟩

end Happening

namespace Runner

variable {U σ : Type} {run : Runner U σ}

/-- What an observer sees of a skip of whitespace: errors, and then one token if it moved and the
observer is not kept from seeing tokens. -/
theorem log_of_skipWith {run : Runner U (σ × List Call)} (settles : run.Settles)
    (grammar : Grammar U) (config : ParseConfig) (observer : Observer σ) (whitespace : Rule U)
    (state : State U (σ × List Call)) (framed : state.scope.frames ≠ []) :
    (run.skipWith whitespace).Ensures ⟨grammar, config, observer.logged⟩ state fun _ _ after =>
      ∃ errors : List Call, (∀ call ∈ errors, call.isError = true) ∧
        after.report.notes.2 = state.report.notes.2 ++ errors ++
          if state.report.muted = 0 ∧ state.cursor.position < after.cursor.position then
            [.token .whitespace state.cursor.position after.cursor.position]
          else [] := by
  simp only [skipWith, ensures_bind, ensures_cursor, ensures_scope, ensures_modifyScope,
    ensures_modifyReport, ensures_ite, ensures_reportToken, ensures_pure, loop]
  refine (settles_skipRounds settles whitespace _ _ state.muffled framed).mono ?_
  intro _ values after settled
  obtain ⟨history, told, -, accounts⟩ := settled.told
  -- The rule runs muted, so nothing but errors can have happened.
  have silent : ∀ happening ∈ history, ∃ profile raised, happening = .error profile raised := by
    have muted : state.muffled.report.muted ≠ 0 := Nat.succ_ne_zero _
    rwa [Accounts, if_neg muted] at accounts
  obtain ⟨errors, all, log⟩ := Happening.log_of_errors observer config.maxErrors history
    state.muffled.report.ledger silent
  rw [← told] at log
  have log : after.report.notes.2 = state.report.notes.2 ++ errors := log
  have muted : after.report.muted - 1 = state.report.muted := by
    rw [settled.muted]
    exact Nat.add_sub_cancel ..
  by_cases forward : state.cursor.position < after.cursor.position
  · rw [if_pos forward]
    refine ⟨errors, all, ?_⟩
    by_cases seen : state.report.muted = 0
    · simp [State.withToken, Report.withToken, Report.isMuted, muted, seen, forward,
        Observer.logged, log]
    · simp [State.withToken, Report.withToken, Report.isMuted, muted, seen, log]
  · rw [if_neg forward]
    refine ⟨errors, all, ?_⟩
    rw [if_neg fun both => forward both.2, List.append_nil]
    exact log

end Runner

namespace Grammar

variable {U σ : Type} [CodeUnit U]

/-- The calls that an observer gets in a run follow the protocol. They are one production: it
starts, and ends last, with the ticket of its start; and so do all productions inside, where all
else is told. The tokens that are counted are those that the observer got. Whitespace that is
skipped is no production, and one token at most besides errors, unless the observer must not see
tokens anyway. So a tree that is built has no production left that was not ended. -/
theorem calls_follow_protocol (builder : GrammarBuilder U) (grammar : Grammar U)
    (config : ParseConfig) (observer : Observer σ) (notes : σ) (cursor : Cursor U) (fuel : Nat)
    (completion : Completion σ) (built : builder.build = .ok grammar)
    (ran : grammar.run config observer notes cursor fuel = some completion) :
    (∃ log, grammar.run config observer.logged (notes, []) cursor fuel =
        some ⟨completion.parsed, completion.verdict, completion.values, completion.notes, log⟩ ∧
      (∃ profile ticket inside ending,
        log = .start profile cursor.position ticket :: inside ++ [.ended profile ticket ending] ∧
          Call.Nested inside) ∧
      completion.verdict.statistics.tokens = log.countP Call.isToken) ∧
    (∀ (inner : Nat) (whitespace : Rule U) (state : State U (σ × List Call))
      (step : Step U (σ × List Call) Unit), state.scope.frames ≠ [] →
      (Runner.withFuel inner).skipWith whitespace ⟨grammar, config, observer.logged⟩ state =
        some step →
      ∃ errors : List Call, (∀ call ∈ errors, call.isError = true) ∧
        step.state.report.notes.2 = state.report.notes.2 ++ errors ++
          if state.report.muted = 0 ∧ state.cursor.position < step.state.cursor.position then
            [.token .whitespace state.cursor.position step.state.cursor.position]
          else []) ∧
    ∀ treeConfig, ∃ building tree errors,
      grammar.run config TreeBuilder.observer (.empty treeConfig) cursor fuel = some building ∧
        building.notes.finish = .ok (tree, errors) := by
  refine ⟨?_, ?_, ?_⟩
  · -- Keeping a log changes nothing else about the run.
    obtain ⟨production, found⟩ := GrammarBuilder.production?_entry built
    obtain ⟨⟨_, _, _, _, log⟩, logged, rfl, rfl, values, rfl⟩ :=
      run_compares observer.alike_logged (rfl : (notes, []).1 = notes) ran
    cases values trivial
    obtain ⟨inside, ending, -, -, -, -, told⟩ := run_tells_of_entry found logged
    obtain ⟨calls, inner⟩ := Happening.logs_tellAll observer config.maxErrors inside _
    have logs := Happening.logs_production observer config.maxErrors production.profile
      cursor.position inside ending ⟨0, 0, (notes, [])⟩ inner
    rw [← told] at logs
    refine ⟨log, logged, ⟨_, _, calls, ending, logs.log, inner.nested⟩, ?_⟩
    rw [show log = _ from logs.log]
    exact logs.tokens.trans (Nat.zero_add _)
  · intro inner whitespace state step framed skipped
    exact Runner.log_of_skipWith (Runner.settles_withFuel inner) grammar config observer whitespace
      state framed step skipped
  · intro treeConfig
    obtain ⟨building, built, -⟩ : ∃ building, grammar.run config TreeBuilder.observer
        (.empty treeConfig) cursor fuel = some building ∧ _ :=
      run_compares (observer.alike_true TreeBuilder.observer) trivial ran
    obtain ⟨tree, finished⟩ := finish_of_run built
    exact ⟨building, tree, _, built, finished⟩

/-- The calls of a run with productions inside of others. The blank that is skipped is one of its
seven tokens. -/
theorem calls_of_parentheses_follow_protocol :
    ∃ completion log profile ticket inside ending,
      parentheses.run .standard (Recording.observer true) .empty (.start nestedInput) 12 =
        some completion ∧
      parentheses.run .standard (Recording.observer true).logged (.empty, [])
        (.start nestedInput) 12 =
          some ⟨completion.parsed, completion.verdict, completion.values, completion.notes, log⟩ ∧
      log = .start profile 0 ticket :: inside ++ [.ended profile ticket ending] ∧
      Call.Nested inside ∧ completion.verdict.statistics.productions = 6 ∧
      completion.verdict.statistics.tokens = 7 ∧ log.countP Call.isToken = 7 := by
  have counts : (parentheses.run .standard (Recording.observer true) .empty
      (.start nestedInput) 12).map (fun completion =>
        (completion.verdict.statistics.productions, completion.verdict.statistics.tokens)) =
          some (6, 7) := by
    decide +kernel
  obtain ⟨completion, ran, counted⟩ := Option.map_eq_some_iff.mp counts
  obtain ⟨productions, tokens⟩ := Prod.mk.inj counted
  obtain ⟨⟨log, logged, ⟨profile, ticket, inside, ending, all, nested⟩, told⟩, -, -⟩ :=
    calls_follow_protocol parenthesesBuilder parentheses .standard (Recording.observer true) .empty
      (.start nestedInput) 12 completion build_parentheses ran
  exact ⟨completion, log, profile, ticket, inside, ending, ran, logged, all, nested, productions,
    tokens, told.symm.trans tokens⟩

end Grammar
end Descent
