import Descent.Proofs.FollowingRules
import Descent.Run.Basic

/-! Whole runs of a grammar side by side. Their sources are aligned and their observers take notes
that compare; then both come to an end or neither does, and the ends compare. -/

namespace Descent

open Descent.Parser Pairing

section Options

variable {α α' β β' : Type} {related : α → α' → Prop} {results : β → β' → Prop}
  {option : Option α} {option' : Option α'}

theorem rel_map {view : α → β} {view' : α' → β'} (same : Option.Rel related option option')
    (implies : ∀ value ∈ option, ∀ value' ∈ option', related value value' →
      results (view value) (view' value')) :
    Option.Rel results (option.map view) (option'.map view') := by
  cases same with
  | none => exact .none
  | some same => exact .some (implies _ rfl _ rfl same)

theorem eq_map_of_rel {view : α → α'} (same : Option.Rel related option option')
    (implies : ∀ value value', related value value' → value' = view value) :
    option' = option.map view := by
  cases same with
  | none => rfl
  | some same => exact congrArg some (implies _ _ same)

theorem map_eq_map_of_rel {γ : Type} {view : α → γ} {view' : α' → γ}
    (same : Option.Rel related option option')
    (implies : ∀ value value', related value value' → view value = view' value') :
    option.map view = option'.map view' := by
  cases same with
  | none => rfl
  | some same => exact congrArg some (implies _ _ same)

/-- What is related to the same thing is related to each other. -/
theorem rel_beside {option'' : Option β} {related' : α' → β → Prop} {related : α → β → Prop}
    {results : α → α' → Prop} (same : Option.Rel related option option'')
    (same' : Option.Rel related' option' option'')
    (implies : ∀ value value' other, related value other → related' value' other →
      results value value') : Option.Rel results option option' := by
  cases same with
  | none =>
    cases same'
    exact .none
  | some same =>
    cases same' with
    | some same' => exact .some (implies _ _ _ same same')

theorem left_of_rel {holds : α → Prop} (same : Option.Rel related option option')
    (implies : ∀ value value', related value value' → holds value) :
    ∀ value ∈ option, holds value := by
  rintro value ⟨⟩
  cases same with
  | some same => exact implies _ _ same

end Options

variable {U σ σ' : Type}

/-- Reports of the same numbers, with notes that compare. How they do may depend on how many errors
there were. -/
def Pairing.counted (alignment : Alignment U) (notes : Nat → σ → σ' → Prop) (exact : Prop) :
    Pairing U σ σ' where
  alignment := alignment
  reports report twin := twin.muted = report.muted ∧ twin.statistics = report.statistics ∧
    notes report.statistics.errors report.notes twin.notes
  exact := exact
  hidden := none

/-- The notes of an observer after one more error, which it sees up to the limit. -/
def Environment.toldError (environment : Environment U σ) (profile : Profile) (error : ParseError)
    (errors : Nat) (notes : σ) : σ :=
  if errors + 1 ≤ environment.config.maxErrors then environment.observer.error profile error notes
  else notes

/-- Runs of one grammar whose notes go on to compare when both observers are told of the same, at
places that correspond. Only if they have to be exact, they are told of the same tickets and
values, and answer in the same way. -/
structure Environment.Tells (alignment : Alignment U) (notes : Nat → σ → σ' → Prop) (exact : Prop)
    (environment : Environment U σ) (other : Environment U σ') : Prop where
  grammar : other.grammar = environment.grammar
  leading : other.config.skipLeadingWhitespace = environment.config.skipLeadingWhitespace
  fits : alignment.FitsGrammar environment.grammar
  whole : exact → alignment.IsWhole
  sink (profile : Profile) : exact →
    environment.observer.sink profile = other.observer.sink profile
  start (profile : Profile) {position position' : Nat} (here : alignment.Places position position')
    {errors : Nat} {first : σ} {second : σ'} (compare : notes errors first second) :
    notes errors (environment.observer.start profile position first).2
      (other.observer.start profile position' second).2
  ticket (profile : Profile) (position : Nat) {errors : Nat} {first : σ} {second : σ'}
    (compare : notes errors first second) : exact →
    (environment.observer.start profile position first).1 =
      (other.observer.start profile position second).1
  token (kind : TokenKind) {origin origin' stop stop' : Nat}
    (begins : alignment.Places origin origin') (ends : alignment.Places stop stop') {errors : Nat}
    {first : σ} {second : σ'} (compare : notes errors first second) :
    notes errors (environment.observer.token kind origin stop first)
      (other.observer.token kind origin' stop' second)
  error (profile : Profile) {error error' : ParseError} (same : alignment.Errors error error')
    {errors : Nat} {first : σ} {second : σ'} (compare : notes errors first second) :
    notes (errors + 1) (environment.toldError profile error errors first)
      (other.toldError profile error' errors second)
  ended (profile : Profile) {ticket ticket' : Ticket} {ending ending' : Ending}
    (same : exact → ticket = ticket' ∧ ending = ending')
    (endings : alignment.Endings ending ending') {errors : Nat} {first : σ} {second : σ'}
    (compare : notes errors first second) :
    notes errors (ending.tell environment.observer profile ticket first)
      (ending'.tell other.observer profile ticket' second)
  value (profile : Profile) (ticket : Ticket) (values : List Value) (stop : Nat) {errors : Nat}
    {first : σ} {second : σ'} (compare : notes errors first second) : exact →
    (environment.observer.finish profile ticket values stop first).1 =
      (other.observer.finish profile ticket values stop second).1

namespace Environment.Tells

variable {alignment : Alignment U} {notes : Nat → σ → σ' → Prop} {exact : Prop}
  {environment : Environment U σ} {other : Environment U σ'}

theorem symm (tells : environment.Tells alignment notes exact other) :
    other.Tells alignment.symm (fun errors second first => notes errors first second) exact
      environment where
  grammar := tells.grammar.symm
  leading := tells.leading.symm
  fits := tells.grammar ▸ tells.fits.symm
  whole same := (tells.whole same).symm
  sink profile same := (tells.sink profile same).symm
  start profile _ _ here _ _ _ compare := tells.start profile here.symm compare
  ticket profile position _ _ _ compare same := (tells.ticket profile position compare same).symm
  token kind _ _ _ _ begins ends _ _ _ compare := tells.token kind begins.symm ends.symm compare
  error profile _ _ same _ _ _ compare := tells.error profile same.symm compare
  ended profile _ _ _ _ same endings _ _ _ compare :=
    tells.ended profile (fun holds => ⟨(same holds).1.symm, (same holds).2.symm⟩) endings.symm
      compare
  value profile ticket values stop _ _ _ compare same :=
    (tells.value profile ticket values stop compare same).symm

theorem kept (tells : environment.Tells alignment notes exact other) :
    (counted alignment notes exact).Kept False environment other where
  compares := False.elim
  grammar := Grammar.twins_of_eq tells.grammar
  leading := tells.leading
  fits := tells.fits
  whole := tells.whole
  sink := tells.sink
  muting := fun ⟨muted, rest⟩ => ⟨congrArg (· + 1) muted, rest⟩
  unmuting := fun ⟨muted, rest⟩ => ⟨congrArg (· - 1) muted, rest⟩
  token kind origin origin' stop stop' begins ends report twin := by
    rintro ⟨muted, statistics, compare⟩
    unfold Report.withToken Report.isMuted
    rw [muted, statistics]
    split
    · exact ⟨muted, statistics, compare⟩
    · exact ⟨rfl, rfl, tells.token kind begins ends compare⟩
  error profile error error' same report twin := by
    rintro ⟨muted, statistics, compare⟩
    refine ⟨muted, by simp only [Report.withError, statistics], ?_⟩
    have told := tells.error profile same compare
    simp only [Environment.toldError] at told
    simpa only [Report.withError, statistics] using told
  entry := by
    rintro report twin ⟨muted, statistics, compare⟩
    exact ⟨muted, by simp only [Report.withEntry, statistics], compare⟩
  start profile position position' here report twin := by
    rintro ⟨muted, statistics, compare⟩
    unfold Report.noted Report.isMuted
    rw [muted]
    refine ⟨rfl, statistics, ?_⟩
    dsimp only
    split
    · exact compare
    · exact tells.start profile here compare
  ticket profile position report twin := by
    rintro ⟨muted, -, compare⟩ exact
    unfold Report.ticket Report.isMuted
    rw [muted, tells.ticket profile position compare exact]
  ended profile ticket ticket' ending ending' same endings report twin := by
    rintro ⟨muted, statistics, compare⟩
    unfold Report.withEnd Report.isMuted
    rw [muted]
    refine ⟨rfl, statistics, ?_⟩
    dsimp only
    split
    · exact compare
    · exact tells.ended profile same endings compare
  produced profile ticket values stop report twin := by
    rintro ⟨muted, -, compare⟩ exact
    unfold Report.produced Report.isMuted
    rw [muted, tells.value profile ticket values stop compare exact]
  backtrack := by
    rintro report twin ⟨muted, statistics, compare⟩
    exact ⟨muted, by simp only [Report.withBacktrack, statistics], compare⟩

end Environment.Tells

namespace Grammar

variable [CodeUnit U] {alignment : Alignment U} {notes : Nat → σ → σ' → Prop} {exact : Prop}
  {grammar : Grammar U} {config config' : ParseConfig} {observer : Observer σ}
  {other : Observer σ'} {start : σ} {start' : σ'} {cursor cursor' : Cursor U} {fuel : Nat}

structure Matches (alignment : Alignment U) (notes : Nat → σ → σ' → Prop) (exact : Prop)
    (completion : Completion σ) (twin : Completion σ') : Prop where
  parsed : twin.parsed = completion.parsed
  outcome : twin.verdict.outcome = completion.verdict.outcome
  position : alignment.Places completion.verdict.position twin.verdict.position
  statistics : twin.verdict.statistics = completion.verdict.statistics
  values : exact → twin.values = completion.values
  notes : notes completion.verdict.errorCount completion.notes twin.notes

omit [CodeUnit U] in
/-- On the same input, they end at the same place. -/
theorem Matches.verdict {completion : Completion σ} {twin : Completion σ'}
    (same : Matches alignment notes exact completion twin) (isWhole : alignment.IsWhole) :
    twin.verdict = completion.verdict := by
  rw [Verdict.mk.injEq]
  exact ⟨same.outcome, isWhole.places same.position, same.statistics⟩

private theorem matches_of_ran
    (tells : Environment.Tells alignment notes exact ⟨grammar, config, observer⟩
      ⟨grammar, config', other⟩)
    (here : alignment.Cursors cursor cursor') (compare : notes 0 start start')
    {completion : Completion σ}
    (ran : grammar.run config observer start cursor fuel = some completion) :
    ∃ twin, grammar.run config' other start' cursor' fuel = some twin ∧
      Matches alignment notes exact completion twin := by
  obtain ⟨step, called, rfl⟩ := Option.map_eq_some_iff.mp ran
  have begun : (counted alignment notes exact).States (.initial cursor start : State U σ)
      (.initial cursor' start') :=
    ⟨here, ⟨.nil, .nil, rfl, rfl, nofun, by simp [State.initial, Scope.outermost]⟩, rfl, rfl,
      compare⟩
  obtain ⟨answer, values, after, twin_called, rfl, same, stopped⟩ :=
    Runner.agrees_call tells.kept (Runner.followedBy_withFuel (Nat.le_refl fuel)) grammar.entry
      false _ _ begun step called
  obtain ⟨-, statistics, compare⟩ := stopped.reports
  refine ⟨_, congrArg (Option.map _) twin_called, rfl, ?_, stopped.cursor.position, statistics,
    fun exact => (same exact).symm, compare⟩
  dsimp only
  rw [statistics]

/-- Two runs that tell of the same come to an end together, in the same way. -/
theorem rel_run
    (tells : Environment.Tells alignment notes exact ⟨grammar, config, observer⟩
      ⟨grammar, config', other⟩)
    (here : alignment.Cursors cursor cursor') (compare : notes 0 start start') (fuel : Nat) :
    Option.Rel (Matches alignment notes exact) (grammar.run config observer start cursor fuel)
      (grammar.run config' other start' cursor' fuel) := by
  cases ran : grammar.run config observer start cursor fuel with
  | some completion =>
    obtain ⟨twin, twin_ran, same⟩ := matches_of_ran tells here compare ran
    rw [twin_ran]
    exact .some same
  | none =>
    cases twin_ran : grammar.run config' other start' cursor' fuel with
    | none => exact .none
    | some twin =>
      obtain ⟨_, back, -⟩ := matches_of_ran tells.symm here.symm compare twin_ran
      rw [ran] at back
      cases back

end Grammar
end Descent
