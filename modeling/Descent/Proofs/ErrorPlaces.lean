import Descent.Proofs.CallProtocol

/-! Where errors point to. Every error that is handed on lies in what was read: not before the run
began, and not behind the place where it ended. -/

namespace Descent

open Descent.Parser Happening

/-- What an observer is told keeps a condition on its notes, as long as its errors are allowed. -/
structure Observer.Keeps {σ : Type} (observer : Observer σ) (allowed : ParseError → Prop)
    (holds : σ → Prop) : Prop where
  start (profile : Profile) (position : Nat) {notes : σ} (kept : holds notes) :
    holds (observer.start profile position notes).2
  token (kind : TokenKind) (first stop : Nat) {notes : σ} (kept : holds notes) :
    holds (observer.token kind first stop notes)
  ended (profile : Profile) (ticket : Ticket) (ending : Ending) {notes : σ} (kept : holds notes) :
    holds (ending.tell observer profile ticket notes)
  error (profile : Profile) {error : ParseError} (fine : allowed error) {notes : σ}
    (kept : holds notes) : holds (observer.error profile error notes)

namespace Observer.Keeps

variable {σ : Type} {observer : Observer σ} {allowed : ParseError → Prop} {holds : σ → Prop}

mutual

theorem tell (keeps : observer.Keeps allowed holds) (limit : Nat) (happening : Happening)
    (ledger : Ledger σ) (fine : ∀ error ∈ happening.raised, allowed error)
    (kept : holds ledger.notes) : holds (happening.tell observer limit ledger).notes := by
  match happening with
  | .token kind first stop => exact keeps.token kind first stop kept
  | .error profile error =>
    simp only [Happening.tell]
    split
    · exact keeps.error profile (fine error (List.mem_singleton_self _)) kept
    · exact kept
  | .production profile first inside ending =>
    exact keeps.ended profile _ ending
      (keeps.tellAll limit inside _ fine (keeps.start profile first kept))
termination_by structural happening

theorem tellAll (keeps : observer.Keeps allowed holds) (limit : Nat) (history : List Happening)
    (ledger : Ledger σ) (fine : ∀ error ∈ raisedIn history, allowed error)
    (kept : holds ledger.notes) :
    holds (Happening.tellAll observer limit history ledger).notes := by
  match history with
  | [] => exact kept
  | happening :: rest =>
    rw [raisedIn_cons] at fine
    exact keeps.tellAll limit rest _
      (fun error member => fine error (List.mem_append_right _ member))
      (keeps.tell limit happening ledger
        (fun error member => fine error (List.mem_append_left _ member)) kept)
termination_by structural history

end

end Observer.Keeps

namespace Observer

variable {U σ : Type} (allowed : ParseError → Prop)

/-- What receives errors gets allowed ones only. -/
theorem keeps_errors (receive : ParseError → σ → σ) (start : σ) :
    (Observer.errors receive).Keeps allowed fun notes => ∃ errors : List ParseError,
      (∀ error ∈ errors, allowed error) ∧
        notes = errors.foldl (fun notes error => receive error notes) start where
  start _ _ _ kept := kept
  token _ _ _ _ kept := kept
  ended _ _ ending _ kept := by cases ending <;> exact kept
  error profile error fine notes kept := by
    obtain ⟨errors, all, rfl⟩ := kept
    refine ⟨errors ++ [error], ?_, ?_⟩
    · intro other member
      rcases List.mem_append.mp member with member | member
      · exact all other member
      · exact List.mem_singleton.mp member ▸ fine
    · rw [List.foldl_append]
      rfl

private theorem keeps_values (grammar : Grammar U) (source : Array U) :
    (Observer.values grammar source).Keeps allowed
      fun errors => ∀ error ∈ errors, allowed error where
  start _ _ _ kept := kept
  token _ _ _ _ kept := kept
  ended _ _ ending _ kept := by cases ending <;> exact kept
  error profile error fine errors kept := by
    intro other member
    rcases Array.mem_push.mp member with member | rfl
    · exact kept other member
    · exact fine

private theorem keeps_tree : TreeBuilder.observer.Keeps allowed fun builder =>
    ∀ error ∈ builder.errors, allowed error where
  start profile position builder kept := by
    rwa [show (TreeBuilder.observer.start profile position builder).2.errors = builder.errors from
      builder.errors_start profile position]
  token kind first stop builder kept := by
    rwa [show (TreeBuilder.observer.token kind first stop builder).errors = builder.errors from
      builder.errors_token kind first stop]
  ended profile ticket ending builder kept := by
    cases ending with
    | finished values stop => exact (builder.errors_close stop).symm ▸ kept
    | canceled stop => exact (builder.errors_close stop).symm ▸ kept
    | declined => exact builder.errors_backtrack.symm ▸ kept
  error profile error fine builder kept := by
    intro other member
    rcases Array.mem_push.mp member with member | rfl
    · exact kept other member
    · exact fine

private theorem keeps_logged (observer : Observer σ) : observer.logged.Keeps allowed fun notes =>
    ∀ profile error, Call.error profile error ∈ notes.2 → allowed error where
  start profile position notes kept := by simpa [logged] using kept
  token kind first stop notes kept := by simpa [logged] using kept
  ended profile ticket ending notes kept := by simpa [tell_logged] using kept
  error profile error fine notes kept := by
    intro profile' other member
    rcases List.mem_append.mp member with member | member
    · exact kept profile' other member
    · cases List.mem_singleton.mp member
      exact fine

end Observer

namespace Runner

variable {U σ : Type} {run : Runner U σ}

/-- What the entry is called for is settled in the end, also where there is no entry. -/
theorem ensures_call_settled (settles : run.Settles) (shy : run.AlwaysShy) (id : ProductionId)
    (environment : Environment U σ) (state : State U σ) :
    (run.call id false).Ensures environment state fun _ _ after =>
      Settled environment state.cursor.position state after := by
  rw [call, ensures_bind, ensures_environment]
  cases environment.grammar.production? id with
  | some production =>
    exact ensures_callProduction_settled settles shy production false environment state (.inr rfl)
  | none =>
    simp only [ensures_bind, ensures_cursor, ensures_reportErrorAt, ensures_pure]
    exact (Conduct.start environment state).withErrorHere _

end Runner

namespace Grammar

variable {U σ : Type} [CodeUnit U] {grammar : Grammar U} {config : ParseConfig}
  {observer : Observer σ} {notes : σ} {cursor : Cursor U} {fuel : Nat}
  {completion : Completion σ}

/-- A run keeps every condition that errors within what was read keep. -/
theorem run_keeps (ran : grammar.run config observer notes cursor fuel = some completion) :
    completion.verdict.position ≤ cursor.stop ∧
      ∀ holds : σ → Prop, observer.Keeps
        (·.Within cursor.position completion.verdict.position) holds → holds notes →
          holds completion.notes := by
  obtain ⟨step, called, rfl⟩ := Option.map_eq_some_iff.mp ran
  have settled := Runner.ensures_call_settled (Runner.settles_withFuel fuel)
    (Runner.alwaysShy_withFuel fuel) grammar.entry ⟨grammar, config, observer⟩
    (.initial cursor notes) step called
  obtain ⟨history, told, within, -⟩ := settled.told
  refine ⟨?_, fun holds keeps kept => ?_⟩
  · have stop : step.state.cursor.stop = cursor.stop := settled.reaches.stop
    rw [← stop]
    exact step.state.cursor.position_le_stop
  · have last := keeps.tellAll config.maxErrors history
      (State.initial cursor notes : State U σ).report.ledger within kept
    rw [← told] at last
    exact last

/-- Errors point into what was read: whatever observer is told of an error, in a check, a parse or
a run that builds a tree, its span begins where the run began or later, includes the place of the
error, and ends where the run ended or before, which is in the view. -/
theorem errors_lie_in_what_was_read (grammar : Grammar U) (config : ParseConfig)
    (cursor : Cursor U) (fuel : Nat) :
    (∀ (σ : Type) (observer : Observer σ) (notes : σ) (completion : Completion σ),
      grammar.run config observer notes cursor fuel = some completion →
      completion.verdict.position ≤ cursor.stop ∧
      ∃ log, grammar.run config observer.logged (notes, []) cursor fuel =
          some ⟨completion.parsed, completion.verdict, completion.values, completion.notes, log⟩ ∧
        ∀ profile error, .error profile error ∈ log →
          error.Within cursor.position completion.verdict.position) ∧
    (∀ (τ : Type) (receive : ParseError → τ → τ) (start : τ) (result : Verdict × τ),
      grammar.validate config receive start cursor fuel = some result →
      result.1.position ≤ cursor.stop ∧
      ∃ errors : List ParseError,
        (∀ error ∈ errors, error.Within cursor.position result.1.position) ∧
          result.2 = errors.foldl (fun notes error => receive error notes) start) ∧
    (∀ result, grammar.parse config cursor fuel = some result →
      result.verdict.position ≤ cursor.stop ∧
        ∀ error ∈ result.errors, error.Within cursor.position result.verdict.position) ∧
    ∀ treeConfig result, grammar.parseTree config treeConfig cursor fuel = some result →
      result.verdict.position ≤ cursor.stop ∧
        ∀ error ∈ result.errors, error.Within cursor.position result.verdict.position := by
  refine ⟨fun σ observer notes completion ran => ?_, fun τ receive start result ran => ?_,
    fun result ran => ?_, fun treeConfig result ran => ?_⟩
  · obtain ⟨⟨_, _, _, _, log⟩, logged, rfl, rfl, values, rfl⟩ :=
      run_compares observer.alike_logged (rfl : (notes, []).1 = notes) ran
    cases values trivial
    obtain ⟨bounded, keeps⟩ := run_keeps logged
    exact ⟨bounded, log, logged, keeps _ (observer.keeps_logged _) (by simp)⟩
  · obtain ⟨completion, completed, rfl⟩ := Option.map_eq_some_iff.mp ran
    obtain ⟨bounded, keeps⟩ := run_keeps completed
    exact ⟨bounded, keeps _ (Observer.keeps_errors _ receive start) ⟨[], by simp, rfl⟩⟩
  · obtain ⟨completion, completed, rfl⟩ := Option.map_eq_some_iff.mp ran
    obtain ⟨bounded, keeps⟩ := run_keeps completed
    have all := keeps _ (Observer.keeps_values _ grammar cursor.source)
      fun _ member => absurd member (Array.not_mem_empty _)
    exact ⟨bounded, fun error member => all error (Array.mem_toList_iff.mp member)⟩
  · obtain ⟨completion, completed, rfl⟩ := Option.map_eq_some_iff.mp ran
    obtain ⟨bounded, keeps⟩ := run_keeps completed
    have all := keeps _ (Observer.keeps_tree _)
      fun _ member => absurd member (Array.not_mem_empty _)
    obtain ⟨tree, finished⟩ := finish_of_run completed
    rw [finished]
    exact ⟨bounded, fun error member => all error (Array.mem_toList_iff.mp member)⟩

/-- An error in a window, where the run begins behind the beginning of the source. -/
theorem error_of_unit_lies_in_window :
    ∃ result, Runner.soleUnit.parse .standard
        ((Cursor.start #['a', 'b']).window ⟨1, 2, by decide⟩) 3 = some result ∧
      result.errors.length = 1 ∧
      ∀ error ∈ result.errors, error.Within 1 result.verdict.position := by
  have count : (Runner.soleUnit.parse .standard
      ((Cursor.start #['a', 'b']).window ⟨1, 2, by decide⟩) 3).map
        (fun result => result.errors.length) = some 1 := by decide +kernel
  obtain ⟨result, parsed, errors⟩ := Option.map_eq_some_iff.mp count
  obtain ⟨-, -, within, -⟩ := errors_lie_in_what_was_read Runner.soleUnit .standard
    ((Cursor.start #['a', 'b']).window ⟨1, 2, by decide⟩) 3
  exact ⟨result, parsed, errors, (within result parsed).2⟩

end Grammar
end Descent
