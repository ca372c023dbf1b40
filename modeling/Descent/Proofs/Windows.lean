import Descent.Proofs.ObserverIndependence
import Descent.Proofs.ShiftedTrees
import Descent.Run.Validate

/-! Runs on a window of a source. They go as they do on the part that the window shows, put down as
a source of its own, with all places shifted by where the window begins: nothing around a window has
a part in a run on it. -/

namespace Descent

def Verdict.shift (distance : Nat) (verdict : Verdict) : Verdict :=
  { verdict with position := verdict.position + distance }

/-- The result of a run that went the same way so many units further on. -/
structure ParseResult.Shifted (distance : Nat) (result other : ParseResult ParseTree) : Prop where
  verdict : result.verdict = other.verdict.shift distance
  errors : result.errors = other.errors.map (ParseError.shift distance)
  value : Option.Rel (ParseTree.Shifted distance) result.value other.value

/-- Results that are both shifts of one result are the same, at the same places. -/
theorem ParseResult.Shifted.beside {distance : Nat} {result result' other : ParseResult ParseTree}
    (shifted : result.Shifted distance other) (shifted' : result'.Shifted distance other) :
    result.Shifted 0 result' where
  verdict := shifted.verdict.trans shifted'.verdict.symm
  errors := by
    rw [shifted.errors, ← shifted'.errors]
    exact (List.map_id _).symm
  value := rel_beside shifted.value shifted'.value fun _ _ _ => ParseTree.Shifted.beside

/-- A variable for a lexeme begins without one. `Rule.createLexeme` makes them so, and there is no
other way to begin: a span of some input would be of no use in another one. -/
def Grammar.LexemesBeginEmpty {U : Type} (grammar : Grammar U) : Prop :=
  ∀ span, grammar.Sets (.lexeme span) → span.isEmpty

namespace Alignment

variable {U : Type} {source : Array U}

private theorem cursors_window {span : Span} (inside : span.stop ≤ source.size) :
    (part source span.first span.stop).Cursors ((Cursor.start source).window span)
      (.start (source.extract span.first span.stop)) := by
  have ordered := span.first_le_stop
  refine ⟨rfl, rfl, ?_, ?_⟩
  · simp only [Places, part, Cursor.window, Cursor.start]
    omega
  · simp only [Places, part, Cursor.window, Cursor.start, Array.size_extract]
    omega

private theorem fits_of_lexemesBeginEmpty {grammar : Grammar U} (begin : grammar.LexemesBeginEmpty)
    (alignment : Alignment U) : alignment.FitsGrammar grammar := by
  intro initial sets
  cases initial with
  | flag value => exact .flag value
  | counter value => exact .counter value
  | lexeme span =>
    have empty : span.stop = span.first := (beq_iff_eq.mp (begin span sets)).symm
    refine .lexeme (.inr rfl) ?_
    rw [empty, Array.extract_empty_of_stop_le_start (Nat.le_refl _),
      Array.extract_empty_of_stop_le_start (Nat.le_refl _)]

variable {first stop : Nat}

private theorem places_part {place place' : Nat}
    (here : (part source first stop).Places place place') : place = place' + first := here

private theorem errors_part {error error' : ParseError}
    (same : (part source first stop).Errors error error') : error = error'.shift first := by
  obtain ⟨production, position, ⟨begins, ends, ordered⟩, kind⟩ := error
  obtain ⟨production', position', ⟨begins', ends', ordered'⟩, kind'⟩ := error'
  obtain ⟨rfl, here, ⟨begun, ended⟩, rfl⟩ := same
  cases places_part here
  cases places_part begun
  cases places_part ended
  rfl

end Alignment

namespace Environment

open Descent.Alignment

variable {U : Type} {grammar : Grammar U} (begin : grammar.LexemesBeginEmpty)
  (config : ParseConfig) (source : Array U) (first stop : Nat)
include begin

/-- Whoever receives the errors of a run on a part gets those of the run on the window when they are
shifted on the way. -/
theorem tells_window_errors {τ : Type} (receive : ParseError → τ → τ) :
    Tells (part source first stop) (fun _ notes notes' => notes = notes') False
      ⟨grammar, config, .errors receive⟩
      ⟨grammar, config, .errors fun error => receive (error.shift first)⟩ where
  grammar := rfl
  leading := rfl
  fits := fits_of_lexemesBeginEmpty begin _
  whole := False.elim
  sink _ := False.elim
  start _ _ _ _ _ _ _ compare := compare
  ticket _ _ _ _ _ _ := False.elim
  token _ _ _ _ _ _ _ _ _ _ compare := compare
  ended _ _ _ ending ending' _ _ _ _ _ compare := by
    cases ending <;> cases ending' <;> exact compare
  value _ _ _ _ _ _ _ _ := False.elim
  error profile error error' same count notes notes' compare := by
    rw [errors_part same, compare]
    rfl

private theorem tells_window_tree :
    Tells (part source first stop) (fun _ builder other => builder.Shifted first other) False
      ⟨grammar, config, TreeBuilder.observer⟩ ⟨grammar, config, TreeBuilder.observer⟩ where
  grammar := rfl
  leading := rfl
  fits := fits_of_lexemesBeginEmpty begin _
  whole := False.elim
  sink _ := False.elim
  ticket _ _ _ _ _ _ := False.elim
  value _ _ _ _ _ _ _ _ := False.elim
  start profile position position' here count builder other compare := by
    rw [places_part here]
    exact compare.start profile position'
  token kind origin origin' stop stop' begins ends count builder other compare := by
    rw [places_part begins, places_part ends]
    exact compare.token kind origin' stop'
  ended profile ticket ticket' ending ending' _ endings count builder other compare := by
    cases endings with
    | finished _ _ ends =>
      rw [places_part ends]
      exact compare.close _
    | canceled ends =>
      rw [places_part ends]
      exact compare.close _
    | declined => exact compare.backtrack
  error profile error error' same count builder other compare := by
    rw [errors_part same]
    unfold toldError
    dsimp only
    split
    · exact compare.error error'
    · exact compare

end Environment

namespace Grammar

variable {U : Type} {source : Array U}

private theorem Matches.verdict_part {σ σ' : Type} {first stop : Nat} {notes : Nat → σ → σ' → Prop}
    {exact : Prop} {completion : Completion σ} {twin : Completion σ'}
    (same : Matches (.part source first stop) notes exact completion twin) :
    completion.verdict = twin.verdict.shift first := by
  rw [Verdict.shift, Verdict.mk.injEq]
  exact ⟨same.outcome.symm, Alignment.places_part same.position, same.statistics.symm⟩

section Windows

variable [CodeUnit U] {grammar : Grammar U} (begin : grammar.LexemesBeginEmpty)
  (config : ParseConfig) {span : Span} (inside : span.stop ≤ source.size) (fuel : Nat)
include begin inside

private theorem validate_window {τ : Type} (receive : ParseError → τ → τ) (start : τ) :
    grammar.validate config receive start ((Cursor.start source).window span) fuel =
      (grammar.validate config (fun error => receive (error.shift span.first)) start
        (.start (source.extract span.first span.stop)) fuel).map fun result =>
          (result.1.shift span.first, result.2) := by
  have runs := rel_run (Environment.tells_window_errors begin config source span.first span.stop
    receive) (Alignment.cursors_window inside) (rfl : start = start) fuel
  rw [validate, validate, Option.map_map]
  exact map_eq_map_of_rel runs fun completion twin same =>
    Prod.ext same.verdict_part same.notes

private theorem rel_parseTree_window (treeConfig : TreeConfig) :
    Option.Rel (ParseResult.Shifted span.first)
      (grammar.parseTree config treeConfig ((Cursor.start source).window span) fuel)
      (grammar.parseTree config treeConfig
        (.start (source.extract span.first span.stop)) fuel) := by
  have runs := rel_run (Environment.tells_window_tree begin config source span.first span.stop)
    (Alignment.cursors_window inside) (TreeBuilder.Shifted.empty span.first treeConfig) fuel
  refine rel_map runs fun completion _ twin ran same => ?_
  obtain ⟨tree, finished⟩ := finish_of_run ran
  obtain ⟨tree', finished', shifted⟩ := same.notes.finish finished
  simp only [finished, finished']
  exact ⟨same.verdict_part, rfl, .some shifted⟩

/-- A window is an input of its own: a check of what it shows, and the tree of it, are those of the
part of the source that it shows, with every place shifted by where the window begins. So inputs
that differ only outside of a window cannot be told apart on it. -/
theorem window_is_input_of_its_own :
    (∀ (τ : Type) (receive : ParseError → τ → τ) (start : τ),
      grammar.validate config receive start ((Cursor.start source).window span) fuel =
        (grammar.validate config (fun error => receive (error.shift span.first)) start
          (.start (source.extract span.first span.stop)) fuel).map fun result =>
            (result.1.shift span.first, result.2)) ∧
    (∀ treeConfig, Option.Rel (ParseResult.Shifted span.first)
      (grammar.parseTree config treeConfig ((Cursor.start source).window span) fuel)
      (grammar.parseTree config treeConfig (.start (source.extract span.first span.stop)) fuel)) ∧
    ∀ source' : Array U, span.stop ≤ source'.size →
      source'.extract span.first span.stop = source.extract span.first span.stop →
      (∀ (τ : Type) (receive : ParseError → τ → τ) (start : τ),
        grammar.validate config receive start ((Cursor.start source).window span) fuel =
          grammar.validate config receive start ((Cursor.start source').window span) fuel) ∧
      ∀ treeConfig, Option.Rel (ParseResult.Shifted 0)
        (grammar.parseTree config treeConfig ((Cursor.start source).window span) fuel)
        (grammar.parseTree config treeConfig ((Cursor.start source').window span) fuel) := by
  refine ⟨fun τ receive start => validate_window begin config inside fuel receive start,
    fun treeConfig => rel_parseTree_window begin config inside fuel treeConfig,
    fun source' inside' same => ⟨fun τ receive start => ?_, fun treeConfig => ?_⟩⟩
  · rw [validate_window begin config inside, validate_window begin config inside', same]
  · have tree := rel_parseTree_window begin config inside fuel treeConfig
    have tree' := rel_parseTree_window begin config inside' fuel treeConfig
    rw [same] at tree'
    exact rel_beside tree tree' fun _ _ _ => ParseResult.Shifted.beside

end Windows

def echo : Grammar Char where
  productions := #[{
    profile := ⟨0, "echo", false, false⟩
    rule := .sequence [.createLexeme "unit", .onVariable "unit" (.capture (.token (.oneOf .any))),
      .onVariable "unit" (.rematch (.token (.oneOf .any)))]
    whitespace := none
    callback := none
    sink := none }]
  whitespace := none
  entry := 0

private theorem not_sets_token {token : Token U} {initial : Binding} :
    ¬(Rule.token token).Sets initial := by
  intro sets
  cases sets with
  | part part _ => cases part

private theorem echo_lexemesBeginEmpty : echo.LexemesBeginEmpty := by
  intro span sets
  cases sets with
  | @rule production member sets =>
    rw [echo, Array.mem_singleton] at member
    subst member
    cases sets with
    | @part _ inner _ part sets =>
      simp only [Rule.parts, List.mem_cons, List.not_mem_nil, or_false] at part
      rcases part with rfl | rfl | rfl
      · cases sets with
        | create => rfl
        | part part _ => cases part
      all_goals
        cases sets with
        | part part sets =>
          cases List.mem_singleton.mp part
          exact absurd sets not_sets_token
  | @own production whitespace member skipped =>
    rw [echo, Array.mem_singleton] at member
    subst member
    cases skipped
  | whitespace skipped => cases skipped

/-- The second unit is not the first one. The error points to it, also behind another unit. -/
theorem window_shifts_error_of_echo :
    echo.validate .standard (fun error errors => errors ++ [error]) [] (.start #['a', 'b']) 4 =
      some (⟨.fatalFailure, 2, ⟨1, 0, 2, 1⟩⟩, [⟨"echo", 1, ⟨1, 2, by decide⟩, .contextMismatch⟩]) ∧
    echo.validate .standard (fun error errors => errors ++ [error]) []
        ((Cursor.start #['x', 'a', 'b', 'a']).window ⟨1, 3, by decide⟩) 4 =
      some (⟨.fatalFailure, 3, ⟨1, 0, 2, 1⟩⟩,
        [⟨"echo", 2, ⟨2, 3, by decide⟩, .contextMismatch⟩]) := by
  have shifted := (window_is_input_of_its_own echo_lexemesBeginEmpty .standard
    (show (⟨1, 3, by decide⟩ : Span).stop ≤ #['x', 'a', 'b', 'a'].size by decide) 4).1
      (List ParseError) (fun error errors => errors ++ [error]) []
  refine ⟨by decide +kernel, shifted.trans ?_⟩
  decide +kernel

end Grammar
end Descent
