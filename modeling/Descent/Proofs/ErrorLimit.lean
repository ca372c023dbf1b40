import Descent.Proofs.ObserverIndependence

/-! The limit on errors decides which of them are seen, and nothing else: a run with a smaller limit
is the same run, of which fewer errors are seen. -/

namespace Descent

/-- The errors that are seen up to a limit after so many of them, beside those seen up to a smaller
limit. -/
structure Truncated (limit fewer count : Nat) (errors errors' : List ParseError) : Prop where
  seen : errors.length = min limit count
  kept : errors' = errors.take fewer

namespace Truncated

variable {limit fewer count : Nat} {errors errors' : List ParseError}

theorem none_yet (limit fewer : Nat) : Truncated limit fewer 0 [] [] :=
  ⟨by simp, by simp⟩

/-- One more error is seen in both runs, in the one with the larger limit only, or in neither. -/
theorem raise (le : fewer ≤ limit) (truncated : Truncated limit fewer count errors errors')
    (error : ParseError) :
    Truncated limit fewer (count + 1)
      (if count + 1 ≤ limit then errors ++ [error] else errors)
      (if count + 1 ≤ fewer then errors' ++ [error] else errors') := by
  obtain ⟨seen, rfl⟩ := truncated
  by_cases within : count + 1 ≤ limit
  · have length : errors.length = count := by omega
    rw [if_pos within]
    refine ⟨by rw [List.length_append, List.length_singleton]; omega, ?_⟩
    split
    · rw [List.take_of_length_le (by omega), List.take_of_length_le]
      rw [List.length_append, List.length_singleton]
      omega
    · rw [List.take_append_of_le_length (by omega)]
  · rw [if_neg within, if_neg (by omega)]
    exact ⟨by omega, rfl⟩

end Truncated

namespace TreeBuilder

def withErrors (builder : TreeBuilder) (errors : Array ParseError) : TreeBuilder :=
  { builder with errors }

variable (builder : TreeBuilder) (errors : Array ParseError)

private theorem token_withErrors (kind : TokenKind) (first stop : Nat) :
    (builder.withErrors errors).token kind first stop =
      (builder.token kind first stop).withErrors errors := by
  have target : (builder.withErrors errors).mergeTarget? kind first =
      builder.mergeTarget? kind first := rfl
  unfold token
  rw [target]
  change (if builder.running.isEmpty then _ else _) = _
  split
  · rfl
  · split <;> rfl

private theorem start_withErrors (profile : Profile) (position : Nat) :
    (builder.withErrors errors).start profile position =
      ((builder.start profile position).1,
        (builder.start profile position).2.withErrors errors) := by
  have remembered : (builder.withErrors errors).remember profile =
      (builder.remember profile).withErrors errors := by
    unfold remember
    change (if (builder.names.getD profile.id "").isEmpty then _ else _) = _
    split <;> rfl
  unfold start
  rw [remembered]
  generalize builder.remember profile = known
  dsimp only
  change (if profile.isTransparent && !known.running.isEmpty then _ else _) = _
  split <;> rfl

private theorem close_withErrors (stop : Nat) :
    (builder.withErrors errors).close stop = (builder.close stop).withErrors errors := by
  obtain ⟨arena, config, running, names, root, older⟩ := builder
  unfold close withErrors
  cases running with
  | nil => rfl
  | cons production rest =>
    dsimp only
    cases production.node with
    | none => rfl
    | some id =>
      dsimp only
      split <;> rfl

private theorem finish_withErrors {builder : TreeBuilder} {tree : ParseTree}
    {seen : List ParseError}
    (finished : builder.finish = .ok (tree, seen)) (errors : Array ParseError) :
    (builder.withErrors errors).finish = .ok (tree, errors.toList) := by
  unfold finish at finished ⊢
  change (if builder.running.isEmpty then _ else _) = _
  split at finished
  · cases finished
    rw [if_pos ‹_›]
    rfl
  · cases finished

private theorem backtrack_withErrors :
    (builder.withErrors errors).backtrack = builder.backtrack.withErrors errors := by
  obtain ⟨arena, config, running, names, root, older⟩ := builder
  unfold backtrack withErrors
  cases running <;> rfl

end TreeBuilder

namespace Environment

variable {U : Type} {fewer limit : Nat} (le : fewer ≤ limit) (grammar : Grammar U)
  (source : Array U) (skipLeading : Bool)
include le

/-- Values do not depend on the errors that are seen. -/
theorem tells_values :
    Tells (.whole source)
      (fun count errors errors' => Truncated limit fewer count errors.toList errors'.toList) True
      ⟨grammar, ⟨skipLeading, limit⟩, .values grammar source⟩
      ⟨grammar, ⟨skipLeading, fewer⟩, .values grammar source⟩ where
  grammar := rfl
  leading := rfl
  fits := (Alignment.isWhole_whole source).fitsGrammar grammar
  whole _ := Alignment.isWhole_whole source
  sink _ _ := rfl
  start _ _ _ _ _ _ _ compare := compare
  ticket _ _ _ _ _ _ _ := rfl
  token _ _ _ _ _ _ _ _ _ _ compare := compare
  ended _ _ _ ending ending' _ _ _ _ _ compare := by
    cases ending <;> cases ending' <;> exact compare
  value _ _ _ _ _ _ _ _ _ := rfl
  error profile error error' same count errors errors' compare := by
    rw [(Alignment.isWhole_whole source).errors same]
    have raised := compare.raise le error
    unfold toldError
    dsimp only [Observer.values]
    rw [apply_ite Array.toList, apply_ite Array.toList, Array.toList_push, Array.toList_push]
    exact raised

/-- Whoever receives the errors of one run gets the first ones of those that the other one
collects. -/
theorem tells_errors {τ : Type} (receive : ParseError → τ → τ) (start : τ) :
    Tells (.whole source)
      (fun count errors notes => ∃ errors', Truncated limit fewer count errors errors' ∧
        notes = errors'.foldl (fun notes error => receive error notes) start) False
      ⟨grammar, ⟨skipLeading, limit⟩, .errors fun error errors => errors ++ [error]⟩
      ⟨grammar, ⟨skipLeading, fewer⟩, .errors receive⟩ where
  grammar := rfl
  leading := rfl
  fits := (Alignment.isWhole_whole source).fitsGrammar grammar
  whole := False.elim
  sink _ := False.elim
  start _ _ _ _ _ _ _ compare := compare
  ticket _ _ _ _ _ _ := False.elim
  token _ _ _ _ _ _ _ _ _ _ compare := compare
  ended _ _ _ ending ending' _ _ _ _ _ compare := by
    cases ending <;> cases ending' <;> exact compare
  value _ _ _ _ _ _ _ _ := False.elim
  error profile error error' same count errors notes compare := by
    obtain ⟨errors', truncated, rfl⟩ := compare
    rw [(Alignment.isWhole_whole source).errors same]
    refine ⟨_, truncated.raise le error, ?_⟩
    unfold toldError
    dsimp only [Observer.errors]
    split
    · rw [List.foldl_append, List.foldl_cons, List.foldl_nil]
    · rfl

/-- A tree does not depend on the errors that are seen beside it. -/
theorem tells_tree :
    Tells (.whole source)
      (fun count builder builder' => ∃ errors', builder' = builder.withErrors errors' ∧
        Truncated limit fewer count builder.errors.toList errors'.toList) False
      ⟨grammar, ⟨skipLeading, limit⟩, TreeBuilder.observer⟩
      ⟨grammar, ⟨skipLeading, fewer⟩, TreeBuilder.observer⟩ where
  grammar := rfl
  leading := rfl
  fits := (Alignment.isWhole_whole source).fitsGrammar grammar
  whole := False.elim
  sink _ := False.elim
  ticket _ _ _ _ _ _ := False.elim
  value _ _ _ _ _ _ _ _ := False.elim
  start profile position position' here count builder _ compare := by
    obtain ⟨errors', rfl, truncated⟩ := compare
    rw [(Alignment.isWhole_whole source).places here]
    refine ⟨errors', congrArg Prod.snd (builder.start_withErrors errors' profile position), ?_⟩
    rwa [show (TreeBuilder.observer.start profile position builder).2.errors = builder.errors from
      builder.errors_start profile position]
  token kind first first' stop stop' begins ends count builder _ compare := by
    obtain ⟨errors', rfl, truncated⟩ := compare
    rw [(Alignment.isWhole_whole source).places begins,
      (Alignment.isWhole_whole source).places ends]
    refine ⟨errors', builder.token_withErrors errors' kind first stop, ?_⟩
    rwa [show (TreeBuilder.observer.token kind first stop builder).errors = builder.errors from
      builder.errors_token kind first stop]
  ended profile ticket ticket' ending ending' _ endings count builder _ compare := by
    obtain ⟨errors', rfl, truncated⟩ := compare
    cases endings with
    | @finished _ _ stop _ ends =>
      rw [(Alignment.isWhole_whole source).places ends]
      refine ⟨errors', builder.close_withErrors errors' stop, ?_⟩
      rwa [← builder.errors_close stop] at truncated
    | @canceled stop _ ends =>
      rw [(Alignment.isWhole_whole source).places ends]
      refine ⟨errors', builder.close_withErrors errors' stop, ?_⟩
      rwa [← builder.errors_close stop] at truncated
    | declined =>
      refine ⟨errors', builder.backtrack_withErrors errors', ?_⟩
      rwa [← builder.errors_backtrack] at truncated
  error profile error error' same count builder _ compare := by
    obtain ⟨errors', rfl, truncated⟩ := compare
    rw [(Alignment.isWhole_whole source).errors same]
    refine ⟨if count + 1 ≤ fewer then errors'.push error else errors', ?_, ?_⟩
    · unfold toldError
      dsimp only
      by_cases few : count + 1 ≤ fewer
      · rw [if_pos few, if_pos few, if_pos (Nat.le_trans few le)]
        rfl
      · rw [if_neg few, if_neg few]
        split <;> rfl
    · have raised := truncated.raise le error
      unfold toldError
      rw [apply_ite Array.toList, apply_ite TreeBuilder.errors, apply_ite Array.toList,
        Array.toList_push]
      dsimp only [TreeBuilder.observer]
      rw [Array.toList_push]
      exact raised

end Environment

namespace Grammar

variable {U : Type} [CodeUnit U] (grammar : Grammar U) (skipLeading : Bool) {fewer limit : Nat}
  (le : fewer ≤ limit) (cursor : Cursor U) (fuel : Nat)
include le

/-- Of a run that has collected errors up to the larger limit, the first ones are received. -/
theorem rel_validate {τ : Type} (receive : ParseError → τ → τ) (start : τ) :
    Option.Rel (fun result result' => result.2.length = min limit result.1.errorCount ∧
        result' = (result.1,
          (result.2.take fewer).foldl (fun notes error => receive error notes) start))
      (grammar.validate ⟨skipLeading, limit⟩ (fun error errors => errors ++ [error]) [] cursor fuel)
      (grammar.validate ⟨skipLeading, fewer⟩ receive start cursor fuel) := by
  have runs := rel_run (Environment.tells_errors le grammar cursor.source skipLeading receive start)
    (Alignment.cursors_whole cursor) ⟨[], .none_yet limit fewer, rfl⟩ fuel
  refine rel_map runs fun completion _ twin _ same => ?_
  obtain ⟨errors', truncated, notes⟩ := same.notes
  refine ⟨truncated.seen, ?_⟩
  rw [same.verdict (Alignment.isWhole_whole _), notes, truncated.kept]

private theorem rel_parse :
    Option.Rel (fun result result' => result.errors.length = min limit result.verdict.errorCount ∧
        result' = { result with errors := result.errors.take fewer })
      (grammar.parse ⟨skipLeading, limit⟩ cursor fuel)
      (grammar.parse ⟨skipLeading, fewer⟩ cursor fuel) := by
  have runs := rel_run (Environment.tells_values le grammar cursor.source skipLeading)
    (Alignment.cursors_whole cursor) (.none_yet limit fewer) fuel
  refine rel_map runs fun completion _ twin _ same => ⟨same.notes.seen, ?_⟩
  dsimp only
  rw [same.verdict (Alignment.isWhole_whole _), same.parsed, same.values trivial, same.notes.kept]

private theorem rel_parseTree (treeConfig : TreeConfig) :
    Option.Rel (fun result result' => result.errors.length = min limit result.verdict.errorCount ∧
        result' = { result with errors := result.errors.take fewer })
      (grammar.parseTree ⟨skipLeading, limit⟩ treeConfig cursor fuel)
      (grammar.parseTree ⟨skipLeading, fewer⟩ treeConfig cursor fuel) := by
  have begun : ∃ errors', TreeBuilder.empty treeConfig =
      (TreeBuilder.empty treeConfig).withErrors errors' ∧
        Truncated limit fewer 0 (TreeBuilder.empty treeConfig).errors.toList errors'.toList :=
    ⟨#[], rfl, .none_yet limit fewer⟩
  have runs := rel_run (Environment.tells_tree le grammar cursor.source skipLeading)
    (Alignment.cursors_whole cursor) begun fuel
  refine rel_map runs fun completion ran twin _ same => ?_
  obtain ⟨errors', builder, truncated⟩ := same.notes
  obtain ⟨tree, finished⟩ := finish_of_run ran
  have also := TreeBuilder.finish_withErrors finished errors'
  rw [← builder] at also
  refine ⟨?_, ?_⟩
  · simp only [finished]
    exact truncated.seen
  · simp only [finished, also]
    rw [same.verdict (Alignment.isWhole_whole _), truncated.kept]

/-- The limit on errors only cuts them off: with a smaller limit, a run hands on the first ones of
the errors that it hands on with a larger limit, as many as the smaller one allows, and is the same
run in all else, whether it checks the input, computes a value or builds a tree. With any limit, the
errors that are handed on are as many as there were, but for those above the limit. -/
theorem limit_only_truncates :
    (∀ (τ : Type) (receive : ParseError → τ → τ) (start : τ),
      grammar.validate ⟨skipLeading, fewer⟩ receive start cursor fuel =
        (grammar.validate ⟨skipLeading, limit⟩ (fun error errors => errors ++ [error]) [] cursor
          fuel).map fun result => (result.1,
            (result.2.take fewer).foldl (fun notes error => receive error notes) start)) ∧
    grammar.parse ⟨skipLeading, fewer⟩ cursor fuel =
      (grammar.parse ⟨skipLeading, limit⟩ cursor fuel).map (fun result =>
        { result with errors := result.errors.take fewer }) ∧
    (∀ treeConfig : TreeConfig,
      grammar.parseTree ⟨skipLeading, fewer⟩ treeConfig cursor fuel =
        (grammar.parseTree ⟨skipLeading, limit⟩ treeConfig cursor fuel).map fun result =>
          { result with errors := result.errors.take fewer }) ∧
    (∀ result, grammar.validate ⟨skipLeading, limit⟩ (fun error errors => errors ++ [error]) []
      cursor fuel = some result → result.2.length = min limit result.1.errorCount) ∧
    (∀ result, grammar.parse ⟨skipLeading, limit⟩ cursor fuel = some result →
      result.errors.length = min limit result.verdict.errorCount) ∧
    ∀ treeConfig result, grammar.parseTree ⟨skipLeading, limit⟩ treeConfig cursor fuel =
      some result → result.errors.length = min limit result.verdict.errorCount := by
  have checked {τ : Type} := rel_validate grammar skipLeading le cursor fuel (τ := τ)
  have parsed := rel_parse grammar skipLeading le cursor fuel
  have built := rel_parseTree grammar skipLeading le cursor fuel
  refine ⟨fun τ receive start => ?_, ?_, fun treeConfig => ?_, ?_, ?_, fun treeConfig => ?_⟩
  · exact eq_map_of_rel (checked receive start) fun _ _ same => same.2
  · exact eq_map_of_rel parsed fun _ _ same => same.2
  · exact eq_map_of_rel (built treeConfig) fun _ _ same => same.2
  · exact left_of_rel (checked (fun _ _ => ()) ()) fun _ _ same => same.1
  · exact left_of_rel parsed fun _ _ same => same.1
  · exact left_of_rel (built treeConfig) fun _ _ same => same.1

omit [CodeUnit U] le in
theorem limit_truncates_error_of_unit :
    ∃ result, Runner.soleUnit.parse ⟨true, 1⟩ (.start #['b']) 3 = some result ∧
      result.errors.length = 1 ∧
      Runner.soleUnit.parse ⟨true, 0⟩ (.start #['b']) 3 = some { result with errors := [] } := by
  have count : (Runner.soleUnit.parse ⟨true, 1⟩ (.start #['b']) 3).map
      (fun result => result.verdict.errorCount) = some 1 := by decide +kernel
  obtain ⟨result, parsed, errors⟩ := Option.map_eq_some_iff.mp count
  obtain ⟨-, truncates, -, -, seen, -⟩ :=
    limit_only_truncates Runner.soleUnit true (Nat.zero_le 1) (.start #['b']) 3
  refine ⟨result, parsed, ?_, ?_⟩
  · rw [seen result parsed, errors]
    rfl
  · rw [truncates, parsed]
    rfl

end Grammar
end Descent
