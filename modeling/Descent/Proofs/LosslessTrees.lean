import Descent.Proofs.GrammarBuilding
import Descent.Proofs.RuleConduct
import Descent.Proofs.TreeBuilding
import Descent.Proofs.TreeSpans
import Descent.Run.BuildTree

/-! Nothing of the input is lost in the tree of a run. A run tells its observer of one production,
the entry, and what is told inside of it tiles all that was read. -/

namespace Descent

open Descent.Parser Happening SyntaxTree

namespace Runner

variable {U σ : Type} {run : Runner U σ}

/-- What a call from outside of productions tells: the production, and how it ended. -/
theorem ensures_call_outermost (settles : run.Settles) {environment : Environment U σ}
    {state : State U σ} {production : Production U} {id : ProductionId}
    (found : environment.grammar.production? id = some production)
    (outermost : state.scope.frames = []) (seen : state.report.muted = 0) :
    (run.call id false).Ensures environment state fun _ _ after =>
      state.cursor.Reaches after.cursor ∧
        ∃ inside ending, ending.stop? = some after.cursor.position ∧
          Tiles state.cursor.position inside after.cursor.position ∧
          after.report.ledger =
            (Happening.production production.profile state.cursor.position inside ending).tell
              environment.observer environment.config.maxErrors state.report.ledger := by
  have inner : (state.inside environment production).scope.frames ≠ [] := by
    simp [State.inside, Scope.inside]
  have begun : Settled environment state.cursor.position (state.inside environment production)
      (state.inside environment production) :=
    .start environment (state.inside environment production)
  rw [call, ensures_bind, ensures_environment, found, ensures_callProduction]
  refine ((settles_skipLeading settles _ environment).after inner begun).mono ?_
  intro _ skipped middle leading
  simp only [runAs, Bool.false_eq_true, if_false, ensures_bind, ensures_pure, List.append_nil]
  refine ((settles.parse production.rule).after inner leading).mono ?_
  intro parsed values after settled
  obtain ⟨history, told, -, accounts⟩ := settled.told
  have tiles : Tiles state.cursor.position history after.cursor.position := by
    rw [Accounts, if_pos (by exact seen)] at accounts
    exact accounts
  have ended : ∀ ending, (after.outside.withEnd environment production.profile _
      ending).report.ledger = _ := fun ending =>
    Conduct.ledger_ended ending seen settled.muted told
  unfold CallEnsures
  cases parsed with
  | false => exact ⟨settled.reaches, history, _, rfl, tiles, ended _⟩
  | true =>
    let last := after.outside.withEnd environment production.profile
      (state.report.ticket environment.observer production.profile state.cursor.position)
      (.finished values after.cursor.position)
    have closed : Settled environment state.cursor.position state last := settled.ended rfl
    have outside : last.scope.frames = [] := closed.frames.trans outermost
    change (if production.profile.isToken then run.skipWhitespace else pure ()).Ensures
      environment last _
    have unmoved : (if production.profile.isToken then run.skipWhitespace else pure ()).Ensures
        environment last fun _ _ final => final = last := by
      split
      · simp [skipWhitespace, Scope.whitespace?, outside]
      · simp
    refine unmoved.mono ?_
    rintro _ more _ rfl
    exact ⟨settled.reaches, history, _, rfl, tiles, ended _⟩

end Runner

namespace Grammar

variable {U : Type} [CodeUnit U]

/-- A run of a grammar that has its entry tells of one production, with all that was read inside. -/
theorem run_tells_of_entry {σ : Type} {grammar : Grammar U} {production : Production U}
    {config : ParseConfig} {observer : Observer σ} {notes : σ} {cursor : Cursor U} {fuel : Nat}
    {completion : Completion σ} (found : grammar.production? grammar.entry = some production)
    (ran : grammar.run config observer notes cursor fuel = some completion) :
    ∃ inside ending,
      ending.stop? = some completion.verdict.position ∧
        cursor.position ≤ completion.verdict.position ∧
        completion.verdict.position ≤ cursor.source.size ∧
        Tiles cursor.position inside completion.verdict.position ∧
        (⟨completion.verdict.statistics.tokens, completion.verdict.statistics.errors,
            completion.notes⟩ : Ledger σ) =
          (Happening.production production.profile cursor.position inside ending).tell
            observer config.maxErrors ⟨0, 0, notes⟩ := by
  simp only [run, Option.map_eq_some_iff] at ran
  obtain ⟨step, called, rfl⟩ := ran
  let environment : Environment U σ := ⟨grammar, config, observer⟩
  have outermost : (Runner.withFuel fuel).call grammar.entry false |>.Ensures environment
      (.initial cursor notes) _ :=
    Runner.ensures_call_outermost (Runner.settles_withFuel fuel) found rfl rfl
  obtain ⟨reaches, inside, ending, ended, tiles, told⟩ := outermost step called
  refine ⟨inside, ending, ended, reaches.position, ?_, tiles, told⟩
  have source : step.state.cursor.source = cursor.source := reaches.source
  rw [← source]
  exact Nat.le_trans step.state.cursor.position_le_stop step.state.cursor.stop_le_size

/-- A grammar that was built has its entry, so its runs tell of that. -/
theorem run_tells {σ : Type} {builder : GrammarBuilder U} {grammar : Grammar U}
    {config : ParseConfig} {observer : Observer σ} {notes : σ} {cursor : Cursor U} {fuel : Nat}
    {completion : Completion σ} (built : builder.build = .ok grammar)
    (ran : grammar.run config observer notes cursor fuel = some completion) :
    ∃ profile inside ending,
      ending.stop? = some completion.verdict.position ∧
        cursor.position ≤ completion.verdict.position ∧
        completion.verdict.position ≤ cursor.source.size ∧
        Tiles cursor.position inside completion.verdict.position ∧
        completion.notes = ((Happening.production profile cursor.position inside ending).tell
          observer config.maxErrors ⟨0, 0, notes⟩).notes := by
  obtain ⟨production, found⟩ := GrammarBuilder.production?_entry built
  obtain ⟨inside, ending, ended, forward, bounded, tiles, told⟩ := run_tells_of_entry found ran
  exact ⟨production.profile, inside, ending, ended, forward, bounded, tiles,
    congrArg Ledger.notes told⟩

/-- Nothing of the input is lost in a tree, however the run ends: its root covers what was read, the
children of every node tile its span, and what the leaves cover is all that was read. -/
theorem parseTree_lossless (builder : GrammarBuilder U) (grammar : Grammar U)
    (config : ParseConfig) (treeConfig : TreeConfig) (cursor : Cursor U) (fuel : Nat)
    (result : ParseResult ParseTree) (built : builder.build = .ok grammar)
    (ran : grammar.parseTree config treeConfig cursor fuel = some result) :
    ∃ tree root, result.value = some tree ∧ tree.root = some root ∧
      (tree.span root).first = cursor.position ∧
      (tree.span root).stop = result.verdict.position ∧
      (∀ id < tree.nodeCount, ∀ production, tree.content id = .production production →
        Span.Tiles (tree.span id).first ((tree.children id).map tree.span) (tree.span id).stop) ∧
      tree.leaves.flatMap (tree.lexeme cursor.source) =
        (cursor.source.extract cursor.position result.verdict.position).toList := by
  obtain ⟨completion, finished, rfl⟩ := Option.map_eq_some_iff.mp ran
  obtain ⟨profile, inside, ending, ended, forward, bounded, tiles, told⟩ := run_tells built finished
  obtain ⟨tree, errors, finish, planted⟩ :=
    TreeBuilder.planted_of_root config.maxErrors ended tiles.forward ⟨0, 0, .empty treeConfig⟩ rfl
  rw [← told] at finish
  obtain ⟨-, lossless, -⟩ :=
    (tiles.spread profile.isToken (.nil cursor.position)).node profile.id
  have span := ParseTree.span_of_held planted.held
  have stop : (Span.between cursor.position completion.verdict.position).stop =
      completion.verdict.position := Nat.max_eq_right forward
  rw [finish]
  refine ⟨tree, 0, rfl, planted.root, by rw [span]; rfl, by rw [span]; exact stop, ?_, ?_⟩
  · intro id less production content
    exact ParseTree.children_tile planted lossless less content
  · have joined := ParseTree.lexemes_of_leaves planted lossless cursor.source
      (Nat.le_trans (Nat.le_of_eq stop) bounded)
    apply joined.trans
    change (cursor.source.extract cursor.position _).toList = _
    rw [SyntaxTree.span, stop]

/-- Parentheses with any number of parentheses inside, and blanks after each of them. -/
def parentheses : Grammar Char where
  productions := #[⟨⟨0, "parentheses", false, false⟩,
    .sequence [.literal "(", .repeated (.call 0), .literal ")"], none, none, none⟩]
  whitespace := some (.token (.oneOf (.ascii .space)))
  entry := 0

def parenthesesBuilder : GrammarBuilder Char :=
  (GrammarBuilder.empty.production "parentheses"
    (.sequence [.literal "(", .repeated (.call 0), .literal ")"])).2.setWhitespace
      (.token (.oneOf (.ascii .space)))

theorem build_parentheses : parenthesesBuilder.build = .ok parentheses := by
  simp [parenthesesBuilder, GrammarBuilder.setWhitespace, GrammarBuilder.production,
    GrammarBuilder.declare, GrammarBuilder.add, GrammarBuilder.find?, GrammarBuilder.empty,
    Declaration.named, GrammarBuilder.define, GrammarBuilder.modify, GrammarBuilder.build,
    GrammarBuilder.chosenEntry, GrammarBuilder.productionsFrom, Declaration.production,
    Declaration.setRule, ProductionOptions.none]
  rfl

/-- Two pairs inside of one, and a unit that is not read. -/
def nestedInput : Array Char := #['(', '(', ')', ' ', '(', ')', ')', '!']

theorem parseTree_of_parentheses :
    ∃ result tree,
      parentheses.parseTree .standard .standard (.start nestedInput) 12 = some result ∧
        result.value = some tree ∧ tree.nodeCount = 10 ∧ (tree.children 0).length = 4 := by
  have reads : (parentheses.parseTree .standard .standard (.start nestedInput) 12).map
      (fun result => result.value.map fun tree => (tree.nodeCount, (tree.children 0).length)) =
        some (some (10, 4)) := by
    decide +kernel
  obtain ⟨result, ran, made⟩ := Option.map_eq_some_iff.mp reads
  obtain ⟨tree, value, counted⟩ := Option.map_eq_some_iff.mp made
  exact ⟨result, tree, ran, value, Prod.mk.inj counted⟩

/-- The tree of an input that is read in part, with productions inside of others. -/
theorem parseTree_of_parentheses_lossless :
    ∃ result tree root,
      parentheses.parseTree .standard .standard (.start nestedInput) 12 = some result ∧
        result.value = some tree ∧ tree.nodeCount = 10 ∧ tree.root = some root ∧
        (tree.span root).first = 0 ∧ (tree.span root).stop = result.verdict.position ∧
        (∀ id < 10, ∀ production, tree.content id = .production production →
          Span.Tiles (tree.span id).first ((tree.children id).map tree.span)
            (tree.span id).stop) ∧
        tree.leaves.flatMap (tree.lexeme nestedInput) =
          (nestedInput.extract 0 result.verdict.position).toList := by
  obtain ⟨result, tree, ran, made, count, -⟩ := parseTree_of_parentheses
  obtain ⟨same, root, value, own, first, stop, tiles, leaves⟩ :=
    parseTree_lossless parenthesesBuilder parentheses .standard .standard (.start nestedInput) 12
      result build_parentheses ran
  obtain rfl : tree = same := Option.some.inj (made.symm.trans value)
  rw [count] at tiles
  exact ⟨result, tree, root, ran, value, count, own, first, stop, tiles, leaves⟩

end Grammar
end Descent
