import Descent.Proofs.GrammarBuilding
import Descent.Proofs.RuleReports
import Descent.Run.Validate

/-! Whether failures are reported is a question about symbols only. A rule for symbols that is
tried looks for its word in a speculation, and if the word fails there, so does the rule,
without an error. In all other ways a failure is reported. -/

namespace Descent

open Descent.Parser

namespace Runner

variable {U σ : Type} [CodeUnit U] {run : Runner U σ} {environment : Environment U σ}
  {state : State U σ}

/-- The failure that nobody has seen. -/
theorem attemptSymbol_canceled (table : SymbolTable U) (word : Rule U) {step : Step U σ Attempt}
    (ran : run.attempt word (unobserved environment) (unreported state).withoutWhitespace =
      some step)
    (canceled : step.answer = .canceled) :
    run.attemptSymbol table word environment state = some ⟨.canceled, [], state⟩ := by
  obtain ⟨answer, values, after⟩ := step
  cases canceled
  exact ran_then state.cursor state rfl
    (ran_then _ _ (ran_speculation (ran_withoutWhitespace ran)) rfl)

end Runner

namespace Grammar

variable {U : Type} {grammar : Grammar U}

theorem Has.part {rule inner : Rule U} (has : grammar.Has rule) (part : inner ∈ rule.parts) :
    grammar.Has inner := by
  rcases has with ⟨production, member, exposed⟩ | ⟨production, member, whitespace, own, exposed⟩ |
    ⟨whitespace, own, exposed⟩
  · exact .inl ⟨production, member, exposed.part part⟩
  · exact .inr (.inl ⟨production, member, whitespace, own, exposed.part part⟩)
  · exact .inr (.inr ⟨whitespace, own, exposed.part part⟩)

private theorem has_production {id : ProductionId} {production : Production U}
    (found : grammar.production? id = some production) : grammar.Has production.rule :=
  .inl ⟨production, Array.mem_of_getElem? found, .self⟩

variable [CodeUnit U]

/-- A token declines or is taken, and never fails. -/
theorem not_cancelsAsWord_token (token : Token U) : ¬grammar.CancelsAsWord (.token token) := by
  intro answer
  obtain ⟨σ, config, observer, fuel, state, step, -, ran, canceled⟩ := answer
  cases fuel with
  | zero => cases ran
  | succ fuel =>
    have never : ((Runner.withFuel fuel).attemptToken token).Ensures
        (unobserved ⟨grammar, config, observer⟩) (unreported state).withoutWhitespace
        fun attempt _ _ => attempt ≠ .canceled := by
      rw [Runner.attemptToken, ensures_bind, ensures_cursor]
      cases token.pattern.run _ <;> simp
    exact never step ran canceled

private theorem sound_of_uncanceled (sparing : grammar.Sparing)
    (never : ∀ table word, grammar.Has (.symbol table word) → ¬grammar.CancelsAsWord word)
    {σ : Type} (config : ParseConfig) (observer : Observer σ) (fuel : Nat) :
    Runner.Sound ⟨grammar, config, observer⟩ (Runner.withFuel fuel) grammar.Has where
  part _ has _ part := has.part part
  production _ _ found := has_production found
  find targets limits has := (sparing _ has).1 targets limits rfl
  recover branches limits has := (sparing _ has).2 branches limits rfl
  symbol table word has state framed step ran canceled :=
    never table word has ⟨σ, config, observer, fuel, state, step, framed, ran, canceled⟩

private theorem reports_of_uncanceled (sparing : grammar.Sparing)
    (never : ∀ table word, grammar.Has (.symbol table word) → ¬grammar.CancelsAsWord word)
    (rule : Rule U) (has : grammar.Has rule) : grammar.Reports rule := by
  intro σ config observer fuel state framed
  have reports := Runner.reports_withFuel
    (sound_of_uncanceled sparing never config observer) fuel
  exact ⟨reports.parse rule has state framed, reports.attempt rule has state framed⟩

/-- A word that fails in a speculation makes its symbol fail in silence. -/
theorem uncanceled_of_reports {table : SymbolTable U} {word : Rule U}
    (reports : grammar.Reports (.symbol table word)) : ¬grammar.CancelsAsWord word := by
  intro answer
  obtain ⟨σ, config, observer, fuel, state, step, framed, ran, canceled⟩ := answer
  have silent : (Runner.withFuel (fuel + 1)).attempt (.symbol table word)
      ⟨grammar, config, observer⟩ state = some ⟨.canceled, [], state⟩ :=
    Runner.attemptSymbol_canceled table word ran canceled
  exact Nat.lt_irrefl _
    ((reports σ config observer (fuel + 1) state framed).2 _ silent rfl)

/-- An entry that fails is a failed rule as well. -/
theorem errors_of_fatal (sparing : grammar.Sparing)
    (never : ∀ table word, grammar.Has (.symbol table word) → ¬grammar.CancelsAsWord word)
    {σ : Type} {config : ParseConfig} {observer : Observer σ} {notes : σ} {cursor : Cursor U}
    {fuel : Nat} {completion : Completion σ}
    (ran : grammar.run config observer notes cursor fuel = some completion)
    (fatal : completion.verdict.outcome = .fatalFailure) : 1 ≤ completion.verdict.errorCount := by
  simp only [run, Option.map_eq_some_iff] at ran
  obtain ⟨step, called, rfl⟩ := ran
  have sound := sound_of_uncanceled sparing never config observer
  have reported := Runner.ensures_call_reports (Runner.settles_withFuel fuel)
    (Runner.reports_withFuel sound fuel) (sound fuel).production grammar.entry false
    (.initial cursor notes) step called
  refine Nat.lt_of_le_of_lt (Nat.zero_le _) (reported ?_)
  cases answer : step.answer with
  | accepted =>
    simp only [answer, Attempt.isAccepted, Outcome.ofRun] at fatal
    split at fatal
    · contradiction
    · split at fatal <;> cases fatal
  | canceled => trivial
  | backtracked => rfl

/-- In a grammar that skips to targets only when it recovers, failures are never silent if and
only if no symbol has a word that can fail in a speculation; and then a run that fails has
errors. -/
theorem failures_reported_iff (grammar : Grammar U) (sparing : grammar.Sparing) :
    ((∀ rule, grammar.Has rule → grammar.Reports rule) ↔
      ∀ table word, grammar.Has (.symbol table word) → ¬grammar.CancelsAsWord word) ∧
    ((∀ table word, grammar.Has (.symbol table word) → ¬grammar.CancelsAsWord word) →
      ∀ (σ : Type) (config : ParseConfig) (observer : Observer σ) (notes : σ)
        (cursor : Cursor U) (fuel : Nat) (completion : Completion σ),
        grammar.run config observer notes cursor fuel = some completion →
          completion.verdict.outcome = .fatalFailure → 1 ≤ completion.verdict.errorCount) := by
  refine ⟨⟨?_, reports_of_uncanceled sparing⟩, ?_⟩
  · intro reports table word has
    exact uncanceled_of_reports (reports _ has)
  · intro never σ config observer notes cursor fuel completion ran fatal
    exact errors_of_fatal sparing never ran fatal

def unitRule (unit : Char) : Rule Char :=
  .token ⟨.literal ⟨[unit], unit.toString, false⟩, .literal, none⟩

def symbolReadBy (word : Rule Char) : Rule Char :=
  .symbol ⟨(Trie.empty.tryInsert ['a', 'b'] 0).1, #[.integer 1]⟩ word

def choosing (branch : Rule Char) : Grammar Char where
  productions := #[⟨⟨0, "main", false, false⟩, .choice [branch], none, none, none⟩]
  whitespace := none
  entry := 0

private theorem choosing_has {branch rule : Rule Char} (rules : List (Rule Char))
    (has : (choosing branch).Has rule) (choice : .choice [branch] ∈ rules)
    (closed : ∀ rule ∈ rules, ∀ part ∈ rule.parts, part ∈ rules) : rule ∈ rules := by
  rcases has with ⟨production, member, exposed⟩ | ⟨production, member, whitespace, own, -⟩ |
    ⟨whitespace, own, -⟩
  · simp only [choosing, List.mem_toArray, List.mem_singleton] at member
    subst member
    exact exposed.mem choice closed
  · simp only [choosing, List.mem_toArray, List.mem_singleton] at member
    subst member
    cases own
  · cases own

/-- The word `ab` takes `a` and then fails, which the symbol keeps to itself. -/
theorem symbol_fails_silently :
    ∃ (builder : GrammarBuilder Char) (grammar : Grammar Char), builder.build = .ok grammar ∧
      grammar.Sparing ∧
      ∃ verdict, grammar.validate .standard List.cons [] (.start #['a', 'c']) 6 =
          some (verdict, []) ∧
        verdict.outcome = .fatalFailure ∧ verdict.errorCount = 0 := by
  refine ⟨_, _, GrammarBuilder.build_production "main" (.choice [symbolReadBy
    (.sequence [unitRule 'a', unitRule 'b'])]), ?_,
    ⟨.fatalFailure, 0, ⟨1, 0, 0, 0⟩⟩, by decide +kernel, rfl, rfl⟩
  intro rule has
  have member := choosing_has [_, symbolReadBy (.sequence [unitRule 'a', unitRule 'b']),
    .sequence [unitRule 'a', unitRule 'b'], unitRule 'a', unitRule 'b'] has
    (List.mem_cons_self ..) (by simp [symbolReadBy, unitRule, Rule.parts])
  simp only [List.mem_cons, List.not_mem_nil, or_false] at member
  rcases member with rfl | rfl | rfl | rfl | rfl <;> simp [symbolReadBy, unitRule]

private theorem choosing_symbolReadBy_unit_has {rule : Rule Char}
    (has : (choosing (symbolReadBy (unitRule 'a'))).Has rule) :
    rule = .choice [symbolReadBy (unitRule 'a')] ∨ rule = symbolReadBy (unitRule 'a') ∨
      rule = unitRule 'a' := by
  have member := choosing_has [_, symbolReadBy (unitRule 'a'), unitRule 'a'] has
    (List.mem_cons_self ..) (by simp [symbolReadBy, unitRule, Rule.parts])
  simpa using member

/-- A symbol read by a token is never silent. -/
theorem symbol_read_by_unit_reports :
    (choosing (symbolReadBy (unitRule 'a'))).Sparing ∧
      (choosing (symbolReadBy (unitRule 'a'))).Has (symbolReadBy (unitRule 'a')) ∧
      ∀ rule, (choosing (symbolReadBy (unitRule 'a'))).Has rule →
        (choosing (symbolReadBy (unitRule 'a'))).Reports rule := by
  have sparing : (choosing (symbolReadBy (unitRule 'a'))).Sparing := by
    intro rule has
    rcases choosing_symbolReadBy_unit_has has with rfl | rfl | rfl <;>
      simp [symbolReadBy, unitRule]
  refine ⟨sparing, ?_, (failures_reported_iff _ sparing).1.mpr ?_⟩
  · have root : (choosing (symbolReadBy (unitRule 'a'))).Has
        (.choice [symbolReadBy (unitRule 'a')]) :=
      .inl ⟨_, List.mem_toArray.mpr (List.mem_singleton.mpr rfl), .self⟩
    exact root.part (List.mem_singleton.mpr rfl)
  · intro table word has
    rcases choosing_symbolReadBy_unit_has has with same | same | same
    · cases same
    · cases same
      exact not_cancelsAsWord_token _
    · cases same

end Grammar
end Descent
