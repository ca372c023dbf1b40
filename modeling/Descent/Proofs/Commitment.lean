import Descent.Proofs.CommitmentLogic
import Descent.Proofs.FailureReports
import Descent.Proofs.FollowingRules

/-! Trying a rule commits to what parsing it does. A rule that is tried and taken does exactly what
it does when it is parsed, and a rule that declines reports an error when it is parsed. -/

namespace Descent

open Descent.Parser Pairing

namespace Rule

variable {U : Type}

theorem Exposed.trans {outer middle inner : Rule U} (first : outer.Exposed middle)
    (second : middle.Exposed inner) : outer.Exposed inner := by
  induction second with
  | self => exact first
  | part _ part ih => exact ih.part part

private theorem Exposed.eq_self {outer inner : Rule U} (alone : outer.parts = [])
    (exposed : outer.Exposed inner) : inner = outer := by
  induction exposed with
  | self => rfl
  | part _ part ih =>
    rw [ih, alone] at part
    cases part

def TokenWords (rule : Rule U) : Prop :=
  ∀ table word, rule.Exposed (.symbol table word) → ∃ token, word = .token token

theorem TokenWords.part {rule inner : Rule U} (words : rule.TokenWords)
    (part : inner ∈ rule.parts) : inner.TokenWords :=
  fun table word exposed => words table word (.trans (.part .self part) exposed)

private theorem tokenWords_token (token : Token U) : (Rule.token token).TokenWords :=
  fun _ _ exposed => nomatch exposed.eq_self rfl

private theorem tokenWords_symbol (table : SymbolTable U) (token : Token U) :
    (Rule.symbol table (.token token)).TokenWords := by
  intro other word exposed
  have member : Rule.symbol other word ∈ [.symbol table (.token token), .token token] :=
    exposed.mem (.head _) (by simp [parts])
  simp only [List.mem_cons, symbol.injEq, reduceCtorEq, List.not_mem_nil, or_false] at member
  exact ⟨token, member.2⟩

end Rule

def Grammar.TokenWords {U : Type} (grammar : Grammar U) : Prop :=
  ∀ production ∈ grammar.productions, production.rule.TokenWords

namespace Runner

variable {U σ : Type} {run : Runner U σ} {environment : Environment U σ} {state : State U σ}

/-- A runner that does when it tries a rule what it does when it parses it, inside of productions.
A token that is tried cannot fail. -/
structure Commits (run : Runner U σ) : Prop where
  followed : run.FollowedBy True run
  settles : run.Settles
  rule {environment : Environment U σ} (productions : environment.grammar.TokenWords)
    {rule : Rule U} (words : rule.TokenWords) {state : State U σ}
    (framed : state.scope.frames ≠ []) :
    Parser.Commits Attempt.taken (run.attempt rule) (run.parse rule) environment state
  token (token : Token U) (environment : Environment U σ) (state : State U σ) :
    (run.attempt (.token token)).Ensures environment state fun attempt _ _ => attempt ≠ .canceled

private theorem commits_attemptThen {first : Rule U} {rest : Parser U σ Bool}
    (settles : run.Settles)
    (commits : Parser.Commits Attempt.taken (run.attempt first) (run.parse first) environment state)
    (framed : state.scope.frames ≠ [])
    (keeps : ∀ middle, Settled environment state.cursor.position state middle →
      rest.Ensures environment middle fun _ _ after =>
        middle.report.statistics.errors ≤ after.report.statistics.errors) :
    Parser.Commits Attempt.taken (run.attemptThen first rest)
      (do if ← run.parse first then rest else return false) environment state := by
  refine commits.bind (settles.parse first environment state framed) ?_ ?_ ?_
  · intro answer result middle decided settled
    obtain rfl := Attempt.eq_ofBool decided
    cases result with
    | true => exact commits_ofBool rest
    | false => exact commits_pure rfl
  · intro answer middle decided
    obtain rfl := Attempt.eq_backtracked decided
    exact (ensures_pure ..).mpr rfl
  · intro result middle settled
    cases result with
    | true => exact keeps middle settled
    | false => exact (ensures_pure ..).mpr (Nat.le_refl _)

/-- Whitespace is skipped after what was taken. -/
theorem commits_ifAccepted (settles : run.Settles) {attempt : Parser U σ Attempt}
    {parse : Parser U σ Bool} (framed : state.scope.frames ≠ [])
    (commits : Parser.Commits Attempt.taken attempt parse environment state)
    (settled : parse.Ensures environment state fun _ _ middle =>
      Settled environment state.cursor.position state middle) :
    Parser.Commits Attempt.taken
      (do
        let attempt ← attempt
        if attempt.isAccepted then run.skipWhitespace
        return attempt)
      (do
        let parsed ← parse
        if parsed then run.skipWhitespace
        return parsed) environment state := by
  refine commits.bind settled ?_ ?_ ?_
  · intro answer result middle decided settled
    have framed : middle.scope.frames ≠ [] := by rwa [settled.frames]
    obtain rfl := Attempt.eq_ofBool decided
    cases result with
    | true => exact commits_accept _ rfl
    | false => exact commits_pure rfl
  · intro answer middle decided
    obtain rfl := Attempt.eq_backtracked decided
    exact (ensures_pure ..).mpr rfl
  · intro result middle settled
    have framed : middle.scope.frames ≠ [] := by rwa [settled.frames]
    cases result with
    | true =>
      refine (((settles_skipWhitespace settles).bind fun _ => settles_pure true) environment middle
        framed).mono ?_
      exact fun _ _ _ settled => settled.errors_le
    | false => exact (ensures_pure ..).mpr (Nat.le_refl _)

/-- A rule whose values are kept apart, and what is done with them if it is taken. -/
theorem commits_collect {attempt : Parser U σ Attempt} {parse : Parser U σ Bool}
    {rest : Attempt × List Value → Parser U σ Attempt} {rest' : Bool × List Value → Parser U σ Bool}
    (framed : state.scope.frames ≠ [])
    (commits : Parser.Commits Attempt.taken attempt parse environment state)
    (settled : parse.Ensures environment state fun _ _ middle =>
      Settled environment state.cursor.position state middle)
    (agree : ∀ parsed values middle, middle.scope.frames ≠ [] →
      Parser.Commits Attempt.taken (rest (.ofBool parsed, values)) (rest' (parsed, values))
        environment middle)
    (decline : ∀ values middle, (rest (.backtracked, values)).Ensures environment middle
      fun last _ _ => last = .backtracked)
    (keeps : ∀ answer, (rest' answer).Settles) :
    Parser.Commits Attempt.taken (collect attempt >>= rest) (collect parse >>= rest') environment
      state := by
  refine commits.collect.bind ((ensures_collect ..).mpr settled) ?_ ?_ ?_
  · rintro ⟨attempt, values⟩ ⟨parsed, values'⟩ middle decided settled
    obtain ⟨_, taken, same⟩ := Option.map_eq_some_iff.mp decided
    cases same
    obtain rfl := Attempt.eq_ofBool taken
    exact agree parsed values middle (by rwa [settled.frames])
  · rintro ⟨attempt, values⟩ middle decided
    obtain rfl := Attempt.eq_backtracked (Option.map_eq_none_iff.mp decided)
    exact (decline values middle).mono fun last _ _ declined => by rw [declined]; rfl
  · intro answer middle settled
    have framed : middle.scope.frames ≠ [] := by rwa [settled.frames]
    exact (keeps answer environment middle framed).mono fun _ _ _ settled => settled.errors_le

private theorem commits_attemptChoice (settles : run.Settles) (members : List (Rule U))
    (framed : state.scope.frames ≠ []) :
    Parser.Commits Attempt.taken (run.attemptChoice members) (run.parseChoice members) environment
      state := by
  intro step ran
  obtain ⟨attempt, values, after⟩ := step
  cases attempt with
  | accepted =>
    rw [← List.append_nil values]
    exact ran_bind ran rfl
  | canceled =>
    rw [← List.append_nil values]
    exact ran_bind ran rfl
  | backtracked =>
    have settled : Settled environment state.cursor.position state after :=
      settles_attemptChoice settles members environment state framed _ ran
    change (run.parseChoice members).Raises environment state
    rw [Raises, parseChoice, ensures_bind, ensures_iff ran]
    simpa [State.withError] using Nat.lt_succ_of_le settled.errors_le

private theorem commits_attemptPeek (rule : Rule U) (expected : Bool) :
    Parser.Commits Attempt.taken (run.attemptPeek rule expected) (run.parsePeek rule expected)
      environment state := by
  refine (looks_peekHolds rule expected).commits fun holds _ => ?_
  cases holds with
  | true => exact commits_pure rfl
  | false => exact commits_declined rfl (by simp [Raises, State.withError])

private theorem commits_attemptRequirement (name : String) (operation : Operation (Rule U)) :
    Parser.Commits Attempt.taken (attemptRequirement name operation)
      (parseRequirement name operation) environment state := by
  refine Commits.looking rfl ((looks_requirement name operation).commits fun holds _ => ?_)
  rcases holds with _ | _ | _
  · rw [Parser.Commits, ensures_bind, ensures_cursor]
    exact commits_ofBool (missingVariable name state.cursor.position)
  · exact commits_declined rfl (by simp [Raises, contextMismatch, State.withError])
  · exact commits_pure rfl

private theorem commits_attemptWithoutWhitespace (commits : run.Commits)
    (productions : environment.grammar.TokenWords) (rule : Rule U) (words : rule.TokenWords)
    (framed : state.scope.frames ≠ []) :
    Parser.Commits Attempt.taken (run.attemptWithoutWhitespace rule)
      (run.parseWithoutWhitespace rule) environment state :=
  commits_ifAccepted commits.settles framed
    (Parser.Commits.withoutWhitespace (commits.rule productions words framed))
    (settles_withoutWhitespace (commits.settles.parse rule) environment state framed)

private theorem commits_attemptList (commits : run.Commits)
    (productions : environment.grammar.TokenWords) (item : Rule U) (words : item.TokenWords)
    (separator : Option (Separator (Rule U))) (framed : state.scope.frames ≠ []) :
    Parser.Commits Attempt.taken (run.attemptList item separator) (run.parseList item separator)
      environment state := by
  refine looks_currentSink.commits fun sink _ => ?_
  refine commits_collect framed (commits.rule productions words framed)
    (commits.settles.parse item environment state framed) ?_ ?_ ?_
  · intro parsed values last framed
    cases parsed with
    | true => exact commits_ofBool _
    | false => exact commits_pure rfl
  · intro values last
    simp
  · rintro ⟨parsed, values⟩
    cases parsed with
    | true => exact settles_finishList commits.settles item separator sink values
    | false => exact settles_pure false

private theorem commits_attemptCapture (commits : run.Commits)
    (productions : environment.grammar.TokenWords) (rule : Rule U) (words : rule.TokenWords)
    (framed : state.scope.frames ≠ []) :
    Parser.Commits Attempt.taken (run.attemptCapture rule) (run.parseCapture rule) environment
      state := by
  refine looks_cursor.commits fun before _ => ?_
  refine commits_collect framed
    (Parser.Commits.withoutWhitespace (commits.rule productions words framed))
    (settles_withoutWhitespace (commits.settles.parse rule) environment state framed) ?_ ?_ ?_
  · intro parsed values last framed
    cases parsed with
    | true => exact commits_accept _ rfl
    | false => exact commits_pure rfl
  · intro values last
    simp [Attempt.isAccepted]
  · rintro ⟨parsed, values⟩
    cases parsed with
    | true =>
      exact (settles_acceptCapture commits.settles before values).bind fun _ => settles_pure true
    | false => exact settles_pure false

private theorem commits_attemptTokenized (rule : Rule U) (kind : TokenKind) :
    Parser.Commits Attempt.taken (run.attemptTokenized rule kind) (run.parseTokenized rule kind)
      environment state := by
  refine looks_cursor.commits fun before _ => ?_
  refine (looks_lookAhead_speculate _).commits ?_
  rintro ⟨isMatch, after⟩ -
  cases isMatch with
  | true => exact commits_accept _ rfl
  | false => exact commits_declined rfl (by simp [Raises, State.withError, State.withSkipped])

/-- A call that has not declined, as a rule that is parsed. -/
theorem ran_isAccepted {parser : Parser U σ Attempt} {parsed : Bool} {values : List Value}
    {last : State U σ} (ran : parser environment state = some ⟨.ofBool parsed, values, last⟩) :
    (do return (← parser).isAccepted : Parser U σ Bool) environment state =
      some ⟨parsed, values, last⟩ := by
  rw [← List.append_nil values]
  refine ran_bind ran ?_
  cases parsed <;> rfl

/-- A call does the same whether the rule of its production is tried or parsed, if that does. -/
theorem callProduction_eq {production : Production U} (framed : state.scope.frames ≠ [])
    {parsed : Bool} {values : List Value} {after : State U σ}
    (tried : run.attempt production.rule environment (state.inside environment production) =
      some ⟨.ofBool parsed, values, after⟩)
    (ran : run.parse production.rule environment (state.inside environment production) =
      some ⟨parsed, values, after⟩) :
    run.callProduction production true environment state =
      run.callProduction production false environment state := by
  have nested : state.scope.frames.isEmpty = false := by simpa using framed
  apply eq_of_ensures
  intro post
  rw [ensures_callProduction, ensures_callProduction]
  simp only [nested, skipLeading_false, ensures_pure, runAs, if_true, Bool.false_eq_true, if_false,
    ensures_bind, ensures_iff tried, ensures_iff ran, List.append_nil]

/-- A production whose rule reports an error when parsed does so when called. -/
theorem raises_callProduction (settles : run.Settles) (production : Production U)
    (framed : state.scope.frames ≠ [])
    (raises : (run.parse production.rule).Raises environment
      (state.inside environment production)) :
    (do return (← run.callProduction production false).isAccepted :
      Parser U σ Bool).Raises environment state := by
  have nested : state.scope.frames.isEmpty = false := by simpa using framed
  have inner : (state.inside environment production).scope.frames ≠ [] := by
    simp [State.inside, Scope.inside]
  rw [Raises, ensures_bind, ensures_callProduction]
  simp only [nested, skipLeading_false, ensures_pure, runAs, Bool.false_eq_true, if_false,
    ensures_bind, List.append_nil]
  refine ((settles.parse _ environment _ inner).and raises).mono ?_
  rintro parsed values after ⟨settled, less⟩
  unfold CallEnsures
  cases parsed with
  | false => exact less
  | true =>
    let ended := after.outside.withEnd environment production.profile
      (state.report.ticket environment.observer production.profile state.cursor.position)
      (.finished values after.cursor.position)
    change (if production.profile.isToken then run.skipWhitespace else pure ()).Ensures
      environment ended _
    have keeps : (if production.profile.isToken then run.skipWhitespace else pure ()).Ensures
        environment ended fun _ _ last =>
          ended.report.statistics.errors ≤ last.report.statistics.errors := by
      split
      · exact (ensures_skipWhitespace settles (.start environment ended)).mono
          fun _ _ _ settled => settled.errors_le
      · simp
    exact keeps.mono fun _ _ _ le => Nat.lt_of_lt_of_le less le

private theorem commits_callProduction (commits : run.Commits)
    (productions : environment.grammar.TokenWords) (production : Production U)
    (words : production.rule.TokenWords) (framed : state.scope.frames ≠ []) :
    Parser.Commits Attempt.taken (run.callProduction production true)
      (do return (← run.callProduction production false).isAccepted) environment state := by
  have nested : state.scope.frames.isEmpty = false := by simpa using framed
  have inner : (state.inside environment production).scope.frames ≠ [] := by
    simp [State.inside, Scope.inside]
  have whole : (run.callProduction production true).Ensures environment state
      fun answer values last =>
        run.callProduction production true environment state = some ⟨answer, values, last⟩ :=
    fun _ ran => ran
  rw [ensures_callProduction] at whole
  rw [Parser.Commits, ensures_callProduction]
  simp only [nested, skipLeading_false, ensures_pure, runAs, if_true] at whole ⊢
  intro step tried
  obtain ⟨attempt, values, after⟩ := step
  have committed := commits.rule productions words inner _ tried
  have ended := whole _ tried
  cases attempt with
  | accepted =>
    have same := callProduction_eq framed tried committed
    unfold CallEnsures at ended ⊢
    refine Ensures.mono ended fun _ more last ran => ?_
    exact ran_isAccepted (same.symm.trans ran)
  | canceled =>
    have same := callProduction_eq framed tried committed
    exact ran_isAccepted (same.symm.trans ended)
  | backtracked => exact raises_callProduction commits.settles production framed committed

private theorem commits_call (commits : run.Commits) (productions : environment.grammar.TokenWords)
    (id : ProductionId) (framed : state.scope.frames ≠ []) :
    Parser.Commits Attempt.taken (run.call id true)
      (do return (← run.call id false).isAccepted) environment state := by
  cases found : environment.grammar.production? id with
  | some production =>
    have member : production ∈ environment.grammar.productions := Array.mem_of_getElem? found
    have called (asBranch : Bool) : run.call id asBranch environment state =
        run.callProduction production asBranch environment state :=
      eq_of_ensures fun post => by
        rw [call, ensures_bind, ensures_environment, found]
        rfl
    refine (commits_callProduction commits productions production (productions production member)
      framed).of_eq (called true) (eq_of_ensures fun post => ?_)
    rw [ensures_bind, ensures_bind, Ensures, called]
    rfl
  | none =>
    have called : run.call id true environment state = run.call id false environment state :=
      eq_of_ensures fun post => by simp [call, found]
    have canceled : (run.call id true).Ensures environment state fun answer _ _ =>
        answer = .canceled := by simp [call, found]
    intro step ran
    obtain ⟨answer, values, after⟩ := step
    obtain rfl : answer = .canceled := canceled _ ran
    exact ran_isAccepted (called.symm.trans ran)

section SpeculatedWord

private theorem kept_unobserved (source : Array U) : (places (.whole source) : Pairing U σ σ).Kept
    True (unobserved environment) environment :=
  kept_places rfl rfl ((Alignment.isWhole_whole source).fitsGrammar _)

private theorem states_unreported (state : State U σ) :
    (places (.whole state.cursor.source) : Pairing U σ σ).States
      (unreported state).withoutWhitespace state.withoutWhitespace :=
  ⟨Alignment.cursors_whole _, (Alignment.isWhole_whole _).scopes_refl _, trivial⟩

variable (commits : run.Commits) {rule : Rule U} {values : List Value} {after : State U σ}
include commits

/-- What is parsed in a speculation, with nothing told, is parsed for good up to the same place. -/
private theorem parse_of_speculated {parsed : Bool}
    (alone : run.parse rule (unobserved environment) (unreported state).withoutWhitespace =
      some ⟨parsed, values, after⟩) :
    ∃ produced last, run.parse rule environment state.withoutWhitespace =
      some ⟨parsed, produced, last⟩ ∧ after.cursor = last.cursor := by
  have whole := Alignment.isWhole_whole state.cursor.source
  obtain ⟨_, produced, last, reads, rfl, -, stopped⟩ :=
    commits.followed.parse (kept_unobserved _) (whole.fits rule) _ _ (states_unreported state) _
      alone
  exact ⟨produced, last, reads, (whole.cursors stopped.cursor).symm⟩

private theorem attempt_of_speculated {attempt : Attempt}
    (alone : run.attempt rule (unobserved environment) (unreported state).withoutWhitespace =
      some ⟨attempt, values, after⟩) :
    ∃ produced last, run.attempt rule environment state.withoutWhitespace =
      some ⟨attempt, produced, last⟩ := by
  have whole := Alignment.isWhole_whole state.cursor.source
  obtain ⟨_, produced, last, reads, rfl, -, -⟩ :=
    commits.followed.attempt (kept_unobserved _) (whole.fits rule) _ _ (states_unreported state) _
      alone
  exact ⟨produced, last, reads⟩

end SpeculatedWord

variable [CodeUnit U]

private theorem commits_attemptToken (token : Token U) :
    Parser.Commits Attempt.taken (run.attemptToken token) (run.parseToken token) environment
      state := by
  refine looks_cursor.commits fun before _ => ?_
  cases token.pattern.run before with
  | matched after => exact commits_accept _ rfl
  | failed failure stopped =>
    exact commits_declined rfl (by simp [Raises, State.withError, State.withSkipped])

private theorem commits_attemptIdentifier (shape : IdentifierShape) (reserved : Trie U) :
    Parser.Commits Attempt.taken (run.attemptIdentifier shape reserved)
      (run.parseIdentifier shape reserved) environment state := by
  refine looks_cursor.commits fun before _ => ?_
  cases shape.run before with
  | matched after => exact commits_accept _ rfl
  | failed failure stopped =>
    exact commits_declined rfl (by simp [Raises, State.withError, State.withSkipped])

private theorem commits_attemptInteger (type : IntegerType) (digits : DigitRun) (signed : Bool) :
    Parser.Commits Attempt.taken (run.attemptInteger type digits signed)
      (run.parseInteger type digits signed) environment state := by
  refine looks_cursor.commits fun before _ => ?_
  obtain ⟨negative, first⟩ := readSign signed before
  dsimp only
  cases digits.run first with
  | matched after => exact commits_ofBool _
  | failed failure stopped =>
    exact commits_declined rfl (by simp [Raises, State.withError, State.withSkipped])

private theorem commits_attemptSymbolHere (table : SymbolTable U) :
    Parser.Commits Attempt.taken (run.attemptSymbolHere table) (run.parseSymbolHere table)
      environment state := by
  refine looks_cursor.commits fun before _ => ?_
  cases table.longest before with
  | none => exact commits_declined rfl (by simp [Raises, State.withError])
  | some found => exact commits_accept _ rfl

private theorem commits_attemptLookahead (needle limit : Pattern U) :
    Parser.Commits Attempt.taken (attemptLookahead needle limit) (parseLookahead needle limit)
      environment state := by
  refine looks_cursor.commits fun here _ => ?_
  cases (Pattern.lookahead needle limit).matchesAt here with
  | true => exact commits_pure rfl
  | false => exact commits_declined rfl (by simp [Raises, State.withError])

private theorem commits_attemptRecovering (commits : run.Commits)
    (productions : environment.grammar.TokenWords) (rule : Rule U) (words : rule.TokenWords)
    (recovery : Option (Rule U)) (framed : state.scope.frames ≠ []) :
    Parser.Commits Attempt.taken (run.attemptRecovering rule recovery)
      (run.parseRecovering rule recovery) environment state := by
  refine commits_collect framed (commits.rule productions words framed)
    (commits.settles.parse rule environment state framed) ?_ ?_ ?_
  · intro parsed values middle framed
    cases parsed with
    | true => exact commits_accept _ rfl
    | false => exact commits_ofBool _
  · intro values middle
    simp
  · rintro ⟨parsed, values⟩
    cases parsed with
    | true => exact (settles_emitAll values).bind fun _ => settles_pure true
    | false => exact settles_recoverFrom commits.settles rule recovery

/-- A symbol whose word reports an error reports one. -/
theorem raises_parseSymbol (settles : run.Settles) (table : SymbolTable U) (word : Rule U)
    (framed : state.scope.frames ≠ [])
    (raises : (run.parse word).Raises environment state.withoutWhitespace) :
    (run.parseSymbol table word).Raises environment state := by
  have framed' : state.withoutWhitespace.scope.frames ≠ [] := framed
  rw [Raises, parseSymbol, ensures_bind, ensures_cursor, ensures_bind, ensures_quietly,
    ensures_withoutWhitespace]
  refine ((settles.parse word environment _ framed').and raises).mono ?_
  rintro parsed values final ⟨settled, less⟩
  cases parsed with
  | false => exact (ensures_pure ..).mpr less
  | true =>
    have framed : final.againWithWhitespace.scope.frames ≠ [] := by
      change final.scope.frames ≠ []
      rwa [settled.frames]
    simp only [Bool.not_true, Bool.false_eq_true, if_false, ensures_bind, ensures_cursor]
    split
    · simpa [State.withError] using Nat.lt_succ_of_lt less
    · refine ((settles_acceptSymbol settles _).bind fun _ => settles_pure true)
        environment _ framed |>.mono fun _ _ _ settled => ?_
      exact Nat.lt_of_lt_of_le less settled.errors_le

section ReadWord

variable {table : SymbolTable U} {word : Rule U} {last : State U σ}
  (read : quietly (withoutWhitespace (run.parse word)) environment state = some ⟨true, [], last⟩)
  (le : state.report.statistics.errors ≤ last.report.statistics.errors)
include read le

private theorem raises_unknownSymbol
    (unknown : table.find (last.cursor.slice (state.cursor.spanTo last.cursor)) = none) :
    (run.parseSymbol table word).Raises environment state := by
  rw [Raises, parseSymbol, ensures_bind, ensures_cursor, ensures_bind, ensures_iff read]
  simpa [unknown, State.withError] using Nat.lt_succ_of_le le

/-- Once its word is read, a symbol goes on with its value. -/
theorem committed_parseSymbol {value : Value} {answer : Option Bool} {values : List Value}
    {after : State U σ}
    (found : table.find (last.cursor.slice (state.cursor.spanTo last.cursor)) = some value)
    (committed : (do
      run.acceptSymbol value
      return true : Parser U σ Bool).Committed environment last answer values after) :
    (run.parseSymbol table word).Committed environment state answer values after := by
  have here : cursor environment state = some ⟨state.cursor, [], state⟩ := rfl
  have there : cursor environment last = some ⟨last.cursor, [], last⟩ := rfl
  refine Committed.after here (Nat.le_refl _) (Committed.after read le ?_)
  simp only [Bool.not_true, Bool.false_eq_true, if_false]
  refine Committed.after there (Nat.le_refl _) ?_
  simp only [found]
  exact committed

end ReadWord

/-- The word of a symbol is looked at in a speculation, where the token stops where it stops when it
is read for good. -/
theorem commits_attemptSymbol (commits : run.Commits)
    (productions : environment.grammar.TokenWords) (table : SymbolTable U) (token : Token U)
    (framed : state.scope.frames ≠ []) :
    Parser.Commits Attempt.taken (run.attemptSymbol table (.token token))
      (run.parseSymbol table (.token token)) environment state := by
  have framed' : state.withoutWhitespace.scope.frames ≠ [] := framed
  rw [Parser.Commits, attemptSymbol, ensures_bind, ensures_cursor, ensures_bind, ensures_lookAhead,
    ensures_quietly, ensures_speculate, ensures_withoutWhitespace]
  intro step tried
  obtain ⟨attempt, values, after⟩ := step
  cases attempt with
  | canceled => exact absurd rfl (commits.token token _ _ _ tried)
  | accepted =>
    have productions : (unobserved environment).grammar.TokenWords := productions
    have framed : (unreported state).withoutWhitespace.scope.frames ≠ [] := framed
    have alone : run.parse (.token token) (unobserved environment)
        (unreported state).withoutWhitespace = some ⟨true, values, after⟩ :=
      commits.rule productions (Rule.tokenWords_token token) framed _ tried
    obtain ⟨_, last, reads, stopped⟩ := parse_of_speculated commits alone
    have read : quietly (withoutWhitespace (run.parse (.token token))) environment state =
        some ⟨true, [], last.againWithWhitespace⟩ :=
      ran_of_ensures fun post => by
        rw [ensures_quietly, ensures_withoutWhitespace, ensures_iff reads]
    have settled : Settled environment _ state.withoutWhitespace last :=
      commits.settles.parse (.token token) environment _ framed' _ reads
    have place : after.againWithWhitespace.cursor = last.againWithWhitespace.cursor :=
      stopped
    simp only [Attempt.isAccepted, Bool.not_true, Bool.false_eq_true, if_false, place]
    cases found : table.find (last.againWithWhitespace.cursor.slice
        (state.cursor.spanTo last.againWithWhitespace.cursor)) with
    | none => exact (ensures_pure ..).mpr (raises_unknownSymbol read settled.errors_le found)
    | some value =>
      rw [ensures_bind, ensures_discard, ensures_iff read]
      have accepts : Parser.Commits Attempt.taken
          (do
            run.acceptSymbol value
            return .accepted)
          (do
            run.acceptSymbol value
            return true) environment last.againWithWhitespace := commits_accept _ rfl
      exact accepts.mono fun _ _ _ committed =>
        committed_parseSymbol read settled.errors_le found committed
  | backtracked =>
    obtain ⟨_, last, reads⟩ := attempt_of_speculated commits tried
    have raises : (run.parse (.token token)).Raises environment state.withoutWhitespace :=
      commits.rule productions (Rule.tokenWords_token token) framed' _ reads
    simp only [Attempt.isAccepted, Bool.not_false, if_true, ensures_pure]
    exact raises_parseSymbol commits.settles table (.token token) framed raises

private theorem commits_attemptDelimited (commits : run.Commits)
    (productions : environment.grammar.TokenWords) (opening : Rule U) (words : opening.TokenWords)
    (form : Delimited U) (framed : state.scope.frames ≠ []) :
    Parser.Commits Attempt.taken (run.attemptDelimited opening form)
      (run.parseDelimited opening form) environment state := by
  have framed' : state.withoutWhitespace.scope.frames ≠ [] := framed
  refine looks_cursor.commits fun opened here => ?_
  cases here
  refine commits_ifAccepted commits.settles framed (Parser.Commits.withoutWhitespace ?_)
    (ensures_delimited commits.settles opening form framed)
  refine commits_attemptThen commits.settles (commits.rule productions words framed') framed' ?_
  intro middle settled
  have inside : middle.scope.frames ≠ [] := by rwa [settled.frames]
  have begun : Settled environment state.cursor.position middle middle :=
    .refl middle settled.reaches.position
  refine (ensures_parseContent commits.settles inside begun form (Nat.le_refl _)
    settled.reaches.position).mono ?_
  exact fun _ _ _ settled => settled.errors_le

/-- Every rule does when it is tried what it does when it is parsed, if those inside do. -/
theorem commits_attemptRule (commits : run.Commits) (productions : environment.grammar.TokenWords)
    {rule : Rule U} (words : rule.TokenWords) (framed : state.scope.frames ≠ []) :
    Parser.Commits Attempt.taken (run.attemptRule rule) (run.parseRule rule) environment state := by
  have part {inner : Rule U} (part : inner ∈ rule.parts) :
      Parser.Commits Attempt.taken (run.attempt inner) (run.parse inner) environment state :=
    commits.rule productions (words.part part) framed
  have keeps {rest : Parser U σ Bool} (settles : rest.Settles) (middle : State U σ)
      (settled : Settled environment state.cursor.position state middle) :
      rest.Ensures environment middle fun _ _ after =>
        middle.report.statistics.errors ≤ after.report.statistics.errors :=
    (settles environment middle (by rwa [settled.frames])).mono
      fun _ _ _ settled => settled.errors_le
  cases rule with
  | token token => exact commits_attemptToken token
  | tokenized rule kind => exact commits_attemptTokenized rule kind
  | identifier shape reserved => exact commits_attemptIdentifier shape reserved
  | capture rule =>
    exact commits_attemptCapture commits productions rule (words.part (.head _)) framed
  | integer type digits signed => exact commits_attemptInteger type digits signed
  | symbol table word =>
    obtain ⟨token, rfl⟩ := words table word .self
    exact commits_attemptSymbol commits productions table token framed
  | symbolHere table => exact commits_attemptSymbolHere table
  | sequence rules =>
    cases rules with
    | nil => exact commits_pure rfl
    | cons first rest =>
      exact commits_attemptThen commits.settles (part (.head _)) framed
        (keeps (settles_parseAll commits.settles rest))
  | branch condition rest =>
    exact commits_attemptThen commits.settles (part (.head _)) framed
      (keeps (settles_parseAll commits.settles rest))
  | choice members => exact commits_attemptChoice commits.settles members framed
  | repeatedOnce body =>
    exact commits_attemptThen commits.settles (part (.head _)) framed
      (keeps (settles_parseRepeated commits.settles body))
  | list item separator =>
    exact commits_attemptList commits productions item (words.part (.head _)) separator framed
  | delimited opening closing content escapes =>
    exact commits_attemptDelimited commits productions opening (words.part (.head _)) _ framed
  | onVariable name operation =>
    cases operation with
    | requireFlag expected => exact (commits_attemptRequirement name _).looking rfl
    | requireCounter expected => exact (commits_attemptRequirement name _).looking rfl
    | _ => exact commits_ofBool _
  | recovering rule recovery =>
    exact commits_attemptRecovering commits productions rule (words.part (.head _)) recovery framed
  | peek rule expected => exact commits_attemptPeek rule expected
  | lookahead needle limit => exact commits_attemptLookahead needle limit
  | call production => exact commits_call commits productions production framed
  | withoutWhitespace rule =>
    exact commits_attemptWithoutWhitespace commits productions rule (words.part (.head _)) framed
  | _ => exact commits_ofBool _

private theorem commits_withFuel (fuel : Nat) : (withFuel fuel : Runner U σ).Commits := by
  induction fuel with
  | zero =>
    exact ⟨followedBy_withFuel (Nat.le_refl _), settles_withFuel _,
      fun _ _ _ _ _ => ensures_outOfFuel _, fun _ _ _ => ensures_outOfFuel _⟩
  | succ fuel ih =>
    refine ⟨followedBy_withFuel (Nat.le_refl _), settles_withFuel _,
      fun productions _ words _ framed => commits_attemptRule ih productions words framed,
      fun token environment state => ?_⟩
    change ((withFuel fuel).attemptToken token).Ensures environment state _
    rw [attemptToken, ensures_bind, ensures_cursor]
    cases token.pattern.run state.cursor <;> simp

/-- Trying a rule commits to what parsing it does, where the words of symbols are tokens. Once it is
taken, parsing ends in the same way with the same values, at the same place and after the same
calls of the observer; once it declines, parsing reports an error. -/
theorem attempt_commits_to_parse (environment : Environment U σ) (rule : Rule U)
    (state : State U σ) (fuel : Nat) (step : Step U σ Attempt)
    (productions : environment.grammar.TokenWords) (words : rule.TokenWords)
    (framed : state.scope.frames ≠ [])
    (ran : (withFuel fuel).attempt rule environment state = some step) :
    (step.answer = .accepted → ∀ more ≥ fuel,
      (withFuel more).parse rule environment state = some ⟨true, step.values, step.state⟩) ∧
    (step.answer = .canceled → ∀ more ≥ fuel,
      (withFuel more).parse rule environment state = some ⟨false, step.values, step.state⟩) ∧
    (step.answer = .backtracked → ∀ enough last,
      (withFuel enough).parse rule environment state = some last →
        state.report.statistics.errors < last.state.report.statistics.errors) := by
  refine ⟨?_, ?_, ?_⟩
  · intro accepted more enough
    have committed := (commits_withFuel fuel).rule productions words framed step ran
    rw [accepted] at committed
    exact parse_with_more_fuel enough committed
  · intro canceled more enough
    have committed := (commits_withFuel fuel).rule productions words framed step ran
    rw [canceled] at committed
    exact parse_with_more_fuel enough committed
  · intro declined enough last parsed
    have tried := attempt_with_more_fuel (Nat.le_max_left fuel enough) ran
    have parsed := parse_with_more_fuel (Nat.le_max_right fuel enough) parsed
    have committed := (commits_withFuel (max fuel enough)).rule productions words framed step tried
    rw [declined] at committed
    exact committed last parsed

def symbolRule : Rule Char :=
  .symbol ⟨(Trie.empty.tryInsert ['a'] 0).1, #[.integer 1]⟩
    (.token ⟨.literal ⟨['a'], "a", false⟩, .literal, none⟩)

def beforeUnit : State Char Recording :=
  { beforeOtherUnit with cursor := .start #['a'] }

/-- The attempt is taken before `a` and declines before `b`. -/
theorem symbol_attempt_commits_to_parse :
    (∃ step, (withFuel 2).attempt symbolRule ⟨soleUnit, .standard, Recording.observer true⟩
        beforeUnit = some step ∧
      step.answer = .accepted ∧
      (withFuel 2).parse symbolRule ⟨soleUnit, .standard, Recording.observer true⟩
        beforeUnit = some ⟨true, step.values, step.state⟩) ∧
    ∃ step last, (withFuel 2).attempt symbolRule ⟨soleUnit, .standard, Recording.observer true⟩
        beforeOtherUnit = some step ∧
      step.answer = .backtracked ∧
      (withFuel 2).parse symbolRule ⟨soleUnit, .standard, Recording.observer true⟩
        beforeOtherUnit = some last ∧
      beforeOtherUnit.report.statistics.errors < last.state.report.statistics.errors := by
  have productions : soleUnit.TokenWords := by
    intro production member
    rw [soleUnit, Array.mem_singleton] at member
    rw [member]
    exact Rule.tokenWords_token _
  have words : symbolRule.TokenWords := Rule.tokenWords_symbol _ _
  constructor
  · have framed : beforeUnit.scope.frames ≠ [] := by simp [beforeUnit, beforeOtherUnit]
    have accepts : ((withFuel 2).attempt symbolRule
        ⟨soleUnit, .standard, Recording.observer true⟩ beforeUnit).map Step.answer =
          some .accepted := by decide +kernel
    obtain ⟨step, ran, accepted⟩ := Option.map_eq_some_iff.mp accepts
    have commits := attempt_commits_to_parse ⟨soleUnit, .standard, Recording.observer true⟩
      symbolRule beforeUnit 2 step productions words framed ran
    exact ⟨step, ran, accepted, commits.1 accepted 2 (Nat.le_refl 2)⟩
  · have framed : beforeOtherUnit.scope.frames ≠ [] := by simp [beforeOtherUnit]
    have declines : ((withFuel 2).attempt symbolRule
        ⟨soleUnit, .standard, Recording.observer true⟩ beforeOtherUnit).map Step.answer =
          some .backtracked := by decide +kernel
    have fails : ((withFuel 2).parse symbolRule
        ⟨soleUnit, .standard, Recording.observer true⟩ beforeOtherUnit).map Step.answer =
          some false := by decide +kernel
    obtain ⟨step, ran, declined⟩ := Option.map_eq_some_iff.mp declines
    obtain ⟨last, parsed, -⟩ := Option.map_eq_some_iff.mp fails
    have commits := attempt_commits_to_parse ⟨soleUnit, .standard, Recording.observer true⟩
      symbolRule beforeOtherUnit 2 step productions words framed ran
    exact ⟨step, last, ran, declined, parsed, commits.2.2 declined 2 last parsed⟩

end Runner
end Descent
