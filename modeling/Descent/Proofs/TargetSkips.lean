import Descent.Proofs.Halting
import Descent.Proofs.RecoveryPoints
import Descent.Proofs.RuleConduct
import Descent.Proofs.Scans
import Descent.Proofs.TokenOutcomes

/-! Skipping input up to a target, by a rule that tries the targets at every place or by a token
that scans for their patterns. Both stop at the same place. The token is then followed by whitespace
as every token is, and the target may be part of that. -/

namespace Descent.Runner

open Descent.Parser Cursor
open Matcher (Sights SomeMatch)

variable {U σ : Type} [CodeUnit U] {environment : Environment U σ} {state : State U σ} {fuel : Nat}

/-- A token that is tried tells whether its pattern matches. -/
theorem Answers.of_token {token : Token U} {holds : Attempt → Prop}
    (answers : (withFuel fuel).Answers environment state (.token token) holds) :
    holds (if token.pattern.matchesAt state.cursor then .accepted else .backtracked) := by
  cases fuel with
  | zero =>
    obtain ⟨step, ran, -⟩ := answers
    cases ran
  | succ fuel =>
    change ((withFuel fuel).attemptToken token).Gives _ (unreported state) _ at answers
    unfold Pattern.matchesAt
    cases ran : token.pattern.run (unreported state).cursor with
    | failed failure stopped =>
      rw [gives_attemptToken_of_failed ran] at answers
      rwa [show token.pattern.run state.cursor = _ from ran]
    | matched after =>
      rw [gives_attemptToken_of_matched ran] at answers
      rw [show token.pattern.run state.cursor = _ from ran]
      obtain ⟨_, _, held⟩ := answers
      exact held

private theorem Accepted.of_tokens {targets : List (Token U)} {answer : Bool}
    (accepted : (withFuel fuel).Accepted environment state (targets.map .token) answer) :
    answer = true ↔ SomeMatch (targets.map Token.pattern) state.cursor := by
  obtain ⟨found, finds, rfl⟩ := accepted
  unfold SomeMatch
  induction targets with
  | nil =>
    cases finds
    simp
  | cons token rest ih =>
    rw [List.map_cons, firstOf_cons] at finds
    rcases finds with ⟨answers, rfl⟩ | ⟨answers, finds⟩
    · have matched : token.pattern.matchesAt state.cursor = true := by
        simpa using answers.of_token
      simp [matched]
    · have differs : token.pattern.matchesAt state.cursor = false := by
        simpa using answers.of_token
      simp [differs, ih finds]

/-- The place where a rule finds one of some tokens is where a scan sights one of their patterns. -/
theorem sights_of_parse_find {targets : List (Token U)} {position : Nat}
    (found : ((withFuel fuel).parse (.find (targets.map .token) [])).Gives environment state
      fun parsed _ after => parsed = true ∧ after.cursor.position = position) :
    Sights (SomeMatch (targets.map Token.pattern)) (SomeMatch ([] : List (Pattern U)))
      state.cursor position := by
  cases fuel with
  | zero =>
    obtain ⟨step, ran, -⟩ := found
    cases ran
  | succ fuel =>
    obtain ⟨place, answer, leftmost, outcome⟩ := (gives_parseFind _ [] _).mp found
    cases answer with
    | none => exact absurd outcome.1 Bool.false_ne_true
    | some answer =>
      have here : place = position := by
        have same := outcome.2
        have skipped : (state.skippedTo environment.observer place).cursor =
            state.cursor.moveTo place := by
          unfold State.skippedTo
          split <;> rfl
        rw [skipped] at same
        exact (Nat.min_eq_left leftmost.le_last).symm.trans same
      subst here
      refine ⟨⟨leftmost.first_le, leftmost.le_last, leftmost.here.of_tokens.mp rfl, ?_⟩, ?_⟩
      · intro earlier low high sighted
        exact Bool.false_ne_true ((leftmost.passed earlier low high).1.of_tokens.mpr sighted)
      · rintro earlier low high ⟨limit, member, -⟩
        cases member

private theorem gives_parse_findToken {targets : List (Token U)} {position : Nat}
    (sights : Sights (SomeMatch (targets.map Token.pattern)) (SomeMatch ([] : List (Pattern U)))
      state.cursor position)
    (post : Bool → List Value → State U σ → Prop) :
    ((withFuel (fuel + 1)).parse (.token (.find targets))).Gives environment state post ↔
      (withFuel fuel).skipWhitespace.Gives environment
        ((state.movedTo position).withToken environment.observer .error
          state.cursor.position position)
        fun _ values after => post true values after := by
  have matched : (Token.find targets).pattern.run state.cursor =
      .matched (state.cursor.moveTo position) :=
    (Pattern.run_find ..).trans
      ((Matcher.find_eq_matched_iff _ _).mpr ⟨position, sights, rfl⟩)
  have stops : (state.cursor.moveTo position).position = position :=
    Nat.min_eq_left sights.first.le_stop
  change ((withFuel fuel).parseToken _).Gives environment state post ↔ _
  rw [gives_parseToken_of_matched matched, stops]
  rfl

/-- Rounds that skip whitespace stay where they are if the first one does, since none goes back. -/
theorem gives_skipRounds_stay_iff (framed : state.scope.frames ≠ []) (whitespace : Rule U) :
    (iterate (fun _ => do
      let start ← cursor
      let attempt ← quietly ((withFuel fuel).attempt whitespace)
      if attempt.isAccepted && (← cursor).position != start.position then return .again ()
      else return .done ()) (withFuel fuel : Runner U σ).fuel () : Parser U σ Unit).Gives
        environment state (fun _ _ after => after.cursor.position = state.cursor.position) ↔
      ((withFuel fuel).attempt whitespace).Gives environment state
        fun _ _ after => after.cursor.position = state.cursor.position := by
  cases fuel with
  | zero =>
    constructor <;>
    · rintro ⟨step, ran, -⟩
      cases ran
  | succ fuel =>
    let run : Runner U σ := withFuel (fuel + 1)
    have settles : run.Settles := settles_withFuel (fuel + 1)
    have settled := settles.attempt whitespace environment state framed
    rw [show (withFuel (fuel + 1) : Runner U σ).fuel = fuel + 1 from rfl]
    simp only [gives_iterate_succ, gives_bind, gives_cursor, gives_quietly, gives_ite, gives_pure]
    constructor
    · intro gives
      refine (gives.and_ensures settled).mono fun attempt _ after outcome => ?_
      obtain ⟨continued, first⟩ := outcome
      split at continued
      next moved =>
        -- What was read in the first round is never given back.
        have onward := settles_skipRounds settles whitespace fuel environment after
          (first.frames ▸ framed)
        obtain ⟨step, -, stays, last⟩ := continued.and_ensures onward
        have back := last.reaches.position
        have forth := first.reaches.position
        rw [Bool.and_eq_true, bne_iff_ne] at moved
        rw [stays] at back
        exact absurd (Nat.le_antisymm back forth) moved.2
      next => exact continued
    · intro gives
      refine gives.mono fun attempt _ after stays => ?_
      simp [stays]

/-- No whitespace is skipped where the rule for it, tried once, reads nothing. -/
theorem gives_skipWhitespace_stays_iff :
    (withFuel fuel).skipWhitespace.Gives environment state
        (fun _ _ after => after.cursor.position = state.cursor.position) ↔
      ∀ whitespace ∈ state.scope.whitespace?,
        ((withFuel fuel).attempt whitespace).Gives environment state.muffled
          fun _ _ after => after.cursor.position = state.cursor.position := by
  rw [skipWhitespace, gives_bind, gives_scope]
  cases found : state.scope.whitespace? with
  | none => simp
  | some whitespace =>
    have framed : state.muffled.scope.frames ≠ [] := by
      intro none
      simp [Scope.whitespace?, show state.scope.frames = [] from none] at found
    simp only [Option.mem_some_iff, forall_eq', skipWith, gives_bind, gives_cursor, gives_scope,
      gives_modifyScope, gives_modifyReport, gives_ite, gives_reportToken, gives_pure, loop]
    refine Iff.trans ?_ (gives_skipRounds_stay_iff framed whitespace)
    constructor <;>
    · intro gives
      refine Gives.mono gives fun _ _ middle stays => ?_
      split at *
      all_goals exact stays

/-- Where skipping whitespace stays at a position, it stays where it is. -/
theorem gives_skipWhitespace_at_iff :
    (withFuel fuel).skipWhitespace.Gives environment state
        (fun _ _ after => after.cursor = state.cursor) ↔
      (withFuel fuel).skipWhitespace.Gives environment state
        (fun _ _ after => after.cursor.position = state.cursor.position) := by
  constructor
  · intro gives
    exact gives.mono fun _ _ _ same => congrArg Cursor.position same
  · intro gives
    have settled := ensures_skipWhitespace (settles_withFuel fuel) (Conduct.start environment state)
    refine (gives.and_ensures settled).mono fun _ _ after outcome => ?_
    obtain ⟨here, last⟩ := outcome
    exact Cursor.ext last.reaches.source here last.reaches.stop

/-- A token that scans for some targets takes the input up to the place where a rule finds one of
them, and then whitespace is skipped as after every token. So it is read if that comes to an end,
and it leaves the target to be read exactly where the rule for whitespace, if there is one in
effect, reads nothing before the target. -/
theorem findToken_reads_up_to_the_target (patience : Nat) (targets : List (Token U))
    (environment : Environment U σ) (state : State U σ) (position : Nat)
    (found : ((withFuel patience).parse (.find (targets.map .token) [])).Gives environment state
      fun parsed _ after => parsed = true ∧ after.cursor.position = position) :
    SomeMatch (targets.map Token.pattern) (state.cursor.moveTo position) ∧ ∀ fuel,
      let there := (state.movedTo position).withToken environment.observer .error
        state.cursor.position position
      (∀ post, ((withFuel (fuel + 1)).parse (.token (.find targets))).Gives environment state post ↔
        (withFuel fuel).skipWhitespace.Gives environment there
          fun _ values after => post true values after) ∧
      (((withFuel (fuel + 1)).parse (.token (.find targets))).Gives environment state
          (fun parsed _ after => parsed = true ∧ after.cursor = state.cursor.moveTo position) ↔
        ∀ whitespace ∈ state.scope.whitespace?,
          ((withFuel fuel).attempt whitespace).Gives environment there.muffled
            fun _ _ after => after.cursor.position = position) := by
  have sights := sights_of_parse_find found
  have stops : (state.cursor.moveTo position).position = position :=
    Nat.min_eq_left sights.first.le_stop
  refine ⟨sights.first.here, fun fuel => ⟨gives_parse_findToken sights, ?_⟩⟩
  rw [gives_parse_findToken sights]
  simp only [true_and]
  refine gives_skipWhitespace_at_iff.trans (gives_skipWhitespace_stays_iff.trans ?_)
  simp only [State.withToken, State.movedTo, stops]

section Examples

def spaced (input : Array Char) : State Char Unit where
  cursor := .start input
  scope :=
    ⟨[⟨soleProduction .otherwise, some (.token (.oneOf (.ascii .space))), 0⟩], [], false, 0⟩
  report := .fresh ()

private theorem gives_of_reads {rule : Rule Char} {input : Array Char} {parsed : Bool}
    {position : Nat}
    (reads : ((withFuel fuel).parse rule (soleEnvironment .otherwise) (spaced input)).map
      (fun step => (step.answer, step.state.cursor.position)) = some (parsed, position)) :
    ((withFuel fuel).parse rule).Gives (soleEnvironment .otherwise) (spaced input)
      fun answer _ after => answer = parsed ∧ after.cursor.position = position := by
  obtain ⟨step, ran, read⟩ := Option.map_eq_some_iff.mp reads
  exact ⟨step, ran, Prod.mk.inj read⟩

/-- A newline that a rule finds is lost to the token that finds it, with the whitespace after the
token. -/
theorem findToken_passes_newline :
    ((withFuel 4).parse (.find [.token .newline] [])).Gives (soleEnvironment .otherwise)
      (spaced #['a', '\n', 'b']) (fun parsed _ after => parsed = true ∧ after.cursor.position = 1) ∧
    ((withFuel 4).parse (.token (.find [.newline]))).Gives (soleEnvironment .otherwise)
      (spaced #['a', '\n', 'b']) (fun parsed _ after => parsed = true ∧ after.cursor.position = 2) ∧
    ∀ fuel, ¬((withFuel fuel).parse (.token (.find [.newline]))).Gives (soleEnvironment .otherwise)
      (spaced #['a', '\n', 'b']) fun _ _ after => after.cursor.position = 1 := by
  have found : ((withFuel 4).parse (.find ([Token.newline].map .token) [])).Gives
      (soleEnvironment .otherwise) (spaced #['a', '\n', 'b'])
      fun parsed _ after => parsed = true ∧ after.cursor.position = 1 :=
    gives_of_reads (by decide +kernel)
  refine ⟨found, gives_of_reads (by decide +kernel), fun fuel gives => ?_⟩
  have sights := sights_of_parse_find found
  cases fuel with
  | zero =>
    obtain ⟨step, ran, -⟩ := gives
    cases ran
  | succ fuel =>
    rw [gives_parse_findToken sights] at gives
    generalize place : ((spaced #['a', '\n', 'b']).movedTo 1).withToken
      (soleEnvironment .otherwise).observer .error _ 1 = there at gives
    have here : there.cursor.position = 1 := by
      rw [← place]
      decide
    have spaces : there.scope.whitespace? = some (.token (.oneOf (.ascii .space))) := by
      rw [← place]
      rfl
    have matched : (Token.oneOf (.ascii .space)).pattern.run there.muffled.cursor =
        .matched (there.cursor.moveTo 2) := by
      rw [← place]
      rfl
    have behind : (there.cursor.moveTo 2).position = 2 := by
      rw [← place]
      decide
    rw [← here, gives_skipWhitespace_stays_iff] at gives
    have tried := gives _ spaces
    cases fuel with
    | zero =>
      obtain ⟨step, ran, -⟩ := tried
      cases ran
    | succ fuel =>
      change ((withFuel fuel).attemptToken _).Gives _ there.muffled _ at tried
      rw [gives_attemptToken_of_matched matched, gives_skipWhitespace_alone rfl] at tried
      rw [here] at tried
      exact absurd (behind.symm.trans tried) (by decide)

/-- A semicolon is found by both, and the space before it is what they skip. -/
theorem findToken_stops_before_semicolon :
    ((withFuel 4).parse (.find [.token (.literal ";")] [])).Gives (soleEnvironment .otherwise)
      (spaced #['a', ' ', ';']) (fun parsed _ after => parsed = true ∧ after.cursor.position = 2) ∧
    ((withFuel 3).parse (.token (.find [.literal ";"]))).Gives (soleEnvironment .otherwise)
      (spaced #['a', ' ', ';']) fun parsed _ after =>
        parsed = true ∧ after.cursor = (spaced #['a', ' ', ';']).cursor.moveTo 2 := by
  have found : ((withFuel 4).parse (.find ([Token.literal ";"].map .token) [])).Gives
      (soleEnvironment .otherwise) (spaced #['a', ' ', ';'])
      fun parsed _ after => parsed = true ∧ after.cursor.position = 2 :=
    gives_of_reads (by decide +kernel)
  refine ⟨found, ?_⟩
  have reads := findToken_reads_up_to_the_target 4 [.literal ";"] (soleEnvironment .otherwise)
    (spaced #['a', ' ', ';']) 2 found
  rw [(reads.2 2).2]
  intro whitespace member
  cases (Option.mem_some.mp member : .token (.oneOf (.ascii .space)) = whitespace)
  have declines : ((withFuel 2).attempt (.token (.oneOf (.ascii .space)))
      (soleEnvironment .otherwise) (((spaced #['a', ' ', ';']).movedTo 2).withToken
        (soleEnvironment .otherwise).observer .error 0 2).muffled).map
          (fun step => step.state.cursor.position) = some 2 := by
    decide +kernel
  obtain ⟨step, ran, stays⟩ := Option.map_eq_some_iff.mp declines
  exact ⟨step, ran, stays⟩

end Examples

end Descent.Runner
