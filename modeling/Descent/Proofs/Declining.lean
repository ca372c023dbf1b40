import Descent.Parsing.Interpreter
import Descent.Proofs.Effects
import Descent.Proofs.Halting
import Descent.Proofs.ParserLogic
import Descent.Rule.Branching

/-! Which rules may decline the input. The kind of a rule is read off its form; a rule that is no
branch, or a branch that is always taken, does not decline anywhere. -/

namespace Descent

open Descent.Parser

/-- A parser that does not decline, whatever it is run on. -/
def Parser.Takes {U σ : Type} (parser : Parser U σ Attempt) : Prop :=
  ∀ environment state, parser.Ensures environment state fun attempt _ _ => attempt ≠ .backtracked

namespace Parser

variable {U σ α : Type}

private theorem takes_pure {attempt : Attempt} (taken : attempt ≠ .backtracked) :
    (pure attempt : Parser U σ Attempt).Takes := by
  intro environment state
  rw [ensures_pure]
  exact taken

private theorem takes_ofBool (parser : Parser U σ Bool) :
    (do return .ofBool (← parser) : Parser U σ Attempt).Takes := by
  intro environment state
  rw [ensures_bind]
  apply Ensures.of_forall
  intro parsed values after
  cases parsed <;> simp [Attempt.ofBool]

/-- A parser does not decline if what comes last in it does not. -/
theorem takes_bind {first : Parser U σ α} {rest : α → Parser U σ Attempt}
    (takes : ∀ answer, (rest answer).Takes) : (first >>= rest).Takes := by
  intro environment state
  rw [ensures_bind]
  apply Ensures.of_forall
  intro answer values after
  exact takes answer environment after

/-- What was tried and taken decides how to go on. -/
theorem Takes.bind {first : Parser U σ Attempt} {rest : Attempt → Parser U σ Attempt}
    (taken : first.Takes) (takes : ∀ attempt, attempt ≠ .backtracked → (rest attempt).Takes) :
    (first >>= rest).Takes := by
  intro environment state
  rw [ensures_bind]
  refine (taken environment state).mono ?_
  intro attempt values after taken
  exact takes attempt taken environment after

private theorem Takes.collect_bind {first : Parser U σ Attempt}
    {rest : Attempt × List Value → Parser U σ Attempt} (taken : first.Takes)
    (takes : ∀ attempt values, attempt ≠ .backtracked → (rest (attempt, values)).Takes) :
    (collect first >>= rest).Takes := by
  intro environment state
  rw [ensures_bind, ensures_collect]
  refine (taken environment state).mono ?_
  intro attempt values after taken
  exact takes attempt values taken environment after

theorem Takes.withoutWhitespace {parser : Parser U σ Attempt} (taken : parser.Takes) :
    (withoutWhitespace parser).Takes := by
  intro environment state
  rw [ensures_withoutWhitespace]
  exact taken environment state.withoutWhitespace

end Parser

/-- A runner none of whose rules declines unless its kind says so. -/
def Runner.Takes {U σ : Type} (run : Runner U σ) : Prop :=
  ∀ rule : Rule U, rule.branching ≠ .conditional → (run.attempt rule).Takes

namespace Runner

variable {U σ : Type} {run : Runner U σ}

private theorem takes_attemptThen {first : Rule U} (taken : (run.attempt first).Takes)
    (rest : Parser U σ Bool) : (run.attemptThen first rest).Takes := by
  apply taken.bind
  intro attempt taken
  cases attempt with
  | accepted => exact takes_ofBool rest
  | canceled => exact takes_pure taken
  | backtracked => exact absurd rfl taken

/-- After a rule, the whitespace is skipped. -/
theorem takes_ifAccepted {parser : Parser U σ Attempt} (taken : parser.Takes) :
    (do
      let attempt ← parser
      if attempt.isAccepted then run.skipWhitespace
      return attempt : Parser U σ Attempt).Takes := by
  apply taken.bind
  intro attempt taken
  cases attempt with
  | accepted => exact takes_bind fun _ => takes_pure taken
  | canceled => exact takes_pure taken
  | backtracked => exact absurd rfl taken

section Rules

variable (takes : run.Takes)
include takes

private theorem takes_attemptSequence {rules : List (Rule U)}
    (kind : Rule.branchingOfFirst rules ≠ .conditional) : (run.attemptSequence rules).Takes := by
  cases rules with
  | nil => exact takes_pure Attempt.noConfusion
  | cons first rest => exact takes_attemptThen (takes first kind) (run.parseAll rest)

/-- The members before the one that does not decline may all do so. -/
theorem takes_attemptChoice {members : List (Rule U)}
    (kind : Rule.allConditional members = false) : (run.attemptChoice members).Takes := by
  induction members with
  | nil => cases kind
  | cons first rest ih =>
    by_cases conditional : first.branching = .conditional
    · have later : Rule.allConditional rest = false := by
        simpa [Rule.allConditional, conditional] using kind
      apply takes_bind
      intro attempt
      cases attempt with
      | accepted => exact takes_pure Attempt.noConfusion
      | canceled => exact takes_pure Attempt.noConfusion
      | backtracked => exact ih later
    · apply (takes first conditional).bind
      intro attempt taken
      cases attempt with
      | accepted => exact takes_pure taken
      | canceled => exact takes_pure taken
      | backtracked => exact absurd rfl taken

private theorem takes_attemptCapture {rule : Rule U} (kind : rule.branching ≠ .conditional) :
    (run.attemptCapture rule).Takes := by
  apply takes_bind
  intro before
  apply (takes rule kind).withoutWhitespace.collect_bind
  intro attempt values taken
  cases attempt with
  | accepted => exact takes_bind fun _ => takes_pure taken
  | canceled => exact takes_pure taken
  | backtracked => exact absurd rfl taken

private theorem takes_attemptList {item : Rule U} (kind : item.branching ≠ .conditional)
    (separator : Option (Separator (Rule U))) : (run.attemptList item separator).Takes := by
  apply takes_bind
  intro sink
  apply (takes item kind).collect_bind
  intro attempt values taken
  cases attempt with
  | accepted => exact takes_ofBool (run.finishList item separator sink values)
  | canceled => exact takes_pure taken
  | backtracked => exact absurd rfl taken

variable [CodeUnit U]

private theorem takes_attemptDelimited {opening : Rule U} (kind : opening.branching ≠ .conditional)
    (form : Delimited U) : (run.attemptDelimited opening form).Takes := by
  apply takes_bind
  intro before
  exact takes_ifAccepted (takes_attemptThen (takes opening kind) _).withoutWhitespace

theorem takes_attemptRecovering {rule : Rule U} (kind : rule.branching ≠ .conditional)
    (recovery : Option (Rule U)) : (run.attemptRecovering rule recovery).Takes := by
  apply (takes rule kind).collect_bind
  intro attempt values taken
  cases attempt with
  | accepted => exact takes_bind fun _ => takes_pure taken
  | canceled => exact takes_ofBool (run.recoverFrom rule recovery)
  | backtracked => exact absurd rfl taken

/-- One case for each kind of rule: either it may decline by its form, or its answer is that of the
rule inside it that is tried first, or it is run. -/
theorem takes_attemptRule {rule : Rule U} (kind : rule.branching ≠ .conditional) :
    (run.attemptRule rule).Takes := by
  cases rule with
  | token | tokenized | identifier | integer | symbol | symbolHere => exact absurd rfl kind
  | peek | lookahead | call => exact absurd rfl kind
  | capture rule => exact takes_attemptCapture takes kind
  | sequence rules => exact takes_attemptSequence takes kind
  | branch condition rest =>
    have condition_kind : condition.branching ≠ .conditional := by
      intro conditional
      simp [Rule.branching, conditional] at kind
    exact takes_attemptThen (takes condition condition_kind) (run.parseAll rest)
  | choice members =>
    have always : Rule.allConditional members = false := by
      simpa [Rule.branching] using kind
    exact takes_attemptChoice takes always
  | repeatedOnce body => exact takes_attemptThen (takes body kind) (run.parseRepeated body)
  | list item separator =>
    have item_kind : item.branching ≠ .conditional := kind
    exact takes_attemptList takes item_kind separator
  | delimited opening closing content escapes =>
    have opening_kind : opening.branching ≠ .conditional := kind
    exact takes_attemptDelimited takes opening_kind ⟨closing, content, escapes⟩
  | onVariable name operation =>
    cases operation with
    | requireFlag | requireCounter => exact absurd rfl kind
    | _ => exact takes_ofBool _
  | recovering rule recovery =>
    have rule_kind : rule.branching ≠ .conditional := kind
    exact takes_attemptRecovering takes rule_kind recovery
  | withoutWhitespace rule => exact takes_ifAccepted (takes rule kind).withoutWhitespace
  | _ => exact takes_ofBool _

end Rules

private theorem takes_withFuel [CodeUnit U] (fuel : Nat) : (withFuel fuel : Runner U σ).Takes := by
  induction fuel with
  | zero => exact fun _ _ _ _ => ensures_outOfFuel _
  | succ fuel ih => exact fun _ kind => takes_attemptRule ih kind

/-- Only a rule that may decline by its kind ever does. -/
theorem only_conditional_rules_decline [CodeUnit U] (rule : Rule U)
    (kind : rule.branching = .notBranch ∨ rule.branching = .unconditional) (fuel : Nat)
    (environment : Environment U σ) (state : State U σ) (step : Step U σ Attempt)
    (tried : (withFuel fuel).attempt rule environment state = some step) :
    step.answer ≠ .backtracked := by
  have unconditional : rule.branching ≠ .conditional := by
    intro conditional
    rw [conditional] at kind
    rcases kind with other | other <;> cases other
  exact takes_withFuel fuel rule unconditional environment state step tried

def maybeThenUnit : Rule Char :=
  .sequence [.choice [oneUnit 'a', .otherwise], oneUnit 'c']

/-- It is taken before any input, also before one that it cannot read. -/
theorem maybeThenUnit_takes_other_unit :
    ∃ step, (withFuel 4).attempt maybeThenUnit (soleEnvironment maybeThenUnit)
        (soleState maybeThenUnit #['b']) = some step ∧
      step.answer = .canceled ∧ step.answer ≠ .backtracked := by
  have kind : maybeThenUnit.branching = .notBranch ∨ maybeThenUnit.branching = .unconditional := by
    decide
  have cancels : ((withFuel 4).attempt maybeThenUnit (soleEnvironment maybeThenUnit)
      (soleState maybeThenUnit #['b'])).map Step.answer = some .canceled := by decide +kernel
  obtain ⟨step, tried, canceled⟩ := Option.map_eq_some_iff.mp cancels
  have taken := only_conditional_rules_decline maybeThenUnit kind 4
    (soleEnvironment maybeThenUnit) (soleState maybeThenUnit #['b']) step tried
  exact ⟨step, tried, canceled, taken⟩

end Runner
end Descent
