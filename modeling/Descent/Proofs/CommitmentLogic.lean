import Descent.Proofs.Settling

/-! An attempt and a parser that does the same without the choice to decline: where the attempt is
taken, both have the same outcome, and where it declines, the parser reports an error. -/

namespace Descent

open Descent.Parser

/-- The answer of a rule that is parsed, where the rule is taken when it is tried. -/
def Attempt.taken : Attempt → Option Bool
  | accepted => some true
  | canceled => some false
  | backtracked => none

@[simp] theorem Attempt.taken_ofBool (parsed : Bool) : (ofBool parsed).taken = some parsed := by
  cases parsed <;> rfl

theorem Attempt.eq_ofBool {attempt : Attempt} {parsed : Bool}
    (taken : attempt.taken = some parsed) : attempt = ofBool parsed := by
  cases attempt <;> cases taken <;> rfl

theorem Attempt.eq_backtracked {attempt : Attempt} (declined : attempt.taken = none) :
    attempt = .backtracked := by
  cases attempt <;> cases declined
  rfl

namespace Parser

variable {U σ α β γ δ : Type} {environment : Environment U σ} {state : State U σ}

def Raises (parser : Parser U σ α) (environment : Environment U σ) (state : State U σ) : Prop :=
  parser.Ensures environment state fun _ _ after =>
    state.report.statistics.errors < after.report.statistics.errors

/-- An outcome of an attempt, by the answer that parsing has to give, if the attempt is taken. -/
def Committed (parse : Parser U σ β) (environment : Environment U σ) (state : State U σ)
    (answer : Option β) (values : List Value) (after : State U σ) : Prop :=
  match answer with
  | some result => parse environment state = some ⟨result, values, after⟩
  | none => parse.Raises environment state

/-- What the attempt does is what parsing does, unless the attempt declines; then parsing reports an
error. -/
def Commits (taken : α → Option β) (attempt : Parser U σ α) (parse : Parser U σ β)
    (environment : Environment U σ) (state : State U σ) : Prop :=
  attempt.Ensures environment state fun answer => parse.Committed environment state (taken answer)

variable {taken : α → Option β} {taken' : γ → Option δ} {attempt : Parser U σ α}
  {parse : Parser U σ β} {rest : α → Parser U σ γ} {rest' : β → Parser U σ δ}

/-- All that matters is what the attempt and parsing do here. -/
theorem Commits.of_eq {attempt other : Parser U σ α} {parse parse' : Parser U σ β}
    (tried : other environment state = attempt environment state)
    (parsed : parse' environment state = parse environment state)
    (commits : Commits taken attempt parse environment state) :
    Commits taken other parse' environment state := by
  intro step ran
  rw [tried] at ran
  have committed : parse.Committed environment state (taken step.answer) step.values step.state :=
    commits step ran
  change parse'.Committed environment state (taken step.answer) step.values step.state
  unfold Committed Raises Ensures at *
  rwa [parsed]

theorem commits_pure {answer : α} {result : β} (same : taken answer = some result) :
    Commits taken (pure answer) (pure result) environment state := by
  rw [Commits, ensures_pure, same]
  rfl

/-- Both do the same and then answer. -/
theorem commits_accept {answer : γ} {result : δ} (accept : Parser U σ α)
    (same : taken' answer = some result) :
    Commits taken'
      (do
        let _ ← accept
        return answer)
      (do
        let _ ← accept
        return result) environment state := by
  rw [Commits, ensures_bind]
  intro step ran
  rw [ensures_pure, same]
  exact ran_bind ran rfl

theorem commits_declined {answer : α} (declined : taken answer = none)
    (raises : parse.Raises environment state) :
    Commits taken (pure answer) parse environment state := by
  rw [Commits, ensures_pure, declined]
  exact raises

theorem commits_ofBool (parser : Parser U σ Bool) :
    Commits Attempt.taken (do return .ofBool (← parser)) parser environment state := by
  rw [Commits, ensures_bind]
  intro step ran
  rw [ensures_pure, Attempt.taken_ofBool, List.append_nil]
  exact ran

/-- What comes after an outcome of parsing, with the values of both. -/
theorem Committed.after {result : β} {values more : List Value} {middle last : State U σ}
    {answer : Option δ} (ran : parse environment state = some ⟨result, values, middle⟩)
    (le : state.report.statistics.errors ≤ middle.report.statistics.errors)
    (committed : (rest' result).Committed environment middle answer more last) :
    (parse >>= rest').Committed environment state answer (values ++ more) last := by
  cases answer with
  | some result => exact ran_bind ran committed
  | none =>
    have raises : (rest' result).Raises environment middle := committed
    change (parse >>= rest').Raises environment state
    rw [Raises, ensures_bind, ensures_iff ran]
    exact raises.mono fun _ _ _ less => Nat.lt_of_le_of_lt le less

/-- After an attempt that declines nothing may be taken, and after parsing in its place no report
may be taken back. -/
theorem Commits.bind (commits : Commits taken attempt parse environment state)
    (settles : parse.Ensures environment state fun _ _ middle =>
      Settled environment state.cursor.position state middle)
    (agree : ∀ answer result middle, taken answer = some result →
      Settled environment state.cursor.position state middle →
      Commits taken' (rest answer) (rest' result) environment middle)
    (decline : ∀ answer middle, taken answer = none →
      (rest answer).Ensures environment middle fun last _ _ => taken' last = none)
    (keeps : ∀ result middle, Settled environment state.cursor.position state middle →
      (rest' result).Ensures environment middle fun _ _ after =>
        middle.report.statistics.errors ≤ after.report.statistics.errors) :
    Commits taken' (attempt >>= rest) (parse >>= rest') environment state := by
  rw [Commits, ensures_bind]
  intro step ran
  have committed : parse.Committed environment state (taken step.answer) step.values step.state :=
    commits step ran
  cases decided : taken step.answer with
  | some result =>
    rw [decided] at committed
    have settled : Settled environment state.cursor.position state step.state :=
      settles _ committed
    exact (agree step.answer result step.state decided settled).mono fun _ _ _ =>
      Committed.after committed settled.errors_le
  | none =>
    rw [decided] at committed
    refine (decline step.answer step.state decided).mono fun last more after none => ?_
    rw [none]
    change (parse >>= rest').Raises environment state
    rw [Raises, ensures_bind]
    have raises : parse.Raises environment state := committed
    refine (settles.and raises).mono fun result values middle ⟨settled, less⟩ => ?_
    exact (keeps result middle settled).mono fun _ _ _ le => Nat.lt_of_lt_of_le less le

theorem Commits.looking {first : Parser U σ β} {answer : β} {rest' : β → Parser U σ δ}
    {attempt : Parser U σ γ} (ran : first environment state = some ⟨answer, [], state⟩)
    (commits : Commits taken' attempt (rest' answer) environment state) :
    Commits taken' attempt (first >>= rest') environment state :=
  commits.mono fun _ _ _ => Committed.after ran (Nat.le_refl _)

theorem Looks.commits {first : Parser U σ β} {rest : β → Parser U σ γ} {rest' : β → Parser U σ δ}
    (looks : first.Looks)
    (next : ∀ answer, first environment state = some ⟨answer, [], state⟩ →
      Commits taken' (rest answer) (rest' answer) environment state) :
    Commits taken' (first >>= rest) (first >>= rest') environment state := by
  rw [Commits, ensures_bind]
  intro step ran
  obtain ⟨answer, values, after⟩ := step
  obtain ⟨rfl, rfl⟩ := looks environment state _ ran
  exact (next answer ran).looking ran

theorem Commits.withoutWhitespace
    (commits : Commits taken attempt parse environment state.withoutWhitespace) :
    Commits taken (withoutWhitespace attempt) (withoutWhitespace parse) environment state := by
  rw [Commits, ensures_withoutWhitespace]
  refine commits.mono fun answer values after committed => ?_
  cases decided : taken answer with
  | some result =>
    rw [decided] at committed
    exact ran_withoutWhitespace committed
  | none =>
    rw [decided] at committed
    change (Parser.withoutWhitespace parse).Raises environment state
    rw [Raises, ensures_withoutWhitespace]
    exact committed

/-- What becomes of the answer of an attempt whose values are kept apart. -/
def takenWith (answer : Attempt × List Value) : Option (Bool × List Value) :=
  answer.1.taken.map (·, answer.2)

theorem Commits.collect {attempt : Parser U σ Attempt} {parse : Parser U σ Bool}
    (commits : Commits Attempt.taken attempt parse environment state) :
    Commits takenWith (collect attempt) (collect parse) environment state := by
  rw [Commits, ensures_collect]
  refine commits.mono fun answer values after committed => ?_
  unfold takenWith
  cases decided : answer.taken with
  | some result =>
    rw [decided] at committed
    have ran : parse environment state = some ⟨result, values, after⟩ := committed
    change Parser.collect parse environment state = _
    simp [Parser.collect, ran]
  | none =>
    rw [decided] at committed
    change (Parser.collect parse).Raises environment state
    rw [Raises, ensures_collect]
    exact committed

end Parser

end Descent
