import Descent.Proofs.FailureReports

/-! Sequences, choices, conditions and repetitions report their failures, because the rules
inside them do. -/

namespace Descent.Runner

open Descent.Parser

variable {U σ : Type} {run : Runner U σ} {environment : Environment U σ}
  {sound : Rule U → Prop}

structure ReportsOf (run : Runner U σ) (environment : Environment U σ) (sound : Rule U → Prop) :
    Prop where
  parse : ∀ rule, sound rule → (run.parse rule).Reports environment (· = false)
  attempt : ∀ rule, sound rule → (run.attempt rule).Reports environment (· = .canceled)

theorem reports_ofBool {parser : Parser U σ Bool}
    (reports : parser.Reports environment (· = false)) :
    (do return .ofBool (← parser) : Parser U σ Attempt).Reports environment (· = .canceled) := by
  intro state framed
  simp only [ensures_bind, ensures_pure]
  refine (reports state framed).mono ?_
  intro parsed _ after reported canceled
  cases parsed with
  | false => exact reported rfl
  | true => cases canceled

theorem reports_parseAll (settles : run.Settles) (reports : run.ReportsOf environment sound)
    (rules : List (Rule U)) (all : ∀ rule ∈ rules, sound rule) :
    (run.parseAll rules).Reports environment (· = false) := by
  induction rules with
  | nil => exact reports_pure (by simp)
  | cons rule rest ih =>
    refine (reports.parse rule (all rule (by simp))).bind (settles.parse rule) fun parsed => ?_
    cases parsed with
    | false => exact .inl ⟨rfl, settles_pure _⟩
    | true => exact .inr (ih fun other member => all other (by simp [member]))

theorem reports_attemptThen (settles : run.Settles) (reports : run.ReportsOf environment sound)
    (first : Rule U) (firstSound : sound first) {rest : Parser U σ Bool}
    (rest_reports : rest.Reports environment (· = false)) :
    (run.attemptThen first rest).Reports environment (· = .canceled) := by
  refine (reports.attempt first firstSound).bind (settles.attempt first) fun attempt => ?_
  cases attempt with
  | accepted => exact .inr (reports_ofBool rest_reports)
  | canceled => exact .inl ⟨rfl, settles_pure _⟩
  | backtracked => exact .inr (reports_pure (by simp))

theorem reports_attemptSequence (settles : run.Settles)
    (reports : run.ReportsOf environment sound) (rules : List (Rule U))
    (all : ∀ rule ∈ rules, sound rule) :
    (run.attemptSequence rules).Reports environment (· = .canceled) := by
  cases rules with
  | nil => exact reports_pure (by simp)
  | cons first rest =>
    exact reports_attemptThen settles reports first (all first (by simp))
      (reports_parseAll settles reports rest fun other member => all other (by simp [member]))

theorem reports_attemptChoice (settles : run.Settles)
    (reports : run.ReportsOf environment sound) (members : List (Rule U))
    (all : ∀ rule ∈ members, sound rule) :
    (run.attemptChoice members).Reports environment (· = .canceled) := by
  induction members with
  | nil => exact reports_pure (by simp)
  | cons first rest ih =>
    refine (reports.attempt first (all first (by simp))).bind (settles.attempt first)
      fun attempt => ?_
    cases attempt with
    | accepted => exact .inr (reports_pure (by simp))
    | canceled => exact .inl ⟨rfl, settles_pure _⟩
    | backtracked => exact .inr (ih fun other member => all other (by simp [member]))

theorem reports_parseChoice (settles : run.Settles)
    (reports : run.ReportsOf environment sound) (members : List (Rule U))
    (all : ∀ rule ∈ members, sound rule) :
    (run.parseChoice members).Reports environment (· = false) := by
  refine (reports_attemptChoice settles reports members all).bind
    (settles_attemptChoice settles members) fun attempt => ?_
  cases attempt with
  | accepted => exact .inr (reports_pure (by simp))
  | canceled => exact .inl ⟨rfl, settles_pure _⟩
  | backtracked => exact .inr (reports_errorHere _ (settles_pure _))

theorem reports_parseOptional (settles : run.Settles)
    (reports : run.ReportsOf environment sound) (rule : Rule U) (ruleSound : sound rule) :
    (run.parseOptional rule).Reports environment (· = false) := by
  refine (reports.attempt rule ruleSound).bind (settles.attempt rule) fun attempt => ?_
  cases attempt with
  | accepted => exact .inr (reports_pure (by simp))
  | canceled => exact .inl ⟨rfl, settles_pure _⟩
  | backtracked =>
    exact .inr ((settles_emit _).bind_reports fun _ => reports_pure (by simp))

theorem reports_parsePeek (rule : Rule U) (expected : Bool) :
    (run.parsePeek rule expected).Reports environment (· = false) := by
  refine (looks_peekHolds rule expected).settles.bind_reports fun holds => ?_
  cases holds with
  | true => exact reports_pure (by simp)
  | false => exact reports_errorHere _ (settles_pure _)

theorem reports_attemptPeek (rule : Rule U) (expected : Bool) :
    (run.attemptPeek rule expected).Reports environment (· = .canceled) := by
  refine (looks_peekHolds rule expected).settles.bind_reports fun holds => ?_
  cases holds <;> exact reports_pure (by simp)

theorem reports_parseRepeated (settles : run.Settles)
    (reports : run.ReportsOf environment sound) (body : Rule U) (bodySound : sound body) :
    (run.parseRepeated body).Reports environment (· = false) := by
  refine reports_iterate (fun _ => settles_repeatedRound settles body) (fun _ => ?_) _ _
  refine looks_cursor.settles.bind_reports fun start => ?_
  refine (reports.attempt body bodySound).bind (settles.attempt body) fun attempt => ?_
  cases attempt with
  | accepted =>
    refine .inr (looks_cursor.settles.bind_reports fun here => ?_)
    split <;> exact reports_pure (by simp)
  | canceled => exact .inl ⟨rfl, settles_pure _⟩
  | backtracked => exact .inr (reports_pure (by simp))

theorem reports_parseRepeatedOnce (settles : run.Settles)
    (reports : run.ReportsOf environment sound) (body : Rule U) (bodySound : sound body) :
    (run.parseRepeatedOnce body).Reports environment (· = false) := by
  refine (reports.parse body bodySound).bind (settles.parse body) fun parsed => ?_
  cases parsed with
  | false => exact .inl ⟨rfl, settles_pure _⟩
  | true => exact .inr (reports_parseRepeated settles reports body bodySound)

theorem reports_parseTimes (settles : run.Settles) (reports : run.ReportsOf environment sound)
    (body : Rule U) (bodySound : sound body) (separator : Option (Rule U))
    (separatorSound : ∀ rule ∈ separator, sound rule) (count : Nat) :
    (run.parseTimes body separator count).Reports environment (· = false) := by
  induction count using parseTimes.induct with
  | case1 => exact reports_pure (by simp)
  | case2 => exact reports.parse body bodySound
  | case3 count more ih =>
    rw [parseTimes]
    · refine (reports.parse body bodySound).bind (settles.parse body) fun parsed => ?_
      cases parsed with
      | false => exact .inl ⟨rfl, settles_pure _⟩
      | true =>
        refine .inr ?_
        cases separator with
        | none => exact ih
        | some separator =>
          refine (reports.parse separator (separatorSound separator rfl)).bind
            (settles.parse separator) fun separated => ?_
          cases separated with
          | false => exact .inl ⟨rfl, settles_pure _⟩
          | true => exact .inr ih
    · exact more

private theorem reports_loopRound (settles : run.Settles)
    (reports : run.ReportsOf environment sound)
    (body : Rule U) (bodySound : sound body) (height : Nat) :
    (run.loopRound body height).Reports environment
      fun answer => ∃ result, answer = .done result ∧ result = false := by
  refine looks_cursor.settles.bind_reports fun start => ?_
  refine (reports.attempt body bodySound).bind (settles.attempt body) fun attempt => ?_
  cases attempt with
  | accepted =>
    refine .inr fun state framed => ?_
    simp only [ensures_bind, ensures_restoreBindings, ensures_findVariable, ensures_cursor]
    split <;> simp
  | canceled => exact .inl ⟨rfl, settles_pure _⟩
  | backtracked => exact .inr (reports_pure (by simp))

theorem reports_parseLoop (settles : run.Settles) (reports : run.ReportsOf environment sound)
    (body : Rule U) (bodySound : sound body) :
    (run.parseLoop body).Reports environment (· = false) := by
  intro state framed
  simp only [parseLoop, ensures_bind, ensures_bindingsHeight, ensures_bindVariable, loop,
    ensures_restoreBindings, ensures_pure]
  let inner := state.withBindings ((loopExit, Binding.flag false) :: ·)
  refine ensures_iterate (fun _ _ middle => Settled environment state.cursor.position inner middle)
    ?_ _ _ (.start environment inner)
  intro _ values middle settled
  have framed : inner.scope.frames ≠ [] := framed
  have framed' : middle.scope.frames ≠ [] := by rwa [settled.frames]
  refine ((ensures_loopRound_settled settles framed settled body).and
    (reports_loopRound settles reports body bodySound _ middle framed')).mono ?_
  intro answer more after ensured
  obtain ⟨next, reported⟩ := ensured
  cases answer with
  | again => exact next
  | done result =>
    intro fails
    exact Nat.lt_of_le_of_lt settled.errors_le (reported ⟨result, rfl, fails⟩)

theorem reports_parseLeave :
    (parseLeave : Parser U σ Bool).Reports environment (· = false) := by
  refine (settles_assignVariable _ _).bind_reports fun assigned => ?_
  cases assigned with
  | true => exact reports_pure (by simp)
  | false => exact reports_errorHere _ (settles_pure _)

/-- Whitespace after a rule is skipped only if the rule has not failed. -/
theorem reports_ifAccepted {parser : Parser U σ Attempt}
    {state : State U σ} {errors : Nat}
    (inner : parser.Ensures environment state fun attempt _ after =>
      attempt = .canceled → errors < after.report.statistics.errors) :
    (do
      let attempt ← parser
      if attempt.isAccepted then run.skipWhitespace
      return attempt : Parser U σ Attempt).Ensures environment state fun attempt _ after =>
        attempt = .canceled → errors < after.report.statistics.errors := by
  rw [ensures_bind]
  refine inner.mono ?_
  intro attempt values after reported
  cases attempt with
  | accepted => simp [Attempt.isAccepted]
  | canceled => simpa [Attempt.isAccepted] using reported rfl
  | backtracked => simp [Attempt.isAccepted]

theorem reports_ifParsed {parser : Parser U σ Bool}
    {state : State U σ} {errors : Nat}
    (inner : parser.Ensures environment state fun parsed _ after =>
      parsed = false → errors < after.report.statistics.errors) :
    (do
      let parsed ← parser
      if parsed then run.skipWhitespace
      return parsed : Parser U σ Bool).Ensures environment state fun parsed _ after =>
        parsed = false → errors < after.report.statistics.errors := by
  rw [ensures_bind]
  refine inner.mono ?_
  intro parsed values after reported
  cases parsed with
  | true => simp
  | false => simpa using reported rfl

theorem reports_attemptWithoutWhitespace
    (reports : run.ReportsOf environment sound) (rule : Rule U) (ruleSound : sound rule) :
    (run.attemptWithoutWhitespace rule).Reports environment (· = .canceled) :=
  fun state framed => reports_ifAccepted
    (reports_withoutWhitespace (reports.attempt rule ruleSound) state framed)

theorem reports_parseWithoutWhitespace
    (reports : run.ReportsOf environment sound) (rule : Rule U) (ruleSound : sound rule) :
    (run.parseWithoutWhitespace rule).Reports environment (· = false) :=
  fun state framed => reports_ifParsed
    (reports_withoutWhitespace (reports.parse rule ruleSound) state framed)

end Descent.Runner
