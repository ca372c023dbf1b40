import Descent.Proofs.Settling

/-! Sequences, choices, conditions and repetitions account for what is read, because the rules
inside them do. -/

namespace Descent.Runner

open Descent.Parser

variable {U σ : Type} {run : Runner U σ} {environment : Environment U σ} {origin : Nat}
  {before state : State U σ}

theorem settles_attemptSequence (settles : run.Settles) (rules : List (Rule U)) :
    (run.attemptSequence rules).Settles := by
  cases rules with
  | nil => exact settles_pure _
  | cons first rest => exact settles_attemptThen settles first (settles_parseAll settles rest)

theorem settles_attemptChoice (settles : run.Settles) (members : List (Rule U)) :
    (run.attemptChoice members).Settles := by
  induction members with
  | nil => exact settles_pure _
  | cons first rest ih =>
    refine (settles.attempt first).bind fun attempt => ?_
    cases attempt with
    | accepted => exact settles_pure _
    | canceled => exact settles_pure _
    | backtracked => exact ih

theorem settles_parseChoice (settles : run.Settles) (members : List (Rule U)) :
    (run.parseChoice members).Settles := by
  refine (settles_attemptChoice settles members).bind fun attempt => ?_
  cases attempt with
  | accepted => exact settles_pure _
  | canceled => exact settles_pure _
  | backtracked => exact settles_reportErrorHere _ (settles_pure _)

theorem settles_parseOptional (settles : run.Settles) (rule : Rule U) :
    (run.parseOptional rule).Settles := by
  refine (settles.attempt rule).bind fun attempt => ?_
  cases attempt with
  | accepted => exact settles_pure _
  | canceled => exact settles_pure _
  | backtracked => exact (settles_emit _).bind fun _ => settles_pure _

theorem settles_attemptPeek (rule : Rule U) (expected : Bool) :
    (run.attemptPeek rule expected).Settles :=
  (looks_peekHolds rule expected).settles.bind fun _ => settles_pure _

theorem settles_parsePeek (rule : Rule U) (expected : Bool) :
    (run.parsePeek rule expected).Settles := by
  refine (looks_peekHolds rule expected).settles.bind fun holds => ?_
  cases holds with
  | true => exact settles_pure _
  | false => exact settles_reportErrorHere _ (settles_pure _)

def repeatedRound (run : Runner U σ) (body : Rule U) : Parser U σ (Round Unit Bool) := do
  let before ← cursor
  match ← run.attempt body with
  | .accepted =>
    if before.position < (← cursor).position then return .again () else return .done true
  | .backtracked => return .done true
  | .canceled => return .done false

theorem settles_repeatedRound (settles : run.Settles) (body : Rule U) :
    (run.repeatedRound body).Settles := by
  refine looks_cursor.settles.bind fun start => ?_
  refine (settles.attempt body).bind fun attempt => ?_
  cases attempt with
  | accepted =>
    refine looks_cursor.settles.bind fun here => ?_
    split <;> exact settles_pure _
  | canceled => exact settles_pure _
  | backtracked => exact settles_pure _

theorem settles_parseRepeated (settles : run.Settles) (body : Rule U) :
    (run.parseRepeated body).Settles :=
  settles_iterate (fun _ => settles_repeatedRound settles body) _ _

theorem settles_parseRepeatedOnce (settles : run.Settles) (body : Rule U) :
    (run.parseRepeatedOnce body).Settles := by
  refine (settles.parse body).bind fun parsed => ?_
  cases parsed with
  | true => exact settles_parseRepeated settles body
  | false => exact settles_pure _

theorem settles_parseTimes (settles : run.Settles) (body : Rule U) (separator : Option (Rule U))
    (count : Nat) : (run.parseTimes body separator count).Settles := by
  induction count using parseTimes.induct with
  | case1 => exact settles_pure _
  | case2 => exact settles.parse body
  | case3 count more ih =>
    rw [parseTimes]
    · refine (settles.parse body).bind fun parsed => ?_
      cases parsed with
      | false => exact settles_pure _
      | true =>
        cases separator with
        | none => exact ih
        | some separator =>
          refine (settles.parse separator).bind fun separated => ?_
          cases separated with
          | false => exact settles_pure _
          | true => exact ih
    · exact more

/-- What is bound in a round of a loop is dropped after it. -/
theorem ensures_loopRound_settled (settles : run.Settles) (framed : before.scope.frames ≠ [])
    (settled : Settled environment origin before state) (body : Rule U) :
    (run.loopRound body before.scope.bindings.length).Ensures environment state fun _ _ after =>
      Settled environment origin before after := by
  rw [loopRound, ensures_bind, ensures_cursor, ensures_bind]
  refine ((settles.attempt body).after framed settled).mono ?_
  intro attempt values after settled
  cases attempt with
  | accepted =>
    simp only [ensures_bind, ensures_restoreBindings, ensures_findVariable, ensures_cursor]
    have restored : Settled environment origin before (after.withBindings _) :=
      settled.restoreBindings
    split <;> simpa using restored
  | canceled => simpa using settled
  | backtracked => simpa using settled

theorem settles_parseLoop (settles : run.Settles) (body : Rule U) :
    (run.parseLoop body).Settles := by
  intro environment state framed
  simp only [parseLoop, ensures_bind, ensures_bindingsHeight, ensures_bindVariable, loop,
    ensures_restoreBindings, ensures_pure]
  let inner := state.withBindings ((loopExit, Binding.flag false) :: ·)
  have bound : Settled environment state.cursor.position state inner :=
    (Conduct.start environment state).withBindings (List.suffix_cons _ _)
  have framed : inner.scope.frames ≠ [] := framed
  refine ensures_iterate (fun _ _ middle => Settled environment state.cursor.position inner middle)
    ?_ _ _ (.start environment inner)
  intro _ values middle settled
  refine (ensures_loopRound_settled settles framed settled body).mono ?_
  intro answer more after settled
  cases answer with
  | again => exact settled
  | done result => exact (bound.trans settled).restoreBindings

theorem settles_parseLeave : (parseLeave : Parser U σ Bool).Settles := by
  refine (settles_assignVariable _ _).bind fun assigned => ?_
  cases assigned with
  | true => exact settles_pure _
  | false => exact settles_reportErrorHere _ (settles_pure _)

theorem settles_attemptWithoutWhitespace (settles : run.Settles) (rule : Rule U) :
    (run.attemptWithoutWhitespace rule).Settles := fun _ _ framed =>
  ensures_ifAccepted settles framed (settles_withoutWhitespace (settles.attempt rule) _ _ framed)

theorem settles_parseWithoutWhitespace (settles : run.Settles) (rule : Rule U) :
    (run.parseWithoutWhitespace rule).Settles := fun _ _ framed =>
  ensures_ifParsed settles framed (settles_withoutWhitespace (settles.parse rule) _ _ framed)

end Descent.Runner
