import Descent.Proofs.StructureReports
import Descent.Proofs.TokenReports

/-! Delimited content reports its failures: a closing rule or an escape sequence that fails,
and a delimiter that is missing. -/

namespace Descent.Runner

open Descent.Parser

variable {U σ : Type} {run : Runner U σ} {environment : Environment U σ}
  {sound : Rule U → Prop}

variable {before state : State U σ} {origin : Nat}

private theorem reports_closeContent (reports : run.ReportsOf environment sound)
    (framed : before.scope.frames ≠ []) (form : Delimited U) (closingSound : sound form.closing)
    {content : Content} (pending : Pending environment origin before content state) :
    (run.closeContent form content).Ensures environment state fun answer _ after =>
      answer.2.1 = .canceled →
        before.report.statistics.errors < after.report.statistics.errors := by
  have closes : (do
      let content ← flush content (← cursor).position
      return (content, ← collect (run.attempt form.closing)) :
        Parser U σ (Content × Attempt × List Value)).Ensures environment state
        fun answer _ after => answer.2.1 = .canceled →
          before.report.statistics.errors < after.report.statistics.errors := by
    simp only [ensures_bind, ensures_cursor, ensures_collect, ensures_pure]
    refine (ensures_flush pending).mono ?_
    intro flushed values middle ensured
    obtain ⟨-, -, settled⟩ := ensured
    have framed' : middle.scope.frames ≠ [] := by rwa [settled.frames]
    refine (reports.attempt form.closing closingSound middle framed').mono ?_
    intro attempt more after reported canceled
    exact Nat.lt_of_le_of_lt settled.errors_le (reported canceled)
  unfold closeContent
  split
  · rw [ensures_bind]
    refine (looks_probe form.closing).ensures fun attempt => ?_
    cases attempt with
    | accepted => exact closes
    | canceled => exact closes
    | backtracked => simp [Attempt.isBacktracked]
  · exact closes

variable [CodeUnit U]

private theorem reports_escapeSequence (settles : run.Settles)
    (reports : run.ReportsOf environment sound) (actions : List (EscapeAction (Rule U)))
    (all : ∀ rule ∈ actions.flatMap EscapeAction.parts, sound rule) :
    (run.escapeSequence actions).Reports environment (· = .canceled) := by
  induction actions with
  | nil => exact reports_pure (by simp)
  | cons action rest ih =>
    have ih := ih fun rule member => all rule (by simp [member])
    have taken (value : Cursor U → Cursor U → Value) :
        (escapeUnit value : Parser U σ Attempt).Reports environment (· = .canceled) := by
      intro state framed
      simp [escapeUnit]
    cases action with
    | map unit value =>
      refine looks_cursor.settles.bind_reports fun here => ?_
      split
      · exact taken _
      · exact ih
    | capture members =>
      refine looks_cursor.settles.bind_reports fun here => ?_
      split
      · exact taken _
      · exact ih
    | rule rule =>
      refine (reports.attempt rule (all rule (by simp [EscapeAction.parts]))).bind
        (settles.attempt rule) fun attempt => ?_
      cases attempt with
      | accepted => exact .inr (reports_pure (by simp))
      | canceled => exact .inl ⟨rfl, settles_pure _⟩
      | backtracked => exact .inr ih

private theorem reports_escaped (settles : run.Settles) (reports : run.ReportsOf environment sound)
    (framed : before.scope.frames ≠ []) (escape : Escape U (Rule U))
    (all : ∀ rule ∈ escape.actions.flatMap EscapeAction.parts, sound rule) {content : Content}
    (pending : Pending environment origin before content state) :
    (run.escaped escape content).Ensures environment state fun answer _ after =>
      answer = .done none →
        before.report.statistics.errors < after.report.statistics.errors := by
  simp only [escaped, ensures_bind, ensures_cursor]
  refine (ensures_flush pending).mono ?_
  intro flushed _ middle ensured
  obtain ⟨-, -, settled⟩ := ensured
  have framed' : middle.scope.frames ≠ [] := by rwa [settled.frames]
  refine ((settles_quietly (settles_parseToken settles escape.introducer) environment middle
    framed').and (reports_quietly (reports_parseToken escape.introducer) middle framed')).mono ?_
  intro parsed _ introduced ensured
  obtain ⟨read, reported⟩ := ensured
  cases parsed with
  | false => simpa using Nat.lt_of_le_of_lt settled.errors_le (reported rfl)
  | true =>
    have framed' : introduced.scope.frames ≠ [] := by rwa [read.frames]
    have settled := settled.trans read
    simp only [Bool.not_true, Bool.false_eq_true, if_false, ensures_bind, ensures_collect]
    refine (reports_escapeSequence settles reports escape.actions all introduced framed').mono ?_
    intro attempt values after reported
    cases attempt with
    | accepted => simp
    | canceled => simpa using Nat.lt_of_le_of_lt settled.errors_le (reported rfl)
    | backtracked => simp

private theorem reports_contentStep (settles : run.Settles)
    (reports : run.ReportsOf environment sound)
    (framed : before.scope.frames ≠ []) (form : Delimited U) (closingSound : sound form.closing)
    (all : ∀ escape ∈ form.escapes, ∀ rule ∈ escape.actions.flatMap EscapeAction.parts, sound rule)
    (opened : Nat) {content : Content}
    (pending : Pending environment origin before content state) :
    (run.contentStep form opened content).Ensures environment state fun answer _ after =>
      answer = .done none →
        before.report.statistics.errors < after.report.statistics.errors := by
  rw [contentStep, ensures_bind]
  refine ((ensures_closeContent settles framed form pending).and
    (reports_closeContent reports framed form closingSound pending)).mono ?_
  intro answer values middle ensured
  obtain ⟨content, attempt, closing⟩ := answer
  obtain ⟨⟨pending, -⟩, reported⟩ := ensured
  cases attempt with
  | accepted => simp
  | canceled => simpa using reported rfl
  | backtracked =>
    simp only [ensures_bind, ensures_cursor]
    cases middle.cursor.peek with
    | none =>
      simp only [ensures_bind, ensures_discard]
      refine (ensures_flush pending).mono ?_
      intro flushed _ after ensured
      obtain ⟨-, -, settled⟩ := ensured
      simpa [State.withError] using Nat.lt_succ_of_le settled.errors_le
    | some unit =>
      cases found : form.escapes.find?
          fun escape => escape.introducer.pattern.matchesAt middle.cursor with
      | some escape =>
        exact reports_escaped settles reports framed escape
          (all escape (List.mem_of_find?_eq_some found)) pending
      | none => simp

private theorem reports_parseContent (settles : run.Settles)
    (reports : run.ReportsOf environment sound)
    (framed : before.scope.frames ≠ []) (settled : Settled environment origin before state)
    (form : Delimited U) (closingSound : sound form.closing)
    (all : ∀ escape ∈ form.escapes, ∀ rule ∈ escape.actions.flatMap EscapeAction.parts, sound rule)
    {opened : Nat} (origin_le : origin ≤ opened) (opened_le : opened ≤ before.cursor.position) :
    (run.parseContent form opened).Ensures environment state fun parsed _ after =>
      parsed = false → before.report.statistics.errors < after.report.statistics.errors := by
  simp only [parseContent, ensures_bind, ensures_currentSink, loop]
  refine ensures_iterate (fun content _ middle => Pending environment origin before content middle)
    ?_ _ _ (Pending.of_settled rfl settled)
  intro content values middle pending
  refine ((ensures_contentStep settles framed form origin_le opened_le pending).and
    (reports_contentStep settles reports framed form closingSound all opened pending)).mono ?_
  intro answer more after ensured
  obtain ⟨round, reported⟩ := ensured
  cases answer with
  | again next => exact round
  | done result =>
    cases result with
    | none => simpa using reported rfl
    | some result => simp

/-- An opening rule that fails has reported it, and so has what comes after one. -/
theorem reports_attemptDelimited (settles : run.Settles)
    (reports : run.ReportsOf environment sound) (opening : Rule U) (openingSound : sound opening)
    (form : Delimited U) (closingSound : sound form.closing)
    (all : ∀ escape ∈ form.escapes,
      ∀ rule ∈ escape.actions.flatMap EscapeAction.parts, sound rule) :
    (run.attemptDelimited opening form).Reports environment (· = .canceled) := by
  intro state framed
  rw [attemptDelimited, ensures_bind, ensures_cursor]
  apply reports_ifAccepted
  rw [ensures_withoutWhitespace, attemptThen, ensures_bind]
  have framed : state.withoutWhitespace.scope.frames ≠ [] := framed
  have begun : Settled environment state.cursor.position state.withoutWhitespace
      state.withoutWhitespace := .start environment state.withoutWhitespace
  refine (((settles.attempt opening).after framed begun).and
    (reports.attempt opening openingSound _ framed)).mono ?_
  intro attempt values middle ensured
  obtain ⟨opened, reported⟩ := ensured
  cases attempt with
  | accepted =>
    rw [ensures_bind]
    refine (reports_parseContent settles reports framed opened form closingSound all
      (Nat.le_refl _) (Nat.le_refl _)).mono ?_
    intro parsed more after reported
    cases parsed with
    | false => simpa using fun _ => reported rfl
    | true => simp [Attempt.ofBool]
  | canceled => simpa using reported rfl
  | backtracked => simp

theorem reports_parseDelimited (settles : run.Settles)
    (reports : run.ReportsOf environment sound) (opening : Rule U) (openingSound : sound opening)
    (form : Delimited U) (closingSound : sound form.closing)
    (all : ∀ escape ∈ form.escapes,
      ∀ rule ∈ escape.actions.flatMap EscapeAction.parts, sound rule) :
    (run.parseDelimited opening form).Reports environment (· = false) := by
  intro state framed
  rw [parseDelimited, ensures_bind, ensures_cursor]
  apply reports_ifParsed
  rw [ensures_withoutWhitespace, ensures_bind]
  have framed : state.withoutWhitespace.scope.frames ≠ [] := framed
  have begun : Settled environment state.cursor.position state.withoutWhitespace
      state.withoutWhitespace := .start environment state.withoutWhitespace
  refine (((settles.parse opening).after framed begun).and
    (reports.parse opening openingSound _ framed)).mono ?_
  intro parsed values middle ensured
  obtain ⟨opened, reported⟩ := ensured
  cases parsed with
  | true =>
    exact reports_parseContent settles reports framed opened form closingSound all
      (Nat.le_refl _) (Nat.le_refl _)
  | false => simpa using reported rfl

end Descent.Runner
