import Descent.Proofs.TokenConduct

/-! Delimited content accounts for what is read, with a delay: adjacent content units are not
reported before their run has ended. -/

namespace Descent.Runner

open Descent.Parser

variable {U σ : Type} {run : Runner U σ} {environment : Environment U σ} {origin : Nat}
  {before state : State U σ}

/-- All is accounted for but the pending run of content, if there is one. -/
def Pending (environment : Environment U σ) (origin : Nat) (before : State U σ)
    (content : Content) (state : State U σ) : Prop :=
  Conduct environment origin before (content.pending.getD state.cursor.position) state

theorem Pending.of_settled {content : Content} (none : content.pending = none)
    (settled : Settled environment origin before state) :
    Pending environment origin before content state := by
  rw [Pending, none]
  exact settled

theorem ensures_flush {content : Content}
    (pending : Pending environment origin before content state) :
    (flush content state.cursor.position).Ensures environment state fun answer _ after =>
      answer.pending = none ∧ after.cursor = state.cursor ∧
        Settled environment origin before after := by
  obtain ⟨pending?, items⟩ := content
  cases pending? with
  | none => simpa [flush, Pending] using pending
  | some first =>
    have flushed : Settled environment origin before
        (state.withToken environment.observer .unknown first state.cursor.position) :=
      Conduct.withToken pending _ pending.covered_le (Nat.le_refl _)
    simp only [flush, ensures_bind, ensures_reportToken, ensures_pure, true_and]
    exact ⟨rfl, flushed⟩

private theorem settles_escapeUnit (value : Cursor U → Cursor U → Value) :
    (escapeUnit value : Parser U σ Attempt).Settles := by
  intro environment state framed
  simp only [escapeUnit, ensures_bind, ensures_cursor, ensures_setCursor, ensures_reportToken,
    ensures_emit, ensures_pure]
  exact (Conduct.start environment state).read .literal state.cursor.reaches_next

/-- A pending run is left pending only if the closing rule declines. -/
theorem ensures_closeContent (settles : run.Settles) (framed : before.scope.frames ≠ [])
    (form : Delimited U) {content : Content}
    (pending : Pending environment origin before content state) :
    (run.closeContent form content).Ensures environment state fun answer _ after =>
      Pending environment origin before answer.1 after ∧
        (answer.2.1 ≠ .backtracked → Settled environment origin before after) := by
  have closes : (do
      let content ← flush content (← cursor).position
      return (content, ← collect (run.attempt form.closing)) :
        Parser U σ (Content × Attempt × List Value)).Ensures environment state
        fun answer _ after => Pending environment origin before answer.1 after ∧
          (answer.2.1 ≠ .backtracked → Settled environment origin before after) := by
    simp only [ensures_bind, ensures_cursor, ensures_collect, ensures_pure]
    refine (ensures_flush pending).mono ?_
    intro flushed values middle ensured
    obtain ⟨none, -, settled⟩ := ensured
    refine ((settles.attempt form.closing).after framed settled).mono ?_
    intro attempt more after settled
    exact ⟨.of_settled none settled, fun _ => settled⟩
  unfold closeContent
  split
  · rw [ensures_bind]
    refine (looks_probe form.closing).ensures fun attempt => ?_
    cases attempt with
    | accepted => exact closes
    | canceled => exact closes
    | backtracked => simpa [Attempt.isBacktracked] using pending
  · exact closes

def ContentRound {β : Type} (environment : Environment U σ) (origin : Nat) (before : State U σ)
    (answer : Round Content β) (after : State U σ) : Prop :=
  match answer with
  | .again next => Pending environment origin before next after
  | .done _ => Settled environment origin before after

variable [CodeUnit U]

private theorem settles_escapeSequence (settles : run.Settles)
    (actions : List (EscapeAction (Rule U))) : (run.escapeSequence actions).Settles := by
  induction actions with
  | nil => exact settles_pure _
  | cons action rest ih =>
    cases action with
    | map unit value =>
      refine looks_cursor.settles.bind fun here => ?_
      split
      · exact settles_escapeUnit _
      · exact ih
    | capture members =>
      refine looks_cursor.settles.bind fun here => ?_
      split
      · exact settles_escapeUnit _
      · exact ih
    | rule rule =>
      refine (settles.attempt rule).bind fun attempt => ?_
      cases attempt with
      | accepted => exact settles_pure _
      | canceled => exact settles_pure _
      | backtracked => exact ih

private theorem ensures_escaped (settles : run.Settles) (framed : before.scope.frames ≠ [])
    (escape : Escape U (Rule U)) {content : Content}
    (pending : Pending environment origin before content state) :
    (run.escaped escape content).Ensures environment state fun answer _ after =>
      ContentRound environment origin before answer after := by
  have origin_le := Nat.le_trans pending.origin_le pending.reaches.position
  simp only [escaped, ensures_bind, ensures_cursor]
  refine (ensures_flush pending).mono ?_
  intro flushed _ middle ensured
  obtain ⟨none, same, settled⟩ := ensured
  have framed' : middle.scope.frames ≠ [] := by rwa [settled.frames]
  refine (settles_quietly (settles_parseToken settles escape.introducer) environment middle
    framed').mono ?_
  intro parsed _ introduced read
  cases parsed with
  | false => simpa [ContentRound] using settled.trans read
  | true =>
    have framed' : introduced.scope.frames ≠ [] := by rwa [read.frames]
    simp only [Bool.not_true, Bool.false_eq_true, if_false, ensures_bind, ensures_collect]
    refine (settles_escapeSequence settles escape.actions environment introduced framed').mono ?_
    intro attempt values after more
    have reaches := read.reaches.trans more.reaches
    have settled := (settled.trans read).trans more
    cases attempt with
    | accepted =>
      simp only [ensures_pure]
      exact Pending.of_settled none settled
    | canceled => simpa [ContentRound] using settled
    | backtracked =>
      simp only [ensures_bind, ensures_cursor, ensures_reportError, ensures_pure]
      rw [same] at reaches
      exact Pending.of_settled none (settled.withError _ origin_le (Nat.le_refl _)
        (Nat.le_max_left ..) (Nat.le_of_eq reaches.stop_spanTo))

private theorem ensures_contentUnit (form : Delimited U) {content : Content}
    (pending : Pending environment origin before content state) (unit : U) :
    (contentUnit form content unit).Ensures environment state fun answer _ after =>
      Pending environment origin before answer after := by
  have reaches := state.cursor.reaches_next
  have origin_le := Nat.le_trans pending.origin_le pending.reaches.position
  simp only [contentUnit, ensures_bind, ensures_cursor, ensures_ite]
  split
  · simp only [ensures_setCursor, ensures_pure]
    exact pending.moved reaches
  · refine (ensures_flush pending).mono ?_
    intro flushed _ middle ensured
    obtain ⟨none, same, settled⟩ := ensured
    rw [← same] at reaches origin_le ⊢
    simp only [ensures_setCursor, ensures_reportToken, ensures_reportError, ensures_pure]
    exact Pending.of_settled none ((settled.read .error reaches).withError _ origin_le
      (Nat.le_refl _) (Nat.le_max_left ..) (Nat.le_of_eq reaches.stop_spanTo))

theorem ensures_contentStep (settles : run.Settles) (framed : before.scope.frames ≠ [])
    (form : Delimited U) {opened : Nat} (origin_le : origin ≤ opened)
    (opened_le : opened ≤ before.cursor.position) {content : Content}
    (pending : Pending environment origin before content state) :
    (run.contentStep form opened content).Ensures environment state fun answer _ after =>
      ContentRound environment origin before answer after := by
  rw [contentStep, ensures_bind]
  refine (ensures_closeContent settles framed form pending).mono ?_
  intro answer values middle ensured
  obtain ⟨content, attempt, closing⟩ := answer
  obtain ⟨pending, settled⟩ := ensured
  cases attempt with
  | accepted => simpa [ContentRound] using settled (by simp)
  | canceled => simpa [ContentRound] using settled (by simp)
  | backtracked =>
    simp only [ensures_bind, ensures_cursor]
    cases middle.cursor.peek with
    | none =>
      simp only [ensures_bind, ensures_discard]
      refine (ensures_flush pending).mono ?_
      intro flushed _ after ensured
      obtain ⟨-, same, settled⟩ := ensured
      rw [← same]
      simp only [ensures_reportError, ensures_pure]
      have opened_le := Nat.le_trans opened_le settled.reaches.position
      exact settled.withError _ origin_le opened_le (Nat.le_max_right ..)
        (Nat.max_le.mpr ⟨opened_le, Nat.le_refl _⟩)
    | some unit =>
      cases form.escapes.find? fun escape => escape.introducer.pattern.matchesAt middle.cursor with
      | some escape => exact ensures_escaped settles framed escape pending
      | none =>
        simp only [ensures_bind, ensures_pure]
        exact ensures_contentUnit form pending unit

theorem ensures_parseContent (settles : run.Settles) (framed : before.scope.frames ≠ [])
    (settled : Settled environment origin before state) (form : Delimited U) {opened : Nat}
    (origin_le : origin ≤ opened) (opened_le : opened ≤ before.cursor.position) :
    (run.parseContent form opened).Ensures environment state fun _ _ after =>
      Settled environment origin before after := by
  simp only [parseContent, ensures_bind, ensures_currentSink, loop]
  refine ensures_iterate (fun content _ middle => Pending environment origin before content middle)
    ?_ _ _ (Pending.of_settled rfl settled)
  intro content values middle pending
  refine (ensures_contentStep settles framed form origin_le opened_le pending).mono ?_
  intro answer more after round
  cases answer with
  | again next => exact round
  | done result =>
    have settled : Settled environment origin before after := round
    cases result with
    | none => simpa using settled
    | some result =>
      simp only [ensures_bind]
      refine ((settles_emitUnlessNothing _).after framed settled).mono ?_
      intro _ _ last settled
      simpa using settled

theorem settles_attemptDelimited (settles : run.Settles) (opening : Rule U)
    (form : Delimited U) : (run.attemptDelimited opening form).Settles := by
  intro environment state framed
  rw [attemptDelimited, ensures_bind, ensures_cursor]
  apply ensures_ifAccepted settles framed
  rw [ensures_withoutWhitespace, attemptThen, ensures_bind]
  have framed : state.withoutWhitespace.scope.frames ≠ [] := framed
  have begun : Settled environment state.cursor.position state.withoutWhitespace
      state.withoutWhitespace := .start environment state.withoutWhitespace
  refine ((settles.attempt opening).after framed begun).mono ?_
  intro attempt values middle opened
  cases attempt with
  | accepted =>
    rw [ensures_bind]
    refine (ensures_parseContent settles framed opened form (Nat.le_refl _)
      (Nat.le_refl _)).mono ?_
    intro parsed more after settled
    exact (ensures_pure ..).mpr settled.againWithWhitespace
  | canceled => exact (ensures_pure ..).mpr opened.againWithWhitespace
  | backtracked => exact (ensures_pure ..).mpr opened.againWithWhitespace

theorem ensures_delimited (settles : run.Settles) (opening : Rule U) (form : Delimited U)
    (framed : state.scope.frames ≠ []) :
    (withoutWhitespace do
      if ← run.parse opening then run.parseContent form state.cursor.position
      else return false).Ensures environment state fun _ _ after =>
        Settled environment state.cursor.position state after := by
  rw [ensures_withoutWhitespace, ensures_bind]
  have framed : state.withoutWhitespace.scope.frames ≠ [] := framed
  have begun : Settled environment state.cursor.position state.withoutWhitespace
      state.withoutWhitespace := .start environment state.withoutWhitespace
  refine ((settles.parse opening).after framed begun).mono ?_
  intro parsed values middle opened
  cases parsed with
  | true =>
    refine (ensures_parseContent settles framed opened form (Nat.le_refl _)
      (Nat.le_refl _)).mono ?_
    intro parsed more after settled
    exact settled.againWithWhitespace
  | false => exact (ensures_pure ..).mpr opened.againWithWhitespace

theorem settles_parseDelimited (settles : run.Settles) (opening : Rule U)
    (form : Delimited U) : (run.parseDelimited opening form).Settles := by
  intro environment state framed
  rw [parseDelimited, ensures_bind, ensures_cursor]
  exact ensures_ifParsed settles framed (ensures_delimited settles opening form framed)

end Descent.Runner
