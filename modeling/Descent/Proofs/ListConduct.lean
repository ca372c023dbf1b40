import Descent.Proofs.Settling

/-! Lists account for what is read: what is skipped between two items is one token, and a
separator that should not be there was read before it is complained about. -/

namespace Descent.Runner

open Descent.Parser

variable {U σ : Type} {run : Runner U σ} {environment : Environment U σ} {origin : Nat}
  {before state : State U σ}

private theorem ensures_checkTrailing (settled : Settled environment origin before state)
    (separator : Separator (Rule U)) {span : Span} (origin_le : origin ≤ span.first)
    (stop_le : span.stop ≤ state.cursor.position) :
    (checkTrailing separator span).Ensures environment state fun _ _ after =>
      Settled environment origin before after := by
  unfold checkTrailing
  cases separator.trailing with
  | true => simpa using settled
  | false =>
    have reported : Settled environment origin before
        (state.withError environment .unexpectedTrailingSeparator span.first span) :=
      settled.withError _ origin_le (Nat.le_refl _) span.first_le_stop stop_le
    simpa using reported

private theorem ensures_nextItem (settles : run.Settles) (framed : before.scope.frames ≠ [])
    (settled : Settled environment origin before state) (item : Rule U)
    (items : List (List Value)) (start : Cursor U) {declined : Parser U σ Unit}
    (declined_settles : ∀ after : State U σ, Settled environment origin before after →
      state.cursor.Reaches after.cursor →
        declined.Ensures environment after fun _ _ last =>
          Settled environment origin before last) :
    (run.nextItem item items start declined).Ensures environment state fun _ _ after =>
      Settled environment origin before after := by
  rw [nextItem, ensures_bind, ensures_collect]
  have framed' : state.scope.frames ≠ [] := by rwa [settled.frames]
  refine (settles.attempt item environment state framed').mono ?_
  intro attempt values after read
  have settled := settled.trans read
  cases attempt with
  | accepted =>
    simp only [ensures_bind, ensures_cursor]
    split <;> simpa using settled
  | canceled => simpa using settled
  | backtracked => simpa using declined_settles after settled read.reaches

def listRound (run : Runner U σ) (item : Rule U) (separator : Option (Separator (Rule U)))
    (items : List (List Value)) :
    Parser U σ (Round (List (List Value)) (Option (List (List Value)))) := do
  let before ← cursor
  match separator with
  | none => run.nextItem item items before (pure ())
  | some separator =>
    match ← quietly (run.attempt separator.rule) with
    | .backtracked => return .done (some items)
    | .canceled => return .done none
    | .accepted =>
      let span := before.spanTo (← cursor)
      run.nextItem item items before (checkTrailing separator span)

/-- The separator before an item that is missing has been read in the same round. -/
theorem settles_listRound (settles : run.Settles) (item : Rule U)
    (separator : Option (Separator (Rule U))) (items : List (List Value)) :
    (run.listRound item separator items).Settles := by
  intro environment state framed
  have settled := Conduct.start environment state
  rw [listRound, ensures_bind, ensures_cursor]
  cases separator with
  | none =>
    exact ensures_nextItem settles framed settled item items _ fun after settled _ => by
      simpa using settled
  | some separator =>
    simp only [ensures_bind]
    refine (settles_quietly (settles.attempt separator.rule) environment state framed).mono ?_
    intro attempt values middle read
    cases attempt with
    | accepted =>
      simp only [ensures_bind, ensures_cursor]
      apply ensures_nextItem settles framed read item items _
      intro after settled reaches
      apply ensures_checkTrailing settled separator (Nat.le_refl _)
      rw [read.reaches.stop_spanTo]
      exact reaches.position
    | canceled => simpa using read
    | backtracked => simpa using read

theorem settles_restOfList (settles : run.Settles) (item : Rule U)
    (separator : Option (Separator (Rule U))) (items : List (List Value)) :
    (run.restOfList item separator items).Settles :=
  settles_iterate (settles_listRound settles item separator) _ _

theorem settles_finishList (settles : run.Settles) (item : Rule U)
    (separator : Option (Separator (Rule U))) (sink : Sink) (first : List Value) :
    (run.finishList item separator sink first).Settles := by
  refine (settles_restOfList settles item separator [first]).bind fun items => ?_
  cases items with
  | none => exact settles_pure _
  | some items => exact (settles_emitUnlessNothing _).bind fun _ => settles_pure _

theorem looks_currentSink : (currentSink : Parser U σ Sink).Looks := by
  simp [Looks]

theorem settles_attemptList (settles : run.Settles) (item : Rule U)
    (separator : Option (Separator (Rule U))) : (run.attemptList item separator).Settles := by
  refine looks_currentSink.settles.bind fun sink => ?_
  apply (settles_collect (settles.attempt item)).bind
  intro answer
  obtain ⟨attempt, values⟩ := answer
  cases attempt with
  | accepted => exact settles_ofBool (settles_finishList settles item separator sink values)
  | canceled => exact settles_pure _
  | backtracked => exact settles_pure _

theorem settles_parseList (settles : run.Settles) (item : Rule U)
    (separator : Option (Separator (Rule U))) : (run.parseList item separator).Settles := by
  refine looks_currentSink.settles.bind fun sink => ?_
  apply (settles_collect (settles.parse item)).bind
  intro answer
  obtain ⟨parsed, values⟩ := answer
  cases parsed with
  | true => exact settles_finishList settles item separator sink values
  | false => exact settles_pure _

/-- Where a separator was read that a list has yet to use. -/
def ListPhase.Within (origin last : Nat) : ListPhase → Prop
  | .afterSeparator span => origin ≤ span.first ∧ span.stop ≤ last
  | _ => True

theorem TerminatedList.Resumes.within {list : TerminatedList U} {phase : ListPhase}
    (resumes : list.Resumes phase) (origin last : Nat) :
    ListPhase.Within origin last phase := by
  cases phase with
  | afterSeparator => exact resumes.elim
  | _ => trivial

theorem ensures_recoverList (settled : Settled environment origin before state)
    (list : TerminatedList U) :
    (run.recoverList list).Ensures environment state fun answer _ after =>
      Settled environment origin before after ∧ ∀ phase ∈ answer, list.Resumes phase := by
  simp only [recoverList, ensures_bind, ensures_cursor]
  refine (ensures_seek_looking (looks_recoveryAt list state.cursor) (looks_pure false)).mono ?_
  intro ended values after ensured
  obtain ⟨-, reaches, same, resumes⟩ := ensured
  simp only [ensures_reportSkipped, ensures_pure]
  have skipped := settled.skipped reaches
  rw [← same] at skipped
  refine ⟨skipped, fun phase member => ?_⟩
  rw [Option.mem_def, Option.join_eq_some_iff] at member
  exact resumes _ member phase rfl

/-- After a step of a list with a terminator the separator that it has read last is one of its
own. -/
def StepSettled (environment : Environment U σ) (origin : Nat) (before : State U σ)
    (answer : Round (ListPhase × List (List Value)) (Option (List (List Value) × List Value)))
    (after : State U σ) : Prop :=
  Settled environment origin before after ∧
    match answer with
    | .again next => ListPhase.Within origin after.cursor.position next.1
    | .done _ => True

section Steps

variable (settles : run.Settles) (framed : before.scope.frames ≠ [])
  (settled : Settled environment origin before state) (list : TerminatedList U)
  (items : List (List Value))

include settles framed settled

private theorem ensures_terminatorStep :
    (run.listStep list .terminator items).Ensures environment state fun answer _ after =>
      StepSettled environment origin before answer after := by
  simp only [listStep, ensures_bind, ensures_collect]
  refine ((settles.attempt list.terminator).after framed settled).mono ?_
  intro attempt values after settled
  cases attempt with
  | accepted => simpa [StepSettled] using settled
  | canceled => simpa [StepSettled] using settled
  | backtracked =>
    simp only [ensures_pure]
    refine ⟨settled, ?_⟩
    change ListPhase.Within _ _ (if list.separator.isSome && !items.isEmpty then _ else _)
    split <;> trivial

private theorem ensures_separatorStep :
    (run.listStep list .separator items).Ensures environment state fun answer _ after =>
      StepSettled environment origin before answer after := by
  have origin_le := Nat.le_trans settled.origin_le settled.reaches.position
  have framed' : state.scope.frames ≠ [] := by rwa [settled.frames]
  simp only [listStep]
  cases list.separator with
  | none => simpa [StepSettled] using settled
  | some separator =>
    simp only [ensures_bind, ensures_cursor]
    refine (settles_quietly (settles.parse separator.rule) environment state framed').mono ?_
    intro parsed values after read
    have settled := settled.trans read
    cases parsed with
    | true =>
      simp only [if_true, ensures_bind, ensures_cursor, ensures_pure]
      exact ⟨settled, origin_le, Nat.le_of_eq read.reaches.stop_spanTo⟩
    | false => simpa using ⟨settled, trivial⟩

private theorem ensures_afterSeparatorStep (span : Span)
    (within : ListPhase.Within origin state.cursor.position (.afterSeparator span)) :
    (run.listStep list (.afterSeparator span) items).Ensures environment state fun answer _ after =>
      StepSettled environment origin before answer after := by
  have framed' : state.scope.frames ≠ [] := by rwa [settled.frames]
  simp only [listStep, ensures_bind, ensures_collect]
  refine (settles.attempt list.terminator environment state framed').mono ?_
  intro attempt values after read
  have settled := settled.trans read
  cases attempt with
  | accepted =>
    cases list.separator with
    | none => simpa [StepSettled] using settled
    | some separator =>
      simp only [ensures_bind, ensures_pure, StepSettled, and_true]
      exact ensures_checkTrailing settled separator within.1
        (Nat.le_trans within.2 read.reaches.position)
  | canceled => simpa [StepSettled] using settled
  | backtracked => simpa using ⟨settled, trivial⟩

private theorem ensures_itemStep :
    (run.listStep list .item items).Ensures environment state fun answer _ after =>
      StepSettled environment origin before answer after := by
  simp only [listStep, ensures_bind, ensures_collect]
  refine ((settles.parse list.item).after framed settled).mono ?_
  intro parsed values after settled
  cases parsed with
  | true => simpa using ⟨settled, trivial⟩
  | false => simpa using ⟨settled, trivial⟩

omit settles framed in
private theorem ensures_recoveryStep :
    (run.listStep list .recovery items).Ensures environment state fun answer _ after =>
      StepSettled environment origin before answer after := by
  simp only [listStep, ensures_bind]
  refine (ensures_recoverList settled list).mono ?_
  intro answer values after ensured
  obtain ⟨settled, resumes⟩ := ensured
  cases answer with
  | none => simpa [StepSettled] using settled
  | some next => simpa using ⟨settled, (resumes next rfl).within _ _⟩

theorem ensures_listStep (phase : ListPhase)
    (within : ListPhase.Within origin state.cursor.position phase) :
    (run.listStep list phase items).Ensures environment state fun answer _ after =>
      StepSettled environment origin before answer after := by
  cases phase with
  | terminator => exact ensures_terminatorStep settles framed settled list items
  | separator => exact ensures_separatorStep settles framed settled list items
  | afterSeparator span =>
    exact ensures_afterSeparatorStep settles framed settled list items span within
  | item => exact ensures_itemStep settles framed settled list items
  | recovery => exact ensures_recoveryStep settled list items

end Steps

theorem settles_parseTerminatedList (settles : run.Settles) (list : TerminatedList U)
    (mayBeEmpty : Bool) : (run.parseTerminatedList list mayBeEmpty).Settles := by
  intro environment state framed
  simp only [parseTerminatedList, ensures_bind, ensures_currentSink, loop]
  refine ensures_iterate (fun current _ middle =>
    Settled environment state.cursor.position state middle ∧
      ListPhase.Within state.cursor.position middle.cursor.position current.1) ?_ _ _ ?_
  · intro answer values middle ensured
    obtain ⟨phase, items⟩ := answer
    obtain ⟨settled, within⟩ := ensured
    refine (ensures_listStep settles framed settled list items phase within).mono ?_
    intro answer more after ensured
    obtain ⟨settled, next⟩ := ensured
    cases answer with
    | again => exact ⟨settled, next⟩
    | done result =>
      cases result with
      | none => simpa using settled
      | some result =>
        simp only [ensures_bind]
        refine ((settles_emitUnlessNothing _).after framed settled).mono ?_
        intro _ _ last settled
        simpa using settled
  · refine ⟨.start environment state, ?_⟩
    cases mayBeEmpty <;> trivial

end Descent.Runner
