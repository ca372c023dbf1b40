import Descent.Proofs.StructureReports

/-! Lists report their failures. A list that skips input after a malformed item has reported
that item before, so it may fail in silence then. -/

namespace Descent.Runner

open Descent.Parser

variable {U σ : Type} {run : Runner U σ} {environment : Environment U σ}
  {sound : Rule U → Prop}

private theorem reports_nextItem (settles : run.Settles) (reports : run.ReportsOf environment sound)
    (item : Rule U) (itemSound : sound item) (items : List (List Value)) (start : Cursor U)
    (declined : Parser U σ Unit) :
    (run.nextItem item items start declined).Reports environment
      fun answer => ∃ result, answer = .done result ∧ result = none := by
  refine (reports_collect (reports.attempt item itemSound)).bind
    (settles_collect (settles.attempt item)) ?_
  intro answer
  obtain ⟨attempt, values⟩ := answer
  cases attempt with
  | accepted =>
    refine .inr (looks_cursor.settles.bind_reports fun here => ?_)
    split <;> exact reports_pure (by simp)
  | canceled => exact .inl ⟨rfl, settles_pure _⟩
  | backtracked => exact .inr fun state framed => by simp

private theorem reports_listRound (settles : run.Settles)
    (reports : run.ReportsOf environment sound)
    (item : Rule U) (itemSound : sound item) (separator : Option (Separator (Rule U)))
    (separatorSound : ∀ found ∈ separator, sound found.rule) (items : List (List Value)) :
    (run.listRound item separator items).Reports environment
      fun answer => ∃ result, answer = .done result ∧ result = none := by
  refine looks_cursor.settles.bind_reports fun start => ?_
  cases separator with
  | none => exact reports_nextItem settles reports item itemSound items start _
  | some separator =>
    refine (reports_quietly (reports.attempt separator.rule (separatorSound separator rfl))).bind
      (settles_quietly (settles.attempt separator.rule)) fun attempt => ?_
    cases attempt with
    | accepted =>
      exact .inr (looks_cursor.settles.bind_reports fun here =>
        reports_nextItem settles reports item itemSound items start _)
    | canceled => exact .inl ⟨rfl, settles_pure _⟩
    | backtracked => exact .inr (reports_pure (by simp))

private theorem reports_finishList (settles : run.Settles)
    (reports : run.ReportsOf environment sound)
    (item : Rule U) (itemSound : sound item) (separator : Option (Separator (Rule U)))
    (separatorSound : ∀ found ∈ separator, sound found.rule) (sink : Sink)
    (first : List Value) :
    (run.finishList item separator sink first).Reports environment (· = false) := by
  have rest : (run.restOfList item separator [first]).Reports environment (· = none) :=
    reports_iterate (settles_listRound settles item separator)
      (reports_listRound settles reports item itemSound separator separatorSound) _ _
  refine rest.bind (settles_restOfList settles item separator [first]) fun items => ?_
  cases items with
  | none => exact .inl ⟨rfl, settles_pure _⟩
  | some items =>
    exact .inr ((settles_emitUnlessNothing _).bind_reports fun _ => reports_pure (by simp))

theorem reports_attemptList (settles : run.Settles) (reports : run.ReportsOf environment sound)
    (item : Rule U) (itemSound : sound item) (separator : Option (Separator (Rule U)))
    (separatorSound : ∀ found ∈ separator, sound found.rule) :
    (run.attemptList item separator).Reports environment (· = .canceled) := by
  refine looks_currentSink.settles.bind_reports fun sink => ?_
  refine (reports_collect (reports.attempt item itemSound)).bind
    (settles_collect (settles.attempt item)) ?_
  intro answer
  obtain ⟨attempt, values⟩ := answer
  cases attempt with
  | accepted =>
    exact .inr (reports_ofBool
      (reports_finishList settles reports item itemSound separator separatorSound sink values))
  | canceled => exact .inl ⟨rfl, settles_pure _⟩
  | backtracked => exact .inr (reports_pure (by simp))

theorem reports_parseList (settles : run.Settles) (reports : run.ReportsOf environment sound)
    (item : Rule U) (itemSound : sound item) (separator : Option (Separator (Rule U)))
    (separatorSound : ∀ found ∈ separator, sound found.rule) :
    (run.parseList item separator).Reports environment (· = false) := by
  refine looks_currentSink.settles.bind_reports fun sink => ?_
  refine (reports_collect (reports.parse item itemSound)).bind
    (settles_collect (settles.parse item)) ?_
  intro answer
  obtain ⟨parsed, values⟩ := answer
  cases parsed with
  | false => exact .inl ⟨rfl, settles_pure _⟩
  | true =>
    exact .inr
      (reports_finishList settles reports item itemSound separator separatorSound sink values)

/-- What a list with a terminator has reported, or can rely on, before its next step: it skips
input only after an error, and looks for a separator only if it has one. -/
def TerminatedList.Ready (list : TerminatedList U) (errors : Nat) (state : State U σ) :
    ListPhase → Prop
  | .recovery => errors < state.report.statistics.errors
  | .separator => list.separator.isSome
  | .terminator | .afterSeparator _ | .item => True

private theorem TerminatedList.Resumes.ready {list : TerminatedList U} {phase : ListPhase}
    (resumes : list.Resumes phase) (errors : Nat) (state : State U σ) :
    list.Ready errors state phase := by
  cases phase with
  | separator => exact resumes
  | recovery => exact resumes.elim
  | _ => trivial

/-- A step of a list with a terminator that ends the list without an answer has reported it, or
there was an error before. -/
def StepReported (list : TerminatedList U) (errors : Nat)
    (answer : Round (ListPhase × List (List Value)) (Option (List (List Value) × List Value)))
    (after : State U σ) : Prop :=
  match answer with
  | .again next => list.Ready errors after next.1
  | .done result => result = none → errors < after.report.statistics.errors

section Steps

variable (reports : run.ReportsOf environment sound) (list : TerminatedList U)
  (terminatorSound : sound list.terminator) (itemSound : sound list.item)
  (separatorSound : ∀ found ∈ list.separator, sound found.rule) {errors : Nat} {state : State U σ}
  (framed : state.scope.frames ≠ []) (errors_le : errors ≤ state.report.statistics.errors)
  (items : List (List Value))

include reports terminatorSound framed errors_le in
private theorem reports_terminatorStep :
    (run.listStep list .terminator items).Ensures environment state fun answer _ after =>
      StepReported list errors answer after := by
  simp only [listStep, ensures_bind, ensures_collect]
  refine (reports.attempt list.terminator terminatorSound state framed).mono ?_
  intro attempt values after reported
  cases attempt with
  | accepted => simp [StepReported]
  | canceled => simpa [StepReported] using Nat.lt_of_le_of_lt errors_le (reported rfl)
  | backtracked =>
    simp only [ensures_pure]
    by_cases separated : list.separator.isSome && !items.isEmpty
    · rw [if_pos separated]
      rw [Bool.and_eq_true] at separated
      exact separated.1
    · rw [if_neg separated]
      trivial

include reports separatorSound framed errors_le in
private theorem reports_separatorStep (ready : list.Ready errors state .separator) :
    (run.listStep list .separator items).Ensures environment state fun answer _ after =>
      StepReported list errors answer after := by
  simp only [listStep]
  cases found : list.separator with
  | none => simp [TerminatedList.Ready, found] at ready
  | some separator =>
    simp only [ensures_bind, ensures_cursor]
    refine (reports_quietly (reports.parse separator.rule (separatorSound separator found))
      state framed).mono ?_
    intro parsed values after reported
    cases parsed with
    | true => simp [StepReported, TerminatedList.Ready]
    | false =>
      simpa [StepReported, TerminatedList.Ready] using Nat.lt_of_le_of_lt errors_le (reported rfl)

include reports terminatorSound framed errors_le in
private theorem reports_afterSeparatorStep (span : Span) :
    (run.listStep list (.afterSeparator span) items).Ensures environment state fun answer _ after =>
      StepReported list errors answer after := by
  simp only [listStep, ensures_bind, ensures_collect]
  refine (reports.attempt list.terminator terminatorSound state framed).mono ?_
  intro attempt values after reported
  cases attempt with
  | accepted => cases list.separator <;> simp [StepReported]
  | canceled => simpa [StepReported] using Nat.lt_of_le_of_lt errors_le (reported rfl)
  | backtracked => simp [StepReported, TerminatedList.Ready]

include reports itemSound framed errors_le in
private theorem reports_itemStep :
    (run.listStep list .item items).Ensures environment state fun answer _ after =>
      StepReported list errors answer after := by
  simp only [listStep, ensures_bind, ensures_collect]
  refine (reports.parse list.item itemSound state framed).mono ?_
  intro parsed values after reported
  cases parsed with
  | true => simp [StepReported, TerminatedList.Ready]
  | false =>
    simpa [StepReported, TerminatedList.Ready] using Nat.lt_of_le_of_lt errors_le (reported rfl)

private theorem reports_recoveryStep (ready : list.Ready errors state .recovery) :
    (run.listStep list .recovery items).Ensures environment state fun answer _ after =>
      StepReported list errors answer after := by
  simp only [listStep, ensures_bind]
  refine (ensures_recoverList (.start environment state) list).mono ?_
  intro answer values after ensured
  obtain ⟨skipped, resumes⟩ := ensured
  cases answer with
  | none => simpa [StepReported] using Nat.lt_of_lt_of_le ready skipped.errors_le
  | some next => simpa [StepReported] using (resumes next rfl).ready _ _

include reports terminatorSound itemSound separatorSound framed errors_le in
private theorem reports_listStep (phase : ListPhase) (ready : list.Ready errors state phase) :
    (run.listStep list phase items).Ensures environment state fun answer _ after =>
      StepReported list errors answer after := by
  cases phase with
  | terminator =>
    exact reports_terminatorStep reports list terminatorSound framed errors_le items
  | separator =>
    exact reports_separatorStep reports list separatorSound framed errors_le items ready
  | afterSeparator span =>
    exact reports_afterSeparatorStep reports list terminatorSound framed errors_le items span
  | item => exact reports_itemStep reports list itemSound framed errors_le items
  | recovery => exact reports_recoveryStep list items ready

end Steps

theorem reports_parseTerminatedList (settles : run.Settles)
    (reports : run.ReportsOf environment sound) (list : TerminatedList U)
    (terminatorSound : sound list.terminator) (itemSound : sound list.item)
    (separatorSound : ∀ found ∈ list.separator, sound found.rule) (mayBeEmpty : Bool) :
    (run.parseTerminatedList list mayBeEmpty).Reports environment (· = false) := by
  intro state framed
  simp only [parseTerminatedList, ensures_bind, ensures_currentSink, loop]
  refine ensures_iterate (fun current _ middle =>
    (Settled environment state.cursor.position state middle ∧
      ListPhase.Within state.cursor.position middle.cursor.position current.1) ∧
        list.Ready state.report.statistics.errors middle current.1) ?_ _ _ ?_
  · intro answer values middle ensured
    obtain ⟨phase, items⟩ := answer
    obtain ⟨⟨settled, within⟩, ready⟩ := ensured
    have framed' : middle.scope.frames ≠ [] := by rwa [settled.frames]
    refine ((ensures_listStep settles framed settled list items phase within).and
      (reports_listStep reports list terminatorSound itemSound separatorSound framed'
        settled.errors_le items phase ready)).mono ?_
    intro answer more after ensured
    obtain ⟨⟨settled, next⟩, reported⟩ := ensured
    cases answer with
    | again => exact ⟨⟨settled, next⟩, reported⟩
    | done result =>
      cases result with
      | none => simpa using reported rfl
      | some result => simp
  · cases mayBeEmpty <;> exact ⟨⟨.start environment state, trivial⟩, trivial⟩

end Descent.Runner
