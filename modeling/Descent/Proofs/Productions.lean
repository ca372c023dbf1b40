import Descent.Proofs.History

/-! What calling a production does to the state besides running its rule: a frame is
opened and closed, and the observer is told, unless it is kept from seeing productions. -/

namespace Descent

namespace Report

variable {σ : Type}

def ticket (observer : Observer σ) (profile : Profile) (position : Nat) (report : Report σ) :
    Ticket :=
  if report.isMuted then .unseen else (observer.start profile position report.notes).1

def withStart (observer : Observer σ) (profile : Profile) (position : Nat) (report : Report σ) :
    Report σ :=
  { report with
    statistics := { report.statistics with productions := report.statistics.productions + 1 }
    notes :=
      if report.isMuted then report.notes else (observer.start profile position report.notes).2 }

def withEnd (observer : Observer σ) (profile : Profile) (ticket : Ticket) (ending : Ending)
    (report : Report σ) : Report σ :=
  { report with
    notes :=
      if report.isMuted then report.notes else ending.tell observer profile ticket report.notes }

def withBacktrack (report : Report σ) : Report σ :=
  { report with
    statistics := { report.statistics with backtracks := report.statistics.backtracks + 1 } }

/-- The value that a production ends with, if the observer sees it and makes one. -/
def produced (observer : Observer σ) (profile : Profile) (ticket : Ticket) (values : List Value)
    (stop : Nat) (report : Report σ) : List Value :=
  let value := (observer.finish profile ticket values stop report.notes).1
  if report.isMuted || value.isNothing then [] else [value]

end Report

namespace Scope

variable {U : Type}

def whitespaceFor (grammar : Grammar U) (production : Production U) (scope : Scope U) :
    Option (Rule U) :=
  if production.profile.isToken then none
  else
    match production.whitespace, scope.frames with
    | some own, _ => some own
    | none, caller :: _ => caller.whitespace
    | none, [] => grammar.whitespace

def inside (grammar : Grammar U) (production : Production U) (scope : Scope U) : Scope U :=
  { scope with
    frames := ⟨production, scope.whitespaceFor grammar production, scope.bindings.length⟩ ::
      scope.frames }

def outside (scope : Scope U) : Scope U :=
  match scope.frames with
  | [] => scope
  | frame :: frames => { scope with frames, bindings := scope.bindings.restore frame.height }

theorem outside_inside (grammar : Grammar U) (production : Production U) (scope : Scope U) :
    (scope.inside grammar production).outside = scope := by
  simp [inside, outside, Bindings.restore]

end Scope

namespace State

variable {U σ : Type}

def inside (environment : Environment U σ) (production : Production U) (state : State U σ) :
    State U σ :=
  { state with
    scope := state.scope.inside environment.grammar production
    report := state.report.withStart environment.observer production.profile
      state.cursor.position }

def outside (state : State U σ) : State U σ :=
  { state with scope := state.scope.outside }

def withEnd (environment : Environment U σ) (profile : Profile) (ticket : Ticket)
    (ending : Ending) (state : State U σ) : State U σ :=
  { state with report := state.report.withEnd environment.observer profile ticket ending }

def takenBack (environment : Environment U σ) (profile : Profile) (ticket : Ticket)
    (before : Cursor U) (state : State U σ) : State U σ :=
  { state.withEnd environment profile ticket .declined with
    cursor := before
    report := (state.report.withEnd environment.observer profile ticket .declined).withBacktrack }

end State

namespace Runner

open Descent.Parser

variable {U σ : Type} (run : Runner U σ) {environment : Environment U σ} {state : State U σ}

def skipLeading (outermost : Bool) (environment : Environment U σ) : Parser U σ Unit :=
  if outermost && environment.config.skipLeadingWhitespace then run.skipWhitespace else pure ()

@[simp] theorem skipLeading_false : run.skipLeading false environment = pure () := rfl

def runAs (asBranch : Bool) (rule : Rule U) : Parser U σ Attempt :=
  if asBranch then run.attempt rule else do return .ofBool (← run.parse rule)

@[simp] theorem ensures_whitespaceOf (production : Production U)
    (post : Option (Rule U) → List Value → State U σ → Prop) :
    (whitespaceOf production).Ensures environment state post ↔
      post (state.scope.whitespaceFor environment.grammar production) [] state := by
  cases token : production.profile.isToken with
  | true => simp [whitespaceOf, Scope.whitespaceFor, token]
  | false =>
    cases own : production.whitespace <;> cases frames : state.scope.frames <;>
      simp [whitespaceOf, Scope.whitespaceFor, token, own, frames]

@[simp] theorem ensures_popFrame (post : Unit → List Value → State U σ → Prop) :
    popFrame.Ensures environment state post ↔ post () [] state.outside := by
  cases frames : state.scope.frames <;>
    simp [popFrame, State.outside, Scope.outside, frames]

theorem ensures_start (profile : Profile) (position : Nat)
    (post : Ticket → List Value → State U σ → Prop) :
    (start profile position).Ensures environment state post ↔
      post (state.report.ticket environment.observer profile position) []
        { state with
          report := { state.report with
            notes :=
              if state.report.isMuted then state.report.notes
              else (environment.observer.start profile position state.report.notes).2 } } := by
  cases muted : state.report.isMuted <;> simp [start, Report.ticket, muted]

/-- What is left of a production when its rule has been run. -/
theorem ensures_inFrame (production : Production U) (asBranch : Bool)
    (post : Attempt × List Value → List Value → State U σ → Prop) :
    (run.inFrame production asBranch).Ensures environment state post ↔
      (run.skipLeading state.scope.frames.isEmpty environment).Ensures environment
        { state with scope := state.scope.inside environment.grammar production }
        fun _ skipped middle =>
          (run.runAs asBranch production.rule).Ensures environment middle
            fun attempt values after => post (attempt, values) skipped after.outside := by
  simp [inFrame, pushFrame, skipLeading, runAs, Scope.inside]

theorem ensures_finish (profile : Profile) (ticket : Ticket) (values : List Value)
    (post : Unit → List Value → State U σ → Prop) :
    (finish profile ticket values).Ensures environment state post ↔
      post () (state.report.produced environment.observer profile ticket values
        state.cursor.position)
        (state.withEnd environment profile ticket (.finished values state.cursor.position)) := by
  cases muted : state.report.isMuted <;>
    simp [finish, emitUnlessNothing, Report.produced, State.withEnd, Report.withEnd, Ending.tell,
      muted]
  split <;> simp

/-- What a call that began in `state` ensures, by the outcome of the rule of its production:
the end is told, and after a token whitespace is skipped. -/
def CallEnsures (environment : Environment U σ) (production : Production U) (state : State U σ)
    (post : Attempt → List Value → State U σ → Prop) (skipped : List Value) (attempt : Attempt)
    (values : List Value) (after : State U σ) : Prop :=
  let profile := production.profile
  let ticket := state.report.ticket environment.observer profile state.cursor.position
  let stop := after.cursor.position
  match attempt with
  | .accepted =>
    (if profile.isToken then run.skipWhitespace else pure ()).Ensures environment
      (after.outside.withEnd environment profile ticket (.finished values stop))
      fun _ more last => post .accepted (skipped ++
        after.report.produced environment.observer profile ticket values stop ++ more) last
  | .canceled =>
    post .canceled skipped (after.outside.withEnd environment profile ticket (.canceled stop))
  | .backtracked =>
    post .backtracked skipped (after.outside.takenBack environment profile ticket state.cursor)

/-- A call runs the rule of the production between its start and its end. -/
theorem ensures_callProduction (production : Production U) (asBranch : Bool)
    (post : Attempt → List Value → State U σ → Prop) :
    (run.callProduction production asBranch).Ensures environment state post ↔
      (run.skipLeading state.scope.frames.isEmpty environment).Ensures environment
        (state.inside environment production) fun _ skipped middle =>
          (run.runAs asBranch production.rule).Ensures environment middle
            (run.CallEnsures environment production state post skipped) := by
  simp only [callProduction, ensures_bind, ensures_cursor, ensures_count, ensures_start,
    ensures_inFrame, List.nil_append]
  change (run.skipLeading _ environment).Ensures environment
    (state.inside environment production) _ ↔ _
  refine ensures_congr fun _ skipped middle => ensures_congr fun attempt values after => ?_
  unfold CallEnsures
  cases attempt with
  | accepted =>
    simp only [ensures_bind, ensures_finish, ensures_ite, ensures_pure]
    cases production.profile.isToken <;> simp [State.outside, Report.ticket, Report.isMuted]
  | canceled =>
    by_cases muted : after.report.muted = 0 <;>
      simp [State.outside, State.withEnd, Report.withEnd, Report.ticket, Ending.tell,
        Report.isMuted, muted]
  | backtracked =>
    by_cases muted : after.report.muted = 0 <;>
      simp [State.outside, State.withEnd, State.takenBack, Report.withEnd, Report.withBacktrack,
        Report.ticket, Ending.tell, Report.isMuted, muted]

end Runner
end Descent
