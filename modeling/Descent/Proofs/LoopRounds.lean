import Descent.Proofs.ContextDiscipline
import Descent.Proofs.ExitLoops
import Descent.Proofs.OutcomeLogic

/-! The rounds of a loop. Each of them begins with the same variables. Whether there is another one
depends on the body alone: it has to be taken, to move, and not to leave the loop. -/

namespace Descent.Runner

open Descent.Parser

section Rounds

variable {U σ : Type} {run : Runner U σ} {body : Rule U} {environment : Environment U σ}
  {start state other : State U σ} {index : Nat}

/-- The states in which the rounds of a loop begin that is run in `start`. -/
inductive BeginsRound (run : Runner U σ) (body : Rule U) (environment : Environment U σ)
    (start : State U σ) : Nat → State U σ → Prop
  | first :
    BeginsRound run body environment start 0 (start.withBindings ((loopExit, .flag false) :: ·))
  | next {index : Nat} {state after : State U σ} {values : List Value}
      (begins : BeginsRound run body environment start index state)
      (again : run.loopRound body (start.scope.bindings.length + 1) environment state =
        some ⟨.again (), values, after⟩) :
    BeginsRound run body environment start (index + 1) after

namespace BeginsRound

theorem unique (begins : run.BeginsRound body environment start index state)
    (also : run.BeginsRound body environment start index other) : other = state := by
  induction begins generalizing other with
  | first =>
    cases also
    rfl
  | next _ again ih =>
    cases also with
    | next begins again' =>
      cases ih begins
      cases again.symm.trans again'
      rfl

/-- A round that is the last one is not followed by another. -/
theorem last {result : Bool} {values : List Value} {after : State U σ}
    (begins : run.BeginsRound body environment start index state)
    (done : run.loopRound body (start.scope.bindings.length + 1) environment state =
      some ⟨.done result, values, after⟩) (next : State U σ) :
    ¬run.BeginsRound body environment start (index + 1) next := by
  intro following
  cases following with
  | next begins' again =>
    cases begins.unique begins'
    cases done.symm.trans again

/-- A loop goes round to where one of its rounds begins. -/
theorem gives_iterate {post : Bool → State U σ → Prop}
    (begins : run.BeginsRound body environment start index state) (more : Nat)
    (gives : (iterate (fun _ => run.loopRound body (start.scope.bindings.length + 1)) more
      ()).Gives environment state fun result _ after => post result after) :
    (iterate (fun _ => run.loopRound body (start.scope.bindings.length + 1)) (index + more)
      ()).Gives environment (start.withBindings ((loopExit, .flag false) :: ·))
        fun result _ after => post result after := by
  induction begins generalizing more with
  | first => rwa [Nat.zero_add]
  | next begins again ih =>
    rw [Nat.add_right_comm, Nat.add_assoc]
    refine ih (more + 1) ?_
    rw [gives_iterate_succ]
    exact ⟨_, again, gives⟩

end BeginsRound

/-- Wherever a loop ends, one of its rounds was the last one. -/
theorem BeginsRound.ensures_iterate (begins : run.BeginsRound body environment start index state)
    (more : Nat) :
    (iterate (fun _ => run.loopRound body (start.scope.bindings.length + 1)) more ()).Ensures
      environment state fun result _ after => ∃ last < index + more, ∃ round,
        run.BeginsRound body environment start last round ∧ ∃ values,
          run.loopRound body (start.scope.bindings.length + 1) environment round =
            some ⟨.done result, values, after⟩ := by
  induction more generalizing index state with
  | zero => exact ensures_outOfFuel _
  | succ more ih =>
    rw [iterate, ensures_bind]
    intro step ran
    obtain ⟨answer, values, after⟩ := step
    cases answer with
    | again =>
      refine (ih (begins.next ran)).mono fun result _ last ended => ?_
      obtain ⟨final, below, ended⟩ := ended
      exact ⟨final, by omega, ended⟩
    | done result =>
      rw [ensures_pure]
      exact ⟨index, by omega, state, begins, values, ran⟩

private theorem ensures_parseLoop (post : Bool → List Value → State U σ → Prop) :
    (run.parseLoop body).Ensures environment start post ↔
      (iterate (fun _ => run.loopRound body (start.scope.bindings.length + 1)) run.fuel ()).Ensures
        environment (start.withBindings ((loopExit, .flag false) :: ·)) fun result values after =>
          post result values
            (after.withBindings (Bindings.restore · start.scope.bindings.length)) := by
  simp [parseLoop, loop]

private theorem gives_loopRound (height : Nat)
    (post : Round Unit Bool → List Value → State U σ → Prop) :
    (run.loopRound body height).Gives environment state post ↔
      (run.attempt body).Gives environment state fun attempt values after =>
        let dropped := after.withBindings (Bindings.restore · height)
        match attempt with
        | .backtracked => post (.done true) values after
        | .canceled => post (.done false) values after
        | .accepted =>
          if dropped.scope.bindings.find loopExit = some (.flag true) ∨
            after.cursor.position = state.cursor.position then post (.done true) values dropped
          else post (.again ()) values dropped := by
  rw [gives_iff, ensures_loopRound, gives_iff]
  refine not_congr (ensures_congr fun attempt values after => ?_)
  cases attempt with
  | accepted =>
    dsimp only
    split <;> exact Iff.rfl
  | canceled => exact Iff.rfl
  | backtracked => exact Iff.rfl

/-- There is no round without an attempt at the body. -/
theorem exists_ran_of_loopRound {height : Nat} {step : Step U σ (Round Unit Bool)}
    (ran : run.loopRound body height environment state = some step) :
    ∃ attempt values after,
      run.attempt body environment state = some ⟨attempt, values, after⟩ := by
  obtain ⟨⟨attempt, values, after⟩, tried, -⟩ :=
    (gives_loopRound height fun _ _ _ => True).mp ⟨step, ran, trivial⟩
  exact ⟨attempt, values, after, tried⟩

/-- A loop answers what its last round answers. -/
theorem gives_parseLoop (enough : index < run.fuel)
    (begins : run.BeginsRound body environment start index state) {result : Bool}
    {values : List Value} {after : State U σ}
    (done : run.loopRound body (start.scope.bindings.length + 1) environment state =
      some ⟨.done result, values, after⟩) :
    (run.parseLoop body).Gives environment start fun answer _ _ => answer = result := by
  obtain ⟨more, fuel⟩ := Nat.exists_eq_add_of_lt enough
  have ended : (iterate (fun _ => run.loopRound body (start.scope.bindings.length + 1)) (more + 1)
      ()).Gives environment state fun answer _ _ => answer = result := by
    rw [gives_iterate_succ]
    exact ⟨_, done, rfl⟩
  have rounds := begins.gives_iterate (more + 1) ended
  rw [← Nat.add_assoc, ← fuel, gives_iff] at rounds
  rwa [gives_iff, ensures_parseLoop]

end Rounds

structure AtRound {U σ : Type} (start state : State U σ) : Prop where
  frames : state.scope.frames = start.scope.frames
  exits : state.scope.bindings.exits = some (.flag false) :: start.scope.bindings.exits
  names : state.scope.bindings.map Prod.fst = loopExit :: start.scope.bindings.map Prod.fst

namespace AtRound

variable {U σ : Type} {start state after : State U σ} {leaves : Nat}

theorem first (start : State U σ) :
    AtRound start (start.withBindings ((loopExit, .flag false) :: ·)) :=
  ⟨rfl, Bindings.exits_loopExit _ _, rfl⟩

theorem height (round : AtRound start state) :
    state.scope.bindings.length = start.scope.bindings.length + 1 := by
  simpa using congrArg List.length round.names

/-- What the loop watches says whether it was left. -/
theorem exits_dropped (round : AtRound start state)
    (signals : state.scope.Signals leaves after.scope) :
    (after.scope.bindings.restore (start.scope.bindings.length + 1)).exits =
      some (.flag (leaves != 0)) :: start.scope.bindings.exits := by
  have restored := signals.restored
  rw [round.height, round.exits] at restored
  rw [restored]
  cases leaves with
  | zero => rfl
  | succ leaves => rfl

/-- The next round begins like this one. -/
theorem again (round : AtRound start state) (signals : state.scope.Signals 0 after.scope)
    (kept : Kept True state after) :
    AtRound start
      (after.withBindings (Bindings.restore · (start.scope.bindings.length + 1))) where
  frames := signals.frames.trans round.frames
  exits := round.exits_dropped signals
  names := by
    rw [← round.names, ← Bindings.names_restore kept.names, round.height]
    rfl

end AtRound

section Leaves

variable {U σ : Type} [CodeUnit U] {fuel : Nat} {body : Rule U} {environment : Environment U σ}
  {start state : State U σ}

/-- Whatever is tried sets the variable that a loop around watches if and only if it leaves that
loop. -/
theorem ensures_attempt_signals {rule : Rule U} (grammar : ¬environment.grammar.Names loopExit)
    (scope : ¬state.scope.Names loopExit) (unnamed : ¬rule.Names loopExit) :
    ((withFuel fuel).attempt rule).Ensures environment state fun _ _ after =>
      ∃ leaves, leavesIn fuel rule environment state = some leaves ∧
        state.scope.Signals leaves after.scope := by
  intro step ran
  obtain ⟨attempt, values, after⟩ := step
  obtain ⟨produced, report, counted⟩ := ran_counting ran
  have undisturbed : Undisturbed ⟨environment.grammar, environment.config, .silent⟩
      (⟨state.cursor, state.scope, .fresh 0⟩ : State U Nat) := ⟨rfl, grammar, scope⟩
  obtain ⟨leaves, count, signals⟩ :=
    (marks_counting fuel).attempt unnamed _ _ undisturbed _ counted
  refine ⟨leaves, ?_, signals⟩
  have count : report.notes = leaves := count.trans (Nat.zero_add leaves)
  rw [leavesIn, counted, Option.map_some, count]

section Body

variable (grammar : ¬environment.grammar.Names loopExit) (scope : ¬start.scope.Names loopExit)
  (unnamed : ¬body.Names loopExit)
include grammar scope unnamed

/-- A leave in the body is seen by no loop around. -/
theorem ensures_parseLoop_outer :
    ((withFuel fuel).parseLoop body).Ensures environment start fun _ _ last =>
      last.scope.bindings.exits = start.scope.bindings.exits := by
  refine (ensures_parseLoop_exits fun middle frames => ?_).mono fun _ _ _ kept => kept.2
  have inside : ¬middle.scope.Names loopExit := by rwa [Scope.Names, frames]
  refine (ensures_attempt_signals grammar inside unnamed).mono fun _ _ _ signals => ?_
  obtain ⟨leaves, -, signals⟩ := signals
  exact ⟨leaves, signals⟩

/-- What a round comes to, by what the body does. -/
theorem gives_loopRound_of_ran (round : AtRound start state) {attempt : Attempt}
    {values : List Value} {after : State U σ}
    (ran : (withFuel fuel).attempt body environment state = some ⟨attempt, values, after⟩) :
    ∃ leaves, leavesIn fuel body environment state = some leaves ∧
      ((withFuel fuel).loopRound body (start.scope.bindings.length + 1)).Gives environment state
        fun answer _ last =>
          if attempt = .accepted ∧ leaves = 0 ∧ after.cursor.position ≠ state.cursor.position then
            answer = .again () ∧ AtRound start last
          else answer = .done (attempt != .canceled) := by
  have inside : ¬state.scope.Names loopExit := by rwa [Scope.Names, round.frames]
  obtain ⟨leaves, counted, signals⟩ := ensures_attempt_signals grammar inside unnamed _ ran
  refine ⟨leaves, counted, ?_⟩
  rw [gives_loopRound]
  refine ⟨_, ran, ?_⟩
  cases attempt with
  | canceled => simp
  | backtracked => simp
  | accepted =>
    have kept : Kept True state after :=
      (keeps_withFuel fuel).attempt (fun _ => trivial) environment state (.inl trivial) _ ran
    have watched : (after.scope.bindings.restore (start.scope.bindings.length + 1)).find loopExit =
        some (.flag (leaves != 0)) := Bindings.find_of_exits (round.exits_dropped signals)
    simp only [State.withBindings, watched]
    by_cases stays : leaves = 0
    · subst stays
      have again := round.again signals kept
      by_cases moves : after.cursor.position = state.cursor.position
      · simp [moves]
      · simpa [moves, State.withBindings] using again
    · simp [stays]

private theorem BeginsRound.atRound {index : Nat}
    (begins : (withFuel fuel).BeginsRound body environment start index state) :
    AtRound start state := by
  induction begins with
  | first => exact .first start
  | next _ again round =>
    obtain ⟨attempt, values, after, ran⟩ := exists_ran_of_loopRound again
    obtain ⟨leaves, -, step, came, outcome⟩ :=
      gives_loopRound_of_ran grammar scope unnamed round ran
    cases again.symm.trans came
    split at outcome
    · exact outcome.2
    · cases outcome

end Body

/-- How a loop goes that is run in `start`, by what its body does in the rounds. -/
structure LoopCourse (fuel : Nat) (body : Rule U) (environment : Environment U σ)
    (start : State U σ) : Prop where
  /-- What the loops around watch stays as it was. -/
  parsed : ((withFuel (fuel + 1)).parse (.loop body)).Ensures environment start fun _ _ last =>
    last.scope.bindings.exits = start.scope.bindings.exits
  tried : ((withFuel (fuel + 1)).attempt (.loop body)).Ensures environment start fun _ _ last =>
    last.scope.bindings.exits = start.scope.bindings.exits
  /-- Every round begins with the same variables in the same order. -/
  names {index : Nat} {state : State U σ}
    (begins : (withFuel fuel).BeginsRound body environment start index state) :
    state.scope.bindings.map Prod.fst = loopExit :: start.scope.bindings.map Prod.fst
  /-- The loop goes on if and only if the body is taken, moves and does not leave it. After the
  last round it fails only if the body did. -/
  goes {index : Nat} {state after : State U σ} {attempt : Attempt} {values : List Value}
    (begins : (withFuel fuel).BeginsRound body environment start index state)
    (ran : (withFuel fuel).attempt body environment state = some ⟨attempt, values, after⟩) :
    ∃ leaves, leavesIn fuel body environment state = some leaves ∧
      if attempt = .accepted ∧ leaves = 0 ∧ after.cursor.position ≠ state.cursor.position then
        ∃ next, (withFuel fuel).BeginsRound body environment start (index + 1) next
      else
        (∀ next, ¬(withFuel fuel).BeginsRound body environment start (index + 1) next) ∧
          (index < fuel → ((withFuel (fuel + 1)).parse (.loop body)).Gives environment start
            fun answer _ _ => answer = (attempt != .canceled))
  /-- The loop ends after a round. -/
  ends : ((withFuel (fuel + 1)).parse (.loop body)).Ensures environment start fun _ _ _ =>
    ∃ index < fuel, ∃ state,
      (withFuel fuel).BeginsRound body environment start index state ∧
      (∃ outcome, (withFuel fuel).attempt body environment state = some outcome) ∧
      ∀ next, ¬(withFuel fuel).BeginsRound body environment start (index + 1) next

private theorem fuel_withFuel (fuel : Nat) : (withFuel fuel : Runner U σ).fuel = fuel := by
  cases fuel with
  | zero => rfl
  | succ fuel => rfl

/-- A leave ends the innermost loop, after the round in which it was left, and no other loop. -/
theorem leave_ends_the_innermost_loop (fuel : Nat) (body : Rule U) (environment : Environment U σ)
    (start : State U σ) (grammar : ¬environment.grammar.Names loopExit)
    (scope : ¬start.scope.Names loopExit) (unnamed : ¬body.Names loopExit) :
    LoopCourse fuel body environment start := by
  constructor
  case parsed => exact ensures_parseLoop_outer grammar scope unnamed
  case tried =>
    change (do return .ofBool (← (withFuel fuel).parseLoop body) : Parser U σ Attempt).Ensures ..
    rw [ensures_bind]
    exact (ensures_parseLoop_outer grammar scope unnamed).mono fun _ _ _ same =>
      (ensures_pure ..).mpr same
  case names =>
    intro index state begins
    exact (begins.atRound grammar scope unnamed).names
  case goes =>
    intro index state after attempt values begins ran
    have round := begins.atRound grammar scope unnamed
    obtain ⟨leaves, counted, ⟨answer, produced, last⟩, came, outcome⟩ :=
      gives_loopRound_of_ran grammar scope unnamed round ran
    refine ⟨leaves, counted, ?_⟩
    split at outcome
    next goes =>
      obtain ⟨rfl, -⟩ := outcome
      rw [if_pos goes]
      exact ⟨last, begins.next came⟩
    next stops =>
      subst outcome
      rw [if_neg stops]
      refine ⟨begins.last came, fun enough => ?_⟩
      exact gives_parseLoop (by rwa [fuel_withFuel]) begins came
  case ends =>
    change ((withFuel fuel).parseLoop body).Ensures environment start _
    rw [ensures_parseLoop, fuel_withFuel]
    refine (BeginsRound.first.ensures_iterate fuel).mono fun result _ _ ended => ?_
    obtain ⟨index, below, state, begins, values, done⟩ := ended
    obtain ⟨attempt, produced, after, ran⟩ := exists_ran_of_loopRound done
    exact ⟨index, by omega, state, begins, ⟨_, ran⟩, begins.last done⟩

end Leaves

section Examples

def unitOrStop : Rule Char := .choice [.call 0, .literal "a"]

def stopping : Environment Char Unit where
  grammar := ⟨#[⟨⟨0, "stop", false, false⟩, .sequence [.literal "b", .leave], none, none, none⟩],
    none, 0⟩
  config := .standard
  observer := .silent

def beforeStop : State Char Unit where
  cursor := .start #['a', 'a', 'b', 'a']
  scope := ⟨[], [(loopExit, .flag false)], false, 0⟩
  report := .fresh ()

/-- What loops inside and speculations leave is not counted, what productions leave is. -/
example : leavesIn 6 (.sequence [.loop .leave, .peek .leave true, .call 0, .leave]) stopping
    { beforeStop with cursor := .start #['b'] } = some 2 := by decide +kernel

private theorem not_names_literal (text name : String) :
    ¬(Rule.literal text : Rule Char).Names name := by
  intro names
  cases names with
  | part member _ => cases member

/-- The stop ends the loop after it, and the loop around goes on. -/
theorem stop_ends_one_loop :
    ∃ step, (withFuel 9).parse (.loop unitOrStop) stopping beforeStop = some step ∧
      step.answer = true ∧ step.state.cursor.position = 3 ∧
      step.state.scope.bindings.exits = [some (.flag false)] ∧
      ∃ index < 8, ∃ state, (withFuel 8).BeginsRound unitOrStop stopping beforeStop index state ∧
        state.scope.bindings.map Prod.fst = [loopExit, loopExit] ∧
        ∀ next, ¬(withFuel 8).BeginsRound unitOrStop stopping beforeStop (index + 1) next := by
  have unnamed : ¬unitOrStop.Names loopExit := by
    intro names
    cases names with
    | part member names =>
      rcases List.mem_pair.mp member with rfl | rfl
      · cases names with
        | part member _ => cases member
      · exact not_names_literal _ _ names
  have grammar : ¬stopping.grammar.Names loopExit := by
    intro names
    cases names with
    | rule member names =>
      cases List.mem_singleton.mp (Array.mem_toList_iff.mpr member)
      cases names with
      | part member names =>
        rcases List.mem_pair.mp member with rfl | rfl
        · exact not_names_literal _ _ names
        · cases names with
          | part member _ => cases member
    | own member skipped _ =>
      cases List.mem_singleton.mp (Array.mem_toList_iff.mpr member)
      cases skipped
    | whitespace skipped _ => cases skipped
  have scope : ¬beforeStop.scope.Names loopExit := by
    intro names
    obtain ⟨frame, running, -⟩ := names
    cases running
  have course :=
    leave_ends_the_innermost_loop 8 unitOrStop stopping beforeStop grammar scope unnamed
  have reads : ((withFuel 9).parse (.loop unitOrStop) stopping beforeStop).map
      (fun step => (step.answer, step.state.cursor.position)) = some (true, 3) := by
    decide +kernel
  obtain ⟨step, ran, read⟩ := Option.map_eq_some_iff.mp reads
  obtain ⟨answered, moved⟩ := Prod.mk.inj read
  obtain ⟨index, below, state, begins, -, last⟩ := course.ends step ran
  exact ⟨step, ran, answered, moved, course.parsed step ran, index, below, state, begins,
    course.names begins, last⟩

end Examples

end Descent.Runner
