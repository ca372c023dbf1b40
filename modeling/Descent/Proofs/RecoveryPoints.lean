import Descent.Parsing.Interpreter
import Descent.Proofs.CursorTexts
import Descent.Proofs.Lookahead
import Descent.Proofs.OutcomeLogic

/-! Where skipping input comes to an end: at the leftmost place where there is something to go on
with, unless a limit stands before it. What there is to go on with, is what the rules answer when
they are tried at that place and nobody is told. A list tries its limits at the last place too, so
there they have to answer as well. -/

namespace Descent

open Descent.Parser

variable {U σ α : Type}

private theorem Attempt.isAccepted_iff {attempt : Attempt} :
    attempt.isAccepted = true ↔ attempt = .accepted := by
  cases attempt <;> simp [isAccepted]

private theorem Attempt.isBacktracked_iff {attempt : Attempt} :
    attempt.isBacktracked = true ↔ attempt = .backtracked := by
  cases attempt <;> simp [isBacktracked]

namespace State

def movedTo (state : State U σ) (position : Nat) : State U σ :=
  { state with cursor := state.cursor.moveTo position }

/-- The state at a later place, with the input up to there under one token. -/
def skippedTo (observer : Observer σ) (state : State U σ) (position : Nat) : State U σ :=
  if state.cursor.position < position then
    (state.movedTo position).withToken observer .error state.cursor.position position
  else state.movedTo position

variable {state : State U σ}

private theorem movedTo_position : state.movedTo state.cursor.position = state := by
  rw [movedTo, Cursor.moveTo_position]

private theorem movedTo_next (position : Nat) :
    ({ state with cursor := state.cursor.next } : State U σ).movedTo position =
      state.movedTo position := by
  unfold movedTo Cursor.next Cursor.moveTo
  split <;> rfl

private theorem withSkipped_movedTo {observer : Observer σ} {position : Nat}
    (inside : position ≤ state.cursor.stop) :
    (state.movedTo position).withSkipped observer state.cursor (state.movedTo position).cursor =
      state.skippedTo observer position := by
  have here : (state.movedTo position).cursor.position = position := Nat.min_eq_left inside
  unfold skippedTo withSkipped Report.withSkipped
  rw [here]
  split <;> rfl

end State

/-- Where a search comes to an end, and with what. There is nothing to be found before, and no
limit; and if there is nothing at the place itself, it is a limit or the last one. -/
structure Leftmost (finds : Nat → Option α → Prop) (limited : Nat → Bool → Prop)
    (first last position : Nat) (found : Option α) : Prop where
  first_le : first ≤ position
  le_last : position ≤ last
  passed : ∀ earlier, first ≤ earlier → earlier < position →
    finds earlier none ∧ limited earlier false
  here : finds position found
  ended : found = none → position = last ∨ limited position true

namespace Leftmost

variable {finds : Nat → Option α → Prop} {limited : Nat → Bool → Prop} {last position : Nat}
  {found : Option α}

theorem iff_of_last :
    Leftmost finds limited last last position found ↔ position = last ∧ finds last found := by
  constructor
  · intro leftmost
    have same : position = last := Nat.le_antisymm leftmost.le_last leftmost.first_le
    exact ⟨same, same ▸ leftmost.here⟩
  · rintro ⟨rfl, here⟩
    exact ⟨Nat.le_refl _, Nat.le_refl _, fun _ low high => absurd high (Nat.not_lt.mpr low), here,
      fun _ => .inl rfl⟩

/-- Before the end, a search stops where it is or goes on from the next place. -/
theorem iff_of_lt {first : Nat} (before : first < last) :
    Leftmost finds limited first last position found ↔
      (position = first ∧ finds first found ∧ (found = none → limited first true)) ∨
      (finds first none ∧ limited first false ∧
        Leftmost finds limited (first + 1) last position found) := by
  constructor
  · intro leftmost
    rcases Nat.eq_or_lt_of_le leftmost.first_le with rfl | further
    · refine .inl ⟨rfl, leftmost.here, fun none => (leftmost.ended none).resolve_left ?_⟩
      exact Nat.ne_of_lt before
    · obtain ⟨nothing, unlimited⟩ := leftmost.passed first (Nat.le_refl _) further
      exact .inr ⟨nothing, unlimited, further, leftmost.le_last,
        fun earlier low => leftmost.passed earlier (Nat.le_of_succ_le low), leftmost.here,
        leftmost.ended⟩
  · rintro (⟨rfl, here, ended⟩ | ⟨nothing, unlimited, later⟩)
    · exact ⟨Nat.le_refl _, Nat.le_of_lt before, fun _ low high => absurd high (Nat.not_lt.mpr low),
        here, fun none => .inr (ended none)⟩
    · refine ⟨Nat.le_of_succ_le later.first_le, later.le_last, ?_, later.here, later.ended⟩
      intro earlier low high
      rcases Nat.eq_or_lt_of_le low with rfl | further
      · exact ⟨nothing, unlimited⟩
      · exact later.passed earlier further high

/-- What a visit of one place comes to: something is found there, or a limit ends the search, or
neither. -/
def Visited (finds : Option α → Prop) (limited : Bool → Prop) : Option (Option α) → Prop
  | some (some found) => finds (some found)
  | some none => finds none ∧ limited true
  | none => finds none ∧ limited false

/-- A search that visits one place after another, with limits and all, ends where one ends for which
limits stand apart, provided that they answer at the end. -/
theorem exists_visited_iff {first : Nat} {stands : Nat → Option α → Prop} :
    (∃ position ended, Leftmost (fun place => Visited (finds place) (limited place))
        (fun _ limit => false = limit) first last position ended ∧ stands position ended.join) ↔
      ∃ position found, Leftmost finds limited first last position found ∧
        (found = none → ∃ limit, limited position limit) ∧ stands position found := by
  constructor
  · intro ⟨position, ended, leftmost, holds⟩
    obtain ⟨first_le, le_last, passed, here, stops⟩ := leftmost
    have passed := fun earlier low high => (passed earlier low high).1
    refine ⟨position, ended.join, ?_, ?_, holds⟩
    · rcases ended with _ | _ | found
      · have atLast : position = last := (stops rfl).resolve_right Bool.false_ne_true
        exact ⟨first_le, le_last, passed, here.1, fun _ => .inl atLast⟩
      · exact ⟨first_le, le_last, passed, here.1, fun _ => .inr here.2⟩
      · exact ⟨first_le, le_last, passed, here, fun nothing => absurd nothing nofun⟩
    · intro nothing
      rcases ended with _ | _ | found
      · exact ⟨false, here.2⟩
      · exact ⟨true, here.2⟩
      · cases nothing
  · intro ⟨position, found, leftmost, answered, holds⟩
    have ends (ended : Option (Option α))
        (here : Visited (finds position) (limited position) ended)
        (stops : ended = none → position = last) :
        Leftmost (fun place => Visited (finds place) (limited place)) (fun _ limit => false = limit)
          first last position ended :=
      ⟨leftmost.first_le, leftmost.le_last,
        fun earlier low high => ⟨leftmost.passed earlier low high, rfl⟩, here,
        fun nothing => .inl (stops nothing)⟩
    cases found with
    | some found => exact ⟨position, some (some found), ends _ leftmost.here nofun, holds⟩
    | none =>
      rcases leftmost.ended rfl with atLast | stopped
      · obtain ⟨limit, limited⟩ := answered rfl
        cases limit with
        | true => exact ⟨position, some none, ends _ ⟨leftmost.here, limited⟩ nofun, holds⟩
        | false => exact ⟨position, none, ends _ ⟨leftmost.here, limited⟩ fun _ => atLast, holds⟩
      · exact ⟨position, some none, ends _ ⟨leftmost.here, stopped⟩ nofun, holds⟩

end Leftmost

namespace Parser

variable {environment : Environment U σ} {state : State U σ}

def Sees (parser : Parser U σ α) (environment : Environment U σ) (state : State U σ)
    (answer : α) : Prop :=
  parser.Gives environment state fun given _ _ => given = answer

/-- A parser that only looks has an outcome if it has an answer. -/
theorem Looks.gives_iff {parser : Parser U σ α} (looks : parser.Looks)
    (post : α → List Value → State U σ → Prop) :
    parser.Gives environment state post ↔
      ∃ answer, parser.Sees environment state answer ∧ post answer [] state := by
  constructor
  · rintro ⟨step, ran, holds⟩
    obtain ⟨nothing, same⟩ := looks environment state step ran
    exact ⟨step.answer, ⟨step, ran, rfl⟩, nothing ▸ same ▸ holds⟩
  · rintro ⟨_, ⟨step, ran, rfl⟩, holds⟩
    obtain ⟨nothing, same⟩ := looks environment state step ran
    exact ⟨step, ran, by rwa [nothing, same]⟩

variable {target : Parser U σ (Option α)} {isLimit : Parser U σ Bool}

/-- A search before the end: it goes on, or a limit stops it, or something is found here. -/
theorem gives_seek_go_succ (looks : target.Looks) (limit_looks : isLimit.Looks) (left : Nat)
    (post : Option α → List Value → State U σ → Prop) :
    (seek.go target isLimit (left + 1)).Gives environment state post ↔
      (target.Sees environment state none ∧
        (isLimit.Sees environment state false ∧
            (seek.go target isLimit left).Gives environment
              { state with cursor := state.cursor.next } post ∨
          isLimit.Sees environment state true ∧ post none [] state)) ∨
      ∃ found, target.Sees environment state (some found) ∧ post (some found) [] state := by
  rw [seek.go, gives_bind, looks.gives_iff, Option.exists]
  simp only [gives_bind, limit_looks.gives_iff, Bool.exists_bool, gives_modify, gives_pure,
    List.nil_append, List.append_nil, Bool.false_eq_true, if_false, if_true, gives_ite]

/-- The outcomes of a search are those at the place where it comes to an end. -/
theorem gives_seek_iff (looks : target.Looks) (limit_looks : isLimit.Looks)
    (post : Option α → List Value → State U σ → Prop) :
    (seek target isLimit).Gives environment state post ↔ ∃ position found,
      Leftmost (fun place => target.Sees environment (state.movedTo place))
        (fun place => isLimit.Sees environment (state.movedTo place))
        state.cursor.position state.cursor.stop position found ∧
      post found [] (state.movedTo position) := by
  rw [seek, gives_bind, gives_cursor]
  generalize rooms : state.cursor.left = left
  simp only [List.nil_append]
  induction left generalizing state with
  | zero =>
    have ended : state.cursor.stop = state.cursor.position :=
      Nat.le_antisymm (Nat.le_of_sub_eq_zero rooms) state.cursor.position_le_stop
    rw [seek.go, looks.gives_iff, ended]
    simp only [Leftmost.iff_of_last, and_assoc, exists_and_left, exists_eq_left,
      State.movedTo_position]
  | succ left ih =>
    obtain ⟨before, position, stop, fewer⟩ := Cursor.next_of_left rooms
    have later := @ih { state with cursor := state.cursor.next } fewer
    simp only [State.movedTo_next, position, stop] at later
    rw [gives_seek_go_succ looks limit_looks, later]
    simp only [Leftmost.iff_of_lt before]
    constructor
    · rintro (⟨nothing, ⟨unlimited, position, found, leftmost, holds⟩ | ⟨limited, holds⟩⟩ |
        ⟨found, sees, holds⟩)
      · exact ⟨position, found, .inr ⟨by rwa [State.movedTo_position],
          by rwa [State.movedTo_position], leftmost⟩, holds⟩
      · refine ⟨state.cursor.position, none, .inl ⟨rfl, ?_, fun _ => ?_⟩, ?_⟩ <;>
          rwa [State.movedTo_position]
      · have other (nothing : some found = none) :
            isLimit.Sees environment (state.movedTo state.cursor.position) true :=
          absurd nothing (Option.some_ne_none found)
        refine ⟨state.cursor.position, some found, .inl ⟨rfl, ?_, other⟩, ?_⟩ <;>
          rwa [State.movedTo_position]
    · rintro ⟨position, found, ⟨rfl, here, ended⟩ | ⟨nothing, unlimited, leftmost⟩, holds⟩
      · rw [State.movedTo_position] at here ended holds
        cases found with
        | none => exact .inl ⟨here, .inr ⟨ended rfl, holds⟩⟩
        | some found => exact .inr ⟨found, here, holds⟩
      · rw [State.movedTo_position] at nothing unlimited
        exact .inl ⟨nothing, .inl ⟨unlimited, position, found, leftmost, holds⟩⟩

end Parser

namespace Runner

section Answers

variable (run : Runner U σ) (environment : Environment U σ) (state : State U σ)

/-- How a rule answers when it is tried at a place and nobody is told. -/
def Answers (rule : Rule U) (holds : Attempt → Prop) : Prop :=
  (run.attempt rule).Gives (unobserved environment) (unreported state)
    fun attempt _ _ => holds attempt

/-- The first of some rules to answer in one way. Those before it answer otherwise, and so do all of
them if there is none. -/
inductive FirstOf (holds : Attempt → Prop) : List (Rule U) → Option (Rule U) → Prop
  | nil : FirstOf holds [] none
  | here {rule : Rule U} {rest : List (Rule U)}
      (answers : run.Answers environment state rule holds) :
    FirstOf holds (rule :: rest) (some rule)
  | later {rule : Rule U} {rest : List (Rule U)} {found : Option (Rule U)}
    (answers : run.Answers environment state rule fun attempt => ¬holds attempt)
    (finds : FirstOf holds rest found) : FirstOf holds (rule :: rest) found

def Accepted (rules : List (Rule U)) (answer : Bool) : Prop :=
  ∃ found, run.FirstOf environment state (· = .accepted) rules found ∧ found.isSome = answer

/-- How a list can go on at a place: with a separator, or with an item if there are no separators
and there is something behind, or with the terminator. -/
def ResumesWith (list : TerminatedList U) (start : Cursor U) : Option ListPhase → Prop
  | some .separator =>
    ∃ separator ∈ list.separator, run.Answers environment state separator.rule (· = .accepted)
  | some .item =>
    list.separator = none ∧ start.position < state.cursor.position ∧
      run.Answers environment state list.item (· ≠ .backtracked)
  | some .terminator =>
    Passes ∧ run.Answers environment state list.terminator (· = .accepted)
  | some _ => False
  | none => Passes ∧ run.Answers environment state list.terminator (· ≠ .accepted)
where
  /-- There is neither a separator nor an item. -/
  Passes : Prop :=
    (∀ separator ∈ list.separator,
      run.Answers environment state separator.rule (· ≠ .accepted)) ∧
    (list.separator = none → start.position < state.cursor.position →
      run.Answers environment state list.item (· = .backtracked))

variable {run environment state}

private theorem gives_probe_iff (rule : Rule U) (post : Attempt → List Value → State U σ → Prop) :
    (run.probe rule).Gives environment state post ↔
      run.Answers environment state rule fun attempt => post attempt [] state := by
  simp only [probe, gives_bind, gives_lookAhead, gives_quietly, gives_speculate, gives_pure]
  rfl

/-- An answer is of one kind or of the other. -/
theorem answers_ite {rule : Rule U} {holds : Attempt → Prop} [DecidablePred holds] {yes no : Prop} :
    (run.Answers environment state rule fun attempt => if holds attempt then yes else no) ↔
      (run.Answers environment state rule holds ∧ yes) ∨
        (run.Answers environment state rule (fun attempt => ¬holds attempt) ∧ no) := by
  constructor
  · rintro ⟨step, ran, answer⟩
    by_cases held : holds step.answer
    · exact .inl ⟨⟨step, ran, held⟩, by simpa [held] using answer⟩
    · exact .inr ⟨⟨step, ran, held⟩, by simpa [held] using answer⟩
  · rintro (⟨⟨step, ran, held⟩, answer⟩ | ⟨⟨step, ran, failed⟩, answer⟩)
    · exact ⟨step, ran, by simpa [show holds step.answer from held] using answer⟩
    · exact ⟨step, ran, by simpa [show ¬holds step.answer from failed] using answer⟩

theorem firstOf_cons {holds : Attempt → Prop} {rule : Rule U} {rest : List (Rule U)}
    {found : Option (Rule U)} :
    run.FirstOf environment state holds (rule :: rest) found ↔
      (run.Answers environment state rule holds ∧ some rule = found) ∨
        (run.Answers environment state rule (fun attempt => ¬holds attempt) ∧
          run.FirstOf environment state holds rest found) := by
  constructor
  · intro finds
    cases finds with
    | here answers => exact .inl ⟨answers, rfl⟩
    | later answers finds => exact .inr ⟨answers, finds⟩
  · rintro (⟨answers, rfl⟩ | ⟨answers, finds⟩)
    · exact .here answers
    · exact .later answers finds

private theorem firstOf_nil {holds : Attempt → Prop} {found : Option (Rule U)} :
    run.FirstOf environment state holds [] found ↔ none = found := by
  constructor
  · intro finds
    cases finds
    rfl
  · rintro rfl
    exact .nil

private theorem sees_firstTaken {rules : List (Rule U)} {found : Option (Rule U)} :
    (run.firstTaken rules).Sees environment state found ↔
      run.FirstOf environment state (· ≠ .backtracked) rules found := by
  induction rules with
  | nil => rw [firstOf_nil, firstTaken, Sees, gives_pure]
  | cons rule rest ih =>
    rw [firstOf_cons, ← ih, firstTaken, Sees, gives_bind, gives_probe_iff]
    simp only [gives_ite, gives_pure, Attempt.isBacktracked_iff, answers_ite]
    rw [Or.comm]
    simp only [ne_eq, not_not, Sees]

private theorem sees_anyAccepts {rules : List (Rule U)} {answer : Bool} :
    (run.anyAccepts rules).Sees environment state answer ↔
      run.Accepted environment state rules answer := by
  unfold Accepted
  induction rules with
  | nil => simp [firstOf_nil, anyAccepts, Sees]
  | cons rule rest ih =>
    rw [anyAccepts, Sees, gives_bind, gives_probe_iff]
    simp only [gives_ite, gives_pure, Attempt.isAccepted_iff, answers_ite, firstOf_cons,
      or_and_right, exists_or, and_assoc, exists_and_left, exists_eq_left', Option.isSome_some,
      ← ih]
    rfl

private theorem sees_resumption {list : TerminatedList U} {start : Cursor U}
    {phase : Option ListPhase} : (run.resumption list start).Sees environment state phase ↔
      run.ResumesWith environment state list start phase := by
  unfold resumption Sees
  cases separator : list.separator with
  | some separator =>
    simp only [gives_bind, gives_probe_iff, gives_ite, gives_pure, Attempt.isAccepted_iff,
      answers_ite]
    rcases phase with _ | phase
    · simp [ResumesWith, ResumesWith.Passes, separator]
    · cases phase <;> simp [ResumesWith, ResumesWith.Passes, separator]
  | none =>
    simp only [gives_bind, gives_probe_iff, gives_ite, gives_pure, Attempt.isAccepted_iff,
      answers_ite, gives_cursor, Bool.not_eq_true', ← Bool.not_eq_true, Attempt.isBacktracked_iff,
      not_not]
    by_cases moved : start.position < state.cursor.position
    · rcases phase with _ | phase
      · simp [ResumesWith, ResumesWith.Passes, separator, moved]
      · cases phase <;> simp [ResumesWith, ResumesWith.Passes, separator, moved]
    · rcases phase with _ | phase
      · simp [ResumesWith, ResumesWith.Passes, separator, moved]
      · cases phase <;> simp [ResumesWith, ResumesWith.Passes, separator, moved]

private theorem sees_recoveryAt {list : TerminatedList U} {start : Cursor U}
    {ended : Option (Option ListPhase)} :
    (run.recoveryAt list start).Sees environment state ended ↔
      Leftmost.Visited (run.ResumesWith environment state list start)
        (run.Accepted environment state list.limits) ended := by
  rw [recoveryAt, Sees, gives_bind, (looks_resumption list start).looks.gives_iff, Option.exists]
  simp only [gives_bind, (looks_anyAccepts list.limits).gives_iff, Bool.exists_bool, gives_pure,
    sees_resumption, sees_anyAccepts, Bool.false_eq_true, if_false, if_true]
  rcases ended with _ | _ | phase <;> simp [Leftmost.Visited]

end Answers

section Recovery

variable {run : Runner U σ} {environment : Environment U σ} {state : State U σ}

/-- A limit of a search is where one of some rules accepts. -/
def LeftmostBefore (run : Runner U σ) (environment : Environment U σ) (state : State U σ)
    (limits : List (Rule U)) (finds : State U σ → Option α → Prop) (position : Nat)
    (found : Option α) : Prop :=
  Leftmost (fun place => finds (state.movedTo place))
    (fun place => run.Accepted environment (state.movedTo place) limits)
    state.cursor.position state.cursor.stop position found

private theorem gives_seek_rules {target : Parser U σ (Option α)}
    {finds : State U σ → Option α → Prop} (looks : target.Looks)
    (sees : ∀ there found, target.Sees environment there found ↔ finds there found)
    (limits : List (Rule U)) (post : Option α → List Value → State U σ → Prop) :
    (seek target (run.anyAccepts limits)).Gives environment state post ↔ ∃ position found,
      run.LeftmostBefore environment state limits finds position found ∧
        post found [] (state.movedTo position) := by
  have found : target.Sees environment = finds :=
    funext₂ fun there answer => propext (sees there answer)
  have limited : (run.anyAccepts limits).Sees environment =
      fun there => run.Accepted environment there limits :=
    funext₂ fun _ _ => propext sees_anyAccepts
  rw [gives_seek_iff looks (looks_anyAccepts limits), found, limited]
  rfl

private theorem gives_recoverList (list : TerminatedList U)
    (post : Option ListPhase → List Value → State U σ → Prop) :
    (run.recoverList list).Gives environment state post ↔ ∃ position phase,
      run.LeftmostBefore environment state list.limits
        (fun there => run.ResumesWith environment there list state.cursor) position phase ∧
      (phase = none →
        ∃ limited, run.Accepted environment (state.movedTo position) list.limits limited) ∧
      post phase [] (state.skippedTo environment.observer position) := by
  have visited : (run.recoveryAt list state.cursor).Sees environment = fun there =>
      Leftmost.Visited (run.ResumesWith environment there list state.cursor)
        (run.Accepted environment there list.limits) :=
    funext₂ fun _ _ => propext sees_recoveryAt
  have unlimited (there : State U σ) :
      (pure false : Parser U σ Bool).Sees environment there = (false = ·) :=
    funext fun _ => propext (gives_pure ..)
  unfold recoverList LeftmostBefore
  rw [gives_bind, gives_cursor, gives_bind,
    gives_seek_iff (looks_recoveryAt list state.cursor).looks (looks_pure false),
    ← Leftmost.exists_visited_iff]
  simp only [visited, unlimited]
  refine exists_congr fun position => exists_congr fun ended => and_congr_right fun leftmost => ?_
  rw [gives_bind, gives_cursor, gives_bind, gives_reportSkipped, gives_pure,
    State.withSkipped_movedTo leftmost.le_last]
  rfl

theorem gives_parseFind (targets limits : List (Rule U))
    (post : Bool → List Value → State U σ → Prop) :
    (run.parseFind targets limits).Gives environment state post ↔ ∃ position, ∃ found : Option Unit,
      run.LeftmostBefore environment state limits
        (fun there found => run.Accepted environment there targets found.isSome) position found ∧
      if found.isSome then post true [] (state.skippedTo environment.observer position)
      else post false [] state := by
  have looks : (do
      return if ← run.anyAccepts targets then some () else none :
        Parser U σ (Option Unit)).Looks :=
    looks_bind (looks_anyAccepts targets) fun _ => looks_pure _
  have sees (there : State U σ) (found : Option Unit) : (do
      return if ← run.anyAccepts targets then some () else none :
        Parser U σ (Option Unit)).Sees environment there found ↔
          run.Accepted environment there targets found.isSome := by
    have same (answer : Bool) :
        (if answer then some () else none) = found ↔ answer = found.isSome := by
      cases answer <;> cases found <;> simp
    rw [← sees_anyAccepts, Sees, gives_bind]
    simp only [gives_pure, same]
    rfl
  unfold parseFind
  rw [gives_bind, gives_cursor, gives_bind, gives_seek_rules looks sees]
  refine exists_congr fun position => exists_congr fun found => and_congr_right fun leftmost => ?_
  cases found with
  | none =>
    rw [gives_bind, gives_setCursor, gives_pure]
    rfl
  | some found =>
    rw [gives_bind, gives_cursor, gives_bind, gives_reportSkipped, gives_pure,
      State.withSkipped_movedTo leftmost.le_last]
    rfl

private theorem gives_parseRecover (branches limits : List (Rule U))
    (post : Bool → List Value → State U σ → Prop) :
    (run.parseRecover branches limits).Gives environment state post ↔ ∃ position found,
      run.LeftmostBefore environment state limits
        (fun there => run.FirstOf environment there (· ≠ .backtracked) branches) position found ∧
      match found with
      | some branch =>
        (run.parse branch).Gives environment (state.skippedTo environment.observer position) post
      | none => post false [] (state.skippedTo environment.observer position) := by
  unfold parseRecover
  rw [gives_bind, gives_cursor, gives_bind,
    gives_seek_rules (looksFor_firstTaken branches).looks fun _ _ => sees_firstTaken]
  refine exists_congr fun position => exists_congr fun found => and_congr_right fun leftmost => ?_
  rw [gives_bind, gives_cursor, gives_bind, gives_reportSkipped,
    State.withSkipped_movedTo leftmost.le_last]
  cases found with
  | none => rw [gives_pure]; rfl
  | some branch => rfl

end Recovery

/-- Skipping input comes to an end at the leftmost place where a list can go on, a target accepts or
a branch is taken, or before at a limit or in the end. The limits of a list have to answer wherever
it gives up, at the end too, and those of the others only before the end. What was skipped is under
one token, unless a target was to be found and is not. -/
theorem recovery_stops_at_the_leftmost_point [CodeUnit U] (fuel : Nat)
    (environment : Environment U σ) (state : State U σ) :
    (∀ list post, ((withFuel fuel).recoverList list).Gives environment state post ↔
      ∃ position phase,
        (withFuel fuel).LeftmostBefore environment state list.limits
          (fun there => (withFuel fuel).ResumesWith environment there list state.cursor)
          position phase ∧
        (phase = none → ∃ limited,
          (withFuel fuel).Accepted environment (state.movedTo position) list.limits limited) ∧
        post phase [] (state.skippedTo environment.observer position)) ∧
    (∀ targets limits post,
      ((withFuel (fuel + 1)).parse (.find targets limits)).Gives environment state post ↔
      ∃ position, ∃ found : Option Unit,
        (withFuel fuel).LeftmostBefore environment state limits
          (fun there found => (withFuel fuel).Accepted environment there targets found.isSome)
          position found ∧
        if found.isSome then post true [] (state.skippedTo environment.observer position)
        else post false [] state) ∧
    ∀ branches limits post,
      ((withFuel (fuel + 1)).parse (.recover branches limits)).Gives environment state post ↔
      ∃ position found,
        (withFuel fuel).LeftmostBefore environment state limits
          (fun there => (withFuel fuel).FirstOf environment there (· ≠ .backtracked) branches)
          position found ∧
        match found with
        | some branch =>
          ((withFuel fuel).parse branch).Gives environment
            (state.skippedTo environment.observer position) post
        | none => post false [] (state.skippedTo environment.observer position) :=
  ⟨gives_recoverList, gives_parseFind, gives_parseRecover⟩

end Runner
end Descent
