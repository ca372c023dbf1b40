import Descent.Proofs.ContextDiscipline
import Descent.Proofs.ObserverIndependence
import Descent.Proofs.OutcomeLogic

/-! Parsers that come to an end. The fuel of a run is no part of what it does: a parser halts if
some fuel suffices, and then any more of it makes no difference. A loop halts if each of its rounds
does and a rank goes down from round to round. -/

namespace Descent

open Descent.Parser

theorem Cursor.Reaches.left_le {U : Type} {before after : Cursor U}
    (reaches : before.Reaches after) : after.left ≤ before.left := by
  have same := reaches.stop
  have forward := reaches.position
  unfold left
  omega

theorem Cursor.Reaches.left_lt {U : Type} {before after : Cursor U} (reaches : before.Reaches after)
    (further : before.position < after.position) : after.left < before.left := by
  have inside := after.position_le_stop
  have same := reaches.stop
  unfold left
  omega

/-- What moved left fewer units. -/
theorem Kept.left_lt {U σ : Type} {binds : Prop} {before after : State U σ}
    (kept : Kept binds before after) (moved : after.cursor.position ≠ before.cursor.position) :
    after.cursor.left < before.cursor.left := by
  have forward := kept.reaches.position
  exact kept.reaches.left_lt (by omega)

theorem Cursor.position_lt_next {U : Type} {cursor : Cursor U} {unit : U}
    (found : cursor.peek = some unit) : cursor.position < cursor.next.position := by
  unfold peek at found
  split at found
  next inside =>
    rw [next, dif_pos inside]
    exact Nat.lt_succ_self cursor.position
  · cases found

/-- A pattern that never matches without reading anything. -/
def Pattern.Reads {U : Type} [CodeUnit U] (pattern : Pattern U) : Prop :=
  ∀ cursor after, pattern.run cursor = .matched after → cursor.position < after.position

theorem Pattern.reads_oneOf {U : Type} [CodeUnit U] (members : UnitClass) :
    (Pattern.oneOf members : Pattern U).Reads := by
  intro cursor after matched
  rw [Pattern.run, Pattern.runOneOf] at matched
  split at matched
  · cases matched
  next unit found =>
    split at matched
    · cases matched
      exact Cursor.position_lt_next found
    · cases matched

namespace Parser

variable {U σ α β : Type}

/-- The same productions are running after a parser as before, and whitespace is still being
skipped or still not. -/
def Stays (parser : Parser U σ α) : Prop :=
  ∀ environment state, parser.Ensures environment state fun _ _ after =>
    after.scope.frames = state.scope.frames ∧
      after.scope.inWhitespace = state.scope.inWhitespace

theorem Keeps.stays {parser : Parser U σ α} (keeps : parser.Keeps True) : parser.Stays :=
  fun environment state =>
    (keeps environment state (.inl trivial)).mono fun _ _ _ kept => ⟨kept.frames, kept.inWhitespace⟩

theorem Stays.bind {first : Parser U σ α} {rest : α → Parser U σ β} (stays : first.Stays)
    (then_stays : ∀ answer, (rest answer).Stays) : (first >>= rest).Stays := by
  intro environment state
  rw [ensures_bind]
  refine (stays environment state).mono fun answer _ middle stayed => ?_
  refine (then_stays answer environment middle).mono fun _ _ after still => ?_
  exact ⟨still.1.trans stayed.1, still.2.trans stayed.2⟩

/-- A parser that runs no rules: it needs no fuel, and it stays where it is. -/
def Plain (parser : Parser U σ α) : Prop :=
  ∀ environment state, parser.Gives environment state fun _ _ after =>
    after.scope.frames = state.scope.frames ∧
      after.scope.inWhitespace = state.scope.inWhitespace

theorem Plain.stays {parser : Parser U σ α} (plain : parser.Plain) : parser.Stays := by
  intro environment state step ran
  obtain ⟨other, also, stayed⟩ := plain environment state
  cases ran.symm.trans also
  exact stayed

end Parser

namespace Runner

variable {U σ α β : Type} [CodeUnit U] {environment : Environment U σ} {state : State U σ}

/-- With enough fuel for the rules inside it, a parser has an outcome, and with more the same. -/
def Halts (program : Runner U σ → Parser U σ α) (environment : Environment U σ)
    (state : State U σ) : Prop :=
  ∃ enough step, ∀ fuel, enough ≤ fuel → program (withFuel fuel) environment state = some step

def HaltsIn (environment : Environment U σ) (frames : List (Frame U))
    (program : Runner U σ → Parser U σ α) : Prop :=
  ∀ state : State U σ, state.scope.frames = frames → Halts program environment state

/-- A parser halts at all places of a kind. Places are told apart by the productions that are
running there, and by whether whitespace is being skipped. -/
def HaltsAt (environment : Environment U σ) (places : List (Frame U) → Bool → Prop)
    (program : Runner U σ → Parser U σ α) : Prop :=
  ∀ state : State U σ, places state.scope.frames state.scope.inWhitespace →
    Halts program environment state

def Within (frames running : List (Frame U)) (_ : Bool) : Prop :=
  running = frames

private theorem haltsIn_iff {program : Runner U σ → Parser U σ α} {frames : List (Frame U)} :
    HaltsIn environment frames program ↔ HaltsAt environment (Within frames) program :=
  Iff.rfl

section Programs

variable {program first : Runner U σ → Parser U σ α} {rest : Runner U σ → α → Parser U σ β}
  {frames : List (Frame U)}

theorem halts_of_gives {parser : Parser U σ α}
    (gives : parser.Gives environment state fun _ _ _ => True) :
    Halts (fun _ => parser) environment state := by
  obtain ⟨step, ran, -⟩ := gives
  exact ⟨0, step, fun _ _ => ran⟩

omit [CodeUnit U] in
/-- A parser none of whose outcomes is possible has none. -/
theorem eq_none_of_ensures {parser : Parser U σ α}
    (never : parser.Ensures environment state fun _ _ _ => False) :
    parser environment state = none := by
  cases ran : parser environment state with
  | none => rfl
  | some step => exact (never step ran).elim

theorem halts_pure (answer : α) : Halts (fun _ => pure answer) environment state :=
  ⟨0, _, fun _ _ => rfl⟩

theorem Halts.ran (halts : Halts program environment state) :
    ∃ fuel step, program (withFuel fuel) environment state = some step := by
  obtain ⟨enough, step, ran⟩ := halts
  exact ⟨enough, step, ran enough (Nat.le_refl enough)⟩

theorem Halts.bind (halts : Halts first environment state)
    (next : ∀ fuel, (first (withFuel fuel)).Ensures environment state fun answer _ middle =>
      Halts (fun run => rest run answer) environment middle) :
    Halts (fun run => first run >>= rest run) environment state := by
  obtain ⟨enough, step, ran⟩ := halts
  obtain ⟨more, last, continued⟩ := next enough step (ran enough (Nat.le_refl enough))
  refine ⟨max enough more, { last with values := step.values ++ last.values }, ?_⟩
  intro fuel bound
  exact ran_bind (ran fuel (Nat.le_trans (Nat.le_max_left _ _) bound))
    (continued fuel (Nat.le_trans (Nat.le_max_right _ _) bound))

/-- What follows halts wherever it begins. -/
theorem Halts.followed (halts : Halts first environment state)
    (next : ∀ answer middle, Halts (fun run => rest run answer) environment middle) :
    Halts (fun run => first run >>= rest run) environment state :=
  halts.bind fun _ => .of_forall fun answer _ middle => next answer middle

theorem halts_then {first : Parser U σ α}
    (gives : first.Gives environment state fun answer _ middle =>
      Halts (fun run => rest run answer) environment middle) :
    Halts (fun run => first >>= rest run) environment state := by
  obtain ⟨step, ran, next⟩ := gives
  apply Halts.bind ⟨0, step, fun _ _ => ran⟩
  intro _
  exact (ensures_iff ran _).mpr next

theorem halts_cursor {rest : Runner U σ → Cursor U → Parser U σ β}
    (next : Halts (fun run => rest run state.cursor) environment state) :
    Halts (fun run => cursor >>= rest run) environment state :=
  halts_then ((gives_cursor _).mpr next)

theorem HaltsAt.bind {places : List (Frame U) → Bool → Prop}
    (halts : HaltsAt environment places first) (stays : ∀ fuel, (first (withFuel fuel)).Stays)
    (next : ∀ answer, HaltsAt environment places fun run => rest run answer) :
    HaltsAt environment places fun run => first run >>= rest run := by
  intro state held
  apply (halts state held).bind
  intro fuel
  refine (stays fuel environment state).mono ?_
  intro answer _ middle stayed
  exact next answer middle (by rwa [stayed.1, stayed.2])

/-- Every parser stays in the productions that it began in. -/
theorem HaltsIn.bind (halts : HaltsIn environment frames first)
    (keeps : ∀ fuel, (first (withFuel fuel)).Keeps True)
    (next : ∀ answer, HaltsIn environment frames fun run => rest run answer) :
    HaltsIn environment frames fun run => first run >>= rest run :=
  (haltsIn_iff.mp halts).bind (fun fuel => (keeps fuel).stays) next

theorem haltsIn_then {parser : Parser U σ α} (keeps : parser.Keeps True)
    (gives : ∀ state, parser.Gives environment state fun _ _ _ => True)
    (next : ∀ answer, HaltsIn environment frames fun run => rest run answer) :
    HaltsIn environment frames fun run => parser >>= rest run :=
  HaltsIn.bind (fun state _ => halts_of_gives (gives state)) (fun _ => keeps) next

theorem haltsIn_pure (answer : α) : HaltsIn environment frames fun _ => pure answer :=
  fun _ _ => halts_pure answer

theorem Halts.collect (halts : Halts program environment state) :
    Halts (fun run => Parser.collect (program run)) environment state := by
  obtain ⟨enough, step, ran⟩ := halts
  refine ⟨enough, ⟨(step.answer, step.values), [], step.state⟩, ?_⟩
  intro fuel bound
  simp only [Parser.collect, ran fuel bound, Option.map_some]

theorem Halts.quietly (halts : Halts program environment state) :
    Halts (fun run => Parser.quietly (program run)) environment state :=
  halts.collect.followed fun _ _ => halts_pure _

theorem Halts.withoutWhitespace (halts : Halts program environment state.withoutWhitespace) :
    Halts (fun run => Parser.withoutWhitespace (program run)) environment state := by
  apply halts_then
  rw [gives_modifyScope]
  apply halts.followed
  intro answer middle
  exact halts_of_gives (by simp)

/-- The rounds of a loop have a rank, and as long as the loop goes on, it goes down. -/
theorem halts_loop {round : Runner U σ → α → Parser U σ (Round α β)}
    (ranked : Nat → α → State U σ → Prop)
    (halts : ∀ rank current state, ranked rank current state →
      Halts (fun run => round run current) environment state)
    (falls : ∀ fuel rank current state, ranked rank current state →
      (round (withFuel fuel) current).Ensures environment state fun answer _ after =>
        match answer with
        | .again next => ∃ lower < rank, ranked lower next after
        | .done _ => True)
    {rank : Nat} {start : α} (holds : ranked rank start state) :
    Halts (fun run => run.loop start (round run)) environment state := by
  suffices general : ∃ enough step, ∀ fuel, enough ≤ fuel → ∀ rounds, enough ≤ rounds →
      iterate (round (withFuel fuel)) rounds start environment state = some step by
    obtain ⟨enough, step, ran⟩ := general
    refine ⟨enough, step, ?_⟩
    intro fuel bound
    have same : (withFuel fuel : Runner U σ).fuel = fuel := by cases fuel <;> rfl
    simp only [loop, same]
    exact ran fuel bound fuel bound
  induction rank using Nat.strong_induction_on generalizing start state with
  | _ rank ih =>
    obtain ⟨enough, ⟨answer, values, middle⟩, ran⟩ := halts rank start state holds
    have next := falls enough rank start state holds _ (ran enough (Nat.le_refl enough))
    cases answer with
    | done result =>
      refine ⟨enough + 1, ⟨result, values ++ [], middle⟩, ?_⟩
      intro fuel bound rounds rounds_bound
      obtain ⟨rounds, rfl⟩ : ∃ less, rounds = less + 1 := ⟨rounds - 1, by omega⟩
      exact ran_bind (ran fuel (by omega)) rfl
    | again next =>
      obtain ⟨lower, less, holds⟩ := next
      obtain ⟨more, last, continued⟩ := ih lower less holds
      refine ⟨max enough more + 1, ⟨last.answer, values ++ last.values, last.state⟩, ?_⟩
      intro fuel bound rounds rounds_bound
      obtain ⟨rounds, rfl⟩ : ∃ less, rounds = less + 1 := ⟨rounds - 1, by omega⟩
      exact ran_bind (ran fuel (by omega)) (continued fuel (by omega) rounds (by omega))

/-- A search ends with the view, if looking ends at each place. -/
theorem halts_seek {target : Runner U σ → Parser U σ (Option α)}
    {isLimit : Runner U σ → Parser U σ Bool}
    (looks : ∀ fuel, (target (withFuel fuel)).Looks)
    (limit_looks : ∀ fuel, (isLimit (withFuel fuel)).Looks)
    (halts : ∀ cursor, Halts target environment { state with cursor })
    (limit_halts : ∀ cursor, Halts isLimit environment { state with cursor }) :
    Halts (fun run => seek (target run) (isLimit run)) environment state := by
  suffices general : ∀ left cursor, Halts (fun run => seek.go (target run) (isLimit run) left)
      environment { state with cursor } from halts_cursor (general _ state.cursor)
  intro left
  induction left with
  | zero => exact halts
  | succ left ih =>
    intro cursor
    apply (halts cursor).bind
    intro fuel
    refine (looks fuel).ensures fun answer => ?_
    cases answer with
    | some found => exact halts_pure _
    | none =>
      apply (limit_halts cursor).bind
      intro fuel
      refine (limit_looks fuel).ensures fun limited => ?_
      cases limited with
      | true => exact halts_pure _
      | false =>
        apply halts_then
        rw [gives_modify]
        exact ih cursor.next

/-- A parser that halts at all places of a kind, and stays at one. -/
structure Ends (environment : Environment U σ) (places : List (Frame U) → Bool → Prop)
    (program : Runner U σ → Parser U σ α) : Prop where
  halts : HaltsAt environment places program
  stays : ∀ fuel, (program (withFuel fuel)).Stays

variable {places : List (Frame U) → Bool → Prop}

theorem HaltsIn.ends (halts : HaltsIn environment frames program)
    (keeps : ∀ fuel, (program (withFuel fuel)).Keeps True) :
    Ends environment (Within frames) program :=
  ⟨haltsIn_iff.mp halts, fun fuel => (keeps fuel).stays⟩

theorem Ends.haltsIn (ends : Ends environment (Within frames) program) :
    HaltsIn environment frames program :=
  haltsIn_iff.mpr ends.halts

theorem ends_plain {parser : Parser U σ α} (plain : parser.Plain) :
    Ends environment places fun _ => parser where
  halts state _ := halts_of_gives ((plain environment state).mono fun _ _ _ _ => trivial)
  stays _ := plain.stays

theorem ends_pure (answer : α) : Ends environment places fun _ => pure answer :=
  ends_plain fun _ _ => (gives_pure ..).mpr ⟨rfl, rfl⟩

/-- A failure that is reported where it showed. -/
theorem ends_failure (before stopped : Cursor U) (kind : ParseError.Kind) :
    Ends environment places fun _ => do
      setCursor stopped
      reportFailure before stopped kind
      return false :=
  ends_plain fun _ _ => by
    simp only [gives_bind, gives_setCursor, gives_reportFailure, gives_pure]
    exact ⟨rfl, rfl⟩

/-- What runs no rules comes first. -/
theorem ends_then {first : Parser U σ α} (plain : first.Plain)
    (next : ∀ answer, Ends environment places fun run => rest run answer) :
    Ends environment places fun run => first >>= rest run where
  halts := (ends_plain plain).halts.bind (fun _ => plain.stays) fun answer => (next answer).halts
  stays fuel := plain.stays.bind fun answer => (next answer).stays fuel

theorem ends_cursor {rest : Runner U σ → Cursor U → Parser U σ β}
    (next : ∀ here, Ends environment places fun run => rest run here) :
    Ends environment places fun run => cursor >>= rest run :=
  ends_then (fun _ _ => by simp) next

namespace Ends

protected theorem bind (ends : Ends environment places first)
    (next : ∀ answer, Ends environment places fun run => rest run answer) :
    Ends environment places fun run => first run >>= rest run where
  halts := ends.halts.bind ends.stays fun answer => (next answer).halts
  stays fuel := (ends.stays fuel).bind fun answer => (next answer).stays fuel

/-- Only what can follow has to come to an end. -/
theorem bind_where {kind : α → Prop} (ends : Ends environment places first)
    (answers : ∀ fuel environment state, (first (withFuel fuel)).Ensures environment state
      fun answer _ _ => kind answer)
    (next : ∀ answer, kind answer → Ends environment places fun run => rest run answer) :
    Ends environment places fun run => first run >>= rest run where
  halts state held := by
    apply (ends.halts state held).bind
    intro fuel
    refine ((ends.stays fuel environment state).and (answers fuel environment state)).mono ?_
    intro answer _ middle both
    obtain ⟨stayed, holds⟩ := both
    exact (next answer holds).halts middle (by rwa [stayed.1, stayed.2])
  stays fuel environment state := by
    rw [ensures_bind]
    refine ((ends.stays fuel environment state).and (answers fuel environment state)).mono ?_
    intro answer _ middle both
    obtain ⟨stayed, holds⟩ := both
    refine ((next answer holds).stays fuel environment middle).mono fun _ _ _ still => ?_
    exact ⟨still.1.trans stayed.1, still.2.trans stayed.2⟩

theorem collect (ends : Ends environment places program) :
    Ends environment places fun run => Parser.collect (program run) where
  halts state held := (ends.halts state held).collect
  stays fuel := by simpa [Stays] using ends.stays fuel

theorem quietly (ends : Ends environment places program) :
    Ends environment places fun run => Parser.quietly (program run) :=
  ends.collect.bind fun _ => ends_pure _

theorem withoutWhitespace (ends : Ends environment places program) :
    Ends environment places fun run => Parser.withoutWhitespace (program run) where
  halts state held := (ends.halts state.withoutWhitespace held).withoutWhitespace
  stays fuel environment state := by
    rw [ensures_withoutWhitespace]
    exact ends.stays fuel environment state.withoutWhitespace

theorem ofBool {program : Runner U σ → Parser U σ Bool} (ends : Ends environment places program) :
    Ends environment places fun run => do return Attempt.ofBool (← program run) :=
  ends.bind fun _ => ends_pure _

/-- A loop halts if it only goes on when something was read. -/
theorem loop {round : Runner U σ → α → Parser U σ (Round α β)}
    (ends : ∀ current, Ends environment places fun run => round run current)
    (reads : ∀ fuel current state, (round (withFuel fuel) current).Ensures environment state
      fun answer _ after => ∀ next, answer = .again next → after.cursor.left < state.cursor.left)
    (start : α) : Ends environment places fun run => run.loop start (round run) where
  halts state held := by
    apply halts_loop fun rank _ middle =>
      places middle.scope.frames middle.scope.inWhitespace ∧ middle.cursor.left = rank
    · intro _ current middle ranked
      exact (ends current).halts middle ranked.1
    · intro fuel _ current middle ranked
      obtain ⟨held, rfl⟩ := ranked
      have both := ((ends current).stays fuel environment middle).and (reads fuel current middle)
      refine both.mono ?_
      intro answer _ after both
      cases answer with
      | again next =>
        obtain ⟨stayed, fewer⟩ := both
        exact ⟨_, fewer next rfl, by rwa [stayed.1, stayed.2], rfl⟩
      | done => trivial
    · exact ⟨held, rfl⟩
  stays fuel environment state := by
    refine ensures_iterate (fun _ _ middle => middle.scope.frames = state.scope.frames ∧
      middle.scope.inWhitespace = state.scope.inWhitespace) ?_ _ _ ⟨rfl, rfl⟩
    intro current _ middle stayed
    refine ((ends current).stays fuel environment middle).mono ?_
    intro answer _ after still
    have both := And.intro (still.1.trans stayed.1) (still.2.trans stayed.2)
    cases answer <;> exact both

/-- A search halts if it only looks for what it is after. -/
theorem seek {target : Runner U σ → Parser U σ (Option α)} {isLimit : Runner U σ → Parser U σ Bool}
    (ends : Ends environment places target) (limit_ends : Ends environment places isLimit)
    (looks : ∀ fuel, (target (withFuel fuel)).Looks)
    (limit_looks : ∀ fuel, (isLimit (withFuel fuel)).Looks) :
    Ends environment places fun run => Parser.seek (target run) (isLimit run) where
  halts state held := halts_seek looks limit_looks
    (fun cursor => ends.halts { state with cursor } held)
    fun cursor => limit_ends.halts { state with cursor } held
  stays fuel _ _ := (ensures_seek_kept (looks fuel) (limit_looks fuel)).mono
    fun _ _ _ (kept : Kept True _ _) => ⟨kept.frames, kept.inWhitespace⟩

end Ends

end Programs

section Rules

variable {rule : Rule U}

theorem keeps_parse (fuel : Nat) (rule : Rule U) :
    ((withFuel fuel : Runner U σ).parse rule).Keeps True :=
  (keeps_withFuel fuel).parse fun _ => trivial

theorem keeps_attempt (fuel : Nat) (rule : Rule U) :
    ((withFuel fuel : Runner U σ).attempt rule).Keeps True :=
  (keeps_withFuel fuel).attempt fun _ => trivial

private theorem halts_parse_of_ran {fuel : Nat} {step : Step U σ Bool}
    (ran : (withFuel fuel).parse rule environment state = some step) :
    Halts (fun run => run.parse rule) environment state :=
  ⟨fuel, step, fun _ enough => parse_with_more_fuel enough ran⟩

private theorem halts_attempt_of_ran {fuel : Nat} {step : Step U σ Attempt}
    (ran : (withFuel fuel).attempt rule environment state = some step) :
    Halts (fun run => run.attempt rule) environment state :=
  ⟨fuel, step, fun _ enough => attempt_with_more_fuel enough ran⟩

theorem halts_parse (halts : Halts (fun run => run.parseRule rule) environment state) :
    Halts (fun run => run.parse rule) environment state := by
  obtain ⟨fuel, step, ran⟩ := halts.ran
  have ran : (withFuel (fuel + 1)).parse rule environment state = some step := ran
  exact halts_parse_of_ran ran

theorem halts_attempt (halts : Halts (fun run => run.attemptRule rule) environment state) :
    Halts (fun run => run.attempt rule) environment state := by
  obtain ⟨fuel, step, ran⟩ := halts.ran
  have ran : (withFuel (fuel + 1)).attempt rule environment state = some step := ran
  exact halts_attempt_of_ran ran

/-- A rule that is no branch is tried by parsing it. -/
theorem halts_ofBool {program : Runner U σ → Parser U σ Bool}
    (halts : Halts program environment state) :
    Halts (fun run => do return Attempt.ofBool (← program run)) environment state :=
  halts.followed fun _ _ => halts_pure _

structure Terminates (environment : Environment U σ) (frames : List (Frame U)) (rule : Rule U) :
    Prop where
  parse : HaltsIn environment frames fun run => run.parse rule
  attempt : HaltsIn environment frames fun run => run.attempt rule

variable {frames : List (Frame U)}

omit [CodeUnit U] in
theorem ran_of_course {parser other : Parser U σ α} {told : Environment U σ} {twin : State U σ}
    {step : Step U σ α} (ran : parser environment state = some step)
    (course : (parser environment state).map Step.course = (other told twin).map Step.course) :
    ∃ also, other told twin = some also ∧ also.answer = step.answer := by
  rw [ran, Option.map_some] at course
  obtain ⟨also, ran, same⟩ := Option.map_eq_some_iff.mp course.symm
  exact ⟨also, ran, congrArg Prod.fst same⟩

/-- What was reported, and to whom, has no influence on an answer. -/
theorem ran_attempt_told {other : Environment U σ} {twin : State U σ} {fuel : Nat}
    {step : Step U σ Attempt} (ran : (withFuel fuel).attempt rule environment state = some step)
    (grammar : other.grammar = environment.grammar) (config : other.config = environment.config)
    (cursor : twin.cursor = state.cursor) (scope : twin.scope = state.scope) :
    ∃ told, (withFuel fuel).attempt rule other twin = some told ∧ told.answer = step.answer :=
  ran_of_course ran (course_attempt fuel rule grammar (by rw [config]) cursor scope)

theorem Halts.attempt_unobserved (halts : Halts (fun run => run.attempt rule) environment state) :
    Halts (fun run => run.attempt rule) (unobserved environment) (unreported state) := by
  obtain ⟨fuel, step, ran⟩ := halts.ran
  obtain ⟨alone, ran, -⟩ : ∃ alone, (withFuel fuel).attempt rule (unobserved environment)
      (unreported state) = some alone ∧ _ :=
    ran_of_course ran (course_attempt fuel rule rfl rfl rfl rfl)
  exact halts_attempt_of_ran ran

theorem Halts.parse_unobserved (halts : Halts (fun run => run.parse rule) environment state) :
    Halts (fun run => run.parse rule) (unobserved environment) (unreported state) := by
  obtain ⟨fuel, step, ran⟩ := halts.ran
  obtain ⟨alone, ran, -⟩ : ∃ alone, (withFuel fuel).parse rule (unobserved environment)
      (unreported state) = some alone ∧ _ :=
    ran_of_course ran (course_parse fuel rule rfl rfl rfl rfl)
  exact halts_parse_of_ran ran

/-- A speculation halts if its parser does where nobody is told. -/
theorem Halts.speculation {program : Runner U σ → Parser U σ α}
    (halts : Halts program (unobserved environment) (unreported state)) :
    Halts (fun run => lookAhead (Parser.quietly (speculate (program run)))) environment state := by
  obtain ⟨enough, step, ran⟩ := halts
  exact ⟨enough, _, fun fuel bound => ran_speculation (ran fuel bound)⟩

variable {places : List (Frame U) → Bool → Prop}

theorem Ends.probe (ends : Ends environment places fun run => run.attempt rule) :
    Ends environment places fun run => run.probe rule where
  halts state held :=
    (ends.halts state held).attempt_unobserved.speculation.followed fun _ _ => halts_pure _
  stays _ := (looks_probe rule).keeps.stays

theorem Ends.anyAccepts {rules : List (Rule U)}
    (ends : ∀ rule ∈ rules, Ends environment places fun run => run.attempt rule) :
    Ends environment places fun run => run.anyAccepts rules := by
  induction rules with
  | nil => exact ends_pure false
  | cons rule rules ih =>
    apply (ends rule (.head _)).probe.bind
    intro attempt
    cases attempt.isAccepted with
    | true => exact ends_pure true
    | false => exact ih fun other member => ends other (.tail _ member)

/-- Rules that come to an end whatever the input, at all places of a kind. -/
structure TerminatesAt (environment : Environment U σ) (places : List (Frame U) → Bool → Prop)
    (rule : Rule U) : Prop where
  parse : Ends environment places fun run => run.parse rule
  attempt : Ends environment places fun run => run.attempt rule

/-- A rule comes to an end if what it does comes to an end. -/
theorem terminatesAt (parses : Ends environment places fun run => run.parseRule rule)
    (attempts : Ends environment places fun run => run.attemptRule rule) :
    TerminatesAt environment places rule where
  parse := ⟨fun state held => halts_parse (parses.halts state held),
    fun fuel => (keeps_parse fuel rule).stays⟩
  attempt := ⟨fun state held => halts_attempt (attempts.halts state held),
    fun fuel => (keeps_attempt fuel rule).stays⟩

theorem Terminates.at (terminates : Terminates environment frames rule) :
    TerminatesAt environment (Within frames) rule where
  parse := terminates.parse.ends fun fuel => keeps_parse fuel rule
  attempt := terminates.attempt.ends fun fuel => keeps_attempt fuel rule

theorem TerminatesAt.within (terminates : TerminatesAt environment (Within frames) rule) :
    Terminates environment frames rule :=
  ⟨terminates.parse.haltsIn, terminates.attempt.haltsIn⟩

theorem Terminates.probe (terminates : Terminates environment frames rule) :
    HaltsIn environment frames fun run => run.probe rule :=
  terminates.at.attempt.probe.haltsIn

theorem haltsIn_anyAccepts {rules : List (Rule U)}
    (terminate : ∀ rule ∈ rules, Terminates environment frames rule) :
    HaltsIn environment frames fun run => run.anyAccepts rules :=
  (Ends.anyAccepts fun rule member => (terminate rule member).at.attempt).haltsIn

theorem TerminatesAt.optional (terminates : TerminatesAt environment places rule) :
    TerminatesAt environment places (.optional rule) := by
  have ends : Ends environment places fun run => run.parseOptional rule := by
    apply terminates.attempt.bind
    intro attempt
    cases attempt with
    | accepted => exact ends_pure _
    | canceled => exact ends_pure _
    | backtracked => exact ends_plain fun _ _ => by simp
  exact terminatesAt ends ends.ofBool

theorem terminates_optional (terminates : Terminates environment frames rule) :
    Terminates environment frames (.optional rule) :=
  terminates.at.optional.within

end Rules

section Tokens

variable {places inside : List (Frame U) → Bool → Prop}
  (enters : ∀ running quiet, places running quiet → inside running true)
include enters

/-- Skipping whitespace ends if the rule for it does, where no whitespace is skipped inside it. -/
theorem ends_skipWith {whitespace : Rule U}
    (ends : Ends environment inside fun run => run.attempt whitespace) :
    Ends environment places fun run => run.skipWith whitespace where
  halts state held := by
    unfold skipWith
    apply halts_cursor
    apply halts_then
    rw [gives_scope]
    apply halts_then
    rw [gives_modifyScope]
    apply halts_then
    rw [gives_modifyReport]
    apply Halts.followed
    · -- The loop goes on only if whitespace was read.
      refine (Ends.loop (fun _ => ?_) ?_ ()).halts _ (enters _ _ held)
      · apply ends_cursor
        intro start
        apply ends.quietly.bind
        intro attempt
        apply ends_cursor
        intro here
        split <;> exact ends_pure _
      · intro fuel _ middle
        simp only [ensures_bind, ensures_cursor, ensures_quietly]
        refine (keeps_attempt fuel whitespace environment middle (.inl trivial)).mono ?_
        intro attempt _ after kept
        rw [ensures_ite, ensures_pure, ensures_pure]
        split
        next moved =>
          rw [Bool.and_eq_true, bne_iff_ne] at moved
          exact fun _ _ => kept.left_lt moved.2
        · intro _ again
          cases again
    · intro _ after
      exact halts_of_gives (by simp)
  stays fuel := (keeps_skipWith (keeps_withFuel fuel) fun _ => trivial).stays

theorem ends_skipWhitespace (ends : ∀ running, places running false →
      ∀ rule ∈ running.head?.bind Frame.whitespace,
        Ends environment inside fun run => run.attempt rule) :
    Ends environment places fun run => run.skipWhitespace where
  halts state held := by
    apply halts_then
    rw [gives_scope]
    cases found : state.scope.whitespace? with
    | none => exact halts_pure _
    | some rule =>
      unfold Scope.whitespace? at found
      split at found
      · cases found
      next allowed =>
        simp only [Bool.or_eq_true, not_or, Bool.not_eq_true] at allowed
        have here := held
        rw [allowed.1] at here
        exact (ends_skipWith enters (ends _ here rule found)).halts state held
  stays fuel := (keeps_skipWhitespace (keeps_withFuel fuel)).stays

omit enters

variable (skips : Ends environment places fun run => run.skipWhitespace)
include skips

/-- A parser after which whitespace is skipped, if it has matched. -/
theorem ends_ifParsed {program : Runner U σ → Parser U σ Bool}
    (ends : Ends environment places program) :
    Ends environment places fun run => do
      let parsed ← program run
      if parsed then run.skipWhitespace
      return parsed := by
  apply ends.bind
  intro parsed
  cases parsed with
  | false => exact ends_pure false
  | true => exact skips.bind fun _ => ends_pure true

theorem ends_ifAccepted {program : Runner U σ → Parser U σ Attempt}
    (ends : Ends environment places program) :
    Ends environment places fun run => do
      let attempt ← program run
      if attempt.isAccepted then run.skipWhitespace
      return attempt := by
  apply ends.bind
  intro attempt
  cases attempt with
  | canceled => exact ends_pure _
  | backtracked => exact ends_pure _
  | accepted => exact skips.bind fun _ => ends_pure _

theorem ends_acceptToken (kind : TokenKind) (before after : Cursor U) :
    Ends environment places fun run => run.acceptToken kind before after := by
  apply ends_then fun _ _ => by simp
  intro _
  apply ends_then fun _ _ => by simp [State.withToken]
  exact fun _ => skips

private theorem ends_parseToken (token : Token U) :
    Ends environment places fun run => run.parseToken token := by
  apply ends_cursor
  intro before
  cases token.pattern.run before with
  | failed failure stopped => exact ends_failure before stopped (token.errorKind failure)
  | matched after =>
    exact (ends_acceptToken skips token.kind before after).bind fun _ => ends_pure true

private theorem ends_attemptToken (token : Token U) :
    Ends environment places fun run => run.attemptToken token := by
  apply ends_cursor
  intro before
  cases token.pattern.run before with
  | failed failure stopped => exact ends_pure _
  | matched after =>
    exact (ends_acceptToken skips token.kind before after).bind fun _ => ends_pure Attempt.accepted

theorem terminatesAt_token (token : Token U) : TerminatesAt environment places (.token token) :=
  terminatesAt (ends_parseToken skips token) (ends_attemptToken skips token)

end Tokens

section Productions

variable {frames : List (Frame U)} (whitespace : ∀ rule ∈ frames.head?.bind Frame.whitespace,
  Terminates environment frames rule)
include whitespace

/-- Where the rule for whitespace comes to an end, skipping it does. -/
theorem ends_skipWhitespace_within :
    Ends environment (Within frames) fun run => run.skipWhitespace := by
  have enters : ∀ running quiet, Within frames running quiet → Within frames running true :=
    fun _ _ same => same
  apply ends_skipWhitespace enters
  rintro _ rfl rule found
  exact (whitespace rule found).at.attempt

theorem haltsIn_ifParsed {program : Runner U σ → Parser U σ Bool}
    (halts : HaltsIn environment frames program)
    (keeps : ∀ fuel, (program (withFuel fuel)).Keeps True) :
    HaltsIn environment frames fun run => do
      let parsed ← program run
      if parsed then run.skipWhitespace
      return parsed :=
  (ends_ifParsed (ends_skipWhitespace_within whitespace) (halts.ends keeps)).haltsIn

theorem haltsIn_ifAccepted {program : Runner U σ → Parser U σ Attempt}
    (halts : HaltsIn environment frames program)
    (keeps : ∀ fuel, (program (withFuel fuel)).Keeps True) :
    HaltsIn environment frames fun run => do
      let attempt ← program run
      if attempt.isAccepted then run.skipWhitespace
      return attempt :=
  (ends_ifAccepted (ends_skipWhitespace_within whitespace) (halts.ends keeps)).haltsIn

theorem haltsIn_parseToken (token : Token U) :
    HaltsIn environment frames fun run => run.parseToken token :=
  (ends_parseToken (ends_skipWhitespace_within whitespace) token).haltsIn

private theorem terminates_token (token : Token U) : Terminates environment frames (.token token) :=
  (terminatesAt_token (ends_skipWhitespace_within whitespace) token).within

end Productions

section Readings

/-- A token that does not match is declined. -/
theorem ensures_attempt_declined {token : Token U} {failure : MatchFailure} {stopped : Cursor U}
    (failed : token.pattern.run state.cursor = .failed failure stopped) (fuel : Nat) :
    ((withFuel fuel).attempt (.token token)).Ensures environment state fun attempt _ after =>
      attempt = .backtracked ∧ after = state := by
  cases fuel with
  | zero => exact ensures_outOfFuel _
  | succ fuel =>
    change ((withFuel fuel).attemptToken token).Ensures environment state _
    simp [attemptToken, failed]

/-- A token that may be missing and is changes nothing. -/
theorem ensures_parseOptional_missing {token : Token U} {failure : MatchFailure}
    {stopped : Cursor U} (failed : token.pattern.run state.cursor = .failed failure stopped)
    (fuel : Nat) :
    ((withFuel fuel).parseOptional (.token token)).Ensures environment state fun parsed _ after =>
      parsed = true ∧ after = state := by
  rw [parseOptional, ensures_bind]
  refine (ensures_attempt_declined failed fuel).mono ?_
  intro attempt _ after declined
  obtain ⟨rfl, rfl⟩ := declined
  simp

/-- A token that always reads something ends further on where it matches. -/
theorem ensures_parse_further {token : Token U} (reads : token.pattern.Reads) (fuel : Nat) :
    ((withFuel fuel).parse (.token token)).Ensures environment state fun parsed _ after =>
      parsed = (token.pattern.run state.cursor).isMatched ∧
        (parsed = true → state.cursor.position < after.cursor.position) := by
  cases fuel with
  | zero => exact ensures_outOfFuel _
  | succ fuel =>
    change ((withFuel fuel).parseToken token).Ensures environment state _
    rw [parseToken, ensures_bind, ensures_cursor]
    cases found : token.pattern.run state.cursor with
    | failed failure stopped => simp [MatchResult.isMatched]
    | matched after =>
      have skips : (withFuel fuel : Runner U σ).skipWhitespace.Keeps True :=
        keeps_skipWhitespace (keeps_withFuel fuel)
      simp only [acceptToken, ensures_bind, ensures_setCursor, ensures_reportToken, ensures_pure]
      refine (skips environment _ (.inl trivial)).mono ?_
      intro _ _ last kept
      exact ⟨rfl, fun _ => Nat.lt_of_lt_of_le (reads _ _ found) kept.reaches.position⟩

end Readings

section Examples

def oneUnit (unit : Char) : Rule Char := .token (.oneOf (.ofChar unit))

def soleProduction (rule : Rule Char) : Production Char :=
  ⟨⟨0, "main", false, false⟩, rule, none, none, none⟩

def soleEnvironment (rule : Rule Char) : Environment Char Unit :=
  ⟨⟨#[soleProduction rule], none, 0⟩, .standard, .silent⟩

def soleState (rule : Rule Char) (input : Array Char) : State Char Unit :=
  ⟨.start input, ⟨[⟨soleProduction rule, none, 0⟩], [], false, 0⟩, .fresh ()⟩

def TerminatesIn (rule inner : Rule Char) : Prop :=
  Terminates (soleEnvironment rule) (soleState rule #[]).scope.frames inner

theorem terminatesIn_oneUnit (rule : Rule Char) (unit : Char) : TerminatesIn rule (oneUnit unit) :=
  terminates_token (by simp [soleState]) _

end Examples

end Runner
end Descent
