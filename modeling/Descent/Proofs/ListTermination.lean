import Descent.Proofs.Halting

/-! Lists with a terminator that come to an end. Their phases follow each other, and recovery goes
back to three of them, so a list can go round without reading anything. It does not if its
separator reads something, or its items where it has no separator. -/

namespace Descent

private theorem Attempt.eq_accepted {attempt : Attempt} (accepted : attempt.isAccepted = true) :
    attempt = .accepted := by
  cases attempt <;> first | rfl | cases accepted

namespace Runner

open Descent.Parser

variable {U σ : Type} [CodeUnit U] {environment : Environment U σ} {state : State U σ}
  {rule : Rule U} {frames : List (Frame U)} {list : TerminatedList U}

def Accepts (rule : Rule U) (environment : Environment U σ) (state : State U σ) : Prop :=
  ∃ fuel, ((withFuel fuel).attempt rule).Gives environment state fun attempt _ _ =>
    attempt = .accepted

namespace Accepts

theorem attempt (accepts : Accepts rule environment state) (fuel : Nat) :
    ((withFuel fuel).attempt rule).Ensures environment state fun attempt _ _ =>
      attempt = .accepted := by
  intro step ran
  obtain ⟨enough, other, accepted, answered⟩ := accepts
  have ran := attempt_with_more_fuel (Nat.le_max_left fuel enough) ran
  have accepted := attempt_with_more_fuel (Nat.le_max_right fuel enough) accepted
  cases ran.symm.trans accepted
  exact answered

/-- What was reported has no influence on an answer. -/
theorem told {twin : State U σ} (accepts : Accepts rule environment state)
    (cursor : twin.cursor = state.cursor) (scope : twin.scope = state.scope) :
    Accepts rule environment twin := by
  obtain ⟨fuel, step, ran, accepted⟩ := accepts
  obtain ⟨other, also, same⟩ := ran_attempt_told ran rfl rfl cursor scope
  exact ⟨fuel, other, also, same.trans accepted⟩

end Accepts

/-- A look at a rule changes nothing and foretells how it answers. -/
theorem ensures_probe_accepts (fuel : Nat) (rule : Rule U) :
    ((withFuel fuel).probe rule).Ensures environment state fun attempt _ after =>
      after = state ∧ (attempt.isAccepted = true → Accepts rule environment state) := by
  intro probed looked
  obtain ⟨-, same⟩ := looks_probe rule environment state probed looked
  refine ⟨same, ?_⟩
  intro accepted
  have answers : ((withFuel fuel).probe rule environment state).map Step.answer =
      ((withFuel fuel).attempt rule environment state).map Step.answer := answer_probe fuel rule
  rw [looked, Option.map_some] at answers
  obtain ⟨step, ran, answered⟩ := Option.map_eq_some_iff.mp answers.symm
  exact ⟨fuel, step, ran, answered.trans (Attempt.eq_accepted accepted)⟩

/-- What keeps a list from going round in one place. A separator that is there ends further on
than it begins, also if it fails where it would be accepted; without a separator, the items do. -/
def TerminatedList.Advances (list : TerminatedList U) (environment : Environment U σ)
    (frames : List (Frame U)) : Prop :=
  ∀ fuel (state : State U σ), state.scope.frames = frames →
    match list.separator with
    | some separator =>
      ((withFuel fuel).parse separator.rule).Ensures environment state fun parsed _ after =>
        parsed = true ∨ Accepts separator.rule environment state →
          state.cursor.position < after.cursor.position
    | none =>
      ((withFuel fuel).parse list.item).Ensures environment state fun parsed _ after =>
        parsed = true → state.cursor.position < after.cursor.position

/-- What is known of a list before a round, with its patience: how many more rounds there can be
before it reads something or comes to its end. -/
inductive Stage (list : TerminatedList U) (environment : Environment U σ) (state : State U σ) :
    Nat → ListPhase → List (List Value) → Prop
  | closing {items : List (List Value)} (accepts : Accepts list.terminator environment state) :
    Stage list environment state 0 .terminator items
  | resuming {items : List (List Value)} {separator : Separator (Rule U)}
    (separated : list.separator = some separator)
    (accepts : Accepts separator.rule environment state) :
    Stage list environment state 0 .separator items
  | recovery {items : List (List Value)} : Stage list environment state 1 .recovery items
  | separator {items : List (List Value)} : Stage list environment state 2 .separator items
  | continued {items : List (List Value)} (separated : list.separator.isSome = true)
    (some_items : items.isEmpty = false) : Stage list environment state 3 .terminator items
  | item {items : List (List Value)} : Stage list environment state 4 .item items
  | terminator {items : List (List Value)} : Stage list environment state 5 .terminator items
  | afterSeparator {span : Span} {items : List (List Value)} :
    Stage list environment state 5 (.afterSeparator span) items

private theorem Stage.patience_le {patience : Nat} {phase : ListPhase} {items : List (List Value)}
    (stage : Stage list environment state patience phase items) : patience ≤ 5 := by
  cases stage <;> omega

theorem Stage.told {twin : State U σ} {patience : Nat} {phase : ListPhase}
    {items : List (List Value)} (stage : Stage list environment state patience phase items)
    (cursor : twin.cursor = state.cursor) (scope : twin.scope = state.scope) :
    Stage list environment twin patience phase items := by
  cases stage with
  | closing accepts => exact .closing (accepts.told cursor scope)
  | resuming separated accepts => exact .resuming separated (accepts.told cursor scope)
  | recovery => exact .recovery
  | separator => exact .separator
  | continued separated some_items => exact .continued separated some_items
  | item => exact .item
  | terminator => exact .terminator
  | afterSeparator => exact .afterSeparator

/-- A list goes on in this way further on, or with less patience. -/
def Nears (list : TerminatedList U) (environment : Environment U σ) (before : Cursor U)
    (patience : Nat) (phase : ListPhase) (items : List (List Value)) (after : State U σ) : Prop :=
  ∃ less, Stage list environment after less phase items ∧
    (before.position < after.cursor.position ∨ less < patience)

/-- Recovery goes on with something that is there, or else further on. -/
theorem ensures_resumption_nears (items : List (List Value)) (fuel : Nat) (start : Cursor U) :
    ((withFuel fuel).resumption list start).Ensures environment state fun phase _ after =>
      after = state ∧ ∀ next ∈ phase, Nears list environment start 1 next items after := by
  have terminator : (do
      if (← (withFuel fuel).probe list.terminator).isAccepted then
        return some ListPhase.terminator
      return none : Parser U σ (Option ListPhase)).Ensures environment state fun phase _ after =>
        after = state ∧ ∀ next ∈ phase, Nears list environment start 1 next items after := by
    rw [ensures_bind]
    refine (ensures_probe_accepts fuel list.terminator).mono ?_
    intro attempt _ after looked
    obtain ⟨rfl, accepts⟩ := looked
    split
    next accepted =>
      simpa using ⟨0, .closing (accepts accepted), .inr Nat.zero_lt_one⟩
    · simp
  unfold resumption
  cases separated : list.separator with
  | some separator =>
    rw [ensures_bind]
    refine (ensures_probe_accepts fuel separator.rule).mono ?_
    intro attempt _ after looked
    obtain ⟨rfl, accepts⟩ := looked
    split
    next accepted =>
      simpa using ⟨0, .resuming separated (accepts accepted), .inr Nat.zero_lt_one⟩
    · exact terminator
  | none =>
    rw [ensures_bind, ensures_cursor]
    by_cases moved : start.position < state.cursor.position
    · rw [if_pos moved, ensures_bind]
      refine (ensures_probe_accepts fuel list.item).mono ?_
      intro attempt _ after looked
      obtain ⟨rfl, -⟩ := looked
      split
      · simpa using ⟨4, .item, .inl moved⟩
      · exact terminator
    · rw [if_neg moved]
      exact terminator

private theorem ensures_recoverList_nears (items : List (List Value)) (fuel : Nat) :
    ((withFuel fuel).recoverList list).Ensures environment state fun phase _ after =>
      ∀ next ∈ phase, Nears list environment state.cursor 1 next items after := by
  simp only [recoverList, ensures_bind, ensures_cursor, ensures_reportSkipped, ensures_pure]
  refine ensures_seek (fun _ _ => True) ?_ trivial
  intro _ middle _
  rw [recoveryAt, ensures_bind]
  refine (ensures_resumption_nears items fuel state.cursor).mono ?_
  intro phase _ after found
  obtain ⟨rfl, found⟩ := found
  cases phase with
  | some next =>
    obtain ⟨less, stage, further⟩ := found next rfl
    rw [ensures_pure]
    rintro _ ⟨⟩
    exact ⟨less, stage.told rfl rfl, further⟩
  | none =>
    rw [ensures_bind]
    apply Ensures.of_forall
    intro limited _ _
    cases limited <;> simp

section Rounds

variable {patience : Nat} {items : List (List Value)}

/-- A round ends the list or brings it nearer to its end. -/
def RoundNears (list : TerminatedList U) (environment : Environment U σ) (state : State U σ)
    (patience fuel : Nat) (phase : ListPhase) (items : List (List Value)) : Prop :=
  ((withFuel fuel).listStep list phase items).Ensures environment state fun answer _ after =>
    match answer with
    | .again next => Nears list environment state.cursor patience next.1 next.2 after
    | .done _ => True

private theorem roundNears_terminator (fuel : Nat)
    (stage : Stage list environment state patience .terminator items) :
    RoundNears list environment state patience fuel .terminator items := by
  simp only [RoundNears, listStep, ensures_bind, ensures_collect]
  cases stage with
  | closing accepts =>
    refine (accepts.attempt fuel).mono ?_
    intro attempt _ after accepted
    subst accepted
    exact (ensures_pure ..).mpr trivial
  | continued separated some_items =>
    apply Ensures.of_forall
    intro attempt _ after
    cases attempt with
    | accepted => exact (ensures_pure ..).mpr trivial
    | canceled => exact (ensures_pure ..).mpr trivial
    | backtracked =>
      rw [ensures_pure, separated, some_items]
      exact ⟨2, .separator, .inr (by omega)⟩
  | terminator =>
    apply Ensures.of_forall
    intro attempt _ after
    cases attempt with
    | accepted => exact (ensures_pure ..).mpr trivial
    | canceled => exact (ensures_pure ..).mpr trivial
    | backtracked =>
      rw [ensures_pure]
      dsimp only
      split
      · exact ⟨2, .separator, .inr (by omega)⟩
      · exact ⟨4, .item, .inr (by omega)⟩

private theorem roundNears_afterSeparator (fuel : Nat) (span : Span) :
    RoundNears list environment state 5 fuel (.afterSeparator span) items := by
  simp only [RoundNears, listStep, ensures_bind, ensures_collect]
  apply Ensures.of_forall
  intro attempt _ after
  cases attempt with
  | accepted => cases list.separator <;> simp
  | canceled => exact (ensures_pure ..).mpr trivial
  | backtracked => exact (ensures_pure ..).mpr ⟨4, .item, .inr (by omega)⟩

private theorem roundNears_recovery (fuel : Nat) :
    RoundNears list environment state 1 fuel .recovery items := by
  simp only [RoundNears, listStep, ensures_bind]
  refine (ensures_recoverList_nears items fuel).mono ?_
  intro phase _ after found
  cases phase with
  | some next => exact (ensures_pure ..).mpr (found next rfl)
  | none => exact (ensures_pure ..).mpr trivial

variable (advances : list.Advances environment frames) (inside : state.scope.frames = frames)
include advances inside

/-- After a separator there is something new to be read. Without one, there is recovery. -/
theorem roundNears_separator (fuel : Nat)
    (stage : Stage list environment state patience .separator items) :
    RoundNears list environment state patience fuel .separator items := by
  have progress := advances fuel state inside
  simp only [RoundNears, listStep]
  cases separated : list.separator with
  | none => simp
  | some separator =>
    simp only [separated] at progress
    simp only [ensures_bind, ensures_cursor, ensures_quietly]
    refine progress.mono ?_
    intro parsed _ after further
    cases parsed with
    | true => simpa using ⟨5, .afterSeparator, .inl (further (.inl rfl))⟩
    | false =>
      refine (ensures_pure ..).mpr ⟨1, .recovery, ?_⟩
      cases stage with
      | resuming known accepts =>
        cases separated.symm.trans known
        exact .inl (further (.inr accepts))
      | separator => exact .inr (by omega)

private theorem roundNears_item (fuel : Nat) :
    RoundNears list environment state 4 fuel .item items := by
  have progress := advances fuel state inside
  simp only [RoundNears, listStep, ensures_bind, ensures_collect]
  cases separated : list.separator with
  | some separator =>
    apply Ensures.of_forall
    intro parsed values after
    cases parsed with
    | true =>
      have continued : Stage list environment after 3 .terminator (items ++ [values]) :=
        .continued (by simp [separated]) (by simp)
      simpa using ⟨3, continued, .inr (by omega)⟩
    | false => simpa using ⟨1, .recovery, .inr (by omega)⟩
  | none =>
    simp only [separated] at progress
    refine progress.mono ?_
    intro parsed values after further
    cases parsed with
    | true => simpa using ⟨5, .terminator, .inl (further rfl)⟩
    | false => simpa using ⟨1, .recovery, .inr (by omega)⟩

/-- Each phase brings the list nearer to its end. -/
theorem Stage.roundNears {phase : ListPhase}
    (stage : Stage list environment state patience phase items)
    (fuel : Nat) : RoundNears list environment state patience fuel phase items := by
  cases stage with
  | closing accepts => exact roundNears_terminator fuel (.closing accepts)
  | resuming separated accepts =>
    exact roundNears_separator advances inside fuel (.resuming separated accepts)
  | recovery => exact roundNears_recovery fuel
  | separator => exact roundNears_separator advances inside fuel .separator
  | continued separated some_items =>
    exact roundNears_terminator fuel (.continued separated some_items)
  | item => exact roundNears_item advances inside fuel
  | terminator => exact roundNears_terminator fuel .terminator
  | afterSeparator => exact roundNears_afterSeparator fuel _

end Rounds

structure TerminatedList.Terminate (list : TerminatedList U) (environment : Environment U σ)
    (frames : List (Frame U)) : Prop where
  terminator : Terminates environment frames list.terminator
  item : Terminates environment frames list.item
  separator : ∀ separator ∈ list.separator, Terminates environment frames separator.rule
  limits : ∀ limit ∈ list.limits, Terminates environment frames limit

namespace TerminatedList.Terminate

variable (terminate : list.Terminate environment frames)
include terminate

private theorem haltsIn_resumption (start : Cursor U) :
    HaltsIn environment frames fun run => run.resumption list start := by
  have terminator : HaltsIn environment frames fun run => do
      if (← run.probe list.terminator).isAccepted then return some ListPhase.terminator
      return none := by
    apply terminate.terminator.probe.bind fun _ => (looks_probe list.terminator).keeps
    intro attempt
    cases attempt.isAccepted <;> exact haltsIn_pure _
  unfold resumption
  cases separated : list.separator with
  | some separator =>
    have separates := terminate.separator separator separated
    apply separates.probe.bind fun _ => (looks_probe separator.rule).keeps
    intro attempt
    cases attempt.isAccepted with
    | true => exact haltsIn_pure _
    | false => exact terminator
  | none =>
    intro state inside
    apply halts_cursor
    by_cases moved : start.position < state.cursor.position
    · simp only [moved, if_true]
      apply (terminate.item.probe state inside).bind
      intro fuel
      refine (looks_probe list.item).ensures fun attempt => ?_
      cases attempt.isBacktracked with
      | true => exact terminator state inside
      | false => exact halts_pure _
    · simpa only [moved, if_false] using terminator state inside

private theorem haltsIn_recoveryAt (start : Cursor U) :
    HaltsIn environment frames fun run => run.recoveryAt list start := by
  apply (terminate.haltsIn_resumption start).bind fun _ => (looks_resumption list start).looks.keeps
  intro found
  cases found with
  | some phase => exact haltsIn_pure _
  | none =>
    apply (haltsIn_anyAccepts terminate.limits).bind fun _ => (looks_anyAccepts list.limits).keeps
    intro limited
    cases limited <;> exact haltsIn_pure _

private theorem haltsIn_recoverList :
    HaltsIn environment frames fun run => run.recoverList list := by
  intro state inside
  apply halts_cursor
  apply Halts.followed
  · apply halts_seek
    · exact fun fuel => (looks_recoveryAt list _).looks
    · exact fun fuel => looks_pure false
    · exact fun _ => terminate.haltsIn_recoveryAt _ _ inside
    · exact fun _ => halts_pure false
  · intro phase after
    exact halts_of_gives (by simp)

private theorem haltsIn_listStep (phase : ListPhase) (items : List (List Value)) :
    HaltsIn environment frames fun run => run.listStep list phase items := by
  intro state inside
  cases phase with
  | terminator =>
    apply (terminate.terminator.attempt state inside).collect.followed
    intro answer after
    obtain ⟨attempt, closing⟩ := answer
    cases attempt <;> exact halts_pure _
  | separator =>
    unfold listStep
    cases separated : list.separator with
    | none => exact halts_pure _
    | some separator =>
      apply halts_cursor
      apply ((terminate.separator separator separated).parse state inside).quietly.followed
      intro parsed after
      cases parsed with
      | true => exact halts_cursor (halts_pure _)
      | false => exact halts_pure _
  | afterSeparator span =>
    apply (terminate.terminator.attempt state inside).collect.followed
    intro answer after
    obtain ⟨attempt, closing⟩ := answer
    cases attempt with
    | accepted => cases list.separator <;> exact halts_of_gives (by simp [checkTrailing])
    | canceled => exact halts_pure _
    | backtracked => exact halts_pure _
  | item =>
    apply (terminate.item.parse state inside).collect.followed
    intro answer after
    obtain ⟨parsed, values⟩ := answer
    cases parsed <;> exact halts_pure _
  | recovery =>
    apply (terminate.haltsIn_recoverList state inside).followed
    intro phase after
    cases phase <;> exact halts_pure _

/-- The rank of a round counts the units that are left, and between two that are read, the
patience of the list. -/
theorem haltsIn_parseTerminatedList (advances : list.Advances environment frames)
    (mayBeEmpty : Bool) :
    HaltsIn environment frames fun run => run.parseTerminatedList list mayBeEmpty := by
  intro state inside
  have first : ∃ patience, Stage list environment state patience
      (if mayBeEmpty then .terminator else .item) [] := by
    cases mayBeEmpty with
    | true => exact ⟨5, .terminator⟩
    | false => exact ⟨4, .item⟩
  obtain ⟨patience, stage⟩ := first
  apply halts_then
  rw [gives_currentSink]
  apply Halts.followed
  · apply halts_loop fun rank current middle => middle.scope.frames = frames ∧
      ∃ patience, Stage list environment middle patience current.1 current.2 ∧
        rank = middle.cursor.left * 6 + patience
    · intro _ current middle ranked
      exact terminate.haltsIn_listStep current.1 current.2 middle ranked.1
    · intro fuel rank current middle ranked
      obtain ⟨within, patience, stage, rfl⟩ := ranked
      have nears := stage.roundNears advances within fuel
      have keeps : ((withFuel fuel).listStep list current.1 current.2 : Parser U σ _).Keeps True :=
        keeps_listStep (keeps_withFuel fuel) list (fun _ => trivial) (fun _ => trivial)
          (fun _ _ _ => trivial) current.1 current.2
      refine (nears.and (keeps environment middle (.inl trivial))).mono ?_
      intro answer _ after round
      obtain ⟨nears, kept⟩ := round
      cases answer with
      | done result => trivial
      | again next =>
        obtain ⟨less, stage, further⟩ := nears
        refine ⟨after.cursor.left * 6 + less, ?_, kept.frames.trans within, less, stage, rfl⟩
        have bound := stage.patience_le
        have forward := kept.reaches.left_le
        rcases further with read | fewer
        · have shorter := kept.reaches.left_lt read
          omega
        · omega
    · exact ⟨inside, patience, stage, rfl⟩
  · intro result after
    cases result <;> exact halts_of_gives (by simp [emitUnlessNothing])

end TerminatedList.Terminate

/-- A list with a terminator ends on every input if the rules inside it do, and if its separator,
or else its item, reads something wherever it succeeds. -/
theorem terminatedList_terminates {terminator item : Rule U}
    {separator : Option (Separator (Rule U))} {limits : List (Rule U)} (mayBeEmpty : Bool)
    (terminate : ∀ inner ∈ (Rule.terminatedList terminator item separator limits mayBeEmpty).parts,
      Terminates environment frames inner)
    (advances : TerminatedList.Advances ⟨terminator, item, separator, limits⟩ environment frames) :
    Terminates environment frames
      (.terminatedList terminator item separator limits mayBeEmpty) := by
  have parts :
      TerminatedList.Terminate ⟨terminator, item, separator, limits⟩ environment frames := by
    constructor
    · exact terminate terminator (by simp [Rule.parts])
    · exact terminate item (by simp [Rule.parts])
    · intro separator separated
      exact terminate separator.rule (by simp_all [Rule.parts])
    · intro limit member
      exact terminate limit (by simp [Rule.parts, member])
  constructor
  · intro state inside
    exact halts_parse (parts.haltsIn_parseTerminatedList advances mayBeEmpty state inside)
  · intro state inside
    have parses := parts.haltsIn_parseTerminatedList advances mayBeEmpty state inside
    exact halts_attempt (halts_ofBool parses)

theorem Accepts.matched {token : Token U} (accepts : Accepts (.token token) environment state) :
    (token.pattern.run state.cursor).isMatched = true := by
  obtain ⟨fuel, step, ran, accepted⟩ := accepts
  cases found : token.pattern.run state.cursor with
  | matched after => rfl
  | failed failure stopped =>
    have declined := (ensures_attempt_declined found fuel step ran).1
    rw [accepted] at declined
    cases declined

private theorem advances_of_token_separator {terminator item : Rule U} {token : Token U}
    {trailing : Bool} {limits : List (Rule U)} (reads : token.pattern.Reads) :
    TerminatedList.Advances ⟨terminator, item, some ⟨.token token, trailing⟩, limits⟩ environment
      frames := by
  intro fuel state _
  refine (ensures_parse_further reads fuel).mono ?_
  intro parsed _ after read succeeds
  apply read.2
  rcases succeeds with parsed | accepts
  · exact parsed
  · exact read.1.trans accepts.matched

def commaList : Rule Char :=
  .terminatedList (oneUnit ';') (oneUnit 'a') (some ⟨oneUnit ',', false⟩) [] false

theorem commaList_terminates : TerminatesIn commaList commaList := by
  apply terminatedList_terminates
  · intro inner member
    have cases : inner = oneUnit ';' ∨ inner = oneUnit 'a' ∨ inner = oneUnit ',' := by
      simpa [Rule.parts] using member
    rcases cases with rfl | rfl | rfl <;> exact terminatesIn_oneUnit commaList _
  · exact advances_of_token_separator (Pattern.reads_oneOf _)

def missingItems : Rule Char :=
  .terminatedList (oneUnit ';') (.optional (oneUnit 'a')) none [] false

/-- Both rules of a list come to an end, and the list does not: before a unit that is neither an
item nor the terminator, it takes one empty item after the other. -/
theorem missingItems_go_round :
    (∀ inner ∈ missingItems.parts, TerminatesIn missingItems inner) ∧
      ∀ fuel, (withFuel fuel).parse missingItems (soleEnvironment missingItems)
        (soleState missingItems #['b']) = none := by
  constructor
  · intro inner member
    have cases : inner = oneUnit ';' ∨ inner = .optional (oneUnit 'a') := by
      simpa [Rule.parts, missingItems] using member
    rcases cases with rfl | rfl
    · exact terminatesIn_oneUnit missingItems ';'
    · exact terminates_optional (terminatesIn_oneUnit missingItems 'a')
  intro fuel
  apply eq_none_of_ensures
  cases fuel with
  | zero => exact ensures_outOfFuel _
  | succ fuel =>
    change ((withFuel fuel).parseTerminatedList _ false).Ensures _ _ _
    rw [parseTerminatedList, ensures_bind, ensures_currentSink, ensures_bind]
    -- Every round leaves the state as it was, and another one follows.
    refine ensures_iterate (fun current _ middle => middle = soleState missingItems #['b'] ∧
      (current.1 = .terminator ∨ current.1 = .item)) ?_ _ _ ⟨rfl, .inr rfl⟩
    intro current values middle unchanged
    obtain ⟨phase, items⟩ := current
    obtain ⟨rfl, terminator | item⟩ := unchanged
    · cases terminator
      simp only [listStep, ensures_bind, ensures_collect]
      refine (ensures_attempt_declined rfl fuel).mono ?_
      intro attempt _ after declined
      obtain ⟨rfl, rfl⟩ := declined
      exact (ensures_pure ..).mpr ⟨rfl, .inr rfl⟩
    · cases item
      simp only [listStep, ensures_bind, ensures_collect]
      have taken : ((withFuel fuel).parse (.optional (oneUnit 'a'))).Ensures
          (soleEnvironment missingItems) (soleState missingItems #['b']) fun parsed _ after =>
            parsed = true ∧ after = soleState missingItems #['b'] := by
        cases fuel with
        | zero => exact ensures_outOfFuel _
        | succ fuel => exact ensures_parseOptional_missing rfl fuel
      refine taken.mono ?_
      intro parsed _ after missing
      obtain ⟨rfl, rfl⟩ := missing
      exact (ensures_pure ..).mpr ⟨rfl, .inl rfl⟩

end Runner
end Descent
