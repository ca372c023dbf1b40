import Descent.Proofs.FailureReports

/-! What every parser keeps of the state that it began in, inside of productions and outside of
them: the frames, the switches, the input that it reads and the variables that were there. -/

namespace Descent

open Descent.Parser

/-- From one state to another, with everything kept that a rule has to keep. Only if it may bind
variables, there can be more of them afterwards. -/
structure Kept {U σ : Type} (binds : Prop) (before after : State U σ) : Prop where
  reaches : before.cursor.Reaches after.cursor
  frames : after.scope.frames = before.scope.frames
  inWhitespace : after.scope.inWhitespace = before.scope.inWhitespace
  noWhitespace : after.scope.noWhitespace = before.scope.noWhitespace
  muted : after.report.muted = before.report.muted
  names : before.scope.bindings.map Prod.fst <:+ after.scope.bindings.map Prod.fst
  height : binds ∨ after.scope.bindings.length = before.scope.bindings.length

namespace Kept

variable {U σ : Type} {binds : Prop} {before middle after last : State U σ}

protected theorem refl (binds : Prop) (state : State U σ) : Kept binds state state :=
  ⟨.refl _, rfl, rfl, rfl, rfl, List.suffix_refl _, .inr rfl⟩

protected theorem trans (first : Kept binds before middle) (second : Kept binds middle after) :
    Kept binds before after where
  reaches := first.reaches.trans second.reaches
  frames := second.frames.trans first.frames
  inWhitespace := second.inWhitespace.trans first.inWhitespace
  noWhitespace := second.noWhitespace.trans first.noWhitespace
  muted := second.muted.trans first.muted
  names := first.names.trans second.names
  height := by
    rcases first.height with binding | same
    · exact .inl binding
    · rw [← same]
      exact second.height

/-- What keeps the height keeps it also where variables may be bound. -/
theorem weaken (kept : Kept False before after) : Kept binds before after :=
  { kept with height := .inr (kept.height.resolve_left id) }

/-- Reports change nothing that is to be kept. -/
theorem told (kept : Kept binds before after) (cursor : last.cursor = after.cursor)
    (scope : last.scope = after.scope) (muted : last.report.muted = after.report.muted) :
    Kept binds before last := by
  obtain ⟨reaches, frames, inWhitespace, noWhitespace, same, names, height⟩ := kept
  rw [← cursor] at reaches
  rw [← scope] at frames inWhitespace noWhitespace names height
  exact ⟨reaches, frames, inWhitespace, noWhitespace, muted.trans same, names, height⟩

theorem moved {cursor : Cursor U} (kept : Kept binds before after)
    (reaches : after.cursor.Reaches cursor) : Kept binds before { after with cursor } :=
  { kept with reaches := kept.reaches.trans reaches }

theorem assigned (kept : Kept binds before after) (name : String) (binding : Binding) :
    Kept binds before (after.withBindings (Bindings.assign name binding)) := by
  have names := Bindings.names_assign name binding after.scope.bindings
  have length := congrArg List.length names
  rw [List.length_map, List.length_map] at length
  refine { kept with names := ?_, height := kept.height.imp_right length.trans }
  change _ <:+ (Bindings.assign name binding after.scope.bindings).map Prod.fst
  rw [names]
  exact kept.names

theorem bound (kept : Kept binds before after) (binding : binds) (name : String)
    (contents : Binding) : Kept binds before (after.withBindings ((name, contents) :: ·)) :=
  { kept with
    names := kept.names.trans (List.suffix_cons _ _)
    height := .inl binding }

/-- Bindings that are dropped again do not count. -/
theorem restored (kept : Kept True before after) :
    Kept False before (after.withBindings (Bindings.restore · before.scope.bindings.length)) := by
  have names := Bindings.names_restore kept.names
  have length := congrArg List.length names
  rw [List.length_map, List.length_map] at length
  refine { kept with names := ?_, height := .inr length }
  exact ⟨[], names.symm⟩

theorem againWithWhitespace (kept : Kept binds before.withoutWhitespace after) :
    Kept binds before after.againWithWhitespace :=
  { kept with
    noWhitespace := by
      simp [State.againWithWhitespace, State.withoutWhitespace, kept.noWhitespace] }

theorem unmuffled (kept : Kept binds before.muffled after) :
    Kept binds before (after.unmuffled before.scope.inWhitespace) :=
  { kept with
    inWhitespace := rfl
    muted := by simp [State.unmuffled, State.muffled, kept.muted] }

/-- A production keeps the height, whatever its rule has bound. -/
theorem outside {environment : Environment U σ} {production : Production U}
    (kept : Kept True (before.inside environment production) after) :
    Kept False before after.outside := by
  have frames : after.scope.frames = (before.inside environment production).scope.frames :=
    kept.frames
  have scope : after.outside.scope = { after.scope with
      frames := before.scope.frames
      bindings := after.scope.bindings.restore before.scope.bindings.length } := by
    simp [State.outside, Scope.outside, frames, State.inside, Scope.inside]
  have names : (after.scope.bindings.restore before.scope.bindings.length).map Prod.fst =
      before.scope.bindings.map Prod.fst := Bindings.names_restore kept.names
  have length := congrArg List.length names
  rw [List.length_map, List.length_map] at length
  refine ⟨kept.reaches, ?_, ?_, ?_, kept.muted, ?_, ?_⟩ <;> rw [scope]
  · exact kept.inWhitespace
  · exact kept.noWhitespace
  · exact ⟨[], names.symm⟩
  · exact .inr length

end Kept

namespace Parser

variable {U σ α β : Type} {binds : Prop} {environment : Environment U σ} {state : State U σ}

/-- Everything is kept. A parser that must not bind variables must also not skip whitespace by
itself, since the rule for whitespace may bind some. -/
def Keeps (binds : Prop) (parser : Parser U σ α) : Prop :=
  ∀ environment state, binds ∨ state.scope.inWhitespace = true →
    parser.Ensures environment state fun _ _ after => Kept binds state after

def Tells (parser : Parser U σ α) : Prop :=
  ∀ environment state, parser.Ensures environment state fun _ _ after =>
    after.cursor = state.cursor ∧ after.scope = state.scope ∧
      after.report.muted = state.report.muted

namespace Keeps

theorem after {before : State U σ} {parser : Parser U σ α} (keeps : parser.Keeps binds)
    (kept : Kept binds before state) (quiet : binds ∨ before.scope.inWhitespace = true) :
    parser.Ensures environment state fun _ _ last => Kept binds before last := by
  rw [← kept.inWhitespace] at quiet
  exact (keeps environment state quiet).mono fun _ _ _ next => kept.trans next

protected theorem bind {first : Parser U σ α} {rest : α → Parser U σ β} (keeps : first.Keeps binds)
    (then_keeps : ∀ answer, (rest answer).Keeps binds) : (first >>= rest).Keeps binds := by
  intro environment state quiet
  rw [ensures_bind]
  refine (keeps environment state quiet).mono fun answer _ middle kept => ?_
  exact (then_keeps answer).after kept quiet

theorem moving {rest : Parser U σ β} {cursor : Cursor U} (keeps : rest.Keeps binds)
    (reaches : state.cursor.Reaches cursor) (quiet : binds ∨ state.scope.inWhitespace = true) :
    (do
      setCursor cursor
      rest).Ensures environment state fun _ _ after => Kept binds state after := by
  rw [ensures_bind, ensures_setCursor]
  exact keeps.after ((Kept.refl binds state).moved reaches) quiet

end Keeps

theorem Tells.ensures {parser : Parser U σ α} (tells : parser.Tells) :
    parser.Ensures environment state fun _ _ after => Kept binds state after :=
  (tells environment state).mono fun _ _ _ told =>
    (Kept.refl binds state).told told.1 told.2.1 told.2.2

theorem Tells.keeps {parser : Parser U σ α} (tells : parser.Tells) : parser.Keeps binds :=
  fun _ _ _ => tells.ensures

theorem Looks.tells {parser : Parser U σ α} (looks : parser.Looks) : parser.Tells :=
  fun _ _ => looks.ensures fun _ => ⟨rfl, rfl, rfl⟩

theorem Looks.keeps {parser : Parser U σ α} (looks : parser.Looks) : parser.Keeps binds :=
  looks.tells.keeps

theorem Tells.bind {first : Parser U σ α} {rest : α → Parser U σ β} (tells : first.Tells)
    (then_tells : ∀ answer, (rest answer).Tells) : (first >>= rest).Tells := by
  intro environment state
  rw [ensures_bind]
  refine (tells environment state).mono fun answer _ middle told => ?_
  refine (then_tells answer environment middle).mono fun _ _ after more => ?_
  exact ⟨more.1.trans told.1, more.2.1.trans told.2.1, more.2.2.trans told.2.2⟩

theorem tells_pure (answer : α) : (pure answer : Parser U σ α).Tells :=
  (looks_pure answer).tells

theorem keeps_pure (answer : α) : (pure answer : Parser U σ α).Keeps binds :=
  (looks_pure answer).keeps

theorem tells_emitAll (values : List Value) : (emitAll values : Parser U σ Unit).Tells := by
  simp [Tells]

theorem tells_emit (value : Value) : (emit value : Parser U σ Unit).Tells := by
  simp [Tells]

theorem tells_emitUnlessNothing (value : Value) :
    (emitUnlessNothing value : Parser U σ Unit).Tells := by
  unfold emitUnlessNothing
  split
  · exact tells_pure ()
  · exact tells_emit value

theorem tells_reportToken (kind : TokenKind) (first stop : Nat) :
    (reportToken kind first stop : Parser U σ Unit).Tells := by
  simp [Tells, State.withToken]

theorem tells_reportSkipped (before after : Cursor U) :
    (reportSkipped before after : Parser U σ Unit).Tells := by
  unfold reportSkipped
  split
  · exact tells_reportToken _ _ _
  · exact tells_pure ()

theorem tells_reportError (kind : ParseError.Kind) (position : Nat) (span : Span) :
    (reportError kind position span : Parser U σ Unit).Tells := by
  simp [Tells, State.withError, Report.withError]

theorem tells_reported (kind : ParseError.Kind) (position : Nat) (span : Span) (answer : α) :
    (do
      reportError kind position span
      return answer : Parser U σ α).Tells :=
  (tells_reportError kind position span).bind fun _ => tells_pure answer

theorem tells_reportFailure (before stopped : Cursor U) (kind : ParseError.Kind) :
    (reportFailure before stopped kind : Parser U σ Unit).Tells :=
  (tells_reportSkipped before stopped).bind fun _ => tells_reportError _ _ _

theorem tells_reportedHere (kind : ParseError.Kind) (answer : α) :
    (do
      reportErrorAt kind (← cursor).position
      return answer : Parser U σ α).Tells :=
  looks_cursor.tells.bind fun here => tells_reported kind here.position _ answer

theorem keeps_cursor {rest : Cursor U → Parser U σ α}
    (keeps : ∀ environment state, binds ∨ state.scope.inWhitespace = true →
      (rest state.cursor).Ensures environment state fun _ _ after => Kept binds state after) :
    (do rest (← cursor)).Keeps binds := by
  intro environment state quiet
  rw [ensures_bind, ensures_cursor]
  exact keeps environment state quiet

theorem keeps_collect {parser : Parser U σ α} (keeps : parser.Keeps binds) :
    (collect parser).Keeps binds := by
  simpa [Keeps] using keeps

theorem keeps_quietly {parser : Parser U σ α} (keeps : parser.Keeps binds) :
    (quietly parser).Keeps binds := by
  simpa [Keeps] using keeps

theorem keeps_discard {parser : Parser U σ α} (keeps : parser.Keeps binds) :
    (discard parser : Parser U σ PUnit).Keeps binds := by
  simpa [Keeps] using keeps

theorem keeps_ofBool {parser : Parser U σ Bool} (keeps : parser.Keeps binds) :
    (do return .ofBool (← parser) : Parser U σ Attempt).Keeps binds :=
  keeps.bind fun _ => keeps_pure _

theorem keeps_withoutWhitespace {parser : Parser U σ α} (keeps : parser.Keeps binds) :
    (withoutWhitespace parser).Keeps binds := by
  intro environment state quiet
  rw [ensures_withoutWhitespace]
  exact (keeps environment state.withoutWhitespace quiet).mono
    fun _ _ _ kept => kept.againWithWhitespace

theorem keeps_iterate {round : α → Parser U σ (Round α β)}
    (keeps : ∀ current, (round current).Keeps binds) (fuel : Nat) (start : α) :
    (iterate round fuel start).Keeps binds := by
  intro environment state quiet
  refine ensures_iterate (fun _ _ middle => Kept binds state middle) ?_ fuel start
    (.refl binds state)
  intro current values middle kept
  refine ((keeps current).after kept quiet).mono fun answer more after next => ?_
  cases answer <;> exact next

theorem keeps_assignVariable (name : String) (change : Binding → Binding) :
    (assignVariable name change : Parser U σ Bool).Keeps binds := by
  intro environment state quiet
  rw [ensures_assignVariable]
  cases state.scope.bindings.find name with
  | none => exact .refl binds state
  | some old => exact (Kept.refl binds state).assigned name _

theorem keeps_bindVariable (binding : binds) (name : String) (contents : Binding) :
    (bindVariable name contents : Parser U σ Unit).Keeps binds := by
  intro environment state quiet
  rw [ensures_bindVariable]
  exact (Kept.refl binds state).bound binding name contents

/-- A search that only looks keeps everything but the place. -/
theorem ensures_seek_kept {target : Parser U σ (Option α)} {isLimit : Parser U σ Bool}
    (looks : target.Looks) (limit_looks : isLimit.Looks) :
    (seek target isLimit).Ensures environment state fun _ _ after => Kept binds state after := by
  have found : target.LooksFor fun answer => ∀ found ∈ answer, True :=
    fun environment state => (looks environment state).mono
      fun _ _ _ looked => ⟨looked.1, looked.2, fun _ _ => trivial⟩
  refine (ensures_seek_looking found limit_looks).mono fun _ _ after searched => ?_
  obtain ⟨-, reaches, same, -⟩ := searched
  rw [same]
  exact (Kept.refl binds state).moved reaches

end Parser
end Descent
