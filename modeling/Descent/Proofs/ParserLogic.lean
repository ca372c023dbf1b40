import Descent.Parsing.Interpreter

/-! Assertions about parsers. A parser ensures a condition if every outcome that it
has satisfies it; running out of fuel is no outcome. The rules below take a parser
apart into reading and changing the state, so that what is left to prove about a rule
speaks of the rules inside it only. -/

namespace Descent.Parser

variable {U σ α β γ : Type} {environment : Environment U σ} {state : State U σ}

/-- Every outcome of a parser from a state, its answer, its values and the state after
it, satisfies a condition. -/
def Ensures (parser : Parser U σ α) (environment : Environment U σ) (state : State U σ)
    (post : α → List Value → State U σ → Prop) : Prop :=
  ∀ step, parser environment state = some step → post step.answer step.values step.state

theorem Ensures.mono {parser : Parser U σ α} {post weaker : α → List Value → State U σ → Prop}
    (ensured : parser.Ensures environment state post)
    (implies : ∀ answer values after, post answer values after → weaker answer values after) :
    parser.Ensures environment state weaker :=
  fun step ran => implies _ _ _ (ensured step ran)

/-- What holds of every state needs no look at the parser. -/
theorem Ensures.of_forall {parser : Parser U σ α} {post : α → List Value → State U σ → Prop}
    (holds : ∀ answer values after, post answer values after) :
    parser.Ensures environment state post :=
  fun _ _ => holds _ _ _

@[simp] theorem ensures_true (parser : Parser U σ α) :
    parser.Ensures environment state fun _ _ _ => True :=
  fun _ _ => trivial

theorem ensures_congr {parser : Parser U σ α} {post other : α → List Value → State U σ → Prop}
    (same : ∀ answer values after, post answer values after ↔ other answer values after) :
    parser.Ensures environment state post ↔ parser.Ensures environment state other :=
  ⟨fun ensured => ensured.mono fun _ _ _ => (same _ _ _).mp,
    fun ensured => ensured.mono fun _ _ _ => (same _ _ _).mpr⟩

theorem Ensures.and {parser : Parser U σ α} {post other : α → List Value → State U σ → Prop}
    (first : parser.Ensures environment state post)
    (second : parser.Ensures environment state other) :
    parser.Ensures environment state fun answer values after =>
      post answer values after ∧ other answer values after :=
  fun step ran => ⟨first step ran, second step ran⟩

theorem ensures_iff {parser : Parser U σ α} {answer : α} {values : List Value}
    {after : State U σ} (ran : parser environment state = some ⟨answer, values, after⟩)
    (post : α → List Value → State U σ → Prop) :
    parser.Ensures environment state post ↔ post answer values after := by
  constructor
  · exact fun ensured => ensured _ ran
  · intro holds other also
    cases ran.symm.trans also
    exact holds

@[simp] theorem ensures_pure (answer : α) (post : α → List Value → State U σ → Prop) :
    (pure answer : Parser U σ α).Ensures environment state post ↔ post answer [] state :=
  ensures_iff rfl post

@[simp] theorem ensures_bind (first : Parser U σ α) (rest : α → Parser U σ β)
    (post : β → List Value → State U σ → Prop) :
    (first >>= rest).Ensures environment state post ↔
      first.Ensures environment state fun answer values middle =>
        (rest answer).Ensures environment middle fun last more after =>
          post last (values ++ more) after := by
  constructor
  · intro ensured step ran last found
    apply ensured { last with values := step.values ++ last.values }
    change Parser.bind first rest environment state = _
    simp only [Parser.bind, ran, found]
  · intro ensured step ran
    change Parser.bind first rest environment state = _ at ran
    unfold Parser.bind at ran
    split at ran
    · cases ran
    next middle found =>
      split at ran
      · cases ran
      next last more =>
        cases ran
        exact ensured middle found last more

@[simp] theorem ensures_ite (condition : Prop) [Decidable condition] (yes no : Parser U σ α)
    (post : α → List Value → State U σ → Prop) :
    (if condition then yes else no).Ensures environment state post ↔
      if condition then yes.Ensures environment state post
      else no.Ensures environment state post := by
  split <;> rfl

@[simp] theorem ensures_outOfFuel (post : α → List Value → State U σ → Prop) :
    (outOfFuel : Parser U σ α).Ensures environment state post := by
  intro step ran
  cases ran

@[simp] theorem ensures_environment
    (post : Environment U σ → List Value → State U σ → Prop) :
    Parser.environment.Ensures environment state post ↔ post environment [] state :=
  ensures_iff rfl post

@[simp] theorem ensures_state (post : State U σ → List Value → State U σ → Prop) :
    Parser.state.Ensures environment state post ↔ post state [] state :=
  ensures_iff rfl post

@[simp] theorem ensures_modify (change : State U σ → State U σ)
    (post : Unit → List Value → State U σ → Prop) :
    (modify change).Ensures environment state post ↔ post () [] (change state) :=
  ensures_iff rfl post

@[simp] theorem ensures_emitAll (values : List Value)
    (post : Unit → List Value → State U σ → Prop) :
    (emitAll values).Ensures environment state post ↔ post () values state :=
  ensures_iff rfl post

@[simp] theorem ensures_emit (value : Value) (post : Unit → List Value → State U σ → Prop) :
    (emit value).Ensures environment state post ↔ post () [value] state :=
  ensures_iff rfl post

@[simp] theorem ensures_cursor (post : Cursor U → List Value → State U σ → Prop) :
    cursor.Ensures environment state post ↔ post state.cursor [] state := by
  simp [cursor]

@[simp] theorem ensures_setCursor (moved : Cursor U)
    (post : Unit → List Value → State U σ → Prop) :
    (setCursor moved).Ensures environment state post ↔
      post () [] { state with cursor := moved } := by
  simp [setCursor]

@[simp] theorem ensures_scope (post : Scope U → List Value → State U σ → Prop) :
    scope.Ensures environment state post ↔ post state.scope [] state := by
  simp [scope]

@[simp] theorem ensures_modifyScope (change : Scope U → Scope U)
    (post : Unit → List Value → State U σ → Prop) :
    (modifyScope change).Ensures environment state post ↔
      post () [] { state with scope := change state.scope } := by
  simp [modifyScope]

@[simp] theorem ensures_modifyReport (change : Report σ → Report σ)
    (post : Unit → List Value → State U σ → Prop) :
    (modifyReport change).Ensures environment state post ↔
      post () [] { state with report := change state.report } := by
  simp [modifyReport]

@[simp] theorem ensures_collect (inner : Parser U σ α)
    (post : α × List Value → List Value → State U σ → Prop) :
    (collect inner).Ensures environment state post ↔
      inner.Ensures environment state
        fun answer values after => post (answer, values) [] after := by
  constructor
  · intro ensured step ran
    exact ensured ⟨(step.answer, step.values), [], step.state⟩ (by simp [collect, ran])
  · intro ensured step ran
    simp only [collect, Option.map_eq_some_iff] at ran
    obtain ⟨inside, found, rfl⟩ := ran
    exact ensured inside found

@[simp] theorem ensures_quietly (inner : Parser U σ α)
    (post : α → List Value → State U σ → Prop) :
    (quietly inner).Ensures environment state post ↔
      inner.Ensures environment state fun answer _ after => post answer [] after := by
  simp [quietly]

@[simp] theorem ensures_discard (inner : Parser U σ α)
    (post : PUnit → List Value → State U σ → Prop) :
    (discard inner : Parser U σ PUnit).Ensures environment state post ↔
      inner.Ensures environment state fun _ values after => post ⟨⟩ values after := by
  change (inner >>= fun _ => pure PUnit.unit).Ensures environment state post ↔ _
  simp

/-- What a speculation is run in: nobody sees what it reports. -/
def unobserved (environment : Environment U σ) : Environment U σ :=
  { environment with observer := Observer.silent }

/-- Where a speculation begins: it has nothing to do with what was reported before. -/
def unreported (state : State U σ) : State U σ :=
  { state with report := Report.fresh state.report.notes }

@[simp] theorem ensures_speculate (inner : Parser U σ α)
    (post : α → List Value → State U σ → Prop) :
    (speculate inner).Ensures environment state post ↔
      inner.Ensures (unobserved environment) (unreported state) fun answer values after =>
        post answer values { state with cursor := after.cursor } := by
  constructor
  · intro ensured step ran
    have ran : inner { environment with observer := Observer.silent }
        { state with report := Report.fresh state.report.notes } = some step := ran
    exact ensured { step with
      state := { step.state with scope := state.scope, report := state.report } }
      (by simp [speculate, ran])
  · intro ensured step ran
    simp only [speculate, Option.map_eq_some_iff] at ran
    obtain ⟨inside, found, rfl⟩ := ran
    exact ensured inside found

@[simp] theorem ensures_lookAhead (inner : Parser U σ α)
    (post : α × Cursor U → List Value → State U σ → Prop) :
    (lookAhead inner).Ensures environment state post ↔
      inner.Ensures environment state fun answer values after =>
        post (answer, after.cursor) values { after with cursor := state.cursor } := by
  simp [lookAhead]

/-- A loop keeps what each of its rounds keeps; the invariant speaks of the values
produced so far. -/
theorem ensures_iterate {round : α → Parser U σ (Round α β)}
    {post : β → List Value → State U σ → Prop} (invariant : α → List Value → State U σ → Prop)
    (kept : ∀ current values middle, invariant current values middle →
      (round current).Ensures environment middle fun answer more after =>
        match answer with
        | .again next => invariant next (values ++ more) after
        | .done result => post result (values ++ more) after)
    (fuel : Nat) (start : α) (holds : invariant start [] state) :
    (iterate round fuel start).Ensures environment state post := by
  suffices general : ∀ fuel current values middle, invariant current values middle →
      (iterate round fuel current).Ensures environment middle fun result more after =>
        post result (values ++ more) after from general fuel start [] state holds
  intro fuel
  induction fuel with
  | zero => exact fun _ _ _ _ => ensures_outOfFuel _
  | succ fuel ih =>
    intro current values middle holds
    rw [iterate, ensures_bind]
    refine (kept current values middle holds).mono ?_
    intro answer more after continued
    cases answer with
    | again next => simpa using (ih next (values ++ more) after continued)
    | done result => simpa using continued

/-- The search for a target: the invariant is kept by looking for the target and for a
limit, and by going on to the next unit. -/
theorem ensures_seek {target : Parser U σ (Option α)} {isLimit : Parser U σ Bool}
    {post : Option α → List Value → State U σ → Prop}
    (invariant : List Value → State U σ → Prop)
    (visit : ∀ values middle, invariant values middle →
      target.Ensures environment middle fun answer more after =>
        match answer with
        | some found => post (some found) (values ++ more) after
        | none => post none (values ++ more) after ∧
          isLimit.Ensures environment after fun limited last final =>
            if limited then post none (values ++ more ++ last) final
            else invariant (values ++ more ++ last) { final with cursor := final.cursor.next })
    (holds : invariant [] state) :
    (seek target isLimit).Ensures environment state post := by
  suffices general : ∀ left values middle, invariant values middle →
      (seek.go target isLimit left).Ensures environment middle fun result more after =>
        post result (values ++ more) after by
    simpa [seek] using general state.cursor.left [] state holds
  intro left
  induction left with
  | zero =>
    intro values middle holds
    rw [seek.go]
    refine (visit values middle holds).mono ?_
    intro answer more after visited
    cases answer with
    | some found => exact visited
    | none => exact visited.1
  | succ left ih =>
    intro values middle holds
    rw [seek.go, ensures_bind]
    refine (visit values middle holds).mono ?_
    intro answer more after visited
    cases answer with
    | some found => simpa using visited
    | none =>
      simp only [ensures_bind]
      refine visited.2.mono ?_
      intro limited last final passed
      cases limited with
      | true => simpa using passed
      | false =>
        have found := ih (values ++ more ++ last) _ passed
        simpa using found

theorem ran_bind {first : Parser U σ α} {rest : α → Parser U σ β} {answer : α} {last : β}
    {values more : List Value} {middle after : State U σ}
    (ran : first environment state = some ⟨answer, values, middle⟩)
    (next : rest answer environment middle = some ⟨last, more, after⟩) :
    (first >>= rest) environment state = some ⟨last, values ++ more, after⟩ := by
  change Parser.bind first rest environment state = _
  simp only [Parser.bind, ran, next]

/-- A first part that produces nothing. -/
theorem ran_then {first : Parser U σ α} {rest : α → Parser U σ β} {last : β}
    {values : List Value} {after : State U σ} (answer : α) (middle : State U σ)
    (ran : first environment state = some ⟨answer, [], middle⟩)
    (next : rest answer environment middle = some ⟨last, values, after⟩) :
    (first >>= rest) environment state = some ⟨last, values, after⟩ :=
  ran_bind ran next

/-- A speculation has the answer that its parser has on its own. -/
theorem ran_speculation {inner : Parser U σ α} {answer : α} {values : List Value}
    {after : State U σ}
    (ran : inner (unobserved environment) (unreported state) = some ⟨answer, values, after⟩) :
    lookAhead (quietly (speculate inner)) environment state =
      some ⟨(answer, after.cursor), [], state⟩ := by
  have alone : inner { environment with observer := Observer.silent }
      { state with report := Report.fresh state.report.notes } = _ := ran
  have spoken : quietly (speculate inner) environment state =
      some ⟨answer, [], { state with cursor := after.cursor }⟩ := by
    refine ran_then (answer, values) { state with cursor := after.cursor } ?_ rfl
    simp [collect, speculate, alone]
  exact ran_then state.cursor state rfl (ran_then _ _ spoken rfl)

end Descent.Parser
