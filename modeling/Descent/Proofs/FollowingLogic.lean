import Descent.Proofs.AlignedStates
import Descent.Proofs.Productions

/-! Two runs side by side, in sources that are aligned. A parser follows another one if, from
states that compare, every outcome of the other one is an outcome of it as well. What the two runs
report may differ: their observers are different, and how the reports compare is up to the
purpose. -/

namespace Descent

open Descent.Parser

namespace Report

variable {σ : Type}

/-- The report after something that the observer notes, unless it is kept from seeing it. -/
def noted (change : σ → σ) (report : Report σ) : Report σ :=
  { report with notes := if report.isMuted then report.notes else change report.notes }

def withEntry (report : Report σ) : Report σ :=
  { report with
    statistics := { report.statistics with productions := report.statistics.productions + 1 } }

end Report

/-- What a parser does is known once it is known what it ensures. -/
theorem Parser.ran_of_ensures {U σ α : Type} {parser : Parser U σ α}
    {environment : Environment U σ} {state : State U σ} {answer : α} {values : List Value}
    {after : State U σ}
    (ensures : ∀ post : α → List Value → State U σ → Prop,
      parser.Ensures environment state post ↔ post answer values after) :
    parser environment state = some ⟨answer, values, after⟩ :=
  (ensures fun answer values after => parser environment state = some ⟨answer, values, after⟩).mp
    fun _ ran => ran

/-- Parsers that ensure the same do the same. -/
theorem Parser.eq_of_ensures {U σ α : Type} {parser twin : Parser U σ α}
    {environment : Environment U σ} {state : State U σ}
    (same : ∀ post : α → List Value → State U σ → Prop,
      parser.Ensures environment state post ↔ twin.Ensures environment state post) :
    parser environment state = twin environment state := by
  cases ran : twin environment state with
  | some step => exact ran_of_ensures fun post => (same post).trans (ensures_iff ran post)
  | none =>
    have never : parser.Ensures environment state fun _ _ _ => False := by
      rw [same]
      intro step found
      rw [ran] at found
      cases found
    cases found : parser environment state with
    | some step => exact (never step found).elim
    | none => rfl

namespace Alignment

variable {U : Type}

/-- Ends of productions at places that correspond. The values may differ. -/
inductive Endings (alignment : Alignment U) : Ending → Ending → Prop
  | finished (values values' : List Value) {stop stop' : Nat} (ends : alignment.Places stop stop') :
    alignment.Endings (.finished values stop) (.finished values' stop')
  | canceled {stop stop' : Nat} (ends : alignment.Places stop stop') :
    alignment.Endings (.canceled stop) (.canceled stop')
  | declined : alignment.Endings .declined .declined

theorem Endings.symm {alignment : Alignment U} {ending ending' : Ending}
    (endings : alignment.Endings ending ending') : alignment.symm.Endings ending' ending := by
  cases endings with
  | finished values values' ends => exact .finished values' values ends.symm
  | canceled ends => exact .canceled ends.symm
  | declined => exact .declined

end Alignment

/-- How the sources and the reports of two runs compare, whether their values and tickets are the
same, and where rules for whitespace may differ. -/
structure Pairing (U σ σ' : Type) where
  alignment : Alignment U
  reports : Report σ → Report σ' → Prop
  exact : Prop
  hidden : Option Nat

namespace Pairing

variable {U σ σ' : Type}

def unreported (pairing : Pairing U σ σ') : Pairing U σ σ' :=
  { pairing with reports := fun _ _ => True, exact := False }

def places (alignment : Alignment U) : Pairing U σ σ' := ⟨alignment, fun _ _ => True, False, none⟩

def deeper (pairing : Pairing U σ σ') : Pairing U σ σ' :=
  { pairing with hidden := pairing.hidden.map (· + 1) }

/-- States at places that correspond, with the same things in scope. -/
structure States (pairing : Pairing U σ σ') (state : State U σ) (twin : State U σ') : Prop where
  cursor : pairing.alignment.Cursors state.cursor twin.cursor
  scope : pairing.alignment.Scopes pairing.hidden state.scope twin.scope
  reports : pairing.reports state.report twin.report

theorem places_states {state : State U σ} {twin : State U σ'} (cursor : twin.cursor = state.cursor)
    (scope : twin.scope = state.scope) :
    (places (.whole state.cursor.source)).States state twin where
  cursor := Alignment.cursors_of_eq cursor
  scope := scope ▸ (Alignment.isWhole_whole _).scopes_refl state.scope
  reports := trivial

/-- Reports that compare go on to do so when the same things are reported; if the pairing has to be
lax, all of them compare. Values can only be the same where the sources are. -/
structure Kept (lax : Prop) (pairing : Pairing U σ σ') (environment : Environment U σ)
    (other : Environment U σ') : Prop where
  compares : lax → ∀ report twin, pairing.reports report twin
  grammar : environment.grammar.Twins pairing.hidden other.grammar
  leading : other.config.skipLeadingWhitespace = environment.config.skipLeadingWhitespace
  fits : pairing.alignment.FitsGrammar environment.grammar
  whole : pairing.exact → pairing.alignment.IsWhole
  sink (profile : Profile) : pairing.exact →
    environment.observer.sink profile = other.observer.sink profile
  muting {report : Report σ} {twin : Report σ'} (compare : pairing.reports report twin) :
    pairing.reports { report with muted := report.muted + 1 } { twin with muted := twin.muted + 1 }
  unmuting {report : Report σ} {twin : Report σ'} (compare : pairing.reports report twin) :
    pairing.reports { report with muted := report.muted - 1 } { twin with muted := twin.muted - 1 }
  token (kind : TokenKind) {first first' stop stop' : Nat}
    (begins : pairing.alignment.Places first first') (ends : pairing.alignment.Places stop stop')
    {report : Report σ} {twin : Report σ'} (compare : pairing.reports report twin) :
    pairing.reports (report.withToken environment.observer kind first stop)
      (twin.withToken other.observer kind first' stop')
  error (profile : Profile) {error error' : ParseError}
    (errors : pairing.alignment.Errors error error') {report : Report σ} {twin : Report σ'}
    (compare : pairing.reports report twin) :
    pairing.reports (report.withError environment profile error)
      (twin.withError other profile error')
  entry {report : Report σ} {twin : Report σ'} (compare : pairing.reports report twin) :
    pairing.reports report.withEntry twin.withEntry
  start (profile : Profile) {position position' : Nat}
    (here : pairing.alignment.Places position position') {report : Report σ} {twin : Report σ'}
    (compare : pairing.reports report twin) :
    pairing.reports
      (report.noted fun notes => (environment.observer.start profile position notes).2)
      (twin.noted fun notes => (other.observer.start profile position' notes).2)
  ticket (profile : Profile) (position : Nat) {report : Report σ} {twin : Report σ'}
    (compare : pairing.reports report twin) : pairing.exact →
    report.ticket environment.observer profile position =
      twin.ticket other.observer profile position
  ended (profile : Profile) {ticket ticket' : Ticket} {ending ending' : Ending}
    (same : pairing.exact → ticket = ticket' ∧ ending = ending')
    (endings : pairing.alignment.Endings ending ending') {report : Report σ}
    {twin : Report σ'} (compare : pairing.reports report twin) :
    pairing.reports (report.withEnd environment.observer profile ticket ending)
      (twin.withEnd other.observer profile ticket' ending')
  produced (profile : Profile) (ticket : Ticket) (values : List Value) (stop : Nat)
    {report : Report σ} {twin : Report σ'} (compare : pairing.reports report twin) :
    pairing.exact → report.produced environment.observer profile ticket values stop =
      twin.produced other.observer profile ticket values stop
  backtrack {report : Report σ} {twin : Report σ'} (compare : pairing.reports report twin) :
    pairing.reports report.withBacktrack twin.withBacktrack

/-- Where nothing is asked of the reports, only the grammar and the start of a run matter. -/
theorem kept_unreported {lax : Prop} {pairing : Pairing U σ σ'} {environment : Environment U σ}
    {other : Environment U σ'} (grammar : environment.grammar.Twins pairing.hidden other.grammar)
    (leading : other.config.skipLeadingWhitespace = environment.config.skipLeadingWhitespace)
    (fits : pairing.alignment.FitsGrammar environment.grammar) :
    pairing.unreported.Kept lax environment other where
  compares _ _ _ := trivial
  grammar := grammar
  leading := leading
  fits := fits
  whole := False.elim
  sink _ := False.elim
  muting _ := trivial
  unmuting _ := trivial
  token _ _ _ _ _ _ _ _ _ _ := trivial
  error _ _ _ _ _ _ _ := trivial
  entry _ := trivial
  start _ _ _ _ _ _ _ := trivial
  ticket _ _ _ _ _ := False.elim
  ended _ _ _ _ _ _ _ _ _ _ := trivial
  produced _ _ _ _ _ _ _ := False.elim
  backtrack _ := trivial

theorem kept_places {alignment : Alignment U} {environment : Environment U σ}
    {other : Environment U σ'} (grammar : other.grammar = environment.grammar)
    (leading : other.config.skipLeadingWhitespace = environment.config.skipLeadingWhitespace)
    (fits : alignment.FitsGrammar environment.grammar) :
    (places alignment).Kept True environment other :=
  (kept_unreported (Grammar.twins_of_eq grammar) leading fits :
    (places alignment).unreported.Kept True environment other)

theorem Kept.deeper {lax : Prop} {pairing : Pairing U σ σ'} {environment : Environment U σ}
    {other : Environment U σ'} (kept : pairing.Kept lax environment other) :
    pairing.deeper.Kept lax environment other :=
  { kept with grammar := kept.grammar.deeper }

variable {α α' β β' : Type}

/-- From states that compare, an outcome of a parser is one of its twin as well, with an answer
that compares. -/
def Follows (pairing : Pairing U σ σ') (environment : Environment U σ) (other : Environment U σ')
    (answers : α → α' → Prop) (parser : Parser U σ α) (twin : Parser U σ' α') : Prop :=
  ∀ state state', pairing.States state state' →
    parser.Ensures environment state fun answer values after =>
      ∃ answer' values' after', twin other state' = some ⟨answer', values', after'⟩ ∧
        answers answer answer' ∧ (pairing.exact → values = values') ∧ pairing.States after after'

abbrev Agrees (pairing : Pairing U σ σ') (environment : Environment U σ) (other : Environment U σ')
    (parser : Parser U σ α) (twin : Parser U σ' α) : Prop :=
  pairing.Follows environment other Eq parser twin

variable {pairing : Pairing U σ σ'} {environment : Environment U σ} {other : Environment U σ'}
  {answers : α → α' → Prop} {results : β → β' → Prop}

theorem follows_pure {answer : α} {answer' : α'} (compare : answers answer answer') :
    pairing.Follows environment other answers (pure answer) (pure answer') := by
  intro state state' states
  rw [ensures_pure]
  exact ⟨answer', [], state', rfl, compare, fun _ => rfl, states⟩

theorem agrees_pure (answer : α) :
    pairing.Agrees environment other (pure answer) (pure answer) :=
  follows_pure rfl

theorem Follows.bind {first : Parser U σ α} {first' : Parser U σ' α'} {rest : α → Parser U σ β}
    {rest' : α' → Parser U σ' β'} (follows : pairing.Follows environment other answers first first')
    (then_follows : ∀ answer answer', answers answer answer' →
      pairing.Follows environment other results (rest answer) (rest' answer')) :
    pairing.Follows environment other results (first >>= rest) (first' >>= rest') := by
  intro state state' states
  rw [ensures_bind]
  refine (follows state state' states).mono ?_
  rintro answer values middle ⟨answer', values', middle', ran, compare, same, states⟩
  refine (then_follows answer answer' compare middle middle' states).mono ?_
  rintro last more after ⟨last', more', after', next, compare, same', states⟩
  exact ⟨last', values' ++ more', after', ran_bind ran next, compare,
    fun exact => by rw [same exact, same' exact], states⟩

/-- After the same answer, both go on with it. -/
theorem Agrees.bind {first : Parser U σ α} {first' : Parser U σ' α} {rest : α → Parser U σ β}
    {rest' : α → Parser U σ' β'} (agrees : pairing.Agrees environment other first first')
    (then_follows : ∀ answer, pairing.Follows environment other results (rest answer)
      (rest' answer)) :
    pairing.Follows environment other results (first >>= rest) (first' >>= rest') :=
  Follows.bind agrees fun answer _ same => same ▸ then_follows answer

/-- Parsers that do one thing each. -/
theorem follows_of_ensures {parser : Parser U σ α} {twin : Parser U σ' α'}
    {answer : State U σ → α} {answer' : State U σ' → α'} {values : State U σ → List Value}
    {values' : State U σ' → List Value} {after : State U σ → State U σ}
    {after' : State U σ' → State U σ'}
    (ensures : ∀ (state : State U σ) (post : α → List Value → State U σ → Prop),
      parser.Ensures environment state post ↔ post (answer state) (values state) (after state))
    (ensures' : ∀ (state : State U σ') (post : α' → List Value → State U σ' → Prop),
      twin.Ensures other state post ↔ post (answer' state) (values' state) (after' state))
    (compare : ∀ {state state'}, pairing.States state state' →
      answers (answer state) (answer' state') ∧ (pairing.exact → values state = values' state') ∧
        pairing.States (after state) (after' state')) :
    pairing.Follows environment other answers parser twin := by
  intro state state' states
  rw [ensures]
  exact ⟨_, _, _, ran_of_ensures (ensures' state'), compare states⟩

theorem follows_environment {environment : Environment U σ} {other : Environment U σ'} :
    pairing.Follows environment other (fun first second => first = environment ∧ second = other)
      Parser.environment Parser.environment :=
  follows_of_ensures (fun _ => ensures_environment) (fun _ => ensures_environment)
    fun states => ⟨⟨rfl, rfl⟩, fun _ => rfl, states⟩

theorem follows_cursor :
    pairing.Follows environment other pairing.alignment.Cursors
      (cursor : Parser U σ (Cursor U)) cursor :=
  follows_of_ensures (fun _ => ensures_cursor) (fun _ => ensures_cursor)
    fun states => ⟨states.cursor, fun _ => rfl, states⟩

theorem agrees_setCursor {moved moved' : Cursor U}
    (here : pairing.alignment.Cursors moved moved') :
    pairing.Agrees environment other (setCursor moved) (setCursor moved') :=
  follows_of_ensures (fun _ => ensures_setCursor moved) (fun _ => ensures_setCursor moved')
    fun states => ⟨rfl, fun _ => rfl, { states with cursor := here }⟩

theorem follows_scope :
    pairing.Follows environment other (pairing.alignment.Scopes pairing.hidden)
      (scope : Parser U σ (Scope U)) scope :=
  follows_of_ensures (fun _ => ensures_scope) (fun _ => ensures_scope)
    fun states => ⟨states.scope, fun _ => rfl, states⟩

theorem agrees_modifyScope {change change' : Scope U → Scope U}
    (keeps : ∀ {scope scope'}, pairing.alignment.Scopes pairing.hidden scope scope' →
      pairing.alignment.Scopes pairing.hidden (change scope) (change' scope')) :
    pairing.Agrees environment other (modifyScope change) (modifyScope change') :=
  follows_of_ensures (fun _ => ensures_modifyScope change) (fun _ => ensures_modifyScope change')
    fun states => ⟨rfl, fun _ => rfl, { states with scope := keeps states.scope }⟩

theorem agrees_modifyReport {change : Report σ → Report σ} {change' : Report σ' → Report σ'}
    (kept : ∀ {report twin}, pairing.reports report twin →
      pairing.reports (change report) (change' twin)) :
    pairing.Agrees environment other (modifyReport change : Parser U σ Unit)
      (modifyReport change') :=
  follows_of_ensures (fun _ => ensures_modifyReport change)
    (fun _ => ensures_modifyReport change')
    fun states => ⟨rfl, fun _ => rfl, { states with reports := kept states.reports }⟩

/-- Values that are the same wherever values have to be. -/
theorem agrees_emitAll {values values' : List Value} (same : pairing.exact → values = values') :
    pairing.Agrees environment other (emitAll values) (emitAll values') :=
  follows_of_ensures (fun _ => ensures_emitAll values) (fun _ => ensures_emitAll values')
    fun states => ⟨rfl, same, states⟩

theorem agrees_emit {value value' : Value} (same : pairing.exact → value = value') :
    pairing.Agrees environment other (emit value) (emit value') :=
  agrees_emitAll fun exact => by rw [same exact]

theorem agrees_emitUnlessNothing {value value' : Value} (same : pairing.exact → value = value') :
    pairing.Agrees environment other (emitUnlessNothing value) (emitUnlessNothing value') := by
  have emits {τ : Type} (value : Value) :
      (emitUnlessNothing value : Parser U τ Unit) =
        emitAll (if value.isNothing then [] else [value]) := by
    unfold emitUnlessNothing
    split <;> rfl
  rw [emits, emits]
  exact agrees_emitAll fun exact => by rw [same exact]

variable {parser : Parser U σ α} {twin : Parser U σ' α'}

theorem follows_collect (follows : pairing.Follows environment other answers parser twin) :
    pairing.Follows environment other (fun first second =>
      answers first.1 second.1 ∧ (pairing.exact → first.2 = second.2))
      (collect parser) (collect twin) := by
  intro state state' states
  rw [ensures_collect]
  refine (follows state state' states).mono ?_
  rintro answer values after ⟨answer', values', after', ran, compare, same, states⟩
  exact ⟨(answer', values'), [], after', by simp [collect, ran], ⟨compare, same⟩, fun _ => rfl,
    states⟩

theorem follows_quietly (follows : pairing.Follows environment other answers parser twin) :
    pairing.Follows environment other answers (quietly parser) (quietly twin) :=
  (follows_collect follows).bind fun _ _ compare => follows_pure compare.1

theorem agrees_discard (follows : pairing.Follows environment other answers parser twin) :
    pairing.Agrees environment other (discard parser : Parser U σ PUnit) (discard twin) :=
  Follows.bind follows fun _ _ _ => agrees_pure PUnit.unit

theorem follows_withoutWhitespace
    (follows : pairing.deeper.Follows environment other answers parser twin) :
    pairing.Follows environment other answers (withoutWhitespace parser)
      (withoutWhitespace twin) := by
  intro state state' states
  rw [ensures_withoutWhitespace]
  have inside : pairing.deeper.States state.withoutWhitespace state'.withoutWhitespace :=
    ⟨states.cursor, states.scope.deeper, states.reports⟩
  refine (follows _ _ inside).mono ?_
  rintro answer values after ⟨answer', values', after', ran, compare, same, stopped⟩
  exact ⟨answer', values', after'.againWithWhitespace, ran_withoutWhitespace ran, compare, same,
    ⟨stopped.cursor, stopped.scope.shallower, stopped.reports⟩⟩

theorem agrees_setInWhitespace {inside inside' : Bool} (same : inside' = inside) :
    pairing.Agrees environment other
      (modifyScope fun scope => { scope with inWhitespace := inside } : Parser U σ Unit)
      (modifyScope fun scope => { scope with inWhitespace := inside' }) :=
  agrees_modifyScope fun related => { related with inWhitespace := same }

theorem follows_lookAhead (follows : pairing.Follows environment other answers parser twin) :
    pairing.Follows environment other (fun first second =>
      answers first.1 second.1 ∧ pairing.alignment.Cursors first.2 second.2)
      (lookAhead parser) (lookAhead twin) :=
  follows_cursor.bind fun _ _ here => follows.bind fun _ _ compare =>
    follows_cursor.bind fun _ _ ends => (agrees_setCursor here).bind fun _ =>
      follows_pure ⟨compare, ends⟩

/-- A speculation has nothing to do with the observers, so that only the place and the scope have
to compare inside it. -/
theorem follows_speculation
    (follows : pairing.unreported.Follows (unobserved environment) (unobserved other)
      answers parser twin) :
    pairing.Follows environment other answers (quietly (speculate parser))
      (quietly (speculate twin)) := by
  intro state state' states
  rw [ensures_quietly, ensures_speculate]
  have alone : pairing.unreported.States (Parser.unreported state) (Parser.unreported state') :=
    ⟨states.cursor, states.scope, trivial⟩
  refine (follows _ _ alone).mono ?_
  rintro answer values after ⟨answer', values', after', ran, compare, -, stopped⟩
  have ran : twin { other with observer := Observer.silent }
      { state' with report := Report.fresh state'.report.notes } = _ := ran
  refine ⟨answer', [], { state' with cursor := after'.cursor }, ?_, compare, fun _ => rfl,
    { states with cursor := stopped.cursor }⟩
  exact ran_then (answer', values') { state' with cursor := after'.cursor }
    (by simp [collect, speculate, ran]) rfl

/-- How the rounds of two loops compare. -/
inductive Rounds (starts : α → α' → Prop) (results : β → β' → Prop) :
    Round α β → Round α' β' → Prop
  | again {next : α} {next' : α'} (compare : starts next next') :
      Rounds starts results (.again next) (.again next')
  | done {result : β} {result' : β'} (compare : results result result') :
      Rounds starts results (.done result) (.done result')

/-- Loops that go round side by side; the second one may go round more often before it runs out of
fuel. -/
theorem follows_iterate {round : α → Parser U σ (Round α β)}
    {round' : α' → Parser U σ' (Round α' β')}
    (follows : ∀ current current', answers current current' →
      pairing.Follows environment other (Rounds answers results) (round current)
        (round' current'))
    {fuel fuel' : Nat} (enough : fuel ≤ fuel') {start : α} {start' : α'}
    (compare : answers start start') :
    pairing.Follows environment other results (iterate round fuel start)
      (iterate round' fuel' start') := by
  induction fuel generalizing fuel' start start' with
  | zero => exact fun _ _ _ => ensures_outOfFuel _
  | succ fuel ih =>
    obtain ⟨fuel', rfl⟩ := Nat.exists_eq_add_of_le' (Nat.le_trans (Nat.le_add_left 1 fuel) enough)
    refine (follows start start' compare).bind fun answer answer' rounds => ?_
    cases rounds with
    | again compare => exact ih (Nat.le_of_succ_le_succ enough) compare
    | done compare => exact follows_pure compare

/-- Loops whose rounds begin in the same way. -/
theorem follows_loop {round : α → Parser U σ (Round α β)} {round' : α → Parser U σ' (Round α β')}
    (follows : ∀ current,
      pairing.Follows environment other (Rounds Eq results) (round current) (round' current))
    {fuel fuel' : Nat} (enough : fuel ≤ fuel') (start : α) :
    pairing.Follows environment other results (iterate round fuel start)
      (iterate round' fuel' start) :=
  follows_iterate (fun current _ same => same ▸ follows current) enough rfl

theorem follows_seek {target : Parser U σ (Option α)} {target' : Parser U σ' (Option α')}
    {isLimit : Parser U σ Bool} {isLimit' : Parser U σ' Bool}
    (follows : pairing.Follows environment other (Option.Rel answers) target target')
    (limited : pairing.Agrees environment other isLimit isLimit') :
    pairing.Follows environment other (Option.Rel answers) (seek target isLimit)
      (seek target' isLimit') := by
  refine follows_cursor.bind fun start start' here => ?_
  rw [← here.left]
  generalize start.left = left
  induction left with
  | zero => exact follows
  | succ left ih =>
    refine follows.bind fun answer answer' same => ?_
    cases same with
    | some same => exact follows_pure (.some same)
    | none =>
      refine limited.bind fun isLimited => ?_
      cases isLimited with
      | true => exact follows_pure .none
      | false =>
        have moves : pairing.Agrees environment other
            (modify fun state => { state with cursor := state.cursor.next })
            (modify fun state => { state with cursor := state.cursor.next }) :=
          follows_of_ensures (fun _ => ensures_modify _) (fun _ => ensures_modify _)
            fun states => ⟨rfl, fun _ => rfl, { states with cursor := states.cursor.next }⟩
        exact moves.bind fun _ => ih

section Reporting

theorem Kept.speculation {lax : Prop} (kept : pairing.Kept lax environment other) :
    pairing.unreported.Kept lax (unobserved environment) (unobserved other) :=
  kept_unreported kept.grammar kept.leading kept.fits

variable {lax : Prop} (kept : pairing.Kept lax environment other)
include kept

theorem agrees_reportToken (kind : TokenKind) {first first' stop stop' : Nat}
    (begins : pairing.alignment.Places first first') (ends : pairing.alignment.Places stop stop') :
    pairing.Agrees environment other (reportToken kind first stop : Parser U σ Unit)
      (reportToken kind first' stop') :=
  follows_of_ensures (fun _ => ensures_reportToken kind first stop)
    (fun _ => ensures_reportToken kind first' stop')
    fun states => ⟨rfl, fun _ => rfl,
      { states with reports := kept.token kind begins ends states.reports }⟩

theorem agrees_reportSkipped {before before' after after' : Cursor U}
    (here : pairing.alignment.Cursors before before')
    (ends : pairing.alignment.Cursors after after') :
    pairing.Agrees environment other (reportSkipped before after)
      (reportSkipped before' after') := by
  have position := here.position
  have position' := ends.position
  unfold reportSkipped
  split
  · rw [if_pos (by omega)]
    exact agrees_reportToken kept _ position position'
  · rw [if_neg (by omega)]
    exact agrees_pure _

theorem agrees_reportError (kind : ParseError.Kind) {position position' : Nat} {span span' : Span}
    (here : pairing.alignment.Places position position')
    (spans : pairing.alignment.Spans span span') :
    pairing.Agrees environment other (reportError kind position span : Parser U σ Unit)
      (reportError kind position' span') :=
  follows_of_ensures (fun _ => ensures_reportError kind position span)
    (fun _ => ensures_reportError kind position' span')
    fun {state state'} states => by
      refine ⟨rfl, fun _ => rfl, { states with reports := ?_ }⟩
      simp only [State.withError, states.scope.profile]
      exact kept.error _ (states.scope.errors kind here spans) states.reports

theorem agrees_reportErrorAt (kind : ParseError.Kind) {position position' : Nat}
    (here : pairing.alignment.Places position position') :
    pairing.Agrees environment other (reportErrorAt kind position : Parser U σ Unit)
      (reportErrorAt kind position') :=
  agrees_reportError kept kind here (Alignment.spans_empty here)

theorem agrees_reportFailure {before before' stopped stopped' : Cursor U} (kind : ParseError.Kind)
    (here : pairing.alignment.Cursors before before')
    (ends : pairing.alignment.Cursors stopped stopped') :
    pairing.Agrees environment other (reportFailure before stopped kind)
      (reportFailure before' stopped' kind) :=
  (agrees_reportSkipped kept here ends).bind fun _ =>
    agrees_reportError kept _ ends.position (here.spanTo ends)

theorem agrees_emitLexeme {span span' : Span} (spans : pairing.alignment.Spans span span') :
    pairing.Agrees environment other (emit (.lexeme span)) (emit (.lexeme span')) :=
  agrees_emit fun exact => by rw [(kept.whole exact).spans spans]

theorem follows_currentSink :
    pairing.Follows environment other (fun sink sink' => pairing.exact → sink = sink')
      (currentSink : Parser U σ Sink) currentSink := by
  refine follows_of_ensures (fun _ => ensures_currentSink) (fun _ => ensures_currentSink)
    fun states => ⟨fun exact => ?_, fun _ => rfl, states⟩
  rw [states.scope.profile]
  exact kept.sink _ exact

end Reporting

section Variables

private theorem follows_bindings :
    pairing.Follows environment other (List.Forall₂ pairing.alignment.Named)
      (bindings : Parser U σ Bindings) bindings :=
  follows_scope.bind fun _ _ same => follows_pure same.bindings

private theorem agrees_modifyBindings {change change' : Bindings → Bindings}
    (keeps : ∀ {bindings bindings'}, List.Forall₂ pairing.alignment.Named bindings bindings' →
      List.Forall₂ pairing.alignment.Named (change bindings) (change' bindings')) :
    pairing.Agrees environment other (modifyBindings change : Parser U σ Unit)
      (modifyBindings change') :=
  agrees_modifyScope fun same => { same with bindings := keeps same.bindings }

theorem agrees_bindVariable (name : String) {binding binding' : Binding}
    (same : pairing.alignment.Binds binding binding') :
    pairing.Agrees environment other (bindVariable name binding : Parser U σ Unit)
      (bindVariable name binding') :=
  agrees_modifyBindings fun related => .cons ⟨rfl, same⟩ related

theorem follows_findVariable (name : String) :
    pairing.Follows environment other (Option.Rel pairing.alignment.Binds)
      (findVariable name : Parser U σ (Option Binding)) (findVariable name) :=
  follows_bindings.bind fun _ _ related => follows_pure (Alignment.rel_find related name)

theorem agrees_assignVariable (name : String) {change change' : Binding → Binding}
    (keeps : ∀ {old old'}, pairing.alignment.Binds old old' →
      pairing.alignment.Binds (change old) (change' old')) :
    pairing.Agrees environment other (assignVariable name change : Parser U σ Bool)
      (assignVariable name change') := by
  refine (follows_findVariable name).bind fun found found' same => ?_
  cases same with
  | none => exact agrees_pure _
  | some same =>
    exact (agrees_modifyBindings fun related =>
      Alignment.named_assign related name (keeps same)).bind fun _ => agrees_pure _

theorem agrees_bindingsHeight :
    pairing.Agrees environment other (bindingsHeight : Parser U σ Nat) bindingsHeight :=
  follows_bindings.bind fun _ _ related => follows_pure related.length_eq

theorem agrees_restoreBindings (height : Nat) :
    pairing.Agrees environment other (restoreBindings height : Parser U σ Unit)
      (restoreBindings height) :=
  agrees_modifyBindings fun related => Alignment.named_restore related height

end Variables

end Pairing
end Descent
