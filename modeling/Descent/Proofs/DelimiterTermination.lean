import Descent.Proofs.Halting

/-! Delimited content that comes to an end. Each round of it ends the content or reads something:
a unit of content, or an escape sequence. An introducer may match without reading anything, so an
escape sequence reads something only if its introducer or its actions do. -/

namespace Descent

open Descent.Parser Runner

variable {U σ : Type} [CodeUnit U] {environment : Environment U σ} {state : State U σ}
  {frames : List (Frame U)} {escape : Escape U (Rule U)}

/-- Escape sequences that end further on than they begin, unless they fail. One that no action
applies to does not fail. -/
def Escape.Advances (escape : Escape U (Rule U)) (environment : Environment U σ)
    (frames : List (Frame U)) : Prop :=
  ∀ fuel (before : Cursor U) (state : State U σ), state.scope.frames = frames →
    escape.introducer.pattern.run before = .matched state.cursor →
      ((withFuel fuel).escapeSequence escape.actions).Ensures environment state
        fun attempt _ after => attempt ≠ .canceled → before.position < after.cursor.position

private theorem Escape.advances_of_reads (reads : escape.introducer.pattern.Reads) :
    escape.Advances environment frames := by
  intro fuel before state _ matched
  have keeps : ((withFuel fuel : Runner U σ).escapeSequence escape.actions).Keeps True :=
    keeps_escapeSequence (keeps_withFuel fuel) escape.actions fun _ _ _ => trivial
  refine (keeps environment state (.inl trivial)).mono ?_
  intro _ _ after kept _
  exact Nat.lt_of_lt_of_le (reads before state.cursor matched) kept.reaches.position

namespace Runner

variable {form : Delimited U} {content : Content}

section Rounds

def RoundAdvances {β : Type} (before : Cursor U) (answer : Round Content β) (after : State U σ) :
    Prop :=
  match answer with
  | .again _ => before.position < after.cursor.position
  | .done _ => True

/-- Where no whitespace is skipped, a token ends where it matches. -/
theorem ensures_parseToken_alone (fuel : Nat) (token : Token U)
    (alone : state.scope.whitespace? = none) :
    ((withFuel fuel).parseToken token).Ensures environment state fun parsed _ after =>
      after.scope = state.scope ∧ parsed = (token.pattern.run state.cursor).isMatched ∧
        (parsed = true → token.pattern.run state.cursor = .matched after.cursor) := by
  rw [parseToken, ensures_bind, ensures_cursor]
  cases found : token.pattern.run state.cursor with
  | failed failure stopped => simp [State.withSkipped, State.withError, MatchResult.isMatched]
  | matched after =>
    simp [acceptToken, skipWhitespace, State.withToken, alone, MatchResult.isMatched]

private theorem ensures_escaped_advances (advances : escape.Advances environment frames)
    (inside : state.scope.frames = frames) (alone : state.scope.whitespace? = none) (fuel : Nat) :
    ((withFuel fuel).escaped escape content).Ensures environment state fun answer _ after =>
      RoundAdvances state.cursor answer after := by
  simp only [escaped, ensures_bind, ensures_cursor, ensures_quietly]
  refine (tells_flush content _ environment state).mono ?_
  intro flushed _ there told
  obtain ⟨cursor, scope, -⟩ := told
  refine (ensures_parseToken_alone fuel escape.introducer (scope ▸ alone)).mono ?_
  intro introduced _ middle matched
  cases introduced with
  | false => simp [RoundAdvances]
  | true =>
    have further := advances fuel state.cursor middle
      ((congrArg Scope.frames (matched.1.trans scope)).trans inside) (cursor ▸ matched.2.2 rfl)
    simp only [Bool.not_true, Bool.false_eq_true, if_false, ensures_bind, ensures_collect]
    refine further.mono ?_
    intro attempt _ after further
    cases attempt with
    | accepted => simpa [RoundAdvances] using further
    | canceled => simp [RoundAdvances]
    | backtracked => simpa [RoundAdvances, State.withError] using further

private theorem ensures_contentUnit_next (unit : U) :
    (contentUnit form content unit : Parser U σ Content).Ensures environment state
      fun _ _ after => after.cursor = state.cursor.next := by
  rw [contentUnit, ensures_bind, ensures_cursor, ensures_ite]
  split
  · simp
  · rw [ensures_bind]
    refine (tells_flush content _ environment state).mono ?_
    intro flushed _ middle _
    simp [State.withToken, State.withError]

/-- Each round of delimited content ends it or reads something, if its escapes do. -/
theorem ensures_contentStep_advances
    (advances : ∀ escape ∈ form.escapes, escape.Advances environment frames)
    (inside : state.scope.frames = frames) (alone : 0 < state.scope.noWhitespace)
    (fuel opened : Nat) (content : Content) :
    ((withFuel fuel).contentStep form opened content).Ensures environment state
      fun answer _ after => RoundAdvances state.cursor answer after := by
  have closes : ((withFuel fuel : Runner U σ).closeContent form content).Keeps True :=
    keeps_closeContent (keeps_withFuel fuel) form (fun _ => trivial) content
  rw [contentStep, ensures_bind]
  refine (closes environment state (.inl trivial)).mono ?_
  intro closed _ middle kept
  obtain ⟨content, attempt, values⟩ := closed
  cases attempt with
  | accepted => exact (ensures_pure ..).mpr trivial
  | canceled => exact (ensures_pure ..).mpr trivial
  | backtracked =>
    have forward := kept.reaches.position
    simp only [ensures_bind, ensures_cursor]
    cases next : middle.cursor.peek with
    | none =>
      simp only [ensures_bind, ensures_discard, ensures_reportError, ensures_pure]
      exact .of_forall fun _ _ _ => trivial
    | some unit =>
      dsimp only
      cases found : form.escapes.find? fun escape =>
          escape.introducer.pattern.matchesAt middle.cursor with
      | some escape =>
        have alone : middle.scope.whitespace? = none := by
          simp [Scope.whitespace?, kept.noWhitespace, alone]
        refine (ensures_escaped_advances (advances escape (List.mem_of_find?_eq_some found))
          (kept.frames.trans inside) alone fuel).mono ?_
        intro answer _ after further
        cases answer with
        | done result => trivial
        | again next => exact Nat.lt_of_le_of_lt forward further
      | none =>
        rw [ensures_bind]
        refine (ensures_contentUnit_next unit).mono ?_
        intro _ _ after moved
        rw [ensures_pure]
        change state.cursor.position < after.cursor.position
        rw [moved]
        exact Nat.lt_of_le_of_lt forward (Cursor.position_lt_next next)

end Rounds

section Halting

omit [CodeUnit U] in
@[simp] theorem gives_flush (content : Content) (stop : Nat) :
    (flush content stop).Gives environment state fun _ _ _ => True := by
  unfold flush
  cases content.pending <;> simp

theorem gives_contentUnit (form : Delimited U) (content : Content) (unit : U) :
    (contentUnit form content unit).Gives environment state fun _ _ _ => True := by
  simp [contentUnit]

private theorem haltsIn_flush (content : Content) (stop : Nat) :
    HaltsIn environment frames fun _ => flush content stop :=
  fun _ _ => halts_of_gives (gives_flush content stop)

private theorem haltsIn_closeContent (closing : Terminates environment frames form.closing)
    (content : Content) :
    HaltsIn environment frames fun run => run.closeContent form content := by
  have closes : HaltsIn environment frames fun run => do
      let content ← flush content (← cursor).position
      return (content, ← collect (run.attempt form.closing)) := by
    apply haltsIn_then looks_cursor.keeps (by simp)
    intro here
    apply (haltsIn_flush content here.position).bind fun _ => (tells_flush _ _).keeps
    intro flushed state inside
    exact (closing.attempt state inside).collect.followed fun _ _ => halts_pure _
  unfold closeContent
  by_cases pending : content.pending.isSome = true
  · simp only [pending, if_true]
    apply closing.probe.bind fun _ => (looks_probe form.closing).keeps
    intro attempt
    cases attempt.isBacktracked with
    | true => exact haltsIn_pure _
    | false => exact closes
  · simpa only [pending, Bool.false_eq_true, if_false] using closes

private theorem haltsIn_escapeUnit (value : Cursor U → Cursor U → Value) :
    HaltsIn environment frames fun _ => escapeUnit value :=
  fun _ _ => halts_of_gives (by simp [escapeUnit])

private theorem haltsIn_escapeSequence {actions : List (EscapeAction (Rule U))}
    (terminate : ∀ rule ∈ actions.flatMap EscapeAction.parts,
      Terminates environment frames rule) :
    HaltsIn environment frames fun run => run.escapeSequence actions := by
  induction actions with
  | nil => exact haltsIn_pure _
  | cons action rest ih =>
    have ih := ih fun rule member => terminate rule (by simp [member])
    cases action with
    | map unit value =>
      apply haltsIn_then looks_cursor.keeps (by simp)
      intro here
      by_cases applies : here.peek.any (CodeUnit.value · == unit) = true
      · simpa only [applies, if_true] using haltsIn_escapeUnit _
      · simpa only [applies, Bool.false_eq_true, if_false] using ih
    | capture members =>
      apply haltsIn_then looks_cursor.keeps (by simp)
      intro here
      by_cases applies : here.peek.any members.accepts = true
      · simpa only [applies, if_true] using haltsIn_escapeUnit _
      · simpa only [applies, Bool.false_eq_true, if_false] using ih
    | rule rule =>
      have tried := (terminate rule (by simp [EscapeAction.parts])).attempt
      apply tried.bind fun fuel => keeps_attempt fuel rule
      intro attempt
      cases attempt with
      | accepted => exact haltsIn_pure _
      | canceled => exact haltsIn_pure _
      | backtracked => exact ih

variable (whitespace : ∀ rule ∈ frames.head?.bind Frame.whitespace,
  Terminates environment frames rule)
include whitespace

private theorem haltsIn_escaped (terminate : ∀ rule ∈ escape.actions.flatMap EscapeAction.parts,
      Terminates environment frames rule) (content : Content) :
    HaltsIn environment frames fun run => run.escaped escape content := by
  apply haltsIn_then looks_cursor.keeps (by simp)
  intro before
  apply (haltsIn_flush content before.position).bind fun _ => (tells_flush _ _).keeps
  intro flushed state inside
  have keeps (fuel : Nat) :
      ((withFuel fuel : Runner U σ).parseToken escape.introducer).Keeps True :=
    keeps_parseToken (keeps_withFuel fuel) escape.introducer
  apply (haltsIn_parseToken whitespace escape.introducer state inside).quietly.bind
  intro fuel
  refine (keeps_quietly (keeps fuel) environment state (.inl trivial)).mono ?_
  intro introduced _ middle kept
  cases introduced with
  | false => exact halts_pure _
  | true =>
    have sequence := haltsIn_escapeSequence terminate middle (kept.frames.trans inside)
    apply sequence.collect.followed
    intro answer after
    obtain ⟨attempt, values⟩ := answer
    cases attempt with
    | accepted => exact halts_pure _
    | canceled => exact halts_pure _
    | backtracked => exact halts_of_gives (by simp)

private theorem haltsIn_contentStep (closing : Terminates environment frames form.closing)
    (escapes : ∀ escape ∈ form.escapes, ∀ rule ∈ escape.actions.flatMap EscapeAction.parts,
      Terminates environment frames rule) (opened : Nat) (content : Content) :
    HaltsIn environment frames fun run => run.contentStep form opened content := by
  apply (haltsIn_closeContent closing content).bind fun fuel =>
    keeps_closeContent (keeps_withFuel fuel) form (fun _ => trivial) content
  intro closed
  obtain ⟨content, attempt, values⟩ := closed
  cases attempt with
  | accepted => exact haltsIn_pure _
  | canceled => exact haltsIn_pure _
  | backtracked =>
    intro state inside
    apply halts_cursor
    cases state.cursor.peek with
    | none =>
      apply halts_then
      rw [gives_discard]
      refine (gives_flush content _).mono fun _ _ middle _ => ?_
      apply halts_then
      rw [gives_reportError]
      exact halts_pure _
    | some unit =>
      dsimp only
      cases found : form.escapes.find? fun escape =>
          escape.introducer.pattern.matchesAt state.cursor with
      | some escape =>
        have member := List.mem_of_find?_eq_some found
        exact haltsIn_escaped whitespace (escapes escape member) content state inside
      | none =>
        apply halts_then
        exact (gives_contentUnit form content unit).mono fun _ _ _ _ => halts_pure _

/-- The rank of a round is what is left to be read. -/
theorem halts_parseContent (closing : Terminates environment frames form.closing)
    (escapes : ∀ escape ∈ form.escapes, ∀ rule ∈ escape.actions.flatMap EscapeAction.parts,
      Terminates environment frames rule)
    (advances : ∀ escape ∈ form.escapes, escape.Advances environment frames) (opened : Nat)
    (inside : state.scope.frames = frames) (alone : 0 < state.scope.noWhitespace) :
    Halts (fun run => run.parseContent form opened) environment state := by
  apply halts_then
  rw [gives_currentSink]
  apply Halts.followed
  · apply halts_loop fun rank _ middle => middle.scope.frames = frames ∧
      0 < middle.scope.noWhitespace ∧ rank = middle.cursor.left
    · intro _ content middle ranked
      exact haltsIn_contentStep whitespace closing escapes opened content middle ranked.1
    · intro fuel rank content middle ranked
      obtain ⟨within, alone, rfl⟩ := ranked
      have keeps : ((withFuel fuel : Runner U σ).contentStep form opened content).Keeps True :=
        keeps_contentStep (keeps_withFuel fuel) form (fun _ => trivial)
          (fun _ _ _ _ _ => trivial) opened content
      have progress := ensures_contentStep_advances advances within alone fuel opened content
      refine (progress.and (keeps environment middle (.inl trivial))).mono ?_
      intro answer _ after round
      obtain ⟨further, kept⟩ := round
      cases answer with
      | done result => trivial
      | again next =>
        have still : 0 < after.scope.noWhitespace := by rw [kept.noWhitespace]; exact alone
        exact ⟨after.cursor.left, kept.reaches.left_lt further, kept.frames.trans within,
          still, rfl⟩
    · exact ⟨inside, alone, rfl⟩
  · intro result after
    cases result <;> exact halts_of_gives (by simp [emitUnlessNothing])

section Delimited

variable {opening : Rule U} (opens : Terminates environment frames opening)
  (closing : Terminates environment frames form.closing)
  (escapes : ∀ escape ∈ form.escapes, ∀ rule ∈ escape.actions.flatMap EscapeAction.parts,
    Terminates environment frames rule)
  (advances : ∀ escape ∈ form.escapes, escape.Advances environment frames)
include opens closing escapes advances

omit opens in
/-- The content is read where no whitespace is skipped. -/
theorem halts_opened {middle : State U σ} (inside : state.scope.frames = frames)
    (kept : Kept True state.withoutWhitespace middle) (opened : Nat) :
    Halts (fun run => run.parseContent form opened) environment middle := by
  apply halts_parseContent whitespace closing escapes advances _ (kept.frames.trans inside)
  rw [kept.noWhitespace]
  exact Nat.succ_pos _

private theorem haltsIn_parseDelimited :
    HaltsIn environment frames fun run => run.parseDelimited opening form := by
  intro state inside
  apply halts_cursor
  refine haltsIn_ifParsed whitespace ?_ ?_ state inside
  · intro state inside
    apply Halts.withoutWhitespace
    apply (opens.parse state.withoutWhitespace inside).bind
    intro fuel
    refine (keeps_parse fuel opening environment _ (.inl trivial)).mono ?_
    intro opened _ middle kept
    cases opened with
    | false => exact halts_pure false
    | true => exact halts_opened whitespace closing escapes advances inside kept _
  · intro fuel
    apply keeps_withoutWhitespace
    apply (keeps_parse fuel opening).bind
    intro opened
    cases opened with
    | false => exact keeps_pure false
    | true =>
      exact keeps_parseContent (keeps_withFuel fuel) form (fun _ => trivial)
        (fun _ _ _ _ _ => trivial) _

private theorem haltsIn_attemptDelimited :
    HaltsIn environment frames fun run => run.attemptDelimited opening form := by
  intro state inside
  apply halts_cursor
  refine haltsIn_ifAccepted whitespace ?_ ?_ state inside
  · intro state inside
    apply Halts.withoutWhitespace
    apply (opens.attempt state.withoutWhitespace inside).bind
    intro fuel
    refine (keeps_attempt fuel opening environment _ (.inl trivial)).mono ?_
    intro opened _ middle kept
    cases opened with
    | canceled => exact halts_pure _
    | backtracked => exact halts_pure _
    | accepted =>
      apply halts_ofBool
      exact halts_opened whitespace closing escapes advances inside kept _
  · intro fuel
    apply keeps_withoutWhitespace
    exact keeps_attemptThen (keeps_withFuel fuel) (fun _ => trivial)
      (keeps_parseContent (keeps_withFuel fuel) form (fun _ => trivial)
        (fun _ _ _ _ _ => trivial) _)

end Delimited

end Halting

/-- Delimited content ends on every input if the rules of the form do, and the rule for whitespace
after it, and if its escape sequences read something or fail. Each round of the content then ends
it or reads something. -/
theorem delimited_terminates {opening closing : Rule U} {units : UnitClass}
    {escapes : List (Escape U (Rule U))}
    (terminate : ∀ inner ∈ (Rule.delimited opening closing units escapes).parts,
      Terminates environment frames inner)
    (whitespace : ∀ rule ∈ frames.head?.bind Frame.whitespace, Terminates environment frames rule)
    (advances : ∀ escape ∈ escapes, escape.Advances environment frames) :
    Terminates environment frames (.delimited opening closing units escapes) ∧
      ∀ fuel opened content (state : State U σ), state.scope.frames = frames →
        0 < state.scope.noWhitespace →
          ((withFuel fuel).contentStep ⟨closing, units, escapes⟩ opened content).Ensures environment
            state fun answer _ after => RoundAdvances state.cursor answer after := by
  have opens := terminate opening (by simp [Rule.parts])
  have closes := terminate closing (by simp [Rule.parts])
  have actions : ∀ escape ∈ escapes, ∀ rule ∈ escape.actions.flatMap EscapeAction.parts,
      Terminates environment frames rule :=
    fun _ member rule inside => terminate rule (Rule.mem_parts_delimited member inside)
  have parses : HaltsIn environment frames fun run =>
      run.parseDelimited opening ⟨closing, units, escapes⟩ :=
    haltsIn_parseDelimited whitespace opens closes actions advances
  have attempts : HaltsIn environment frames fun run =>
      run.attemptDelimited opening ⟨closing, units, escapes⟩ :=
    haltsIn_attemptDelimited whitespace opens closes actions advances
  constructor
  · constructor
    · exact fun state inside => halts_parse (parses state inside)
    · exact fun state inside => halts_attempt (attempts state inside)
  · intro fuel opened content state inside alone
    exact ensures_contentStep_advances advances inside alone fuel opened content

/-- Text between bars, where an escape sequence is an introducer and possibly a unit `x`. -/
def barred (introducer : Token Char) : Rule Char :=
  .delimited (oneUnit '|') (oneUnit '|') .any
    [⟨introducer, [.rule (.optional (oneUnit 'x'))]⟩]

private theorem terminatesIn_parts_barred (introducer : Token Char) :
    ∀ inner ∈ (barred introducer).parts, TerminatesIn (barred introducer) inner := by
  intro inner member
  have cases : inner = oneUnit '|' ∨ inner = .optional (oneUnit 'x') := by
    simpa [Rule.parts, EscapeAction.parts, barred] using member
  rcases cases with rfl | rfl
  · exact terminatesIn_oneUnit (barred introducer) '|'
  · exact terminates_optional (terminatesIn_oneUnit (barred introducer) 'x')

theorem barred_by_caret_terminates :
    TerminatesIn (barred (.oneOf (.ofChar '^'))) (barred (.oneOf (.ofChar '^'))) := by
  refine (delimited_terminates (terminatesIn_parts_barred _) ?_ ?_).1
  · simp [soleState, soleProduction]
  · intro escape member
    rw [List.mem_singleton] at member
    rw [member]
    exact Escape.advances_of_reads (Pattern.reads_oneOf _)

def carets : Token Char := .classWhile (.ofChar '^')

/-- After the first bar, and before a unit that ends neither the text nor an escape sequence. -/
def insideBars (report : Report Unit) : State Char Unit :=
  ⟨(Cursor.start #['|', 'b']).next, (soleState (barred carets) #[]).withoutWhitespace.scope, report⟩

private theorem eq_insideBars {state : State Char Unit}
    (cursor : MatchResult.matched (Cursor.start #['|', 'b']).next = .matched state.cursor)
    (scope : state.scope = (insideBars state.report).scope) :
    state = insideBars state.report := by
  obtain ⟨here, inside, report⟩ := state
  cases cursor
  cases scope
  rfl

/-- In front of the unit, the introducer and what may follow it are there and read nothing. -/
theorem ensures_empty_escape (fuel : Nat) (report : Report Unit) (items : List (List Value)) :
    ((withFuel fuel).contentStep ⟨oneUnit '|', .any,
      [⟨carets, [.rule (.optional (oneUnit 'x'))]⟩]⟩ 0 ⟨none, items⟩).Ensures
        (soleEnvironment (barred carets)) (insideBars report) fun answer _ after =>
          (∃ items, answer = .again ⟨none, items⟩) ∧ ∃ report, after = insideBars report := by
  rw [contentStep, ensures_bind]
  simp only [closeContent, flush, Option.isSome_none, Bool.false_eq_true, if_false, ensures_bind,
    ensures_cursor, ensures_pure, ensures_collect]
  refine (ensures_attempt_declined rfl fuel).mono ?_
  intro attempt _ after declined
  obtain ⟨rfl, rfl⟩ := declined
  have next : (insideBars report).cursor.peek = some 'b' := rfl
  have introduces : carets.pattern.matchesAt (insideBars report).cursor = true := rfl
  simp only [ensures_bind, ensures_cursor, next, List.find?_cons, introduces]
  simp only [escaped, flush, ensures_bind, ensures_cursor, ensures_pure, ensures_quietly]
  refine (ensures_parseToken_alone fuel carets rfl).mono ?_
  intro parsed _ after introduced
  obtain ⟨scope, matched, stopped⟩ := introduced
  have same : after = insideBars after.report := eq_insideBars (stopped matched) scope
  have empty : (carets.pattern.run (insideBars report).cursor).isMatched = true := rfl
  rw [same, matched, empty]
  simp only [Bool.not_true, Bool.false_eq_true, if_false, ensures_bind, ensures_collect,
    escapeSequence]
  have taken : ((withFuel fuel).attempt (.optional (oneUnit 'x'))).Ensures
      (soleEnvironment (barred carets)) (insideBars after.report) fun attempt _ last =>
        attempt = .accepted ∧ last = insideBars after.report := by
    cases fuel with
    | zero => exact ensures_outOfFuel _
    | succ fuel =>
      change (do return Attempt.ofBool (← (withFuel fuel).parseOptional (oneUnit 'x'))).Ensures
        _ _ _
      rw [ensures_bind]
      refine (ensures_parseOptional_missing rfl fuel).mono ?_
      intro parsed _ last missing
      obtain ⟨rfl, rfl⟩ := missing
      exact (ensures_pure ..).mpr ⟨rfl, rfl⟩
  refine taken.mono ?_
  intro attempt _ last accepted
  obtain ⟨rfl, rfl⟩ := accepted
  simp

/-- The delimiters and what may follow the introducer come to an end, and the content does not: in
front of a unit, one empty escape sequence follows the other. -/
theorem barred_by_carets_goes_round :
    (∀ inner ∈ (barred carets).parts, TerminatesIn (barred carets) inner) ∧
      ∀ fuel, (withFuel fuel).parse (barred carets) (soleEnvironment (barred carets))
        (soleState (barred carets) #['|', 'b']) = none := by
  constructor
  · exact terminatesIn_parts_barred carets
  intro fuel
  apply eq_none_of_ensures
  cases fuel with
  | zero => exact ensures_outOfFuel _
  | succ fuel =>
    change ((withFuel fuel).parseDelimited _ _).Ensures _ _ _
    rw [parseDelimited, ensures_bind, ensures_cursor, ensures_bind, ensures_withoutWhitespace,
      ensures_bind]
    have opens : ((withFuel fuel).parse (oneUnit '|')).Ensures (soleEnvironment (barred carets))
        (soleState (barred carets) #['|', 'b']).withoutWhitespace fun parsed _ after =>
          parsed = true ∧ ∃ report, after = insideBars report := by
      cases fuel with
      | zero => exact ensures_outOfFuel _
      | succ fuel =>
        change ((withFuel fuel).parseToken _).Ensures _ _ _
        refine (ensures_parseToken_alone fuel _ rfl).mono ?_
        intro parsed _ after read
        obtain ⟨scope, matched, stopped⟩ := read
        exact ⟨matched, after.report, eq_insideBars (stopped matched) scope⟩
    refine opens.mono ?_
    intro parsed _ middle opened
    obtain ⟨rfl, report, rfl⟩ := opened
    rw [if_pos rfl, parseContent, ensures_bind, ensures_currentSink, ensures_bind]
    -- Every round stays at the unit, and another one follows.
    refine ensures_iterate (fun current _ middle => current.pending = none ∧
      ∃ report, middle = insideBars report) ?_ _ _ ⟨rfl, report, rfl⟩
    intro current values middle still
    obtain ⟨pending, items⟩ := current
    obtain ⟨rfl, report, rfl⟩ := still
    refine (ensures_empty_escape fuel report items).mono ?_
    intro answer _ after again
    obtain ⟨⟨more, rfl⟩, reported⟩ := again
    exact ⟨rfl, reported⟩

end Runner
end Descent
