import Descent.Proofs.Evaluation
import Descent.Proofs.QuotedText

/-! How quoted text is read. A run of units is kept back until something else comes, so that what
has become items is always what was said up to the run. -/

namespace Descent.QuotedText

open Descent.Parser Descent.Runner Cursor
open Evaluation (Stands)
open Mark (Apart)

/-- Content of which all is items. -/
def settled (marks : List Mark) : Content :=
  ⟨none, (Mark.items marks).map fun value => [value]⟩

private theorem settled_append_value (marks : List Mark) (found : Value) :
    settled (marks ++ [.value found]) = ⟨none, (settled marks).items ++ [[found]]⟩ := by
  simp [settled, Mark.items_append_value]

private theorem settled_append_run {marks : List Mark} {first : Nat} (apart : Apart marks first)
    (length : Nat) :
    settled (marks ++ Mark.run first (length + 1)) =
      ⟨none, (settled marks).items ++ [[.lexeme (.between first (first + (length + 1)))]]⟩ := by
  simp [settled, Mark.items_append_run apart]

/-- Content that was read up to a place says what the marks do. The units of a run that has begun
are no item yet. -/
inductive Holds : Content → List Mark → Nat → Prop where
  | closed {marks : List Mark} {position : Nat} (apart : Apart marks position) :
      Holds (settled marks) marks position
  | pending {marks : List Mark} {first : Nat} (apart : Apart marks first) (length : Nat) :
      Holds { settled marks with pending := some first } (marks ++ Mark.run first (length + 1))
        (first + (length + 1))

namespace Holds

variable {content : Content} {marks : List Mark} {position : Nat}
  (holds : Holds content marks position)
include holds

/-- Every unit that was read lies before the place that was read up to. -/
theorem before {earlier : Nat} (member : .unit earlier ∈ marks) : earlier < position := by
  cases holds with
  | closed apart =>
    have := apart earlier member
    omega
  | pending apart length =>
    rcases List.mem_append.mp member with old | new
    · have := apart earlier old
      omega
    · obtain ⟨_, inside, same⟩ := List.mem_map.mp new
      cases same
      have := List.mem_range'_1.mp inside
      omega

/-- Once something was passed over, all that was read lies apart from what is to come. -/
theorem apart {next : Nat} (further : position < next) : Apart marks next := by
  intro earlier member
  have := holds.before member
  omega

theorem unit :
    Holds { content with pending := some (content.pending.getD position) }
      (marks ++ [.unit position]) (position + 1) := by
  cases holds with
  | closed apart => exact .pending apart 0
  | pending apart length =>
    rw [List.append_assoc, ← Mark.run_succ, Nat.add_assoc]
    exact .pending apart (length + 1)

theorem value (found : Value) {next : Nat} (further : position < next) :
    Holds ⟨none, (settled marks).items ++ [[found]]⟩ (marks ++ [.value found]) next := by
  have apart : Apart (marks ++ [.value found]) next :=
    fun earlier member => holds.apart further earlier (by simpa using member)
  rw [← settled_append_value]
  exact .closed apart

end Holds

section Literals

variable (unit : Char) (before : List Char) {rest : List Char}

theorem units_ofText : (Literal.ofText unit.toString : Literal Char).units = [unit] := by
  simp [Literal.ofText, CodeUnit.ofText, CodeUnit.encode]

private theorem run_unit : (Token.literal unit.toString : Token Char).pattern.run
    (between before (unit :: rest)) = .matched (between (before ++ [unit]) rest) := by
  have matched := @Literal.run_between Char _ (.ofText unit.toString) before rest
  rwa [units_ofText] at matched

private theorem run_unit_of_head (other : rest.head? ≠ some unit) :
    (Token.literal unit.toString : Token Char).pattern.run (between before rest) =
      .failed (.literalMismatch 0) (between before rest) := by
  have begins : (Literal.ofText unit.toString : Literal Char).units ≠ [] := by
    rw [units_ofText]
    exact List.cons_ne_nil unit []
  refine Literal.run_between_of_head rfl begins before ?_
  rwa [units_ofText]

variable {unit before} {σ : Type} {environment : Environment Char σ} {state : State Char σ}
  {fuel : Nat}

private theorem gives_attempt_unit_of_head (other : rest.head? ≠ some unit)
    (here : state.cursor = between before rest) :
    ((withFuel (fuel + 1)).attempt (.literal unit.toString)).Gives environment state
      fun attempt values after => attempt = .backtracked ∧ values = [] ∧ after = state :=
  (gives_attemptToken_of_failed (here ▸ run_unit_of_head unit before other) _).mpr ⟨rfl, rfl, rfl⟩

private theorem gives_probe_unit_of_head (other : rest.head? ≠ some unit)
    (here : state.cursor = between before rest) :
    ((withFuel (fuel + 1)).probe (.literal unit.toString)).Gives environment state
      fun attempt values after => attempt = .backtracked ∧ values = [] ∧ after = state :=
  gives_probe fun _ cursor _ => (gives_attempt_unit_of_head other (cursor.trans here)).mono
    fun _ _ _ given => given.1

variable (ignores : environment.observer.IgnoresTokens) (alone : state.scope.whitespace? = none)
  (here : state.cursor = between before (unit :: rest))
include ignores alone here

private theorem gives_attempt_unit :
    ((withFuel (fuel + 1)).attempt (.literal unit.toString)).Gives environment state
      fun attempt values after => attempt = .accepted ∧ values = [] ∧
        state.Arrives (between (before ++ [unit]) rest) after :=
  gives_attemptToken_alone alone ignores (here ▸ run_unit unit before)

private theorem gives_parse_unit :
    ((withFuel (fuel + 1)).parse (.literal unit.toString)).Gives environment state
      fun parsed values after => parsed = true ∧ values = [] ∧
        state.Arrives (between (before ++ [unit]) rest) after :=
  gives_parseToken_alone alone ignores (here ▸ run_unit unit before)

omit ignores in
private theorem gives_probe_unit :
    ((withFuel (fuel + 1)).probe (.literal unit.toString)).Gives environment state
      fun attempt values after => attempt = .accepted ∧ values = [] ∧ after = state :=
  gives_probe fun _ cursor scope => (gives_attempt_unit (fun _ _ _ _ => rfl) (scope ▸ alone)
    (cursor.trans here)).mono fun _ _ _ given => given.1

end Literals

section Steps

variable {form : Form} {grammar : Grammar Char} {config : ParseConfig} {source : Array Char}
  {scope : Scope Char} {before rest : List Char} {marks : List Mark} {errors : List ParseError}
  {content : Content} {state : State Char (Array ParseError)} {unit : Char} {fuel : Nat}

def Form.delimited (form : Form) : Delimited Char :=
  ⟨.literal form.quote.toString, form.content, [form.escape]⟩

/-- A place in the content: what has been read, what it says, and what is wrong with it. -/
structure Reading (config : ParseConfig) (scope : Scope Char) (before rest : List Char)
    (marks : List Mark) (errors : List ParseError) (content : Content)
    (state : State Char (Array ParseError)) : Prop where
  stands : Stands config scope before rest errors state
  holds : Holds content marks before.length

abbrev Answer := Round Content (Option (List (List Value) × List Value))

def GoesOn (config : ParseConfig) (scope : Scope Char) (before rest : List Char)
    (marks : List Mark) (errors : List ParseError) (answer : Answer) (values : List Value)
    (after : State Char (Array ParseError)) : Prop :=
  ∃ next, answer = .again next ∧ values = [] ∧
    Reading config scope before rest marks errors next after

section Units

/-- A run that has begun becomes an item. -/
theorem gives_flush {position : Nat} (holds : Holds content marks position)
    (stands : Stands config scope before rest errors state) :
    (flush content position).Gives (Evaluation.environment grammar config source) state
      fun flushed values after => flushed = settled marks ∧ values = [] ∧
        Stands config scope before rest errors after := by
  cases holds with
  | closed => exact (gives_pure ..).mpr ⟨rfl, rfl, stands⟩
  | pending apart length =>
    simp only [flush, gives_bind, gives_reportToken, gives_pure, List.append_nil]
    exact ⟨(settled_append_run apart length).symm, trivial, stands.withToken ..⟩

theorem gives_contentUnit (inside : form.content.accepts unit = true)
    (reading : Reading config scope before (unit :: rest) marks errors content state) :
    (contentUnit form.delimited content unit).Gives
      (Evaluation.environment grammar config source) state fun next values after => values = [] ∧
        Reading config scope (before ++ [unit]) rest (marks ++ [.unit before.length]) errors next
          after := by
  simp only [contentUnit, Form.delimited, gives_bind, gives_cursor, inside, if_true,
    gives_setCursor, gives_pure, reading.stands.cursor, next_between, position_between]
  refine ⟨rfl, reading.stands.moved .., ?_⟩
  rw [List.length_append]
  exact reading.holds.unit

/-- A unit that does not belong there is reported and passed over. -/
theorem gives_contentUnit_stray (outside : form.content.accepts unit = false)
    (reading : Reading config scope before (unit :: rest) marks errors content state) :
    (contentUnit form.delimited content unit).Gives
      (Evaluation.environment grammar config source) state fun next values after => values = [] ∧
        Reading config scope (before ++ [unit]) rest marks
          (errors ++ [scope.errorOf (.expectedCharClass form.content.name) before.length
            (.between before.length (before.length + 1))]) next after := by
  simp only [contentUnit, Form.delimited, gives_bind, gives_cursor, outside, Bool.false_eq_true,
    if_false, reading.stands.cursor, next_between, position_between]
  refine (gives_flush reading.holds reading.stands).mono ?_
  rintro _ _ middle ⟨rfl, rfl, stands⟩
  simp only [gives_setCursor, gives_reportToken, gives_reportError, gives_pure]
  have length : (before ++ [unit]).length = before.length + 1 := List.length_append
  refine ⟨rfl, ?_, ?_⟩
  · rw [spanTo, position_between, position_between, length]
    exact ((stands.moved ..).withToken ..).withError ..
  · rw [length]
    exact .closed (reading.holds.apart (Nat.lt_succ_self _))

end Units

section Escapes

variable {run : Runner Char (Array ParseError)}

/-- What may follow the introducer comes down to whether the next unit is mapped and, if not,
whether it is kept. -/
theorem gives_actions {environment : Environment Char (Array ParseError)}
    (next : state.cursor.peek = some unit) (mapped : List (Char × Value))
    (post : Attempt → List Value → State Char (Array ParseError) → Prop) :
    (run.escapeSequence (form.actions mapped)).Gives environment state post ↔
      (match mapped.lookup unit with
        | some value => escapeUnit fun _ _ => value
        | none =>
          if form.kept.accepts unit then
            escapeUnit fun before after => .lexeme (before.spanTo after)
          else pure .backtracked : Parser Char (Array ParseError) Attempt).Gives environment state
        post := by
  induction mapped with
  | nil => simp [Form.actions, escapeSequence, next]
  | cons entry mapped ih =>
    obtain ⟨key, value⟩ := entry
    have same : (CodeUnit.value unit == key.toNat) = (unit == key) := by
      rw [Bool.eq_iff_iff, beq_iff_eq, beq_iff_eq]
      exact Char.toNat_inj
    simp only [Form.actions, List.map_cons, List.cons_append, escapeSequence, gives_bind,
      gives_cursor, next, Option.any_some, same, List.lookup_cons, List.nil_append]
    cases unit == key with
    | true => exact Iff.rfl
    | false => exact ih

private theorem gives_escapeUnit (value : Cursor Char → Cursor Char → Value)
    (stands : Stands config scope before (unit :: rest) errors state) :
    (escapeUnit value).Gives (Evaluation.environment grammar config source) state
      fun attempt values after => attempt = .accepted ∧
        values = [value (between before (unit :: rest)) (between (before ++ [unit]) rest)] ∧
        Stands config scope (before ++ [unit]) rest errors after := by
  simp only [escapeUnit, gives_bind, gives_cursor, gives_setCursor, gives_reportToken, gives_emit,
    gives_pure, stands.cursor, next_between]
  exact ⟨trivial, rfl, (stands.moved ..).withToken ..⟩

/-- A unit that stands for something after the introducer. -/
theorem gives_actions_known (known : form.isEscape unit = true)
    (stands : Stands config scope before (unit :: rest) errors state) :
    (run.escapeSequence (form.actions form.mapped)).Gives
      (Evaluation.environment grammar config source) state fun attempt values after =>
        attempt = .accepted ∧ values = [form.escapeValue before.length unit] ∧
          Stands config scope (before ++ [unit]) rest errors after := by
  have next : state.cursor.peek = some unit := by simp [stands.cursor]
  rw [gives_actions next]
  unfold Form.isEscape at known
  unfold Form.escapeValue
  cases found : form.mapped.lookup unit with
  | some value => exact gives_escapeUnit _ stands
  | none =>
    have kept : form.kept.accepts unit = true := by simpa [found] using known
    simp only [kept, if_true]
    refine (gives_escapeUnit _ stands).mono ?_
    rintro _ _ after ⟨rfl, rfl, stands⟩
    simpa [spanTo] using stands

private theorem gives_actions_unknown (unknown : form.isEscape unit = false)
    (next : state.cursor.peek = some unit)
    (post : Attempt → List Value → State Char (Array ParseError) → Prop) :
    (run.escapeSequence (form.actions form.mapped)).Gives
      (Evaluation.environment grammar config source) state post ↔ post .backtracked [] state := by
  obtain ⟨unmapped, lost⟩ := Bool.or_eq_false_iff.mp unknown
  have none : form.mapped.lookup unit = none := by simpa using unmapped
  rw [gives_actions next, none, lost]
  exact gives_pure ..

variable (alone : scope.whitespace? = none)
include alone

/-- The introducer of an escape sequence is read with all content before it settled. -/
theorem gives_introduced
    (reading : Reading config scope before (form.introducer :: rest) marks errors content state)
    {post : Answer → List Value → State Char (Array ParseError) → Prop}
    (goes_on : ∀ middle, Stands config scope (before ++ [form.introducer]) rest errors middle →
      (run.escapeSequence (form.actions form.mapped)).Gives
        (Evaluation.environment grammar config source) middle fun attempt values after =>
          match attempt with
          | .accepted => post (.again ⟨none, (settled marks).items ++ [values]⟩) [] after
          | .canceled => post (.done none) [] after
          | .backtracked =>
            post (.again (settled marks)) [] (after.withError
              (Evaluation.environment grammar config source) .invalidEscapeSequence before.length
              (.between before.length after.cursor.position))) :
    (run.escaped form.escape content).Gives (Evaluation.environment grammar config source) state
      post := by
  simp only [escaped, gives_bind, gives_cursor, gives_quietly, reading.stands.cursor,
    position_between]
  refine (gives_flush reading.holds reading.stands).mono ?_
  rintro _ _ flushed ⟨rfl, rfl, stands⟩
  have matched : (Token.literal form.introducer.toString : Token Char).pattern.run
      flushed.cursor = .matched (between (before ++ [form.introducer]) rest) := by
    rw [stands.cursor]
    exact run_unit ..
  refine (gives_parseToken_alone (stands.scope ▸ alone) Evaluation.ignoresTokens matched).mono ?_
  rintro _ _ middle ⟨rfl, rfl, arrives⟩
  simp only [Bool.not_true, Bool.false_eq_true, if_false, gives_bind, gives_collect]
  refine (goes_on middle (stands.arrives arrives)).mono ?_
  intro attempt values after holds
  cases attempt with
  | accepted => exact (gives_pure ..).mpr holds
  | canceled => exact (gives_pure ..).mpr holds
  | backtracked => simpa [spanTo] using holds

private theorem gives_escaped (known : form.isEscape unit = true)
    (reading : Reading config scope before (form.introducer :: unit :: rest) marks errors content
      state) :
    (run.escaped form.escape content).Gives (Evaluation.environment grammar config source) state
      (GoesOn config scope (before ++ [form.introducer, unit]) rest
        (marks ++ [.value (form.escapeValue (before.length + 1) unit)]) errors) := by
  refine gives_introduced alone reading fun middle stands => ?_
  refine (gives_actions_known known stands).mono ?_
  rintro _ _ after ⟨rfl, rfl, stands⟩
  have length : (before ++ [form.introducer]).length = before.length + 1 := List.length_append
  have further : before.length < (before ++ [form.introducer, unit]).length := by simp
  rw [List.append_assoc] at stands
  rw [length]
  exact ⟨_, rfl, rfl, stands, reading.holds.value _ further⟩

/-- An introducer that nothing it knows comes after is reported. What comes after it is still to be
read. -/
theorem gives_escaped_invalid (unknown : form.isEscape unit = false)
    (reading : Reading config scope before (form.introducer :: unit :: rest) marks errors content
      state) :
    (run.escaped form.escape content).Gives (Evaluation.environment grammar config source) state
      (GoesOn config scope (before ++ [form.introducer]) (unit :: rest) marks
        (errors ++ [scope.errorOf .invalidEscapeSequence before.length
          (.between before.length (before.length + 1))])) := by
  refine gives_introduced alone reading fun middle stands => ?_
  have next : middle.cursor.peek = some unit := by simp [stands.cursor]
  rw [gives_actions_unknown unknown next]
  have length : (before ++ [form.introducer]).length = before.length + 1 := List.length_append
  have stop : middle.cursor.position = before.length + 1 := by
    rw [stands.cursor, position_between, length]
  rw [stop]
  refine ⟨_, rfl, rfl, stands.withError .., ?_⟩
  rw [length]
  exact .closed (reading.holds.apart (Nat.lt_succ_self _))

end Escapes

section Rounds

/-- Where there is no quote, nothing is closed, whether a run has begun or not. -/
theorem gives_closeContent_of_head (other : rest.head? ≠ some form.quote)
    (stands : Stands config scope before rest errors state) :
    ((withFuel (fuel + 1)).closeContent form.delimited content).Gives
      (Evaluation.environment grammar config source) state fun answer values after =>
        answer = (content, .backtracked, []) ∧ values = [] ∧ after = state := by
  obtain ⟨pending, items⟩ := content
  cases pending with
  | none =>
    simp only [closeContent, Form.delimited, Option.isSome_none, Bool.false_eq_true, if_false,
      flush, gives_bind, gives_cursor, gives_pure, gives_collect]
    refine (gives_attempt_unit_of_head other stands.cursor).mono ?_
    rintro _ _ _ ⟨rfl, rfl, rfl⟩
    exact ⟨rfl, rfl, rfl⟩
  | some first =>
    simp only [closeContent, Form.delimited, Option.isSome_some, if_true, gives_bind]
    refine (gives_probe_unit_of_head other stands.cursor).mono ?_
    rintro _ _ _ ⟨rfl, rfl, rfl⟩
    exact (gives_pure ..).mpr ⟨rfl, rfl, rfl⟩

/-- At a quote, a run that has begun becomes an item before the text is closed. -/
theorem gives_closeContent (alone : scope.whitespace? = none)
    (reading : Reading config scope before (form.quote :: rest) marks errors content state) :
    ((withFuel (fuel + 1)).closeContent form.delimited content).Gives
      (Evaluation.environment grammar config source) state fun answer values after =>
        answer = (settled marks, .accepted, []) ∧ values = [] ∧
          Stands config scope (before ++ [form.quote]) rest errors after := by
  have closes : (do
      let content ← flush content (← cursor).position
      return (content, ← collect ((withFuel (fuel + 1)).attempt form.delimited.closing)) :
        Parser Char (Array ParseError) (Content × Attempt × List Value)).Gives
      (Evaluation.environment grammar config source) state fun answer values after =>
        answer = (settled marks, .accepted, []) ∧ values = [] ∧
          Stands config scope (before ++ [form.quote]) rest errors after := by
    simp only [gives_bind, gives_cursor, gives_collect, reading.stands.cursor, position_between]
    refine (gives_flush reading.holds reading.stands).mono ?_
    rintro _ _ flushed ⟨rfl, rfl, stands⟩
    have alone := stands.scope ▸ alone
    refine (gives_attempt_unit Evaluation.ignoresTokens alone stands.cursor).mono ?_
    rintro _ _ after ⟨rfl, rfl, arrives⟩
    exact (gives_pure ..).mpr ⟨rfl, rfl, stands.arrives arrives⟩
  unfold closeContent
  split
  · rw [gives_bind]
    refine (gives_probe_unit (reading.stands.scope ▸ alone) reading.stands.cursor).mono ?_
    rintro _ _ _ ⟨rfl, rfl, rfl⟩
    exact closes
  · exact closes

/-- A unit that is no quote and no introducer is a unit of content, or should have been one. -/
theorem gives_contentStep_of_plain {opened : Nat}
    {post : Answer → List Value → State Char (Array ParseError) → Prop}
    (plain : form.isPlain unit = true)
    (stands : Stands config scope before (unit :: rest) errors state)
    (reads : (contentUnit form.delimited content unit).Gives
      (Evaluation.environment grammar config source) state
      fun next values after => post (.again next) values after) :
    ((withFuel (fuel + 1)).contentStep form.delimited opened content).Gives
      (Evaluation.environment grammar config source) state post := by
  obtain ⟨no_quote, no_introducer⟩ : unit ≠ form.quote ∧ unit ≠ form.introducer := by
    simpa [Form.isPlain] using plain
  have other : (unit :: rest).head? ≠ some form.quote := by simpa using no_quote
  have next : state.cursor.peek = some unit := by simp [stands.cursor]
  have declined : form.escape.introducer.pattern.matchesAt state.cursor = false := by
    have introducer : (unit :: rest).head? ≠ some form.introducer := by simpa using no_introducer
    rw [stands.cursor]
    exact congrArg MatchResult.isMatched (run_unit_of_head _ before introducer)
  rw [contentStep, gives_bind]
  refine (gives_closeContent_of_head other stands).mono ?_
  rintro _ _ _ ⟨rfl, rfl, rfl⟩
  simp only [gives_bind, gives_cursor, next, Form.delimited, List.find?_cons, declined,
    List.find?_nil, gives_pure]
  refine reads.mono ?_
  intro answer values after holds
  simpa using holds

/-- An introducer begins an escape sequence. -/
theorem gives_contentStep_of_introducer {opened : Nat}
    {post : Answer → List Value → State Char (Array ParseError) → Prop}
    (stands : Stands config scope before (form.introducer :: rest) errors state)
    (reads : ((withFuel (fuel + 1)).escaped form.escape content).Gives
      (Evaluation.environment grammar config source) state post) :
    ((withFuel (fuel + 1)).contentStep form.delimited opened content).Gives
      (Evaluation.environment grammar config source) state post := by
  have other : (form.introducer :: rest).head? ≠ some form.quote := by
    simpa using form.distinct.symm
  have next : state.cursor.peek = some form.introducer := by simp [stands.cursor]
  have introduced : form.escape.introducer.pattern.matchesAt state.cursor = true := by
    rw [stands.cursor]
    exact congrArg MatchResult.isMatched (run_unit ..)
  rw [contentStep, gives_bind]
  refine (gives_closeContent_of_head other stands).mono ?_
  rintro _ _ _ ⟨rfl, rfl, rfl⟩
  simp only [gives_bind, gives_cursor, next, Form.delimited, List.find?_cons, introduced]
  simpa using reads

variable {opened rounds : Nat}
  {post : Option (List (List Value) × List Value) → List Value → State Char (Array ParseError) →
    Prop}

def contentRounds (form : Form) (fuel opened rounds : Nat) (content : Content) :
    Parser Char (Array ParseError) (Option (List (List Value) × List Value)) :=
  iterate ((withFuel (fuel + 1)).contentStep form.delimited opened) rounds content

private theorem gives_round
    (round : ((withFuel (fuel + 1)).contentStep form.delimited opened content).Gives
      (Evaluation.environment grammar config source) state
      (GoesOn config scope before rest marks errors))
    (goes_on : ∀ next after, Reading config scope before rest marks errors next after →
      (contentRounds form fuel opened rounds next).Gives
        (Evaluation.environment grammar config source) after post) :
    (contentRounds form fuel opened (rounds + 1) content).Gives
      (Evaluation.environment grammar config source) state post := by
  rw [contentRounds, gives_iterate_succ]
  refine round.mono ?_
  rintro _ _ after ⟨next, rfl, rfl, reading⟩
  exact goes_on next after reading

private theorem goes_on_unit (plain : form.isPlain unit = true)
    (inside : form.content.accepts unit = true)
    (reading : Reading config scope before (unit :: rest) marks errors content state) :
    ((withFuel (fuel + 1)).contentStep form.delimited opened content).Gives
      (Evaluation.environment grammar config source) state
      (GoesOn config scope (before ++ [unit]) rest (marks ++ [.unit before.length]) errors) :=
  gives_contentStep_of_plain plain reading.stands ((gives_contentUnit inside reading).mono
    fun next _ _ given => ⟨next, rfl, given⟩)

private theorem goes_on_stray (plain : form.isPlain unit = true)
    (outside : form.content.accepts unit = false)
    (reading : Reading config scope before (unit :: rest) marks errors content state) :
    ((withFuel (fuel + 1)).contentStep form.delimited opened content).Gives
      (Evaluation.environment grammar config source) state
      (GoesOn config scope (before ++ [unit]) rest marks
        (errors ++ [scope.errorOf (.expectedCharClass form.content.name) before.length
          (.between before.length (before.length + 1))])) :=
  gives_contentStep_of_plain plain reading.stands ((gives_contentUnit_stray outside reading).mono
    fun next _ _ given => ⟨next, rfl, given⟩)

/-- One or two rounds deal with a segment. -/
theorem gives_segment (alone : scope.whitespace? = none) (segment : Segment form)
    (reading : Reading config scope before (segment.text ++ rest) marks errors content state)
    (goes_on : ∀ left next after, rounds ≤ left →
      Reading config scope (before ++ segment.text) rest (marks ++ segment.marks before.length)
        (errors ++ segment.errors scope.profile.name before.length) next after →
      (contentRounds form fuel opened left next).Gives
        (Evaluation.environment grammar config source) after post) :
    (contentRounds form fuel opened (rounds + 2) content).Gives
      (Evaluation.environment grammar config source) state post := by
  have once := Nat.le_succ rounds
  cases segment with
  | content unit plain inside =>
    refine gives_round (goes_on_unit plain inside reading) fun next after reading => ?_
    rw [← List.append_nil errors] at reading
    exact goes_on _ next after once reading
  | stray unit plain outside =>
    refine gives_round (goes_on_stray plain outside reading) fun next after reading => ?_
    rw [← List.append_nil marks] at reading
    exact goes_on _ next after once reading
  | escape unit known =>
    refine gives_round (gives_contentStep_of_introducer reading.stands
      (gives_escaped alone known reading)) fun next after reading => ?_
    rw [← List.append_nil errors] at reading
    exact goes_on _ next after once reading
  | invalid unit plain inside unknown =>
    -- After the introducer was reported, the unit is read as content in a round of its own.
    refine gives_round (gives_contentStep_of_introducer reading.stands
      (gives_escaped_invalid alone unknown reading)) fun next after reading => ?_
    refine gives_round (goes_on_unit plain inside reading) fun next after reading => ?_
    rw [List.append_assoc, List.length_append] at reading
    exact goes_on _ next after (Nat.le_refl _) reading

/-- A text is read to its end. -/
theorem gives_segments (alone : scope.whitespace? = none) (segments : List (Segment form))
    (enough : 2 * segments.length < rounds)
    (reading : Reading config scope before (segments.flatMap Segment.text ++ form.quote :: rest)
      marks errors content state) :
    (contentRounds form fuel opened rounds content).Gives
      (Evaluation.environment grammar config source) state fun result values after =>
        result = some ((settled (marks ++ marksFrom before.length segments)).items, []) ∧
          values = [] ∧
          Stands config scope (before ++ (segments.flatMap Segment.text ++ [form.quote])) rest
            (errors ++ errorsFrom scope.profile.name before.length segments) after := by
  induction segments generalizing before marks errors content state rounds with
  | nil =>
    obtain ⟨rounds, rfl⟩ := Nat.exists_eq_succ_of_ne_zero (Nat.ne_zero_of_lt enough)
    rw [contentRounds, gives_iterate_succ, contentStep, gives_bind]
    refine (gives_closeContent alone reading).mono ?_
    rintro _ _ after ⟨rfl, rfl, stands⟩
    simpa [marksFrom, errorsFrom] using stands
  | cons segment segments ih =>
    obtain ⟨rounds, rfl⟩ := Nat.exists_eq_add_of_le' (by simp at enough; omega : 2 ≤ rounds)
    rw [List.flatMap_cons, List.append_assoc] at reading
    refine gives_segment alone segment reading fun left next after fewer reading => ?_
    have enough : 2 * segments.length < left := by simp at enough; omega
    refine (ih enough reading).mono ?_
    intro result values last given
    simpa [marksFrom, errorsFrom] using given

end Rounds

section Whole

variable {segments : List (Segment form)}

/-- What comes after the quote in front is read to its end, and makes one value. -/
theorem gives_parseContent (alone : scope.whitespace? = none)
    (sink : (Evaluation.environment grammar config source).observer.sink scope.profile = .list)
    (enough : 2 * segments.length ≤ fuel) (opened : Nat)
    (stands : Stands config scope before (segments.flatMap Segment.text ++ form.quote :: rest)
      errors state) :
    ((withFuel (fuel + 1)).parseContent form.delimited opened).Gives
      (Evaluation.environment grammar config source) state fun parsed values after =>
        parsed = true ∧ values = [.list (Mark.items (marksFrom before.length segments))] ∧
          Stands config scope (before ++ (segments.flatMap Segment.text ++ [form.quote])) rest
            (errors ++ errorsFrom scope.profile.name before.length segments) after := by
  have nothing : Holds ⟨none, []⟩ [] before.length :=
    .closed fun _ member => absurd member List.not_mem_nil
  simp only [parseContent, gives_bind, gives_currentSink, stands.scope, sink]
  refine Gives.mono (gives_segments alone segments (Nat.lt_succ_of_le enough) ⟨stands, nothing⟩) ?_
  rintro _ _ after ⟨rfl, rfl, stands⟩
  simp only [List.nil_append, settled, Sink.list_map_singleton, emitUnlessNothing, Value.isNothing,
    gives_bind, Bool.false_eq_true, if_false, gives_emit, gives_emitAll, gives_pure]
  exact ⟨trivial, rfl, stands⟩

/-- Quoted text is read to the quote that ends it, whatever comes after. -/
theorem gives_parse_rule (alone : scope.whitespace? = none)
    (sink : (Evaluation.environment grammar config source).observer.sink scope.profile = .list)
    (enough : 2 * segments.length ≤ fuel)
    (stands : Stands config scope before (input segments ++ rest) errors state) :
    ((withFuel (fuel + 2)).parse form.rule).Gives
      (Evaluation.environment grammar config source) state fun parsed values after =>
        parsed = true ∧ values = [.list (Mark.items (marksFrom (before.length + 1) segments))] ∧
          Stands config scope (before ++ input segments) rest
            (errors ++ errorsFrom scope.profile.name (before.length + 1) segments) after := by
  change ((withFuel (fuel + 1)).parseDelimited (.literal form.quote.toString)
    form.delimited).Gives _ _ _
  simp only [parseDelimited, gives_bind, gives_cursor, gives_withoutWhitespace]
  have quoted : input segments ++ rest =
      form.quote :: (segments.flatMap Segment.text ++ form.quote :: rest) := by simp [input]
  rw [quoted] at stands
  have inside := stands.withoutWhitespace
  have inner : ({ scope with noWhitespace := scope.noWhitespace + 1 } : Scope Char).whitespace? =
      none := by simp [Scope.whitespace?]
  refine (gives_parse_unit Evaluation.ignoresTokens (inside.scope ▸ inner) inside.cursor).mono ?_
  rintro _ _ middle ⟨rfl, rfl, arrives⟩
  refine Gives.mono (gives_parseContent inner sink enough _ (inside.arrives arrives)) ?_
  rintro _ _ after ⟨rfl, rfl, closed⟩
  have outside := closed.againWithWhitespace
  have length : (before ++ [form.quote]).length = before.length + 1 := List.length_append
  have text : before ++ [form.quote] ++ (segments.flatMap Segment.text ++ [form.quote]) =
      before ++ input segments := by simp [input]
  rw [text, length] at outside
  rw [if_pos rfl, gives_bind, gives_skipWhitespace_alone (outside.scope ▸ alone), gives_pure,
    length]
  exact ⟨rfl, rfl, outside⟩

end Whole

end Steps

section Runs

variable {form : Form} {config : ParseConfig} {segments : List (Segment form)}

/-- The entry of the grammar makes one value of the text. -/
theorem gives_call_entry (name : String) (source : Array Char) {fuel : Nat}
    {state : State Char (Array ParseError)} (enough : 2 * segments.length ≤ fuel)
    (stands : Stands config .outermost [] (input segments) [] state) :
    ((withFuel (fuel + 2)).call (form.grammar name).entry false).Gives
      (Evaluation.environment (form.grammar name) config source) state fun attempt values after =>
        attempt = .accepted ∧
          values = [.production name [.list (Mark.items (marksFrom 1 segments))]] ∧
          Stands config .outermost (input segments) [] (errorsFrom name 1 segments) after := by
  let scope : Scope Char := Scope.outermost.inside (form.grammar name) (form.production name)
  have found : (Evaluation.environment (form.grammar name) config source).grammar.production?
      (form.grammar name).entry = some (form.production name) := rfl
  have plain : (form.production name).profile.isToken = false := rfl
  have alone : scope.whitespace? = none := rfl
  have inside : Stands config scope [] (input segments) []
      (state.inside (Evaluation.environment (form.grammar name) config source)
        (form.production name)) := stands.inside _
  rw [gives_call found, gives_callProduction plain,
    gives_skipLeading_alone (inside.scope ▸ alone)]
  rw [← List.append_nil (input segments)] at inside
  refine (gives_parse_rule alone rfl enough inside).mono ?_
  rintro _ _ after ⟨rfl, rfl, closed⟩
  rw [if_pos rfl, List.nil_append]
  exact ⟨rfl, closed.produced _ rfl rfl .., closed.ended ..⟩

/-- Quoted text is decoded without loss and in order: it is read to its end, each of the longest
runs of content is one lexeme, each escape sequence has its value, and there is one error for each
unit that does not belong there and each introducer that nothing it knows comes after. -/
theorem quoted_text_is_decoded (form : Form) (name : String) (config : ParseConfig)
    (segments : List (Segment form)) (fuel : Nat) (enough : 2 * segments.length + 2 ≤ fuel) :
    ∃ built result, (form.builder name).build = .ok built ∧
      built.parse config (.start (input segments).toArray) fuel = some result ∧
      result.verdict.position = (input segments).length ∧
      result.value = some (.production name [.list (Mark.items (marksFrom 1 segments))]) ∧
      result.verdict.errorCount = (errorsFrom name 1 segments).length ∧
      result.errors = (errorsFrom name 1 segments).take config.maxErrors ∧
      result.verdict.outcome =
        if errorsFrom name 1 segments = [] then .success else .recoveredFailure := by
  obtain ⟨spare, rfl⟩ := Nat.exists_eq_add_of_le' enough
  have called := gives_call_entry name (input segments).toArray (Nat.le_add_left _ spare)
    (Evaluation.stands_initial config (input segments))
  obtain ⟨result, parsed⟩ := Evaluation.parse_of_call called
  exact ⟨form.grammar name, result, form.build_builder name, parsed⟩

def doubleQuoted : Form where
  quote := '"'
  introducer := '\\'
  distinct := by decide
  content := .complement (.range 0 31)
  mapped := [('n', .codePoint '\n')]
  kept := .ofText "\"\\"

/-- Runs before and after escape sequences of each kind, an invalid one and a control character. -/
def mixed : List (Segment doubleQuoted) :=
  [.content 'a' rfl rfl, .content 'b' rfl rfl, .escape 'n' rfl, .content 'c' rfl rfl,
    .invalid 'x' rfl rfl rfl, .content 'd' rfl rfl, .stray '\t' rfl rfl, .content 'e' rfl rfl,
    .escape '"' rfl]

theorem text_of_mixed : input mixed = "\"ab\\nc\\xd\te\\\"\"".toList ∧
    ∃ built result, (doubleQuoted.builder "text").build = .ok built ∧
      built.parse .standard (.start (input mixed).toArray) 20 = some result ∧
      result.verdict.position = 14 ∧
      result.value = some (.production "text" [.list [.lexeme (.between 1 3), .codePoint '\n',
        .lexeme (.between 5 6), .lexeme (.between 7 9), .lexeme (.between 10 11),
        .lexeme (.between 12 13)]]) ∧
      result.verdict.errorCount = 2 ∧
      result.errors = [⟨"text", 6, .between 6 7, .invalidEscapeSequence⟩,
        ⟨"text", 9, .between 9 10, .expectedCharClass doubleQuoted.content.name⟩] ∧
      result.verdict.outcome = .recoveredFailure :=
  ⟨by decide, quoted_text_is_decoded doubleQuoted "text" .standard mixed 20 (by decide)⟩

end Runs

end Descent.QuotedText
