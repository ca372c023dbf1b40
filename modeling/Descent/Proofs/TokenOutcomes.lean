import Descent.Proofs.Conduct
import Descent.Proofs.CursorTexts
import Descent.Proofs.OutcomeLogic

/-! Tokens that are there are read, and the whitespace after them is skipped. -/

namespace Descent

open Descent.Parser Cursor

/-- An observer that takes no notice of tokens. -/
def Observer.IgnoresTokens {σ : Type} (observer : Observer σ) : Prop :=
  ∀ kind first stop notes, observer.token kind first stop notes = notes

def State.between {U σ : Type} (state : State U σ) (before rest : List U) : State U σ :=
  { state with cursor := Cursor.between before rest }

theorem State.eq_between {U σ : Type} {state : State U σ} {before rest : List U}
    (here : state.cursor = Cursor.between before rest) : state = state.between before rest := by
  rw [State.between, ← here]

/-- A state at another place, with nothing but tokens reported on the way. -/
structure State.Arrives {U σ : Type} (before : State U σ) (cursor : Cursor U) (after : State U σ) :
    Prop where
  cursor : after.cursor = cursor
  scope : after.scope = before.scope
  muted : after.report.muted = before.report.muted
  errors : after.report.statistics.errors = before.report.statistics.errors
  notes : after.report.notes = before.report.notes

namespace State.Arrives

variable {U σ : Type} {before middle after : State U σ} {cursor cursor' : Cursor U}
  {observer : Observer σ}

protected theorem trans (first : before.Arrives cursor middle)
    (second : middle.Arrives cursor' after) : before.Arrives cursor' after :=
  ⟨second.cursor, second.scope.trans first.scope, second.muted.trans first.muted,
    second.errors.trans first.errors, second.notes.trans first.notes⟩

/-- It is always possible to go somewhere without a report. -/
theorem moved (state : State U σ) (cursor : Cursor U) :
    state.Arrives cursor { state with cursor } :=
  ⟨rfl, rfl, rfl, rfl, rfl⟩

protected theorem between (state : State U σ) (before rest : List U) :
    state.Arrives (.between before rest) (state.between before rest) :=
  moved state _

theorem withToken (ignores : observer.IgnoresTokens) (arrives : before.Arrives cursor after)
    (kind : TokenKind) (first stop : Nat) :
    before.Arrives cursor (after.withToken observer kind first stop) := by
  refine ⟨arrives.cursor, arrives.scope, ?_, ?_, ?_⟩
  · exact (Report.muted_withToken ..).trans arrives.muted
  · exact (Report.errors_withToken ..).trans arrives.errors
  · refine Eq.trans ?_ arrives.notes
    simp only [State.withToken, Report.withToken]
    split
    · rfl
    · exact ignores ..

theorem withSkipped (ignores : observer.IgnoresTokens) (arrives : before.Arrives cursor after)
    (first last : Cursor U) : before.Arrives cursor (after.withSkipped observer first last) := by
  unfold State.withSkipped Report.withSkipped
  split
  · exact arrives.withToken ignores ..
  · exact arrives

end State.Arrives

namespace Runner

variable {U σ : Type} [CodeUnit U] {environment : Environment U σ} {state : State U σ}
  {run : Runner U σ} {members : UnitClass}

/-- A token that is not there is declined. -/
theorem gives_attemptToken_of_failed {token : Token U} {failure : MatchFailure}
    {stopped : Cursor U} (failed : token.pattern.run state.cursor = .failed failure stopped)
    (post : Attempt → List Value → State U σ → Prop) :
    (run.attemptToken token).Gives environment state post ↔ post .backtracked [] state := by
  simp [attemptToken, failed]

/-- A token that is there is read, and then the whitespace after it. -/
theorem gives_attemptToken_of_matched {token : Token U} {after : Cursor U}
    (matched : token.pattern.run state.cursor = .matched after)
    (post : Attempt → List Value → State U σ → Prop) :
    (run.attemptToken token).Gives environment state post ↔
      run.skipWhitespace.Gives environment
        (State.withToken environment.observer token.kind state.cursor.position after.position
          { state with cursor := after })
        fun _ values last => post .accepted values last := by
  simp [attemptToken, matched, acceptToken]

theorem gives_parseToken_of_matched {token : Token U} {after : Cursor U}
    (matched : token.pattern.run state.cursor = .matched after)
    (post : Bool → List Value → State U σ → Prop) :
    (run.parseToken token).Gives environment state post ↔
      run.skipWhitespace.Gives environment
        (State.withToken environment.observer token.kind state.cursor.position after.position
          { state with cursor := after })
        fun _ values last => post true values last := by
  simp [parseToken, matched, acceptToken]

/-- Inside whitespace, a unit of it is read and nothing else happens. -/
theorem gives_attemptToken_muffled {token : Token U} {after : Cursor U}
    (inside : state.scope.inWhitespace = true) (muted : state.report.muted ≠ 0)
    (matched : token.pattern.run state.cursor = .matched after) :
    (run.attemptToken token).Gives environment state fun attempt values last =>
      attempt = .accepted ∧ values = [] ∧ last = { state with cursor := after } := by
  simp [gives_attemptToken_of_matched matched, skipWhitespace, Scope.whitespace?, inside,
    State.withToken, Report.withToken, Report.isMuted, muted]

omit [CodeUnit U] in
/-- How a rule answers when it is only looked at. -/
theorem gives_probe {rule : Rule U} {answer : Attempt}
    (gives : ∀ there : State U σ, there.cursor = state.cursor → there.scope = state.scope →
      (run.attempt rule).Gives (unobserved environment) there fun attempt _ _ => attempt = answer) :
    (run.probe rule).Gives environment state fun attempt values after =>
      attempt = answer ∧ values = [] ∧ after = state := by
  simp only [probe, gives_bind, gives_lookAhead, gives_quietly, gives_speculate, gives_pure]
  exact (gives (unreported state) rfl rfl).mono fun _ _ _ same => ⟨same, rfl, trivial⟩

section Alone

variable (alone : state.scope.whitespace? = none)
include alone

omit [CodeUnit U] in
theorem gives_skipWhitespace_alone (post : Unit → List Value → State U σ → Prop) :
    run.skipWhitespace.Gives environment state post ↔ post () [] state := by
  simp [skipWhitespace, alone]

omit [CodeUnit U] in
theorem gives_skipLeading_alone (outermost : Bool)
    (post : Unit → List Value → State U σ → Prop) :
    (run.skipLeading outermost environment).Gives environment state post ↔ post () [] state := by
  simp [skipLeading, gives_skipWhitespace_alone alone]

variable (ignores : environment.observer.IgnoresTokens) {token : Token U} {after : Cursor U}
  (matched : token.pattern.run state.cursor = .matched after)
include ignores matched

theorem gives_attemptToken_alone :
    (run.attemptToken token).Gives environment state fun attempt values last =>
      attempt = .accepted ∧ values = [] ∧ state.Arrives after last := by
  rw [gives_attemptToken_of_matched matched]
  have arrives := (State.Arrives.moved state after).withToken ignores token.kind
    state.cursor.position after.position
  exact (gives_skipWhitespace_alone (arrives.scope ▸ alone) _).mpr ⟨rfl, rfl, arrives⟩

theorem gives_parseToken_alone :
    (run.parseToken token).Gives environment state fun parsed values last =>
      parsed = true ∧ values = [] ∧ state.Arrives after last := by
  rw [gives_parseToken_of_matched matched]
  have arrives := (State.Arrives.moved state after).withToken ignores token.kind
    state.cursor.position after.position
  exact (gives_skipWhitespace_alone (arrives.scope ▸ alone) _).mpr ⟨rfl, rfl, arrives⟩

end Alone

section Search

variable {α : Type} {target : Parser U σ (Option α)} {isLimit : Parser U σ Bool} {found : α}
  {skipped rest before : List U}

omit [CodeUnit U] in
/-- A search passes over units where there is nothing to be found, up to where there is. -/
theorem gives_seek (unlimited : ∀ there : State U σ, isLimit.Gives environment there
      fun limited values after => limited = false ∧ values = [] ∧ after = there)
    (passes : ∀ before unit rest, unit ∈ skipped →
      target.Gives environment (state.between before (unit :: rest)) fun answer values after =>
        answer = none ∧ values = [] ∧ after = state.between before (unit :: rest))
    (finds : target.Gives environment (state.between (before ++ skipped) rest)
      fun answer values after => answer = some found ∧ values = [] ∧
        after = state.between (before ++ skipped) rest) :
    (seek target isLimit).Gives environment (state.between before (skipped ++ rest))
      fun answer values after => answer = some found ∧ values = [] ∧
        after = state.between (before ++ skipped) rest := by
  rw [seek, gives_bind, gives_cursor]
  have enough : skipped.length ≤ (state.between before (skipped ++ rest)).cursor.left := by
    simp [State.between]
  generalize (state.between before (skipped ++ rest)).cursor.left = left at enough ⊢
  induction skipped generalizing before left with
  | nil =>
    rw [List.append_nil] at finds ⊢
    cases left with
    | zero => exact finds
    | succ left =>
      rw [seek.go, gives_bind]
      refine finds.mono ?_
      rintro _ _ _ ⟨rfl, rfl, rfl⟩
      exact (gives_pure ..).mpr ⟨rfl, rfl, rfl⟩
  | cons unit skipped ih =>
    obtain ⟨left, rfl⟩ := Nat.exists_eq_succ_of_ne_zero (Nat.ne_zero_of_lt enough)
    rw [seek.go, gives_bind]
    refine (passes before unit (skipped ++ rest) List.mem_cons_self).mono ?_
    rintro _ _ _ ⟨rfl, rfl, rfl⟩
    rw [gives_bind]
    refine (unlimited _).mono ?_
    rintro _ _ _ ⟨rfl, rfl, rfl⟩
    have next : ({ state.between before (unit :: (skipped ++ rest)) with
        cursor := (state.between before (unit :: (skipped ++ rest))).cursor.next } : State U σ) =
        state.between (before ++ [unit]) (skipped ++ rest) := by
      simp [State.between]
    simp only [Bool.false_eq_true, if_false, gives_bind, gives_modify, next]
    have joined : before ++ unit :: skipped = before ++ [unit] ++ skipped := by simp
    rw [joined] at finds ⊢
    exact ih (fun before other rest member => passes before other rest (.tail _ member)) finds left
      (Nat.le_of_succ_le_succ enough)

end Search

structure Leads (members : UnitClass) (spaces rest : List U) : Prop where
  accepted : ∀ unit ∈ spaces, members.accepts unit = true
  ends : rest.head?.any members.accepts = false

/-- The whitespace of a scope is the units of a class, and the observer does not care about it. -/
structure Skips (environment : Environment U σ) (scope : Scope U) (members : UnitClass) : Prop where
  ignores : environment.observer.IgnoresTokens
  whitespace : ∃ kind error, scope.whitespace? = some (.token ⟨.oneOf members, kind, error⟩)

theorem leads_nil {rest : List U} (ends : rest.head?.any members.accepts = false) :
    Leads members [] rest :=
  ⟨fun _ member => absurd member List.not_mem_nil, ends⟩

omit [CodeUnit U] in
theorem Skips.unobserved {scope : Scope U} (skips : Skips environment scope members) :
    Skips (unobserved environment) scope members :=
  ⟨fun _ _ _ _ => rfl, skips.whitespace⟩

variable {fuel : Nat} {spaces rest before : List U} (leads : Leads members spaces rest)
include leads

/-- The rounds of a skip take one unit each. -/
theorem gives_skipRounds {kind : TokenKind} {error : Option ParseError.Kind} {rounds : Nat}
    (enough : spaces.length < rounds) (inside : state.scope.inWhitespace = true)
    (muted : state.report.muted ≠ 0) (here : state.cursor = between before (spaces ++ rest)) :
    (iterate (fun _ => do
      let start ← cursor
      let attempt ← quietly ((withFuel (fuel + 1)).attempt (.token ⟨.oneOf members, kind, error⟩))
      if attempt.isAccepted && (← cursor).position != start.position then return .again ()
      else return .done ()) rounds () : Parser U σ Unit).Gives environment state
        fun _ values after => values = [] ∧
          after = { state with cursor := between (before ++ spaces) rest } := by
  let token : Token U := ⟨.oneOf members, kind, error⟩
  induction spaces generalizing rounds before state with
  | nil =>
    obtain ⟨rounds, rfl⟩ := Nat.exists_eq_succ_of_ne_zero (Nat.ne_of_gt enough)
    rw [List.nil_append] at here
    obtain ⟨failure, failed⟩ := Pattern.runOneOf_between_of_head leads.ends before
    have failed : token.pattern.run state.cursor = .failed failure state.cursor := here ▸ failed
    simp only [gives_iterate_succ, gives_bind, gives_cursor, gives_quietly]
    refine (gives_attemptToken_of_failed failed _).mpr ?_
    simp [Attempt.isAccepted, ← here]
  | cons unit spaces ih =>
    obtain ⟨rounds, rfl⟩ := Nat.exists_eq_succ_of_ne_zero (Nat.ne_zero_of_lt enough)
    have matched : token.pattern.run state.cursor =
        .matched (between (before ++ [unit]) (spaces ++ rest)) := here ▸
      Pattern.runOneOf_between (leads.accepted unit List.mem_cons_self) before (spaces ++ rest)
    simp only [gives_iterate_succ, gives_bind, gives_cursor, gives_quietly]
    refine (gives_attemptToken_muffled inside muted matched).mono ?_
    rintro _ _ _ ⟨rfl, rfl, rfl⟩
    let middle : State U σ := { state with cursor := between (before ++ [unit]) (spaces ++ rest) }
    have later : Leads members spaces rest :=
      ⟨fun other member => leads.accepted other (.tail _ member), leads.ends⟩
    have next := @ih middle (before ++ [unit]) later rounds (Nat.lt_of_succ_lt_succ enough) inside
      muted rfl
    have moved : (Attempt.accepted.isAccepted &&
        middle.cursor.position != state.cursor.position) = true := by
      simp [middle, here, Attempt.isAccepted]
    rw [if_pos moved, gives_pure]
    refine next.mono ?_
    rintro _ _ _ ⟨rfl, rfl⟩
    exact ⟨rfl, by rw [List.append_assoc]; rfl⟩

variable (skips : Skips environment state.scope members) (enough : spaces.length ≤ fuel)
include skips enough

/-- All the whitespace that is there is skipped. -/
theorem gives_skipWhitespace (here : state.cursor = between before (spaces ++ rest)) :
    (withFuel (fuel + 1)).skipWhitespace.Gives environment state fun _ values after =>
      values = [] ∧ state.Arrives (between (before ++ spaces) rest) after := by
  obtain ⟨kind, error, whitespace⟩ := skips.whitespace
  rw [skipWhitespace, gives_bind, gives_scope, whitespace]
  simp only [skipWith, gives_bind, gives_cursor, gives_scope, gives_modifyScope,
    gives_modifyReport, gives_ite, gives_reportToken, gives_pure, loop]
  refine Gives.mono (gives_skipRounds leads (Nat.lt_succ_of_le enough) rfl
    (Nat.succ_ne_zero _) here) ?_
  rintro _ _ _ ⟨rfl, rfl⟩
  have arrives := State.Arrives.between state (before ++ spaces) rest
  split
  · exact ⟨rfl, arrives.withToken skips.ignores ..⟩
  · exact ⟨rfl, arrives⟩

theorem gives_read (kind : TokenKind) (first stop : Nat) :
    (withFuel (fuel + 1)).skipWhitespace.Gives environment
      ((state.between before (spaces ++ rest)).withToken environment.observer kind first stop)
      fun _ values after =>
        values = [] ∧ state.Arrives (between (before ++ spaces) rest) after := by
  have reported := (State.Arrives.between state before (spaces ++ rest)).withToken skips.ignores
    kind first stop
  rw [← reported.scope] at skips
  refine (gives_skipWhitespace leads skips enough reported.cursor).mono ?_
  rintro _ _ after ⟨rfl, skipped⟩
  exact ⟨rfl, reported.trans skipped⟩

section Tokens

variable {content : Token U}
  (matched : content.pattern.run state.cursor = .matched (between before (spaces ++ rest)))
include matched

private theorem gives_parseToken :
    ((withFuel (fuel + 1)).parseToken content).Gives environment state fun parsed values after =>
      parsed = true ∧ values = [] ∧ state.Arrives (between (before ++ spaces) rest) after := by
  rw [gives_parseToken_of_matched matched]
  refine (gives_read leads skips enough _ _ _).mono ?_
  rintro _ _ after ⟨rfl, arrives⟩
  exact ⟨rfl, rfl, arrives⟩

private theorem gives_attemptToken :
    ((withFuel (fuel + 1)).attemptToken content).Gives environment state
      fun attempt values after => attempt = .accepted ∧ values = [] ∧
        state.Arrives (between (before ++ spaces) rest) after := by
  rw [gives_attemptToken_of_matched matched]
  refine (gives_read leads skips enough _ _ _).mono ?_
  rintro _ _ after ⟨rfl, arrives⟩
  exact ⟨rfl, rfl, arrives⟩

end Tokens

section Literals

variable {text : String}
  (here : state.cursor = between before (CodeUnit.ofText text ++ (spaces ++ rest)))
include here

theorem gives_parse_literal :
    ((withFuel (fuel + 2)).parse (.literal text)).Gives environment state
      fun parsed values after => parsed = true ∧ values = [] ∧
        state.Arrives (between (before ++ CodeUnit.ofText text ++ spaces) rest) after :=
  gives_parseToken leads skips enough (here ▸ Literal.run_between ..)

theorem gives_attempt_literal :
    ((withFuel (fuel + 2)).attempt (.literal text)).Gives environment state
      fun attempt values after => attempt = .accepted ∧ values = [] ∧
        state.Arrives (between (before ++ CodeUnit.ofText text ++ spaces) rest) after :=
  gives_attemptToken leads skips enough (here ▸ Literal.run_between ..)

theorem gives_probe_literal :
    ((withFuel (fuel + 2)).probe (.literal text)).Gives environment state
      fun attempt values after => attempt = .accepted ∧ values = [] ∧ after = state := by
  refine gives_probe fun there cursor scope => ?_
  refine (gives_attempt_literal leads (scope ▸ skips.unobserved) enough (cursor.trans here)).mono ?_
  exact fun _ _ _ given => given.1

end Literals

section OtherText

omit leads skips enough

variable {text : String} (nonempty : (CodeUnit.ofText text : List U) ≠ [])
  (other : rest.head? ≠ (CodeUnit.ofText text).head?) (here : state.cursor = between before rest)
include nonempty other here

theorem gives_attempt_literal_of_head :
    ((withFuel (fuel + 1)).attempt (.literal text)).Gives environment state
      fun attempt values after => attempt = .backtracked ∧ values = [] ∧ after = state := by
  have failed : (Token.literal text : Token U).pattern.run state.cursor = .failed _ _ :=
    here ▸ Literal.run_between_of_head rfl nonempty before other
  exact (gives_attemptToken_of_failed failed _).mpr ⟨rfl, rfl, rfl⟩

theorem gives_probe_literal_of_head :
    ((withFuel (fuel + 1)).probe (.literal text)).Gives environment state
      fun attempt values after => attempt = .backtracked ∧ values = [] ∧ after = state := by
  refine gives_probe fun there cursor _ => ?_
  refine (gives_attempt_literal_of_head nonempty other (cursor.trans here)).mono ?_
  exact fun _ _ _ given => given.1

end OtherText

/-- A number that the type has is read with its value. -/
theorem gives_parseInteger {type : IntegerType} {digits : DigitRun} {number : Int}
    (matched : digits.run state.cursor = .matched (between before (spaces ++ rest)))
    (converts : digits.convert type false (between before (spaces ++ rest))
      (state.cursor.spanTo (between before (spaces ++ rest))) = .ok number) :
    ((withFuel (fuel + 1)).parseInteger type digits false).Gives environment state
      fun parsed values after => parsed = true ∧ values = [.integer number] ∧
        state.Arrives (between (before ++ spaces) rest) after := by
  simp only [parseInteger, readSign, Bool.false_and, Bool.false_eq_true, if_false, gives_bind,
    gives_cursor, matched]
  simp only [acceptInteger, converts, gives_bind, gives_setCursor, gives_reportToken, gives_emit,
    gives_pure]
  refine (gives_read leads skips enough _ _ _).mono ?_
  rintro _ _ after ⟨rfl, arrives⟩
  exact ⟨trivial, rfl, arrives⟩

omit leads skips enough in
/-- Where there is no digit, a number fails with an error there, and nothing is read. -/
theorem gives_parseInteger_of_failed {type : IntegerType} {digits : DigitRun}
    (failed : digits.run state.cursor = .failed .expectedDigit state.cursor) :
    (run.parseInteger type digits false).Gives environment state fun parsed values after =>
      parsed = false ∧ values = [] ∧ after = state.withError environment .expectedDigit
        state.cursor.position (.empty state.cursor.position) := by
  simp only [parseInteger, readSign, Bool.false_and, Bool.false_eq_true, if_false, gives_bind,
    gives_cursor, failed, gives_setCursor, gives_reportFailure, gives_pure]
  simp [State.withSkipped, Report.withSkipped, Cursor.spanTo, Span.between, Span.empty,
    Pattern.errorKind]

end Runner
end Descent
