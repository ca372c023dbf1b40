import Descent.Parsing.Interpreter
import Descent.Proofs.TokenOutcomes
import Descent.Rule.Build

/-! Literals where no whitespace is skipped. One that is there is read, and nothing else changes;
one that is not is declined, or fails where the input stops to agree with it. -/

namespace Descent

open Descent.Parser

variable {U σ : Type}

theorem Cursor.Passes.moveTo {before after : Cursor U} {word : List U}
    (passes : before.Passes word after) :
    before.moveTo (before.position + word.length) = after := by
  have inside := after.position_le_stop
  rw [passes.stop, passes.position] at inside
  apply Cursor.ext
  · exact passes.source.symm
  · rw [passes.position]
    exact Nat.min_eq_left inside
  · exact passes.stop.symm

namespace Literal

variable [CodeUnit U] {literal : Literal U} {before after : Cursor U}

private theorem run_of_passes (passes : before.Passes literal.units after) :
    literal.run before = .matched after := by
  suffices general : ∀ (units : List U) (before : Cursor U) (index : Nat),
      before.Passes units after →
      runFrom literal.foldCase index before units = .matched after from
    general literal.units before 0 passes
  intro units
  induction units with
  | nil =>
    intro before index passes
    rw [runFrom, passes.unique (.nil before)]
  | cons unit units ih =>
    intro before index passes
    have same : sameUnit literal.foldCase unit unit = true := by simp [sameUnit]
    rw [runFrom, Cursor.peek_eq_head?, passes.remaining, List.cons_append, List.head?_cons,
      Option.any_some, if_pos same]
    exact ih before.next (index + 1) passes.tail

/-- An input agrees with so many units of a word, and not with the next one. -/
structure AgreesUpTo (word input : List U) (index : Nat) : Prop where
  inside : index < word.length
  same : word.take index <+: input
  differs : input[index]? ≠ word[index]?

/-- A text that does not begin with a literal agrees with it as far as it can. -/
theorem run_of_not_prefix (exact : literal.foldCase = false)
    (other : ¬literal.units <+: before.remaining) :
    ∃ index, AgreesUpTo literal.units before.remaining index ∧
      literal.run before =
        .failed (.literalMismatch index) (before.moveTo (before.position + index)) := by
  suffices general : ∀ (units : List U) (before : Cursor U) (first : Nat),
      ¬units <+: before.remaining → ∃ index, AgreesUpTo units before.remaining index ∧
        runFrom false first before units =
          .failed (.literalMismatch (first + index)) (before.moveTo (before.position + index)) by
    obtain ⟨index, agrees, failed⟩ := general _ before 0 other
    rw [Nat.zero_add] at failed
    exact ⟨index, agrees, by rw [run, exact, failed]⟩
  intro units
  induction units with
  | nil =>
    intro before first other
    exact absurd List.nil_prefix other
  | cons unit units ih =>
    intro before first other
    by_cases here : before.remaining.head? = some unit
    · obtain ⟨rest, text⟩ := List.head?_eq_some_iff.mp here
      have passes : before.Passes [unit] before.next := .next text
      have found : before.peek = some unit := (Cursor.peek_eq_head? before).trans here
      have same : sameUnit false unit unit = true := by simp [sameUnit]
      rw [passes.remaining] at other ⊢
      have later : ¬units <+: before.next.remaining :=
        fun begins => other (List.cons_prefix_cons.mpr ⟨rfl, begins⟩)
      obtain ⟨index, agrees, failed⟩ := ih before.next (first + 1) later
      refine ⟨index + 1, ⟨Nat.succ_lt_succ agrees.inside, ?_, agrees.differs⟩, ?_⟩
      · exact List.cons_prefix_cons.mpr ⟨rfl, agrees.same⟩
      · rw [runFrom, found, Option.any_some, if_pos same, failed, Cursor.next_moveTo found]
        rw [Nat.add_assoc, Nat.add_comm 1]
    · refine ⟨0, ⟨Nat.succ_pos _, List.nil_prefix, ?_⟩, ?_⟩
      · rwa [← List.head?_eq_getElem?]
      · have unequal : before.peek.any (sameUnit false unit) = false := by
          rw [Cursor.peek_eq_head?]
          cases found : before.remaining.head? with
          | none => rfl
          | some next =>
            have differs : unit ≠ next := fun same => here (same ▸ found)
            simp [sameUnit, differs]
        have stays : before.moveTo (before.position + 0) = before := before.moveTo_position
        rw [runFrom, unequal, stays]
        rfl

end Literal

namespace State

def reading (observer : Observer σ) (state : State U σ) (word : List U) : State U σ :=
  State.withToken observer .literal state.cursor.position (state.cursor.position + word.length)
    { state with cursor := state.cursor.moveTo (state.cursor.position + word.length) }

def readingAll (observer : Observer σ) (state : State U σ) (words : List (List U)) : State U σ :=
  words.foldl (reading observer) state

variable (observer : Observer σ) {state : State U σ} {word : List U} {words : List (List U)}

theorem readingAll_append (state : State U σ) (words more : List (List U)) :
    state.readingAll observer (words ++ more) =
      (state.readingAll observer words).readingAll observer more :=
  List.foldl_append

theorem passes_reading {rest : List U} (text : state.cursor.remaining = word ++ rest) :
    state.cursor.Passes word (state.reading observer word).cursor ∧
      (state.reading observer word).cursor.remaining = rest := by
  obtain ⟨after, passes, ends⟩ := Cursor.Passes.of_remaining text
  have same : (state.reading observer word).cursor = after := passes.moveTo
  rw [same]
  exact ⟨passes, ends⟩

theorem passes_reading_of_begins (begins : word <+: state.cursor.remaining) :
    state.cursor.Passes word (state.reading observer word).cursor := by
  obtain ⟨rest, text⟩ := begins
  exact (passes_reading observer text.symm).1

/-- A literal comes after another one if it is there when that has been read. -/
theorem append_prefix_iff (state : State U σ) (word more : List U) :
    word ++ more <+: state.cursor.remaining ↔ word <+: state.cursor.remaining ∧
      more <+: (state.reading observer word).cursor.remaining := by
  constructor
  · intro both
    have begins := (List.prefix_append word more).trans both
    rw [(passes_reading_of_begins observer begins).remaining, List.prefix_append_right_inj] at both
    exact ⟨begins, both⟩
  · intro both
    rw [(passes_reading_of_begins observer both.1).remaining, List.prefix_append_right_inj]
    exact both.2

theorem passes_readingAll {rest : List U} (text : state.cursor.remaining = words.flatten ++ rest) :
    state.cursor.Passes words.flatten (state.readingAll observer words).cursor ∧
      (state.readingAll observer words).cursor.remaining = rest := by
  induction words generalizing state with
  | nil => exact ⟨.nil _, text⟩
  | cons word words ih =>
    rw [List.flatten_cons, List.append_assoc] at text
    obtain ⟨first, later⟩ := passes_reading observer text
    obtain ⟨passes, ends⟩ := ih later
    exact ⟨first.trans passes, ends⟩

/-- It makes no difference to a literal that it is read without whitespace. -/
theorem againWithWhitespace_reading (state : State U σ) (word : List U) :
    (state.withoutWhitespace.reading observer word).againWithWhitespace =
      state.reading observer word := rfl

theorem whitespace?_withoutWhitespace (state : State U σ) :
    state.withoutWhitespace.scope.whitespace? = none := by
  simp [Scope.whitespace?, withoutWhitespace]

end State

namespace Runner

variable [CodeUnit U] {environment : Environment U σ} {state : State U σ} {run : Runner U σ}

def stoppedIn (environment : Environment U σ) (state : State U σ) (text : String)
    (index : Nat) : State U σ :=
  let stopped := state.cursor.moveTo (state.cursor.position + index)
  (State.withSkipped environment.observer state.cursor stopped
    { state with cursor := stopped }).withError environment (.expectedLiteral text index)
      stopped.position (state.cursor.spanTo stopped)

section Alone

variable (alone : state.scope.whitespace? = none)
include alone

theorem gives_literal_of_begins {text : String}
    (begins : CodeUnit.ofText text <+: state.cursor.remaining) :
    (∀ post, (run.attemptToken (.literal text)).Gives environment state post ↔
      post .accepted [] (state.reading environment.observer (CodeUnit.ofText text))) ∧
    ∀ post, (run.parseToken (.literal text)).Gives environment state post ↔
      post true [] (state.reading environment.observer (CodeUnit.ofText text)) := by
  obtain ⟨rest, begins⟩ := begins
  obtain ⟨after, passes, -⟩ := Cursor.Passes.of_remaining begins.symm
  have matched : (Token.literal text : Token U).pattern.run state.cursor = .matched after :=
    Literal.run_of_passes passes
  have reads : State.withToken environment.observer (Token.literal text : Token U).kind
      state.cursor.position after.position { state with cursor := after } =
        state.reading environment.observer (CodeUnit.ofText text) := by
    rw [State.reading, passes.moveTo, passes.position]
    rfl
  have still : (state.reading environment.observer (CodeUnit.ofText text)).scope.whitespace? =
      none := alone
  constructor
  · intro post
    rw [gives_attemptToken_of_matched matched, reads]
    exact gives_skipWhitespace_alone still _
  · intro post
    rw [gives_parseToken_of_matched matched, reads]
    exact gives_skipWhitespace_alone still _

/-- A literal is read if it is there and declined if it is not, and nothing else happens. -/
theorem gives_attemptToken_literal (text : String)
    (post : Attempt → List Value → State U σ → Prop) :
    (run.attemptToken (.literal text)).Gives environment state post ↔
      if CodeUnit.ofText text <+: state.cursor.remaining then
        post .accepted [] (state.reading environment.observer (CodeUnit.ofText text))
      else post .backtracked [] state := by
  by_cases begins : CodeUnit.ofText text <+: state.cursor.remaining
  · rw [if_pos begins]
    exact (gives_literal_of_begins alone begins).1 post
  · have other : ¬(Literal.ofText text : Literal U).units <+: state.cursor.remaining := begins
    obtain ⟨index, -, failed⟩ := Literal.run_of_not_prefix rfl other
    have failed : (Token.literal text : Token U).pattern.run state.cursor = .failed _ _ := failed
    rw [if_neg begins]
    exact gives_attemptToken_of_failed failed post

theorem gives_attempt_literal_alone (fuel : Nat) (text : String)
    (post : Attempt → List Value → State U σ → Prop) :
    ((withFuel (fuel + 1)).attempt (.literal text)).Gives environment state post ↔
      if CodeUnit.ofText text <+: state.cursor.remaining then
        post .accepted [] (state.reading environment.observer (CodeUnit.ofText text))
      else post .backtracked [] state :=
  gives_attemptToken_literal alone text post

end Alone

/-- A literal that is not there is an error, where the input stops to agree with it. -/
theorem gives_parseToken_literal_of_not_prefix (run : Runner U σ) (environment : Environment U σ)
    {text : String} (other : ¬CodeUnit.ofText text <+: state.cursor.remaining) :
    ∃ index, Literal.AgreesUpTo (CodeUnit.ofText text) state.cursor.remaining index ∧
      ∀ post, (run.parseToken (.literal text)).Gives environment state post ↔
        post false [] (stoppedIn environment state text index) := by
  have other : ¬(Literal.ofText text : Literal U).units <+: state.cursor.remaining := other
  obtain ⟨index, agrees, failed⟩ := Literal.run_of_not_prefix rfl other
  have failed : (Token.literal text : Token U).pattern.run state.cursor = .failed _ _ := failed
  refine ⟨index, agrees, fun post => ?_⟩
  simp only [parseToken, gives_bind, gives_cursor, failed, gives_setCursor, gives_reportFailure,
    gives_pure]
  rfl

end Runner
end Descent
