import Descent.Proofs.CursorMotion
import Descent.Proofs.Effects

/-! Parsers that only look: conditions on what follows, on variables, and the choice
between rules that are not run yet. Searches move the cursor and change nothing else. -/

namespace Descent

namespace Parser

variable {U σ α β : Type} {environment : Environment U σ} {state : State U σ}

/-- A parser that produces nothing and leaves the state as it was. -/
def Looks (parser : Parser U σ α) : Prop :=
  ∀ environment state, parser.Ensures environment state fun _ values after =>
    values = [] ∧ after = state

theorem Looks.ensures {parser : Parser U σ α} (looks : parser.Looks)
    {post : α → List Value → State U σ → Prop} (holds : ∀ answer, post answer [] state) :
    parser.Ensures environment state post := by
  refine (looks environment state).mono ?_
  intro answer values after ensured
  obtain ⟨rfl, rfl⟩ := ensured
  exact holds answer

def LooksFor (parser : Parser U σ α) (kind : α → Prop) : Prop :=
  ∀ environment state, parser.Ensures environment state fun answer values after =>
    values = [] ∧ after = state ∧ kind answer

theorem LooksFor.looks {parser : Parser U σ α} {kind : α → Prop} (looks : parser.LooksFor kind) :
    parser.Looks :=
  fun environment state => (looks environment state).mono fun _ _ _ looked => ⟨looked.1, looked.2.1⟩

theorem looksFor_pure {kind : α → Prop} {answer : α} (holds : kind answer) :
    (pure answer : Parser U σ α).LooksFor kind := by
  simpa [LooksFor] using fun _ _ => holds

theorem looks_pure (answer : α) : (pure answer : Parser U σ α).Looks := by
  simp [Looks]

theorem looks_bind {first : Parser U σ α} {rest : α → Parser U σ β} (looks : first.Looks)
    (then_looks : ∀ answer, (rest answer).Looks) : (first >>= rest).Looks := by
  intro environment state
  rw [ensures_bind]
  exact looks.ensures fun answer => then_looks answer environment state

theorem looksFor_bind {first : Parser U σ α} {rest : α → Parser U σ β} {kind : β → Prop}
    (looks : first.Looks) (then_looks : ∀ answer, (rest answer).LooksFor kind) :
    (first >>= rest).LooksFor kind := by
  intro environment state
  rw [ensures_bind]
  exact looks.ensures fun answer => then_looks answer environment state

theorem looks_cursor : (cursor : Parser U σ (Cursor U)).Looks := by
  simp [Looks]

private theorem looks_findVariable (name : String) :
    (findVariable name : Parser U σ (Option Binding)).Looks := by
  simp [Looks]

/-- What was speculated about is forgotten, but for the answer and the place. -/
theorem looks_lookAhead_speculate (inner : Parser U σ α) :
    (lookAhead (quietly (speculate inner))).Looks := by
  simp [Looks]

/-- A search that only looks at each place moves the cursor, to where it has its answer. -/
theorem ensures_seek_looking {target : Parser U σ (Option α)} {isLimit : Parser U σ Bool}
    {kind : α → Prop} (looks : target.LooksFor fun answer => ∀ found ∈ answer, kind found)
    (limit_looks : isLimit.Looks) :
    (seek target isLimit).Ensures environment state fun answer values after =>
      values = [] ∧ state.cursor.Reaches after.cursor ∧
        after = { state with cursor := after.cursor } ∧ ∀ found ∈ answer, kind found := by
  refine ensures_seek (fun values middle => values = [] ∧ state.cursor.Reaches middle.cursor ∧
    middle = { state with cursor := middle.cursor }) ?_ ⟨rfl, .refl _, rfl⟩
  intro values middle searched
  refine (looks environment middle).mono ?_
  intro answer more after ensured
  obtain ⟨rfl, rfl, holds⟩ := ensured
  obtain ⟨rfl, reaches, same⟩ := searched
  cases answer with
  | some found => exact ⟨rfl, reaches, same, holds⟩
  | none =>
    refine ⟨⟨rfl, reaches, same, holds⟩, limit_looks.ensures fun limited => ?_⟩
    cases limited with
    | true => exact ⟨rfl, reaches, same, holds⟩
    | false =>
      refine ⟨rfl, reaches.trans after.cursor.reaches_next, ?_⟩
      rw [same]

end Parser

namespace Runner

open Descent.Parser

/-- How a list may go on after a malformed item. -/
def TerminatedList.Resumes {U : Type} (list : TerminatedList U) : ListPhase → Prop
  | .terminator | .item => True
  | .separator => list.separator.isSome
  | .afterSeparator _ | .recovery => False

variable {U σ : Type} {run : Runner U σ}

theorem looks_probe (rule : Rule U) : (run.probe rule).Looks :=
  looks_bind (looks_lookAhead_speculate _) fun _ => looks_pure _

theorem looks_anyAccepts (rules : List (Rule U)) : (run.anyAccepts rules).Looks := by
  induction rules with
  | nil => exact looks_pure _
  | cons rule rest ih =>
    refine looks_bind (looks_probe rule) fun attempt => ?_
    cases attempt.isAccepted with
    | true => exact looks_pure _
    | false => exact ih

theorem looksFor_firstTaken (rules : List (Rule U)) :
    (run.firstTaken rules).LooksFor fun taken => ∀ branch ∈ taken, branch ∈ rules := by
  induction rules with
  | nil => exact looksFor_pure (by simp)
  | cons rule rest ih =>
    refine looksFor_bind (looks_probe rule) fun attempt => ?_
    cases attempt.isBacktracked with
    | true => exact fun environment state => (ih environment state).mono fun _ _ _ looked =>
      ⟨looked.1, looked.2.1, fun branch found => .tail _ (looked.2.2 branch found)⟩
    | false => exact looksFor_pure (by simp)

theorem looks_peekHolds (rule : Rule U) (expected : Bool) :
    (run.peekHolds rule expected).Looks :=
  looks_bind (looks_probe rule) fun _ => looks_pure _

theorem looks_resumption (list : TerminatedList U) (start : Cursor U) :
    (run.resumption list start).LooksFor fun phase => ∀ found ∈ phase, list.Resumes found := by
  have terminator : (do
      if (← run.probe list.terminator).isAccepted then return some ListPhase.terminator
      return none : Parser U σ (Option ListPhase)).LooksFor
        fun phase => ∀ found ∈ phase, list.Resumes found := by
    refine looksFor_bind (looks_probe _) fun attempt => ?_
    cases attempt.isAccepted with
    | true => exact looksFor_pure (by simp [TerminatedList.Resumes])
    | false => exact looksFor_pure (by simp)
  unfold resumption
  cases separator : list.separator with
  | some separator =>
    refine looksFor_bind (looks_probe _) fun attempt => ?_
    cases attempt.isAccepted with
    | true => exact looksFor_pure (by simp [TerminatedList.Resumes, separator])
    | false => exact terminator
  | none =>
    refine looksFor_bind looks_cursor fun here => ?_
    by_cases moved : start.position < here.position
    · simp only [moved, if_true]
      refine looksFor_bind (looks_probe _) fun attempt => ?_
      cases attempt.isBacktracked with
      | true => exact terminator
      | false => exact looksFor_pure (by simp [TerminatedList.Resumes])
    · simpa only [moved, if_false] using terminator

theorem looks_recoveryAt (list : TerminatedList U) (start : Cursor U) :
    (run.recoveryAt list start).LooksFor fun ended =>
      ∀ found ∈ ended, ∀ phase ∈ found, list.Resumes phase := by
  intro environment state
  unfold recoveryAt
  rw [ensures_bind]
  refine (looks_resumption list start environment state).mono fun found _ after looked => ?_
  obtain ⟨rfl, rfl, resumes⟩ := looked
  cases found with
  | some phase => simpa using resumes
  | none =>
    rw [ensures_bind]
    refine (looks_anyAccepts list.limits).ensures fun limited => ?_
    cases limited <;> simp

theorem looks_findFlag (name : String) : (findFlag name : Parser U σ (Option Bool)).Looks :=
  looks_bind (looks_findVariable name) fun _ => looks_pure _

theorem looks_findCounter (name : String) :
    (findCounter name : Parser U σ (Option Int)).Looks :=
  looks_bind (looks_findVariable name) fun _ => looks_pure _

theorem looks_findLexeme (name : String) :
    (findLexeme name : Parser U σ (Option Span)).Looks :=
  looks_bind (looks_findVariable name) fun _ => looks_pure _

theorem looks_requirement (name : String) (operation : Operation (Rule U)) :
    (requirement name operation : Parser U σ (Option Bool)).Looks := by
  cases operation with
  | requireFlag expected => exact looks_bind (looks_findFlag name) fun _ => looks_pure _
  | requireCounter expected => exact looks_bind (looks_findCounter name) fun _ => looks_pure _
  | _ => exact looks_pure _

end Runner
end Descent
