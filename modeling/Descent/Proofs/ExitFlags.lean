import Descent.Proofs.CountedLeaves

/-! The variables that loops watch. Whatever rule is run, as long as the grammar has no business
with these variables, the outer ones stay as they are, and the innermost one is set if and only if
a leave was counted. -/

namespace Descent

open Descent.Parser

namespace Rule

variable {U : Type}

/-- Somewhere in a rule, something is done with a variable. -/
inductive Names (name : String) : Rule U → Prop
  | variable (operation : Operation (Rule U)) : Names name (.onVariable name operation)
  | part {rule inner : Rule U} (part : inner ∈ rule.parts) (names : inner.Names name) :
    Names name rule
  | recovery {rule recovery : Rule U} (names : recovery.Names name) :
    Names name (.recovering rule (some recovery))

end Rule

inductive Grammar.Names {U : Type} (name : String) (grammar : Grammar U) : Prop
  | rule {production : Production U} (member : production ∈ grammar.productions)
      (names : production.rule.Names name)
  | own {production : Production U} {whitespace : Rule U}
      (member : production ∈ grammar.productions)
      (skipped : production.whitespace = some whitespace) (names : whitespace.Names name)
  | whitespace {whitespace : Rule U} (skipped : grammar.whitespace = some whitespace)
      (names : whitespace.Names name)

def Scope.Names {U : Type} (name : String) (scope : Scope U) : Prop :=
  ∃ frame ∈ scope.frames, ∃ whitespace ∈ frame.whitespace, whitespace.Names name

namespace Bindings

/-- The variables that loops watch, at their places among the others. -/
def exits (bindings : Bindings) : List (Option Binding) :=
  bindings.map fun entry => if entry.1 = loopExit then some entry.2 else none

/-- The same with the innermost one set. -/
def raised : List (Option Binding) → List (Option Binding)
  | [] => []
  | none :: outer => none :: raised outer
  | some _ :: outer => some (.flag true) :: outer

@[simp] theorem exits_loopExit (content : Binding) (bindings : Bindings) :
    exits ((loopExit, content) :: bindings) = some content :: exits bindings := by
  simp [exits]

theorem exits_cons {name : String} (other : name ≠ loopExit) (content : Binding)
    (bindings : Bindings) : exits ((name, content) :: bindings) = none :: exits bindings := by
  simp [exits, other]

@[simp] theorem length_exits (bindings : Bindings) : (exits bindings).length = bindings.length :=
  List.length_map _

theorem exits_restore (bindings : Bindings) (height : Nat) :
    exits (bindings.restore height) = (exits bindings).drop (bindings.length - height) :=
  List.map_drop

private theorem exits_assign {name : String} (other : name ≠ loopExit) (content : Binding)
    (bindings : Bindings) : exits (assign name content bindings) = exits bindings := by
  induction bindings with
  | nil => rfl
  | cons entry outer ih =>
    obtain ⟨key, old⟩ := entry
    rw [assign]
    split
    next same => rw [same, exits_cons other, exits_cons other]
    next => exact congrArg (_ :: ·) ih

theorem exits_assign_loopExit (bindings : Bindings) :
    exits (assign loopExit (.flag true) bindings) = raised (exits bindings) := by
  induction bindings with
  | nil => rfl
  | cons entry outer ih =>
    obtain ⟨key, old⟩ := entry
    by_cases same : key = loopExit
    · simp [assign, same, raised]
    · rw [assign, if_neg same, exits_cons same, exits_cons same, raised, ih]

private theorem raised_replicate (added : Nat) (outer : List (Option Binding)) :
    raised (List.replicate added none ++ outer) = List.replicate added none ++ raised outer := by
  induction added with
  | zero => rfl
  | succ added ih => rw [List.replicate_succ, List.cons_append, raised, ih, List.cons_append]

@[simp] theorem raised_raised (exits : List (Option Binding)) :
    raised (raised exits) = raised exits := by
  induction exits with
  | nil => rfl
  | cons exit outer ih =>
    cases exit with
    | none => rw [raised, raised, ih]
    | some content => rfl

@[simp] theorem length_raised (exits : List (Option Binding)) :
    (raised exits).length = exits.length := by
  induction exits with
  | nil => rfl
  | cons exit outer ih =>
    cases exit with
    | none => simp [raised, ih]
    | some content => rfl

/-- Where no loop is running, none is left. -/
theorem raised_of_find_none {bindings : Bindings} (missing : bindings.find loopExit = none) :
    raised (exits bindings) = exits bindings := by
  induction bindings with
  | nil => rfl
  | cons entry outer ih =>
    obtain ⟨key, old⟩ := entry
    have others := List.lookup_eq_none_iff.mp missing
    have other : key ≠ loopExit := by
      intro same
      simpa [same] using others (key, old) (.head _)
    have rest : Bindings.find outer loopExit = none :=
      List.lookup_eq_none_iff.mpr fun entry member => others entry (.tail _ member)
    rw [exits_cons other, raised, ih rest]

end Bindings

namespace Scope

variable {U : Type} {before middle after : Scope U} {leaves more : Nat}

/-- From one scope to another, with so many leaves on the way: the variables that loops watch stay
as they are, but for the innermost one, which is set by a leave. Other variables may have come on
top of them. -/
structure Signals (leaves : Nat) (before after : Scope U) : Prop where
  frames : after.frames = before.frames
  exits : ∃ added, after.bindings.exits = List.replicate added none ++
    if leaves = 0 then before.bindings.exits else Bindings.raised before.bindings.exits

namespace Signals

/-- Without a leave, only other variables can come on top. -/
theorem of_added (added : Nat) (frames : after.frames = before.frames)
    (exits : after.bindings.exits = List.replicate added none ++ before.bindings.exits) :
    Signals 0 before after :=
  ⟨frames, added, exits⟩

theorem of_eq (frames : after.frames = before.frames)
    (bindings : after.bindings = before.bindings) : Signals 0 before after :=
  of_added 0 frames (congrArg Bindings.exits bindings)

protected theorem refl (scope : Scope U) : Signals 0 scope scope := of_eq rfl rfl

protected theorem trans (first : Signals leaves before middle)
    (second : Signals more middle after) :
    Signals (leaves + more) before after where
  frames := second.frames.trans first.frames
  exits := by
    obtain ⟨inner, exits⟩ := first.exits
    obtain ⟨added, exits'⟩ := second.exits
    refine ⟨added + inner, ?_⟩
    rw [exits', exits, List.replicate_add, List.append_assoc]
    congr 1
    by_cases stays : leaves = 0
    · rw [if_pos stays, stays, Nat.zero_add, Bindings.raised_replicate]
      split <;> rfl
    · have left : leaves + more ≠ 0 := by omega
      rw [if_neg stays, if_neg left, Bindings.raised_replicate, Bindings.raised_raised, ite_self]

/-- The height comes back, and with it the variables as they were, but for a leave. -/
theorem restored (signals : Signals leaves before after) :
    (after.bindings.restore before.bindings.length).exits =
      if leaves = 0 then before.bindings.exits else Bindings.raised before.bindings.exits := by
  obtain ⟨added, exits⟩ := signals.exits
  have height := congrArg List.length exits
  have same : (if leaves = 0 then before.bindings.exits
      else Bindings.raised before.bindings.exits).length = before.bindings.length := by
    split <;> simp
  rw [Bindings.length_exits, List.length_append, List.length_replicate, same] at height
  rw [Bindings.exits_restore, exits, height, Nat.add_sub_cancel]
  exact List.drop_left' List.length_replicate

end Signals

end Scope

/-- What a run that counts does to the variables that loops watch. -/
def Marked {U : Type} (before after : State U Nat) : Prop :=
  ∃ leaves, after.report.notes = before.report.notes + leaves ∧
    before.scope.Signals leaves after.scope

namespace Marked

variable {U : Type} {before middle after : State U Nat}

theorem of_eq (frames : after.scope.frames = before.scope.frames)
    (bindings : after.scope.bindings = before.scope.bindings)
    (count : after.report.notes = before.report.notes) : Marked before after :=
  ⟨0, count, .of_eq frames bindings⟩

protected theorem refl (state : State U Nat) : Marked state state := of_eq rfl rfl rfl

protected theorem trans (first : Marked before middle) (second : Marked middle after) :
    Marked before after := by
  obtain ⟨leaves, count, signals⟩ := first
  obtain ⟨more, count', signals'⟩ := second
  exact ⟨leaves + more, by omega, signals.trans signals'⟩

/-- Only the frames, the variables and the count are asked about. -/
theorem congr (marked : Marked before middle) (frames : after.scope.frames = middle.scope.frames)
    (bindings : after.scope.bindings = middle.scope.bindings)
    (count : after.report.notes = middle.report.notes) : Marked before after :=
  marked.trans (.of_eq frames bindings count)

theorem bound {name : String} (other : name ≠ loopExit) (content : Binding) (state : State U Nat) :
    Marked state (state.withBindings ((name, content) :: ·)) :=
  ⟨0, rfl, .of_added 1 rfl (Bindings.exits_cons other content state.scope.bindings)⟩

theorem assigned {name : String} (other : name ≠ loopExit) (content : Binding)
    (state : State U Nat) : Marked state (state.withBindings (Bindings.assign name content)) :=
  ⟨0, rfl, .of_added 0 rfl (Bindings.exits_assign other content state.scope.bindings)⟩

end Marked

/-- A run that counts, in which nothing is done with the variables that loops watch. -/
structure Undisturbed {U : Type} (environment : Environment U Nat) (state : State U Nat) :
    Prop where
  observer : environment.observer = .silent
  grammar : ¬environment.grammar.Names loopExit
  scope : ¬state.scope.Names loopExit

theorem Marked.undisturbed {U : Type} {environment : Environment U Nat} {before after : State U Nat}
    (marked : Marked before after) (undisturbed : Undisturbed environment before) :
    Undisturbed environment after :=
  { undisturbed with
    scope := by
      obtain ⟨leaves, -, signals⟩ := marked
      intro names
      exact undisturbed.scope (by rwa [Scope.Names, ← signals.frames]) }

namespace Parser

variable {U α β : Type} {environment : Environment U Nat} {state : State U Nat}

/-- The innermost of the variables that loops watch is set if and only if a leave is counted, and
the others stay as they are. -/
def Marks (parser : Parser U Nat α) : Prop :=
  ∀ environment state, Undisturbed environment state →
    parser.Ensures environment state fun _ _ after => Marked state after

namespace Marks

theorem after {before : State U Nat} {parser : Parser U Nat α} (marks : parser.Marks)
    (marked : Marked before state) (undisturbed : Undisturbed environment before) :
    parser.Ensures environment state fun _ _ last => Marked before last :=
  (marks environment state (marked.undisturbed undisturbed)).mono
    fun _ _ _ more => marked.trans more

protected theorem bind {first : Parser U Nat α} {rest : α → Parser U Nat β} (marks : first.Marks)
    (then_marks : ∀ answer, (rest answer).Marks) : (first >>= rest).Marks := by
  intro environment state undisturbed
  rw [ensures_bind]
  refine (marks environment state undisturbed).mono fun answer _ middle marked => ?_
  exact (then_marks answer).after marked undisturbed

end Marks

theorem Looks.marks {parser : Parser U Nat α} (looks : parser.Looks) : parser.Marks :=
  fun _ state _ => looks.ensures fun _ => .refl state

theorem marks_pure (answer : α) : (pure answer : Parser U Nat α).Marks :=
  (looks_pure answer).marks

theorem marks_cursor : (cursor : Parser U Nat (Cursor U)).Marks :=
  looks_cursor.marks

theorem marks_emit (value : Value) : (emit value : Parser U Nat Unit).Marks :=
  fun _ state _ => (ensures_emit ..).mpr (.refl state)

theorem marks_emitAll (values : List Value) : (emitAll values : Parser U Nat Unit).Marks :=
  fun _ state _ => (ensures_emitAll ..).mpr (.refl state)

theorem marks_emitUnlessNothing (value : Value) :
    (emitUnlessNothing value : Parser U Nat Unit).Marks := by
  unfold emitUnlessNothing
  split
  · exact marks_pure ()
  · exact marks_emit value

theorem marks_setCursor (cursor : Cursor U) : (setCursor cursor : Parser U Nat Unit).Marks :=
  fun _ _ _ => (ensures_setCursor ..).mpr (.of_eq rfl rfl rfl)

/-- Nobody notes what is reported. -/
theorem marks_reportToken (kind : TokenKind) (first stop : Nat) :
    (reportToken kind first stop : Parser U Nat Unit).Marks := by
  intro environment state undisturbed
  rw [ensures_reportToken]
  refine .of_eq rfl rfl ?_
  rw [undisturbed.observer]
  simp only [State.withToken, Report.withToken]
  split <;> rfl

theorem marks_reportSkipped (before after : Cursor U) :
    (reportSkipped before after : Parser U Nat Unit).Marks := by
  unfold reportSkipped
  split
  · exact marks_reportToken _ _ _
  · exact marks_pure ()

theorem marks_reportError (kind : ParseError.Kind) (position : Nat) (span : Span) :
    (reportError kind position span : Parser U Nat Unit).Marks := by
  intro environment state undisturbed
  rw [ensures_reportError]
  refine .of_eq rfl rfl ?_
  simp only [State.withError, Report.withError]
  rw [undisturbed.observer]
  exact ite_self _

theorem marks_reportFailure (before stopped : Cursor U) (kind : ParseError.Kind) :
    (reportFailure before stopped kind : Parser U Nat Unit).Marks :=
  (marks_reportSkipped before stopped).bind fun _ => marks_reportError _ _ _

theorem marks_reported (kind : ParseError.Kind) (position : Nat) (span : Span) (answer : α) :
    (do
      reportError kind position span
      return answer : Parser U Nat α).Marks :=
  (marks_reportError kind position span).bind fun _ => marks_pure answer

theorem marks_reportedHere (kind : ParseError.Kind) (answer : α) :
    (do
      reportErrorAt kind (← cursor).position
      return answer : Parser U Nat α).Marks :=
  marks_cursor.bind fun here => marks_reported kind here.position _ answer

theorem marks_collect {parser : Parser U Nat α} (marks : parser.Marks) :
    (collect parser).Marks := by
  simpa [Marks] using marks

theorem marks_quietly {parser : Parser U Nat α} (marks : parser.Marks) :
    (quietly parser).Marks := by
  simpa [Marks] using marks

theorem marks_discard {parser : Parser U Nat α} (marks : parser.Marks) :
    (discard parser : Parser U Nat PUnit).Marks := by
  simpa [Marks] using marks

theorem marks_ofBool {parser : Parser U Nat Bool} (marks : parser.Marks) :
    (do return .ofBool (← parser) : Parser U Nat Attempt).Marks :=
  marks.bind fun _ => marks_pure _

theorem marks_withoutWhitespace {parser : Parser U Nat α} (marks : parser.Marks) :
    (withoutWhitespace parser).Marks := by
  intro environment state undisturbed
  rw [ensures_withoutWhitespace]
  have inside : Marked state state.withoutWhitespace := .of_eq rfl rfl rfl
  exact (marks.after inside undisturbed).mono fun _ _ _ marked => marked.congr rfl rfl rfl

theorem marks_iterate {round : α → Parser U Nat (Round α β)}
    (marks : ∀ current, (round current).Marks) (fuel : Nat) (start : α) :
    (iterate round fuel start).Marks := by
  intro environment state undisturbed
  refine ensures_iterate (fun _ _ middle => Marked state middle) ?_ fuel start (.refl state)
  intro current values middle marked
  refine ((marks current).after marked undisturbed).mono fun answer more after next => ?_
  cases answer <;> exact next

/-- A search that only looks marks nothing. -/
theorem marks_seek {target : Parser U Nat (Option α)} {isLimit : Parser U Nat Bool}
    (looks : target.Looks) (limit_looks : isLimit.Looks) : (seek target isLimit).Marks := by
  intro environment state undisturbed
  have found : target.LooksFor fun answer => ∀ found ∈ answer, True :=
    fun environment state => (looks environment state).mono
      fun _ _ _ looked => ⟨looked.1, looked.2, fun _ _ => trivial⟩
  refine (ensures_seek_looking found limit_looks).mono fun _ _ after searched => ?_
  obtain ⟨-, -, same, -⟩ := searched
  rw [same]
  exact .of_eq rfl rfl rfl

theorem marks_assignVariable {name : String} (other : name ≠ loopExit)
    (change : Binding → Binding) : (assignVariable name change : Parser U Nat Bool).Marks := by
  intro environment state undisturbed
  rw [ensures_assignVariable]
  cases state.scope.bindings.find name with
  | none => exact .refl state
  | some old => exact .assigned other _ state

theorem marks_bindVariable {name : String} (other : name ≠ loopExit) (content : Binding) :
    (bindVariable name content : Parser U Nat Unit).Marks :=
  fun _ state _ => (ensures_bindVariable ..).mpr (.bound other content state)

end Parser
end Descent
