import Descent.Proofs.EndingTokens

/-! Every kind of rule but those that call productions or skip what is malformed comes to an end, if
the rules inside it do. A loop needs no more than that, since it goes on only after something was
read. -/

namespace Descent

namespace Parser

variable {U σ : Type}

private theorem plain_findVariable (name : String) :
    (findVariable name : Parser U σ (Option Binding)).Plain :=
  fun _ _ => by simp [findVariable, bindings]

private theorem plain_assignVariable (name : String) (change : Binding → Binding) :
    (assignVariable name change : Parser U σ Bool).Plain := by
  intro environment state
  simp only [assignVariable, findVariable, bindings, gives_bind, gives_scope, gives_pure]
  cases state.scope.bindings.find name <;> simp [modifyBindings]

private theorem plain_bindVariable (name : String) (binding : Binding) :
    (bindVariable name binding : Parser U σ Unit).Plain :=
  fun _ _ => by simp [bindVariable, modifyBindings]

private theorem plain_restoreBindings (height : Nat) :
    (restoreBindings height : Parser U σ Unit).Plain :=
  fun _ _ => by simp [restoreBindings, modifyBindings]

end Parser

namespace Runner

open Descent.Parser

variable {U σ : Type} [CodeUnit U] {environment : Environment U σ}
  {places : List (Frame U) → Bool → Prop} {rule : Rule U}

section Structure

private theorem ends_parseAll {rules : List (Rule U)}
    (ends : ∀ rule ∈ rules, TerminatesAt environment places rule) :
    Ends environment places fun run => run.parseAll rules := by
  induction rules with
  | nil => exact ends_pure true
  | cons rule rest ih =>
    apply (ends rule (.head _)).parse.bind
    intro parsed
    cases parsed with
    | true => exact ih fun other member => ends other (.tail _ member)
    | false => exact ends_pure false

theorem Ends.attemptThen (ends : Ends environment places fun run => run.attempt rule)
    {rest : Runner U σ → Parser U σ Bool} (next : Ends environment places rest) :
    Ends environment places fun run => run.attemptThen rule (rest run) := by
  apply ends.bind
  intro attempt
  cases attempt with
  | accepted => exact next.ofBool
  | canceled => exact ends_pure _
  | backtracked => exact ends_pure _

theorem terminatesAt_sequence {rules : List (Rule U)}
    (ends : ∀ rule ∈ rules, TerminatesAt environment places rule) :
    TerminatesAt environment places (.sequence rules) := by
  apply terminatesAt (ends_parseAll ends)
  cases rules with
  | nil => exact ends_pure Attempt.accepted
  | cons first rest =>
    apply (ends first (.head _)).attempt.attemptThen
    exact ends_parseAll fun rule member => ends rule (.tail _ member)

theorem TerminatesAt.branch (ends : TerminatesAt environment places rule) {rest : List (Rule U)}
    (others : ∀ other ∈ rest, TerminatesAt environment places other) :
    TerminatesAt environment places (.branch rule rest) := by
  apply terminatesAt
  · apply ends_parseAll
    intro other member
    rcases List.mem_cons.mp member with rfl | member
    · exact ends
    · exact others other member
  · exact ends.attempt.attemptThen (ends_parseAll others)

private theorem ends_attemptChoice {members : List (Rule U)}
    (ends : ∀ member ∈ members, TerminatesAt environment places member) :
    Ends environment places fun run => run.attemptChoice members := by
  induction members with
  | nil => exact ends_pure Attempt.backtracked
  | cons member rest ih =>
    apply (ends member (.head _)).attempt.bind
    intro attempt
    cases attempt with
    | accepted => exact ends_pure _
    | canceled => exact ends_pure _
    | backtracked => exact ih fun other member => ends other (.tail _ member)

theorem terminatesAt_choice {members : List (Rule U)}
    (ends : ∀ member ∈ members, TerminatesAt environment places member) :
    TerminatesAt environment places (.choice members) := by
  refine terminatesAt ?_ (ends_attemptChoice ends)
  apply (ends_attemptChoice ends).bind
  intro attempt
  cases attempt with
  | accepted => exact ends_pure true
  | canceled => exact ends_pure false
  | backtracked => exact ends_reportedHere _ false

theorem terminatesAt_otherwise : TerminatesAt environment places (.otherwise : Rule U) :=
  terminatesAt_of_parse (ends_pure true) fun _ => rfl

private theorem ends_peekHolds (ends : TerminatesAt environment places rule) (expected : Bool) :
    Ends environment places fun run => run.peekHolds rule expected :=
  ends.attempt.probe.bind fun _ => ends_pure _

theorem TerminatesAt.peek (ends : TerminatesAt environment places rule) (expected : Bool) :
    TerminatesAt environment places (.peek rule expected) := by
  apply terminatesAt
  · apply (ends_peekHolds ends expected).bind
    intro holds
    cases holds with
    | true => exact ends_pure true
    | false => exact ends_reportedHere _ true
  · exact (ends_peekHolds ends expected).bind fun _ => ends_pure _

theorem terminatesAt_lookahead (needle limit : Pattern U) :
    TerminatesAt environment places (.lookahead needle limit) := by
  apply terminatesAt
  · apply ends_cursor
    intro before
    cases (Pattern.lookahead needle limit).matchesAt before with
    | true => exact ends_pure true
    | false => exact ends_reportedHere _ true
  · exact ends_then (fun _ _ => by simp) fun _ => ends_pure _

private theorem ends_parseRepeated (ends : TerminatesAt environment places rule) :
    Ends environment places fun run => run.parseRepeated rule := by
  refine Ends.loop (fun _ => ?_) ?_ ()
  · apply ends_cursor
    intro before
    apply ends.attempt.bind
    intro attempt
    cases attempt with
    | accepted =>
      apply ends_cursor
      intro after
      split <;> exact ends_pure _
    | canceled => exact ends_pure _
    | backtracked => exact ends_pure _
  · intro fuel _ state
    rw [ensures_bind, ensures_cursor, ensures_bind]
    refine (keeps_attempt fuel rule environment state (.inl trivial)).mono ?_
    intro attempt _ after kept
    cases attempt with
    | accepted =>
      rw [ensures_bind, ensures_cursor]
      split
      next further => simpa using kept.left_lt (Nat.ne_of_gt further)
      · simp
    | canceled => simp
    | backtracked => simp

theorem TerminatesAt.repeated (ends : TerminatesAt environment places rule) :
    TerminatesAt environment places (.repeated rule) :=
  terminatesAt_of_parse (ends_parseRepeated ends) fun _ => rfl

theorem TerminatesAt.repeatedOnce (ends : TerminatesAt environment places rule) :
    TerminatesAt environment places (.repeatedOnce rule) := by
  apply terminatesAt
  · apply ends.parse.bind
    intro parsed
    cases parsed with
    | true => exact ends_parseRepeated ends
    | false => exact ends_pure false
  · exact ends.attempt.attemptThen (ends_parseRepeated ends)

private theorem ends_parseTimes (ends : TerminatesAt environment places rule)
    {separator : Option (Rule U)}
    (also : ∀ other ∈ separator, TerminatesAt environment places other) (count : Nat) :
    Ends environment places fun run => run.parseTimes rule separator count := by
  induction count with
  | zero => exact ends_pure true
  | succ count ih =>
    cases count with
    | zero => exact ends.parse
    | succ count =>
      apply ends.parse.bind
      intro parsed
      cases parsed with
      | false => exact ends_pure false
      | true =>
        cases separator with
        | none => exact ih
        | some separator =>
          apply (also separator rfl).parse.bind
          intro separated
          cases separated with
          | false => exact ends_pure false
          | true => exact ih

theorem TerminatesAt.times (ends : TerminatesAt environment places rule)
    {separator : Option (Rule U)}
    (also : ∀ other ∈ separator, TerminatesAt environment places other) (count : Nat) :
    TerminatesAt environment places (.times count rule separator) :=
  terminatesAt_of_parse (ends_parseTimes ends also count) fun _ => rfl

private theorem ends_loopRound (ends : TerminatesAt environment places rule) (height : Nat) :
    Ends environment places fun run => run.loopRound rule height := by
  apply ends_cursor
  intro before
  apply ends.attempt.bind
  intro attempt
  cases attempt with
  | accepted =>
    apply ends_then (plain_restoreBindings height)
    intro _
    apply ends_then (plain_findVariable loopExit)
    intro found
    apply ends_cursor
    intro after
    split <;> exact ends_pure _
  | canceled => exact ends_pure _
  | backtracked => exact ends_pure _

theorem TerminatesAt.loop (ends : TerminatesAt environment places rule) :
    TerminatesAt environment places (.loop rule) := by
  refine terminatesAt_of_parse ?_ fun _ => rfl
  apply ends_then fun _ _ => by simp [bindingsHeight, bindings]
  intro height
  apply ends_then (plain_bindVariable loopExit (.flag false))
  intro _
  have rounds : Ends environment places fun run =>
      run.loop () fun _ => run.loopRound rule (height + 1) := by
    refine Ends.loop (fun _ => ends_loopRound ends (height + 1)) ?_ ()
    intro fuel _ state
    rw [loopRound, ensures_bind, ensures_cursor, ensures_bind]
    refine (keeps_attempt fuel rule environment state (.inl trivial)).mono ?_
    intro attempt _ after kept
    cases attempt with
    | accepted =>
      simp only [ensures_bind, ensures_restoreBindings, ensures_findVariable, ensures_cursor]
      split
      · simp
      next moves =>
        simp only [Bool.or_eq_true, not_or, beq_iff_eq] at moves
        rw [ensures_pure]
        exact fun _ _ => kept.left_lt moves.2
    | canceled => simp
    | backtracked => simp
  apply rounds.bind
  intro result
  exact ends_then (plain_restoreBindings height) fun _ => ends_pure result

theorem terminatesAt_leave : TerminatesAt environment places (.leave : Rule U) := by
  refine terminatesAt_of_parse ?_ fun _ => rfl
  apply ends_then (plain_assignVariable loopExit fun _ => .flag true)
  intro assigned
  cases assigned with
  | true => exact ends_pure true
  | false => exact ends_reportedHere _ false

end Structure

section Lists

private theorem ends_checkTrailing (separator : Separator (Rule U)) (span : Span) :
    Ends environment places fun _ => (checkTrailing separator span : Parser U σ Unit) := by
  unfold checkTrailing
  split
  · exact ends_pure ()
  · exact ends_plain fun _ _ => by simp [State.withError]

private theorem ends_nextItem (ends : TerminatesAt environment places rule)
    (items : List (List Value)) (before : Cursor U) {declined : Parser U σ Unit}
    (declines : Ends environment places fun _ => declined) :
    Ends environment places fun run => run.nextItem rule items before declined := by
  apply ends.attempt.collect.bind
  rintro ⟨attempt, values⟩
  cases attempt with
  | accepted =>
    apply ends_cursor
    intro after
    split <;> exact ends_pure _
  | canceled => exact ends_pure _
  | backtracked => exact declines.bind fun _ => ends_pure _

/-- A list goes on after an item if something was read since a place before it. -/
theorem ensures_nextItem_reads {first state : State U σ} {before : Cursor U}
    (kept : Kept True first state) (here : before = first.cursor) (fuel : Nat)
    (items : List (List Value)) (declined : Parser U σ Unit) :
    ((withFuel fuel).nextItem rule items before declined).Ensures environment state
      fun answer _ after =>
        ∀ next, answer = .again next → after.cursor.left < first.cursor.left := by
  subst here
  rw [nextItem, ensures_bind, ensures_collect]
  refine (keeps_attempt fuel rule environment state (.inl trivial)).mono ?_
  intro attempt values after further
  cases attempt with
  | accepted =>
    simp only [ensures_bind, ensures_cursor]
    split
    · simp
    next moves =>
      rw [beq_iff_eq] at moves
      simpa using (kept.trans further).left_lt moves
  | canceled => simp
  | backtracked =>
    rw [ensures_bind]
    exact .of_forall fun _ _ _ => by simp

private theorem ends_restOfList (ends : TerminatesAt environment places rule)
    {separator : Option (Separator (Rule U))}
    (also : ∀ other ∈ separator, TerminatesAt environment places other.rule)
    (items : List (List Value)) :
    Ends environment places fun run => run.restOfList rule separator items := by
  refine Ends.loop (fun items => ?_) ?_ items
  · apply ends_cursor
    intro before
    cases separator with
    | none => exact ends_nextItem ends items before (ends_pure ())
    | some separator =>
      apply (also separator rfl).attempt.quietly.bind
      intro attempt
      cases attempt with
      | backtracked => exact ends_pure _
      | canceled => exact ends_pure _
      | accepted =>
        apply ends_cursor
        intro after
        exact ends_nextItem ends items before (ends_checkTrailing separator _)
  · intro fuel items state
    rw [ensures_bind, ensures_cursor]
    cases separator with
    | none => exact ensures_nextItem_reads (.refl True state) rfl fuel items (pure ())
    | some separator =>
      dsimp only
      rw [ensures_bind, ensures_quietly]
      refine (keeps_attempt fuel separator.rule environment state (.inl trivial)).mono ?_
      intro attempt _ middle kept
      cases attempt with
      | backtracked => simp
      | canceled => simp
      | accepted =>
        dsimp only
        rw [ensures_bind, ensures_cursor]
        exact ensures_nextItem_reads kept rfl fuel items _

private theorem ends_finishList (ends : TerminatesAt environment places rule)
    {separator : Option (Separator (Rule U))}
    (also : ∀ other ∈ separator, TerminatesAt environment places other.rule) (sink : Sink)
    (first : List Value) :
    Ends environment places fun run => run.finishList rule separator sink first := by
  apply (ends_restOfList ends also [first]).bind
  intro result
  cases result with
  | none => exact ends_pure false
  | some items =>
    dsimp only
    unfold emitUnlessNothing
    split
    · exact (ends_pure ()).bind fun _ => ends_pure true
    · exact ends_then (fun _ _ => by simp) fun _ => ends_pure true

theorem TerminatesAt.list (ends : TerminatesAt environment places rule)
    {separator : Option (Separator (Rule U))}
    (also : ∀ other ∈ separator, TerminatesAt environment places other.rule) :
    TerminatesAt environment places (.list rule separator) := by
  apply terminatesAt
  · apply ends_then fun _ _ => by simp
    intro sink
    apply ends.parse.collect.bind
    rintro ⟨parsed, values⟩
    cases parsed with
    | true => exact ends_finishList ends also sink values
    | false => exact ends_pure false
  · apply ends_then fun _ _ => by simp
    intro sink
    apply ends.attempt.collect.bind
    rintro ⟨attempt, values⟩
    cases attempt with
    | accepted => exact (ends_finishList ends also sink values).ofBool
    | canceled => exact ends_pure _
    | backtracked => exact ends_pure _

end Lists

section Variables

private theorem ends_missingVariable (name : String) (position : Nat) :
    Ends environment places fun _ => (missingVariable name position : Parser U σ Bool) :=
  ends_plain fun _ _ => by simp [missingVariable, reportErrorAt, State.withError]

private theorem ends_contextMismatch (position : Nat) (span : Span) :
    Ends environment places fun _ => (contextMismatch position span : Parser U σ Bool) :=
  ends_plain fun _ _ => by simp [contextMismatch, State.withError]

omit [CodeUnit U] in
private theorem plain_findFlag (name : String) : (findFlag name : Parser U σ (Option Bool)).Plain :=
  fun _ _ => by simp [findFlag, findVariable, bindings]

omit [CodeUnit U] in
private theorem plain_findCounter (name : String) :
    (findCounter name : Parser U σ (Option Int)).Plain :=
  fun _ _ => by simp [findCounter, findVariable, bindings]

omit [CodeUnit U] in
private theorem plain_findLexeme (name : String) :
    (findLexeme name : Parser U σ (Option Span)).Plain :=
  fun _ _ => by simp [findLexeme, findVariable, bindings]

omit [CodeUnit U] in
private theorem plain_requirement (name : String) (operation : Operation (Rule U)) :
    (requirement name operation : Parser U σ (Option Bool)).Plain := by
  intro environment state
  cases operation <;> simp [requirement, findFlag, findCounter, findVariable, bindings]

private theorem ends_parseRequirement (name : String) (operation : Operation (Rule U)) :
    Ends environment places fun _ => (parseRequirement name operation : Parser U σ Bool) := by
  apply ends_cursor
  intro before
  apply ends_then (plain_requirement name operation)
  intro holds
  match holds with
  | some true => exact ends_pure true
  | some false => exact ends_contextMismatch _ _
  | none => exact ends_missingVariable name _

private theorem ends_attemptRequirement (name : String) (operation : Operation (Rule U)) :
    Ends environment places fun _ => (attemptRequirement name operation : Parser U σ Attempt) := by
  apply ends_then (plain_requirement name operation)
  intro holds
  match holds with
  | some true => exact ends_pure _
  | some false => exact ends_pure _
  | none =>
    apply ends_cursor
    intro before
    exact (ends_missingVariable name before.position).ofBool

private theorem ends_parseMeasure (ends : TerminatesAt environment places rule) (name : String)
    (negative : Bool) : Ends environment places fun run => run.parseMeasure name rule negative := by
  apply ends_cursor
  intro before
  apply ends_then (plain_findCounter name)
  intro counter
  dsimp only
  split
  · exact ends_missingVariable name _
  · apply ends.parse.bind
    intro parsed
    cases parsed with
    | false => exact ends_pure false
    | true =>
      apply ends_cursor
      intro after
      exact ends_plain (plain_assignVariable name _)

variable (skips : Ends environment places fun run => run.skipWhitespace)
include skips

private theorem ends_parseCaptureVariable (ends : TerminatesAt environment places rule)
    (name : String) : Ends environment places fun run => run.parseCaptureVariable name rule := by
  apply ends_cursor
  intro before
  apply ends.parse.withoutWhitespace.bind
  intro parsed
  cases parsed with
  | false => exact ends_pure false
  | true =>
    apply ends_cursor
    intro after
    apply ends_then (plain_assignVariable name _)
    intro assigned
    cases assigned with
    | true => exact skips.bind fun _ => ends_pure true
    | false =>
      apply ends_then (plain_bindVariable name _)
      exact fun _ => skips.bind fun _ => ends_pure true

private theorem ends_parseRematch (ends : TerminatesAt environment places rule) (name : String) :
    Ends environment places fun run => run.parseRematch name rule := by
  apply ends_cursor
  intro before
  apply ends_then (plain_findLexeme name)
  intro kept
  cases kept with
  | none => exact ends_missingVariable name _
  | some expected =>
    apply ends.parse.withoutWhitespace.bind
    intro parsed
    cases parsed with
    | false => exact ends_pure false
    | true =>
      apply ends_cursor
      intro after
      dsimp only
      split
      · exact skips.bind fun _ => ends_pure true
      · exact ends_contextMismatch _ _

private theorem ends_parseVariable (name : String) {operation : Operation (Rule U)}
    (ends : ∀ rule ∈ operation.parts, TerminatesAt environment places rule) :
    Ends environment places fun run => run.parseVariable name operation := by
  apply ends_cursor
  intro before
  cases operation with
  | create initial => exact ends_then (plain_bindVariable name initial) fun _ => ends_pure true
  | setFlag value =>
    apply ends_then (plain_assignVariable name _)
    intro assigned
    cases assigned with
    | true => exact ends_pure true
    | false => exact ends_missingVariable name _
  | toggleFlag =>
    apply ends_then (plain_findFlag name)
    intro flag
    cases flag with
    | none => exact ends_missingVariable name _
    | some value => exact ends_plain (plain_assignVariable name _)
  | selectFlag set unset =>
    apply ends_then (plain_findFlag name)
    intro flag
    match flag with
    | some true => exact (ends set (by simp [Operation.parts])).parse
    | some false => exact (ends unset (by simp [Operation.parts])).parse
    | none => exact ends_missingVariable name _
  | requireFlag expected => exact ends_parseRequirement name _
  | requireCounter expected => exact ends_parseRequirement name _
  | add amount =>
    apply ends_then (plain_findCounter name)
    intro counter
    cases counter with
    | none => exact ends_missingVariable name _
    | some value => exact ends_plain (plain_assignVariable name _)
  | measure rule negative =>
    exact ends_parseMeasure (ends rule (by simp [Operation.parts])) name negative
  | compareCounter value less equal greater =>
    apply ends_then (plain_findCounter name)
    intro counter
    cases counter with
    | none => exact ends_missingVariable name _
    | some counter =>
      dsimp only
      split
      · exact (ends less (by simp [Operation.parts])).parse
      · split
        · exact (ends equal (by simp [Operation.parts])).parse
        · exact (ends greater (by simp [Operation.parts])).parse
  | capture rule =>
    exact ends_parseCaptureVariable skips (ends rule (by simp [Operation.parts])) name
  | rematch rule =>
    exact ends_parseRematch skips (ends rule (by simp [Operation.parts])) name

theorem terminatesAt_onVariable (name : String) {operation : Operation (Rule U)}
    (ends : ∀ rule ∈ operation.parts, TerminatesAt environment places rule) :
    TerminatesAt environment places (.onVariable name operation) := by
  have parses := ends_parseVariable skips name ends
  apply terminatesAt parses
  cases operation with
  | requireFlag expected => exact ends_attemptRequirement name (.requireFlag expected)
  | requireCounter expected => exact ends_attemptRequirement name (.requireCounter expected)
  | _ => exact parses.ofBool

end Variables

section Recovery

private theorem ends_recoverFrom {recovery : Option (Rule U)}
    (ends : ∀ other ∈ recovery, TerminatesAt environment places other) (rule : Rule U) :
    Ends environment places fun run => run.recoverFrom rule recovery := by
  cases recovery with
  | some other => exact (ends other rfl).parse
  | none =>
    dsimp only [recoverFrom]
    exact ends_plain fun _ _ => by simp [skipMalformed, State.withSkipped]

theorem TerminatesAt.recovering (ends : TerminatesAt environment places rule)
    {recovery : Option (Rule U)}
    (also : ∀ other ∈ recovery, TerminatesAt environment places other) :
    TerminatesAt environment places (.recovering rule recovery) := by
  apply terminatesAt
  · apply ends.parse.collect.bind
    rintro ⟨parsed, values⟩
    cases parsed with
    | true => exact ends_then (fun _ _ => by simp) fun _ => ends_pure true
    | false => exact ends_recoverFrom also rule
  · apply ends.attempt.collect.bind
    rintro ⟨attempt, values⟩
    cases attempt with
    | canceled => exact (ends_recoverFrom also rule).ofBool
    | accepted => exact ends_then (fun _ _ => by simp) fun _ => ends_pure _
    | backtracked => exact ends_then (fun _ _ => by simp) fun _ => ends_pure _

theorem terminatesAt_find {targets limits : List (Rule U)}
    (ends : ∀ rule ∈ targets ++ limits, TerminatesAt environment places rule) :
    TerminatesAt environment places (.find targets limits) := by
  refine terminatesAt_of_parse ?_ fun _ => rfl
  have accepts : Ends environment places fun run => run.anyAccepts targets :=
    Ends.anyAccepts fun rule member => (ends rule (List.mem_append_left _ member)).attempt
  have limited : Ends environment places fun run => run.anyAccepts limits :=
    Ends.anyAccepts fun rule member => (ends rule (List.mem_append_right _ member)).attempt
  apply ends_cursor
  intro before
  have target : Ends environment places fun run => do
      return if ← run.anyAccepts targets then some () else none := accepts.bind fun _ => ends_pure _
  apply (target.seek limited (fun _ => looks_bind (looks_anyAccepts targets) fun _ => looks_pure _)
    fun _ => looks_anyAccepts limits).bind
  intro found
  cases found with
  | none => exact ends_then (fun _ _ => by simp) fun _ => ends_pure false
  | some found =>
    apply ends_cursor
    intro after
    exact ends_then (fun _ _ => by simp [State.withSkipped]) fun _ => ends_pure true

private theorem ends_firstTaken {rules : List (Rule U)}
    (ends : ∀ rule ∈ rules, TerminatesAt environment places rule) :
    Ends environment places fun run => run.firstTaken rules := by
  induction rules with
  | nil => exact ends_pure none
  | cons rule rest ih =>
    apply (ends rule (.head _)).attempt.probe.bind
    intro attempt
    cases attempt.isBacktracked with
    | true => exact ih fun other member => ends other (.tail _ member)
    | false => exact ends_pure _

theorem terminatesAt_recover {branches limits : List (Rule U)}
    (ends : ∀ rule ∈ branches ++ limits, TerminatesAt environment places rule) :
    TerminatesAt environment places (.recover branches limits) := by
  refine terminatesAt_of_parse ?_ fun _ => rfl
  have takes : Ends environment places fun run => run.firstTaken branches :=
    ends_firstTaken fun rule member => ends rule (List.mem_append_left _ member)
  have limited : Ends environment places fun run => run.anyAccepts limits :=
    Ends.anyAccepts fun rule member => (ends rule (List.mem_append_right _ member)).attempt
  have looks (fuel : Nat) : ((withFuel fuel : Runner U σ).firstTaken branches).Looks :=
    (looksFor_firstTaken branches).looks
  apply ends_cursor
  intro before
  have searches : Ends environment places fun run =>
      seek (run.firstTaken branches) (run.anyAccepts limits) :=
    takes.seek limited looks fun _ => looks_anyAccepts limits
  have answers (fuel : Nat) (environment : Environment U σ) (state : State U σ) :
      (seek ((withFuel fuel).firstTaken branches) ((withFuel fuel).anyAccepts limits)).Ensures
        environment state fun taken _ _ => ∀ branch ∈ taken, branch ∈ branches :=
    (ensures_seek_looking (looksFor_firstTaken branches) (looks_anyAccepts limits)).mono
      fun _ _ _ searched => searched.2.2.2
  apply searches.bind_where answers
  intro taken among
  apply ends_cursor
  intro after
  apply ends_then fun _ _ => by simp [State.withSkipped]
  intro _
  cases taken with
  | none => exact ends_pure false
  | some branch => exact (ends branch (List.mem_append_left _ (among branch rfl))).parse

private theorem ends_attemptMember {members : List (Rule U)}
    (ends : ∀ member ∈ members, TerminatesAt environment places member) (index : Nat) :
    Ends environment places fun run => run.attemptMember index members := by
  induction members generalizing index with
  | nil => exact ends_pure none
  | cons member rest ih =>
    apply (ends member (.head _)).attempt.bind
    intro attempt
    cases attempt with
    | accepted => exact ends_pure _
    | canceled => exact ends_pure _
    | backtracked => exact ih (fun other member => ends other (.tail _ member)) (index + 1)

private theorem ends_parseMembers {members : List (Rule U)}
    (ends : ∀ member ∈ members, TerminatesAt environment places member) (partly : Bool)
    (seen : List Nat) (missing : Nat) :
    Ends environment places fun run => run.parseMembers members partly seen missing := by
  induction missing generalizing seen with
  | zero => exact ends_pure true
  | succ missing ih =>
    apply ends_cursor
    intro before
    apply (ends_attemptMember ends 0).bind
    intro found
    match found with
    | none =>
      dsimp only
      split
      · exact ends_pure true
      · exact ends_plain fun _ _ => by simp [reportErrorAt, State.withError]
    | some (index, taken) =>
      dsimp only
      split
      · exact ends_pure false
      · split
        · exact ends_plain fun _ _ => by simp [State.withError]
        · exact ih (index :: seen)

theorem terminatesAt_combination {members : List (Rule U)}
    (ends : ∀ member ∈ members, TerminatesAt environment places member) (partly : Bool) :
    TerminatesAt environment places (.combination members partly) :=
  terminatesAt_of_parse (ends_parseMembers ends partly [] members.length) fun _ => rfl

/-- A rule for whitespace of its own has to come to an end only where no whitespace is skipped. -/
theorem terminatesAt_whitespace {inside : List (Frame U) → Bool → Prop}
    (enters : ∀ running quiet, places running quiet → inside running true)
    (ends : TerminatesAt environment inside rule) :
    TerminatesAt environment places (.whitespace rule) :=
  terminatesAt_of_parse ((ends_skipWith enters ends.attempt).bind fun _ => ends_pure true)
    fun _ => rfl

end Recovery
end Runner
end Descent
