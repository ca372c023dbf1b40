import Descent.Proofs.ExitTokens

/-! The rest of the rules: lists, delimited content, variables, recovery, and loops, which have
a variable of their own to watch. Hence what a leave that is counted does, at every fuel. -/

namespace Descent.Runner

open Descent.Parser

variable {U : Type} {run : Runner U Nat} {environment : Environment U Nat} {state : State U Nat}

section Structure

variable (marks : run.Marks)
include marks

theorem marks_parseAll {rules : List (Rule U)} (unnamed : ∀ rule ∈ rules, ¬rule.Names loopExit) :
    (run.parseAll rules).Marks := by
  induction rules with
  | nil => exact marks_pure true
  | cons rule rest ih =>
    refine (marks.parse (unnamed rule (.head _))).bind fun parsed => ?_
    cases parsed with
    | true => exact ih fun other member => unnamed other (.tail _ member)
    | false => exact marks_pure false

theorem marks_attemptThen {first : Rule U} (unnamed : ¬first.Names loopExit)
    {rest : Parser U Nat Bool} (rest_marks : rest.Marks) : (run.attemptThen first rest).Marks := by
  refine (marks.attempt unnamed).bind fun attempt => ?_
  cases attempt with
  | accepted => exact marks_ofBool rest_marks
  | canceled => exact marks_pure _
  | backtracked => exact marks_pure _

theorem marks_attemptSequence {rules : List (Rule U)}
    (unnamed : ∀ rule ∈ rules, ¬rule.Names loopExit) : (run.attemptSequence rules).Marks := by
  cases rules with
  | nil => exact marks_pure _
  | cons first rest =>
    exact marks_attemptThen marks (unnamed first (.head _))
      (marks_parseAll marks fun other member => unnamed other (.tail _ member))

theorem marks_attemptChoice {members : List (Rule U)}
    (unnamed : ∀ rule ∈ members, ¬rule.Names loopExit) : (run.attemptChoice members).Marks := by
  induction members with
  | nil => exact marks_pure _
  | cons first rest ih =>
    refine (marks.attempt (unnamed first (.head _))).bind fun attempt => ?_
    cases attempt with
    | accepted => exact marks_pure _
    | canceled => exact marks_pure _
    | backtracked => exact ih fun other member => unnamed other (.tail _ member)

theorem marks_parseChoice {members : List (Rule U)}
    (unnamed : ∀ rule ∈ members, ¬rule.Names loopExit) : (run.parseChoice members).Marks := by
  refine (marks_attemptChoice marks unnamed).bind fun attempt => ?_
  cases attempt with
  | accepted => exact marks_pure _
  | canceled => exact marks_pure _
  | backtracked => exact marks_reportedHere _ false

theorem marks_parseOptional {rule : Rule U} (unnamed : ¬rule.Names loopExit) :
    (run.parseOptional rule).Marks := by
  refine (marks.attempt unnamed).bind fun attempt => ?_
  cases attempt with
  | accepted => exact marks_pure _
  | canceled => exact marks_pure _
  | backtracked => exact (marks_emit _).bind fun _ => marks_pure _

theorem marks_parseRepeated {body : Rule U} (unnamed : ¬body.Names loopExit) :
    (run.parseRepeated body).Marks := by
  refine marks_iterate (fun _ => ?_) _ _
  refine marks_cursor.bind fun start => (marks.attempt unnamed).bind fun attempt => ?_
  cases attempt with
  | accepted =>
    refine marks_cursor.bind fun here => ?_
    split <;> exact marks_pure _
  | canceled => exact marks_pure _
  | backtracked => exact marks_pure _

theorem marks_parseRepeatedOnce {body : Rule U} (unnamed : ¬body.Names loopExit) :
    (run.parseRepeatedOnce body).Marks := by
  refine (marks.parse unnamed).bind fun parsed => ?_
  cases parsed with
  | true => exact marks_parseRepeated marks unnamed
  | false => exact marks_pure _

theorem marks_parseTimes {body : Rule U} (unnamed : ¬body.Names loopExit)
    {separator : Option (Rule U)} (also : ∀ rule ∈ separator, ¬rule.Names loopExit) (count : Nat) :
    (run.parseTimes body separator count).Marks := by
  induction count using parseTimes.induct with
  | case1 => exact marks_pure _
  | case2 => exact marks.parse unnamed
  | case3 count more ih =>
    rw [parseTimes]
    · refine (marks.parse unnamed).bind fun parsed => ?_
      cases parsed with
      | false => exact marks_pure _
      | true =>
        cases separator with
        | none => exact ih
        | some separator =>
          refine (marks.parse (also separator rfl)).bind fun separated => ?_
          cases separated with
          | false => exact marks_pure _
          | true => exact ih
    · exact more

omit marks in
theorem marks_attemptPeek (rule : Rule U) (expected : Bool) :
    (run.attemptPeek rule expected).Marks :=
  (looks_peekHolds rule expected).marks.bind fun _ => marks_pure _

omit marks in
theorem marks_parsePeek (rule : Rule U) (expected : Bool) :
    (run.parsePeek rule expected).Marks := by
  refine (looks_peekHolds rule expected).marks.bind fun holds => ?_
  cases holds with
  | true => exact marks_pure true
  | false => exact marks_reportedHere _ true

theorem marks_parseWithoutWhitespace {rule : Rule U} (unnamed : ¬rule.Names loopExit) :
    (run.parseWithoutWhitespace rule).Marks :=
  marks_ifParsed marks (marks_withoutWhitespace (marks.parse unnamed))

theorem marks_attemptWithoutWhitespace {rule : Rule U} (unnamed : ¬rule.Names loopExit) :
    (run.attemptWithoutWhitespace rule).Marks :=
  marks_ifAccepted marks (marks_withoutWhitespace (marks.attempt unnamed))

end Structure

section Lists

private theorem marks_checkTrailing (separator : Separator (Rule U)) (span : Span) :
    (checkTrailing separator span : Parser U Nat Unit).Marks := by
  unfold checkTrailing
  split
  · exact marks_pure ()
  · exact marks_reportError _ _ _

variable (marks : run.Marks)
include marks

private theorem marks_nextItem {item : Rule U} (unnamed : ¬item.Names loopExit)
    (items : List (List Value))
    (before : Cursor U) {declined : Parser U Nat Unit} (declined_marks : declined.Marks) :
    (run.nextItem item items before declined).Marks := by
  refine (marks_collect (marks.attempt unnamed)).bind fun answer => ?_
  obtain ⟨attempt, values⟩ := answer
  cases attempt with
  | accepted =>
    refine marks_cursor.bind fun here => ?_
    split <;> exact marks_pure _
  | canceled => exact marks_pure _
  | backtracked => exact declined_marks.bind fun _ => marks_pure _

section Separated

variable {item : Rule U} (unnamed : ¬item.Names loopExit) {separator : Option (Separator (Rule U))}
  (also : ∀ rule ∈ separator.map Separator.rule, ¬rule.Names loopExit)
include unnamed also

private theorem marks_restOfList (items : List (List Value)) :
    (run.restOfList item separator items).Marks := by
  refine marks_iterate (fun items => ?_) _ _
  refine marks_cursor.bind fun before => ?_
  cases separator with
  | none => exact marks_nextItem marks unnamed items before (marks_pure ())
  | some separator =>
    refine (marks_quietly (marks.attempt (also _ rfl))).bind fun attempt => ?_
    cases attempt with
    | backtracked => exact marks_pure _
    | canceled => exact marks_pure _
    | accepted =>
      exact marks_cursor.bind fun here =>
        marks_nextItem marks unnamed items before (marks_checkTrailing separator _)

private theorem marks_finishList (sink : Sink) (first : List Value) :
    (run.finishList item separator sink first).Marks := by
  refine (marks_restOfList marks unnamed also _).bind fun items => ?_
  cases items with
  | none => exact marks_pure _
  | some items => exact (marks_emitUnlessNothing _).bind fun _ => marks_pure _

theorem marks_attemptList : (run.attemptList item separator).Marks := by
  refine looks_currentSink.marks.bind fun sink => ?_
  refine (marks_collect (marks.attempt unnamed)).bind fun answer => ?_
  obtain ⟨attempt, values⟩ := answer
  cases attempt with
  | accepted => exact marks_ofBool (marks_finishList marks unnamed also sink values)
  | canceled => exact marks_pure _
  | backtracked => exact marks_pure _

theorem marks_parseList : (run.parseList item separator).Marks := by
  refine looks_currentSink.marks.bind fun sink => ?_
  refine (marks_collect (marks.parse unnamed)).bind fun answer => ?_
  obtain ⟨parsed, values⟩ := answer
  cases parsed with
  | true => exact marks_finishList marks unnamed also sink values
  | false => exact marks_pure _

end Separated

omit marks in
private theorem marks_recoverList (list : TerminatedList U) : (run.recoverList list).Marks := by
  refine marks_cursor.bind fun before => ?_
  have searches : (seek (run.recoveryAt list before) (return false)).Marks :=
    marks_seek (looks_recoveryAt list before).looks (looks_pure false)
  exact searches.bind fun _ => marks_cursor.bind fun _ =>
    (marks_reportSkipped _ _).bind fun _ => marks_pure _

section Terminated

variable {list : TerminatedList U} (terminator : ¬list.terminator.Names loopExit)
  (item : ¬list.item.Names loopExit)
  (also : ∀ rule ∈ list.separator.map Separator.rule, ¬rule.Names loopExit)
include terminator item also

private theorem marks_listStep (phase : ListPhase) (items : List (List Value)) :
    (run.listStep list phase items).Marks := by
  cases phase with
  | terminator =>
    refine (marks_collect (marks.attempt terminator)).bind fun answer => ?_
    obtain ⟨attempt, values⟩ := answer
    cases attempt <;> exact marks_pure _
  | separator =>
    unfold listStep
    cases separated : list.separator with
    | none => exact marks_pure _
    | some separator =>
      rw [separated] at also
      refine marks_cursor.bind fun before => ?_
      refine (marks_quietly (marks.parse (also _ rfl))).bind fun parsed => ?_
      cases parsed with
      | true => exact marks_cursor.bind fun _ => marks_pure _
      | false => exact marks_pure _
  | afterSeparator span =>
    refine (marks_collect (marks.attempt terminator)).bind fun answer => ?_
    obtain ⟨attempt, values⟩ := answer
    cases attempt with
    | accepted =>
      dsimp only
      cases list.separator with
      | none => exact marks_pure _
      | some separator => exact (marks_checkTrailing separator span).bind fun _ => marks_pure _
    | canceled => exact marks_pure _
    | backtracked => exact marks_pure _
  | item =>
    refine (marks_collect (marks.parse item)).bind fun answer => ?_
    obtain ⟨parsed, values⟩ := answer
    cases parsed <;> exact marks_pure _
  | recovery =>
    refine (marks_recoverList list).bind fun next => ?_
    cases next <;> exact marks_pure _

theorem marks_parseTerminatedList (mayBeEmpty : Bool) :
    (run.parseTerminatedList list mayBeEmpty).Marks := by
  refine looks_currentSink.marks.bind fun sink => ?_
  have steps : (run.loop (if mayBeEmpty then ListPhase.terminator else .item, [])
      fun current => run.listStep list current.1 current.2).Marks :=
    marks_iterate (fun current => marks_listStep marks terminator item also _ _) _ _
  refine steps.bind fun result => ?_
  cases result with
  | none => exact marks_pure _
  | some result =>
    exact (marks_emitUnlessNothing _).bind fun _ => (marks_emitAll _).bind fun _ => marks_pure _

end Terminated

end Lists

section Delimiters

private theorem marks_flush (content : Content) (stop : Nat) :
    (flush content stop : Parser U Nat Content).Marks := by
  obtain ⟨pending, items⟩ := content
  cases pending with
  | none => exact marks_pure _
  | some first => exact (marks_reportToken _ _ _).bind fun _ => marks_pure _

private theorem marks_escapeUnit (value : Cursor U → Cursor U → Value) :
    (escapeUnit value : Parser U Nat Attempt).Marks :=
  marks_cursor.bind fun _ => (marks_setCursor _).bind fun _ => (marks_reportToken _ _ _).bind
    fun _ => (marks_emit _).bind fun _ => marks_pure _

private theorem marks_closeContent (marks : run.Marks) {form : Delimited U}
    (closing : ¬form.closing.Names loopExit) (content : Content) :
    (run.closeContent form content).Marks := by
  have closes : (do
      let content ← flush content (← cursor).position
      return (content, ← collect (run.attempt form.closing)) :
        Parser U Nat (Content × Attempt × List Value)).Marks :=
    marks_cursor.bind fun _ => (marks_flush _ _).bind fun _ =>
      (marks_collect (marks.attempt closing)).bind fun _ => marks_pure _
  unfold closeContent
  split
  · refine (looks_probe form.closing).marks.bind fun attempt => ?_
    split
    · exact marks_pure _
    · exact closes
  · exact closes

variable [CodeUnit U]

private theorem marks_contentUnit (form : Delimited U) (content : Content) (unit : U) :
    (contentUnit form content unit : Parser U Nat Content).Marks := by
  refine marks_cursor.bind fun before => ?_
  dsimp only
  split
  · exact (marks_setCursor _).bind fun _ => marks_pure _
  · exact (marks_flush _ _).bind fun flushed => (marks_setCursor _).bind fun _ =>
      (marks_reportToken _ _ _).bind fun _ => marks_reported _ _ _ flushed

variable (marks : run.Marks)
include marks

private theorem marks_escapeSequence {actions : List (EscapeAction (Rule U))}
    (unnamed : ∀ rule ∈ actions.flatMap EscapeAction.parts, ¬rule.Names loopExit) :
    (run.escapeSequence actions).Marks := by
  induction actions with
  | nil => exact marks_pure _
  | cons action rest ih =>
    have ih := ih fun rule member => unnamed rule (by simp [member])
    cases action with
    | map unit value =>
      refine marks_cursor.bind fun here => ?_
      split
      · exact marks_escapeUnit _
      · exact ih
    | capture members =>
      refine marks_cursor.bind fun here => ?_
      split
      · exact marks_escapeUnit _
      · exact ih
    | rule rule =>
      refine (marks.attempt (unnamed rule (by simp [EscapeAction.parts]))).bind fun attempt => ?_
      cases attempt with
      | accepted => exact marks_pure _
      | canceled => exact marks_pure _
      | backtracked => exact ih

private theorem marks_escaped {escape : Escape U (Rule U)}
    (unnamed : ∀ rule ∈ escape.actions.flatMap EscapeAction.parts, ¬rule.Names loopExit)
    (content : Content) : (run.escaped escape content).Marks := by
  refine marks_cursor.bind fun before => (marks_flush _ _).bind fun flushed => ?_
  refine (marks_quietly (marks_parseToken marks escape.introducer)).bind fun parsed => ?_
  cases parsed with
  | false => exact marks_pure _
  | true =>
    refine (marks_collect (marks_escapeSequence marks unnamed)).bind fun answer => ?_
    obtain ⟨attempt, values⟩ := answer
    cases attempt with
    | accepted => exact marks_pure _
    | canceled => exact marks_pure _
    | backtracked =>
      exact marks_cursor.bind fun _ => marks_reported _ _ _ (Round.again flushed)

section Content

variable {form : Delimited U} (closing : ¬form.closing.Names loopExit)
  (escapes : ∀ escape ∈ form.escapes, ∀ rule ∈ escape.actions.flatMap EscapeAction.parts,
    ¬rule.Names loopExit)
include closing escapes

private theorem marks_contentStep (opened : Nat) (content : Content) :
    (run.contentStep form opened content).Marks := by
  refine (marks_closeContent marks closing content).bind fun answer => ?_
  obtain ⟨content, attempt, values⟩ := answer
  cases attempt with
  | accepted => exact marks_pure _
  | canceled => exact marks_pure _
  | backtracked =>
    refine marks_cursor.bind fun here => ?_
    cases here.peek with
    | none =>
      exact (marks_discard (marks_flush content here.position)).bind fun _ =>
        marks_reported _ _ _ (Round.done none)
    | some unit =>
      dsimp only
      cases found : form.escapes.find? fun escape => escape.introducer.pattern.matchesAt here with
      | some escape =>
        exact marks_escaped marks (escapes escape (List.mem_of_find?_eq_some found)) content
      | none => exact (marks_contentUnit form content unit).bind fun _ => marks_pure _

private theorem marks_parseContent (opened : Nat) : (run.parseContent form opened).Marks := by
  refine looks_currentSink.marks.bind fun sink => ?_
  have steps : (run.loop ⟨none, []⟩ (run.contentStep form opened)).Marks :=
    marks_iterate (marks_contentStep marks closing escapes opened) _ _
  refine steps.bind fun result => ?_
  cases result with
  | none => exact marks_pure _
  | some result =>
    exact (marks_emitUnlessNothing _).bind fun _ => (marks_emitAll _).bind fun _ => marks_pure _

variable {opening : Rule U} (opens : ¬opening.Names loopExit)
include opens

theorem marks_attemptDelimited : (run.attemptDelimited opening form).Marks :=
  marks_cursor.bind fun here => marks_ifAccepted marks (marks_withoutWhitespace
    (marks_attemptThen marks opens (marks_parseContent marks closing escapes here.position)))

theorem marks_parseDelimited : (run.parseDelimited opening form).Marks := by
  refine marks_cursor.bind fun here => marks_ifParsed marks (marks_withoutWhitespace ?_)
  refine (marks.parse opens).bind fun parsed => ?_
  cases parsed with
  | true => exact marks_parseContent marks closing escapes here.position
  | false => exact marks_pure _

end Content

end Delimiters

section Variables

private theorem marks_missingVariable (name : String) (position : Nat) :
    (missingVariable name position : Parser U Nat Bool).Marks :=
  marks_reported _ _ _ false

private theorem marks_contextMismatch (position : Nat) (span : Span) :
    (contextMismatch position span : Parser U Nat Bool).Marks :=
  marks_reported _ _ _ false

private theorem marks_parseRequirement (name : String) (operation : Operation (Rule U)) :
    (parseRequirement name operation : Parser U Nat Bool).Marks := by
  refine marks_cursor.bind fun here => ?_
  refine (looks_requirement name operation).marks.bind fun answer => ?_
  rcases answer with _ | _ | _
  · exact marks_missingVariable name _
  · exact marks_contextMismatch _ _
  · exact marks_pure _

theorem marks_attemptRequirement (name : String) (operation : Operation (Rule U)) :
    (attemptRequirement name operation : Parser U Nat Attempt).Marks := by
  refine (looks_requirement name operation).marks.bind fun answer => ?_
  rcases answer with _ | _ | _
  · exact marks_cursor.bind fun here =>
      (marks_missingVariable name here.position).bind fun _ => marks_pure _
  · exact marks_pure _
  · exact marks_pure _

variable (marks : run.Marks) {name : String} (other : name ≠ loopExit)
include marks other

private theorem marks_parseMeasure {rule : Rule U} (unnamed : ¬rule.Names loopExit)
    (negative : Bool) : (run.parseMeasure name rule negative).Marks := by
  refine marks_cursor.bind fun before => (looks_findCounter name).marks.bind fun counter => ?_
  cases counter with
  | none => exact marks_missingVariable name _
  | some value =>
    refine (marks.parse unnamed).bind fun parsed => ?_
    cases parsed with
    | false => exact marks_pure _
    | true => exact marks_cursor.bind fun _ => marks_assignVariable other _

private theorem marks_parseCaptureVariable {rule : Rule U} (unnamed : ¬rule.Names loopExit) :
    (run.parseCaptureVariable name rule).Marks := by
  refine marks_cursor.bind fun start => ?_
  refine (marks_withoutWhitespace (marks.parse unnamed)).bind fun parsed => ?_
  cases parsed with
  | false => exact marks_pure _
  | true =>
    have skips : (do
        run.skipWhitespace
        return true : Parser U Nat Bool).Marks :=
      (marks_skipWhitespace marks).bind fun _ => marks_pure _
    refine marks_cursor.bind fun here => (marks_assignVariable other _).bind fun assigned => ?_
    cases assigned with
    | true => exact skips
    | false => exact (marks_bindVariable other _).bind fun _ => skips

variable [CodeUnit U]

omit other in
private theorem marks_parseRematch {rule : Rule U} (unnamed : ¬rule.Names loopExit) :
    (run.parseRematch name rule).Marks := by
  refine marks_cursor.bind fun before => (looks_findLexeme name).marks.bind fun lexeme => ?_
  cases lexeme with
  | none => exact marks_missingVariable name _
  | some expected =>
    refine (marks_withoutWhitespace (marks.parse unnamed)).bind fun parsed => ?_
    cases parsed with
    | false => exact marks_pure _
    | true =>
      refine marks_cursor.bind fun here => ?_
      change (if here.slice (before.spanTo here) = here.slice expected then _ else _ :
        Parser U Nat Bool).Marks
      split
      · exact (marks_skipWhitespace marks).bind fun _ => marks_pure _
      · exact marks_contextMismatch _ _

omit other in
theorem marks_parseVariable {operation : Operation (Rule U)}
    (unnamed : ¬(Rule.onVariable name operation).Names loopExit) :
    (run.parseVariable name operation).Marks := by
  have other : name ≠ loopExit := by
    intro same
    rw [same] at unnamed
    exact unnamed (.variable operation)
  have part (rule : Rule U) (member : rule ∈ operation.parts) : ¬rule.Names loopExit :=
    fun names => unnamed (.part member names)
  have missing (position : Nat) : (missingVariable name position : Parser U Nat Bool).Marks :=
    marks_missingVariable name position
  refine marks_cursor.bind fun here => ?_
  cases operation with
  | create initial => exact (marks_bindVariable other initial).bind fun _ => marks_pure _
  | setFlag value =>
    refine (marks_assignVariable other _).bind fun assigned => ?_
    cases assigned with
    | true => exact marks_pure _
    | false => exact missing _
  | toggleFlag =>
    refine (looks_findFlag name).marks.bind fun flag => ?_
    cases flag with
    | none => exact missing _
    | some value => exact marks_assignVariable other _
  | selectFlag set unset =>
    refine (looks_findFlag name).marks.bind fun flag => ?_
    rcases flag with _ | _ | _
    · exact missing _
    · exact marks.parse (part unset (by simp [Operation.parts]))
    · exact marks.parse (part set (by simp [Operation.parts]))
  | requireFlag expected => exact marks_parseRequirement name _
  | requireCounter expected => exact marks_parseRequirement name _
  | add amount =>
    refine (looks_findCounter name).marks.bind fun counter => ?_
    cases counter with
    | none => exact missing _
    | some value => exact marks_assignVariable other _
  | measure rule negative =>
    exact marks_parseMeasure marks other (part rule (by simp [Operation.parts])) negative
  | compareCounter value less equal greater =>
    refine (looks_findCounter name).marks.bind fun counter => ?_
    cases counter with
    | none => exact missing _
    | some counter =>
      change (if counter < value then run.parse less
        else if counter = value then run.parse equal else run.parse greater).Marks
      split
      · exact marks.parse (part less (by simp [Operation.parts]))
      · split
        · exact marks.parse (part equal (by simp [Operation.parts]))
        · exact marks.parse (part greater (by simp [Operation.parts]))
  | capture rule =>
    exact marks_parseCaptureVariable marks other (part rule (by simp [Operation.parts]))
  | rematch rule => exact marks_parseRematch marks (part rule (by simp [Operation.parts]))

end Variables

section Recovery

theorem marks_parseFind (targets limits : List (Rule U)) :
    (run.parseFind targets limits).Marks := by
  refine marks_cursor.bind fun before => ?_
  have looks : (do
      return if ← run.anyAccepts targets then some () else none :
        Parser U Nat (Option Unit)).Looks :=
    looks_bind (looks_anyAccepts targets) fun _ => looks_pure _
  refine (marks_seek looks (looks_anyAccepts limits)).bind fun found => ?_
  cases found with
  | none => exact (marks_setCursor before).bind fun _ => marks_pure _
  | some found =>
    exact marks_cursor.bind fun _ => (marks_reportSkipped _ _).bind fun _ => marks_pure _

variable (marks : run.Marks)
include marks

/-- Whatever branch is taken is one of the branches. -/
theorem marks_parseRecover {branches : List (Rule U)}
    (unnamed : ∀ rule ∈ branches, ¬rule.Names loopExit) (limits : List (Rule U)) :
    (run.parseRecover branches limits).Marks := by
  refine marks_cursor.bind fun before => ?_
  intro environment state undisturbed
  rw [ensures_bind]
  refine (ensures_seek_looking (looksFor_firstTaken branches) (looks_anyAccepts limits)).mono ?_
  intro taken _ after searched
  obtain ⟨-, -, same, inside⟩ := searched
  have marked : Marked state after := .of_eq (by rw [same]) (by rw [same]) (by rw [same])
  refine Marks.after ?_ marked undisturbed
  refine marks_cursor.bind fun here => (marks_reportSkipped _ _).bind fun _ => ?_
  cases taken with
  | none => exact marks_pure _
  | some branch => exact marks.parse (unnamed branch (inside branch rfl))

private theorem marks_attemptMember {members : List (Rule U)}
    (unnamed : ∀ rule ∈ members, ¬rule.Names loopExit) (index : Nat) :
    (run.attemptMember index members).Marks := by
  induction members generalizing index with
  | nil => exact marks_pure _
  | cons member rest ih =>
    refine (marks.attempt (unnamed member (.head _))).bind fun attempt => ?_
    cases attempt with
    | accepted => exact marks_pure _
    | canceled => exact marks_pure _
    | backtracked => exact ih (fun other member => unnamed other (.tail _ member)) (index + 1)

theorem marks_parseMembers {members : List (Rule U)}
    (unnamed : ∀ rule ∈ members, ¬rule.Names loopExit) (partly : Bool) (seen : List Nat)
    (missing : Nat) : (run.parseMembers members partly seen missing).Marks := by
  induction missing generalizing seen with
  | zero => exact marks_pure _
  | succ missing ih =>
    refine marks_cursor.bind fun before => ?_
    refine (marks_attemptMember marks unnamed 0).bind fun answer => ?_
    cases answer with
    | none =>
      cases partly with
      | true => exact marks_pure _
      | false => exact marks_reported _ _ _ false
    | some taken =>
      obtain ⟨index, attempt⟩ := taken
      change Parser.Marks (if !attempt.isAccepted then _ else _)
      split
      · exact marks_pure _
      · split
        · exact marks_cursor.bind fun _ => marks_reported _ _ _ true
        · exact ih (index :: seen)

variable [CodeUnit U]

private theorem marks_recoverFrom (rule : Rule U) {recovery : Option (Rule U)}
    (unnamed : ∀ inner ∈ recovery, ¬inner.Names loopExit) :
    (run.recoverFrom rule recovery).Marks := by
  cases recovery with
  | some recovery => exact marks.parse (unnamed recovery rfl)
  | none =>
    have skips : (skipMalformed rule : Parser U Nat Bool).Marks :=
      marks_cursor.bind fun _ => (marks_setCursor _).bind fun _ => marks_pure _
    exact marks_cursor.bind fun _ => skips.bind fun _ => marks_cursor.bind fun _ =>
      (marks_reportSkipped _ _).bind fun _ => marks_pure _

section Recovering

variable {rule : Rule U} (unnamed : ¬rule.Names loopExit) {recovery : Option (Rule U)}
  (also : ∀ inner ∈ recovery, ¬inner.Names loopExit)
include unnamed also

theorem marks_parseRecovering : (run.parseRecovering rule recovery).Marks := by
  refine (marks_collect (marks.parse unnamed)).bind fun answer => ?_
  obtain ⟨parsed, values⟩ := answer
  cases parsed with
  | true => exact (marks_emitAll values).bind fun _ => marks_pure _
  | false => exact marks_recoverFrom marks rule also

theorem marks_attemptRecovering : (run.attemptRecovering rule recovery).Marks := by
  refine (marks_collect (marks.attempt unnamed)).bind fun answer => ?_
  obtain ⟨attempt, values⟩ := answer
  cases attempt with
  | accepted => exact (marks_emitAll values).bind fun _ => marks_pure _
  | canceled => exact marks_ofBool (marks_recoverFrom marks rule also)
  | backtracked => exact (marks_emitAll values).bind fun _ => marks_pure _

end Recovering

omit marks in
theorem marks_attemptLookahead (needle limit : Pattern U) :
    (attemptLookahead needle limit : Parser U Nat Attempt).Marks :=
  marks_cursor.bind fun _ => marks_pure _

omit marks in
theorem marks_parseLookahead (needle limit : Pattern U) :
    (parseLookahead needle limit : Parser U Nat Bool).Marks := by
  refine marks_cursor.bind fun here => ?_
  split
  · exact marks_pure _
  · exact marks_reportedHere _ true

end Recovery

end Descent.Runner
