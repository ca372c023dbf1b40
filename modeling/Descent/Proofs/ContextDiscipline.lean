import Descent.Proofs.RuleDiscipline

/-! The rest of the rules: delimited content, variables and recovery. Hence the discipline of every
rule, at every fuel. -/

namespace Descent

open Descent.Parser

namespace Runner

variable {U σ : Type} {run : Runner U σ} {binds : Prop} {environment : Environment U σ}
  {state : State U σ}

section Delimiters

theorem tells_flush (content : Content) (stop : Nat) :
    (flush content stop : Parser U σ Content).Tells := by
  obtain ⟨pending, items⟩ := content
  cases pending with
  | none => exact tells_pure _
  | some first => exact (tells_reportToken _ _ _).bind fun _ => tells_pure _

private theorem keeps_escapeUnit (value : Cursor U → Cursor U → Value) :
    (escapeUnit value : Parser U σ Attempt).Keeps binds :=
  keeps_cursor fun _ state quiet =>
    Keeps.moving ((tells_reportToken _ _ _).bind fun _ => (tells_emit _).bind fun _ =>
      tells_pure _).keeps state.cursor.reaches_next quiet

theorem keeps_closeContent (keeps : run.Keeps) (form : Delimited U)
    (binding : form.closing.Creates → binds) (content : Content) :
    (run.closeContent form content).Keeps binds := by
  have closes : (do
      let content ← flush content (← cursor).position
      return (content, ← collect (run.attempt form.closing)) :
        Parser U σ (Content × Attempt × List Value)).Keeps binds :=
    looks_cursor.keeps.bind fun _ => (tells_flush _ _).keeps.bind fun _ =>
      (keeps_collect (keeps.attempt binding)).bind fun _ => keeps_pure _
  unfold closeContent
  split
  · refine (looks_probe form.closing).keeps.bind fun attempt => ?_
    split
    · exact keeps_pure _
    · exact closes
  · exact closes

variable [CodeUnit U]

/-- The place is set anew after a run of content is reported, from where it was before. -/
theorem keeps_contentUnit (form : Delimited U) (content : Content) (unit : U) :
    (contentUnit form content unit : Parser U σ Content).Keeps binds := by
  refine keeps_cursor fun environment state quiet => ?_
  have reaches := state.cursor.reaches_next
  rw [ensures_ite]
  split
  · exact Keeps.moving (keeps_pure _) reaches quiet
  · rw [ensures_bind]
    refine (tells_flush content _ environment state).mono fun flushed _ middle told => ?_
    have kept := (Kept.refl binds state).told told.1 told.2.1 told.2.2
    have reaches : middle.cursor.Reaches state.cursor.next := told.1 ▸ reaches
    rw [ensures_bind, ensures_setCursor]
    refine Keeps.after ?_ (kept.moved reaches) quiet
    exact ((tells_reportToken _ _ _).bind fun _ => tells_reported _ _ _ flushed).keeps

theorem keeps_escapeSequence (keeps : run.Keeps) (actions : List (EscapeAction (Rule U)))
    (binding : ∀ rule ∈ actions.flatMap EscapeAction.parts, rule.Creates → binds) :
    (run.escapeSequence actions).Keeps binds := by
  induction actions with
  | nil => exact keeps_pure _
  | cons action rest ih =>
    have ih := ih fun rule member => binding rule (by simp [member])
    cases action with
    | map unit value =>
      refine looks_cursor.keeps.bind fun here => ?_
      split
      · exact keeps_escapeUnit _
      · exact ih
    | capture members =>
      refine looks_cursor.keeps.bind fun here => ?_
      split
      · exact keeps_escapeUnit _
      · exact ih
    | rule rule =>
      refine (keeps.attempt (binding rule (by simp [EscapeAction.parts]))).bind fun attempt => ?_
      cases attempt with
      | accepted => exact keeps_pure _
      | canceled => exact keeps_pure _
      | backtracked => exact ih

private theorem keeps_escaped (keeps : run.Keeps) (escape : Escape U (Rule U))
    (binding : ∀ rule ∈ escape.actions.flatMap EscapeAction.parts, rule.Creates → binds)
    (content : Content) : (run.escaped escape content).Keeps binds := by
  refine looks_cursor.keeps.bind fun before => (tells_flush _ _).keeps.bind fun flushed => ?_
  refine (keeps_quietly (keeps_parseToken keeps escape.introducer)).bind fun parsed => ?_
  cases parsed with
  | false => exact keeps_pure _
  | true =>
    refine (keeps_collect (keeps_escapeSequence keeps escape.actions binding)).bind ?_
    rintro ⟨attempt, values⟩
    cases attempt with
    | accepted => exact keeps_pure _
    | canceled => exact keeps_pure _
    | backtracked =>
      exact looks_cursor.keeps.bind fun _ => (tells_reported _ _ _ (Round.again flushed)).keeps

theorem keeps_contentStep (keeps : run.Keeps) (form : Delimited U)
    (closing : form.closing.Creates → binds)
    (escapes : ∀ escape ∈ form.escapes, ∀ rule ∈ escape.actions.flatMap EscapeAction.parts,
      rule.Creates → binds) (opened : Nat) (content : Content) :
    (run.contentStep form opened content).Keeps binds := by
  refine (keeps_closeContent keeps form closing content).bind ?_
  rintro ⟨content, attempt, values⟩
  cases attempt with
  | accepted => exact keeps_pure _
  | canceled => exact keeps_pure _
  | backtracked =>
    refine looks_cursor.keeps.bind fun here => ?_
    cases here.peek with
    | none =>
      have flushes : (flush content here.position : Parser U σ Content).Keeps binds :=
        (tells_flush _ _).keeps
      exact (keeps_discard flushes).bind fun _ => (tells_reported _ _ _ (Round.done none)).keeps
    | some unit =>
      dsimp only
      cases found : form.escapes.find? fun escape => escape.introducer.pattern.matchesAt here with
      | some escape =>
        exact keeps_escaped keeps escape (escapes escape (List.mem_of_find?_eq_some found)) content
      | none => exact (keeps_contentUnit form content unit).bind fun _ => keeps_pure _

theorem keeps_parseContent (keeps : run.Keeps) (form : Delimited U)
    (closing : form.closing.Creates → binds)
    (escapes : ∀ escape ∈ form.escapes, ∀ rule ∈ escape.actions.flatMap EscapeAction.parts,
      rule.Creates → binds) (opened : Nat) : (run.parseContent form opened).Keeps binds := by
  refine looks_currentSink.keeps.bind fun sink => ?_
  have steps : (run.loop ⟨none, []⟩ (run.contentStep form opened)).Keeps binds :=
    keeps_iterate (keeps_contentStep keeps form closing escapes opened) _ _
  refine steps.bind fun result => ?_
  cases result with
  | none => exact keeps_pure _
  | some result =>
    exact (tells_emitUnlessNothing _).keeps.bind fun _ => (tells_emitAll _).keeps.bind fun _ =>
      keeps_pure _

private theorem keeps_attemptDelimited (keeps : run.Keeps) {opening : Rule U}
    (binding : opening.Creates → binds) (form : Delimited U)
    (closing : form.closing.Creates → binds)
    (escapes : ∀ escape ∈ form.escapes, ∀ rule ∈ escape.actions.flatMap EscapeAction.parts,
      rule.Creates → binds) : (run.attemptDelimited opening form).Keeps binds :=
  looks_cursor.keeps.bind fun here => keeps_ifAccepted keeps (keeps_withoutWhitespace
    (keeps_attemptThen keeps binding (keeps_parseContent keeps form closing escapes here.position)))

private theorem keeps_parseDelimited (keeps : run.Keeps) {opening : Rule U}
    (binding : opening.Creates → binds) (form : Delimited U)
    (closing : form.closing.Creates → binds)
    (escapes : ∀ escape ∈ form.escapes, ∀ rule ∈ escape.actions.flatMap EscapeAction.parts,
      rule.Creates → binds) : (run.parseDelimited opening form).Keeps binds := by
  refine looks_cursor.keeps.bind fun here => keeps_ifParsed keeps (keeps_withoutWhitespace ?_)
  refine (keeps.parse binding).bind fun parsed => ?_
  cases parsed with
  | true => exact keeps_parseContent keeps form closing escapes here.position
  | false => exact keeps_pure _

end Delimiters

section Variables

private theorem tells_missingVariable (name : String) (position : Nat) :
    (missingVariable name position : Parser U σ Bool).Tells :=
  tells_reported _ _ _ false

private theorem tells_contextMismatch (position : Nat) (span : Span) :
    (contextMismatch position span : Parser U σ Bool).Tells :=
  tells_reported _ _ _ false

private theorem tells_parseRequirement (name : String) (operation : Operation (Rule U)) :
    (parseRequirement name operation : Parser U σ Bool).Tells := by
  refine looks_cursor.tells.bind fun here => ?_
  refine (looks_requirement name operation).tells.bind fun answer => ?_
  rcases answer with _ | _ | _
  · exact tells_missingVariable name _
  · exact tells_contextMismatch _ _
  · exact tells_pure _

private theorem tells_attemptRequirement (name : String) (operation : Operation (Rule U)) :
    (attemptRequirement name operation : Parser U σ Attempt).Tells := by
  refine (looks_requirement name operation).tells.bind fun answer => ?_
  rcases answer with _ | _ | _
  · exact looks_cursor.tells.bind fun here =>
      (tells_missingVariable name here.position).bind fun _ => tells_pure _
  · exact tells_pure _
  · exact tells_pure _

private theorem keeps_parseMeasure (keeps : run.Keeps) (name : String) {rule : Rule U}
    (binding : rule.Creates → binds) (negative : Bool) :
    (run.parseMeasure name rule negative).Keeps binds := by
  refine looks_cursor.keeps.bind fun before => (looks_findCounter name).keeps.bind fun counter => ?_
  cases counter with
  | none => exact (tells_missingVariable name _).keeps
  | some value =>
    refine (keeps.parse binding).bind fun parsed => ?_
    cases parsed with
    | false => exact keeps_pure _
    | true => exact looks_cursor.keeps.bind fun _ => keeps_assignVariable _ _

private theorem keeps_parseCaptureVariable (keeps : run.Keeps) (name : String) (binding : binds)
    (rule : Rule U) : (run.parseCaptureVariable name rule).Keeps binds := by
  refine looks_cursor.keeps.bind fun start => ?_
  refine (keeps_withoutWhitespace (keeps.parse fun _ => binding)).bind fun parsed => ?_
  cases parsed with
  | false => exact keeps_pure _
  | true =>
    have skips : (do
        run.skipWhitespace
        return true : Parser U σ Bool).Keeps binds :=
      (keeps_skipWhitespace keeps).bind fun _ => keeps_pure _
    refine looks_cursor.keeps.bind fun here => (keeps_assignVariable _ _).bind fun assigned => ?_
    cases assigned with
    | true => exact skips
    | false => exact (keeps_bindVariable binding _ _).bind fun _ => skips

variable [CodeUnit U]

private theorem keeps_parseRematch (keeps : run.Keeps) (name : String) {rule : Rule U}
    (binding : rule.Creates → binds) : (run.parseRematch name rule).Keeps binds := by
  refine looks_cursor.keeps.bind fun before => (looks_findLexeme name).keeps.bind fun lexeme => ?_
  cases lexeme with
  | none => exact (tells_missingVariable name _).keeps
  | some expected =>
    refine (keeps_withoutWhitespace (keeps.parse binding)).bind fun parsed => ?_
    cases parsed with
    | false => exact keeps_pure _
    | true =>
      refine looks_cursor.keeps.bind fun here => ?_
      change (if here.slice (before.spanTo here) = here.slice expected then _ else _ :
        Parser U σ Bool).Keeps binds
      split
      · exact (keeps_skipWhitespace keeps).bind fun _ => keeps_pure _
      · exact (tells_contextMismatch _ _).keeps

private theorem keeps_parseVariable (keeps : run.Keeps) (name : String)
    (operation : Operation (Rule U)) (binding : (Rule.onVariable name operation).Creates → binds) :
    (run.parseVariable name operation).Keeps binds := by
  have part (rule : Rule U) (member : rule ∈ operation.parts) : rule.Creates → binds :=
    fun creates => binding (.inside member creates)
  have missing (position : Nat) : (missingVariable name position : Parser U σ Bool).Keeps binds :=
    (tells_missingVariable name position).keeps
  refine looks_cursor.keeps.bind fun here => ?_
  cases operation with
  | create initial =>
    exact (keeps_bindVariable (binding (.create name initial)) name initial).bind fun _ =>
      keeps_pure _
  | setFlag value =>
    refine (keeps_assignVariable _ _).bind fun assigned => ?_
    cases assigned with
    | true => exact keeps_pure _
    | false => exact missing _
  | toggleFlag =>
    refine (looks_findFlag name).keeps.bind fun flag => ?_
    cases flag with
    | none => exact missing _
    | some value => exact keeps_assignVariable _ _
  | selectFlag set unset =>
    refine (looks_findFlag name).keeps.bind fun flag => ?_
    rcases flag with _ | _ | _
    · exact missing _
    · exact keeps.parse (part unset (by simp [Operation.parts]))
    · exact keeps.parse (part set (by simp [Operation.parts]))
  | requireFlag expected => exact (tells_parseRequirement name _).keeps
  | requireCounter expected => exact (tells_parseRequirement name _).keeps
  | add amount =>
    refine (looks_findCounter name).keeps.bind fun counter => ?_
    cases counter with
    | none => exact missing _
    | some value => exact keeps_assignVariable _ _
  | measure rule negative =>
    exact keeps_parseMeasure keeps name (part rule (by simp [Operation.parts])) negative
  | compareCounter value less equal greater =>
    refine (looks_findCounter name).keeps.bind fun counter => ?_
    cases counter with
    | none => exact missing _
    | some counter =>
      change (if counter < value then run.parse less
        else if counter = value then run.parse equal else run.parse greater).Keeps binds
      split
      · exact keeps.parse (part less (by simp [Operation.parts]))
      · split
        · exact keeps.parse (part equal (by simp [Operation.parts]))
        · exact keeps.parse (part greater (by simp [Operation.parts]))
  | capture rule => exact keeps_parseCaptureVariable keeps name (binding (.capture name rule)) rule
  | rematch rule => exact keeps_parseRematch keeps name (part rule (by simp [Operation.parts]))

end Variables

section Recovery

private theorem keeps_parseFind (targets limits : List (Rule U)) :
    (run.parseFind targets limits).Keeps binds := by
  refine keeps_cursor fun environment state quiet => ?_
  have looks : (do
      return if ← run.anyAccepts targets then some () else none :
        Parser U σ (Option Unit)).LooksFor fun answer => ∀ found ∈ answer, True :=
    looksFor_bind (looks_anyAccepts targets) fun _ => looksFor_pure fun _ _ => trivial
  rw [ensures_bind]
  refine (ensures_seek_looking looks (looks_anyAccepts limits)).mono ?_
  intro answer _ after searched
  obtain ⟨-, reaches, same, -⟩ := searched
  rw [same]
  cases answer with
  | none =>
    simp only [ensures_bind, ensures_setCursor, ensures_pure]
    exact .refl binds state
  | some found =>
    refine Keeps.after ?_ ((Kept.refl binds state).moved reaches) quiet
    exact looks_cursor.keeps.bind fun _ => (tells_reportSkipped _ _).keeps.bind fun _ =>
      keeps_pure _

private theorem keeps_parseRecover (keeps : run.Keeps) (branches limits : List (Rule U))
    (binding : ∀ rule ∈ branches, rule.Creates → binds) :
    (run.parseRecover branches limits).Keeps binds := by
  refine keeps_cursor fun environment state quiet => ?_
  rw [ensures_bind]
  refine (ensures_seek_looking (looksFor_firstTaken branches) (looks_anyAccepts limits)).mono ?_
  intro taken _ after searched
  obtain ⟨-, reaches, same, inside⟩ := searched
  rw [same]
  refine Keeps.after ?_ ((Kept.refl binds state).moved reaches) quiet
  refine looks_cursor.keeps.bind fun here => (tells_reportSkipped _ _).keeps.bind fun _ => ?_
  cases taken with
  | none => exact keeps_pure _
  | some branch => exact keeps.parse (binding branch (inside branch rfl))

private theorem keeps_attemptMember (keeps : run.Keeps) (members : List (Rule U))
    (binding : ∀ rule ∈ members, rule.Creates → binds) (index : Nat) :
    (run.attemptMember index members).Keeps binds := by
  induction members generalizing index with
  | nil => exact keeps_pure _
  | cons member rest ih =>
    refine (keeps.attempt (binding member (.head _))).bind fun attempt => ?_
    cases attempt with
    | accepted => exact keeps_pure _
    | canceled => exact keeps_pure _
    | backtracked => exact ih (fun other member => binding other (.tail _ member)) (index + 1)

private theorem keeps_parseMembers (keeps : run.Keeps) (members : List (Rule U))
    (binding : ∀ rule ∈ members, rule.Creates → binds) (partly : Bool) (seen : List Nat)
    (missing : Nat) : (run.parseMembers members partly seen missing).Keeps binds := by
  induction missing generalizing seen with
  | zero => exact keeps_pure _
  | succ missing ih =>
    refine looks_cursor.keeps.bind fun before => ?_
    refine (keeps_attemptMember keeps members binding 0).bind fun answer => ?_
    cases answer with
    | none =>
      cases partly with
      | true => exact keeps_pure _
      | false => exact (tells_reported _ _ _ false).keeps
    | some taken =>
      obtain ⟨index, attempt⟩ := taken
      change Parser.Keeps binds (if !attempt.isAccepted then _ else _)
      split
      · exact keeps_pure _
      · split
        · exact looks_cursor.keeps.bind fun _ => (tells_reported _ _ _ true).keeps
        · exact ih (index :: seen)

private theorem keeps_parseWithoutWhitespace (keeps : run.Keeps) {rule : Rule U}
    (binding : rule.Creates → binds) : (run.parseWithoutWhitespace rule).Keeps binds :=
  keeps_ifParsed keeps (keeps_withoutWhitespace (keeps.parse binding))

private theorem keeps_attemptWithoutWhitespace (keeps : run.Keeps) {rule : Rule U}
    (binding : rule.Creates → binds) : (run.attemptWithoutWhitespace rule).Keeps binds :=
  keeps_ifAccepted keeps (keeps_withoutWhitespace (keeps.attempt binding))

variable [CodeUnit U]

private theorem keeps_recoverFrom (keeps : run.Keeps) (rule : Rule U) (recovery : Option (Rule U))
    (binding : ∀ inner ∈ recovery, inner.Creates → binds) :
    (run.recoverFrom rule recovery).Keeps binds := by
  cases recovery with
  | some recovery => exact keeps.parse (binding recovery rfl)
  | none =>
    refine keeps_cursor fun environment state quiet => ?_
    simp only [skipMalformed, ensures_bind, ensures_cursor, ensures_setCursor, ensures_pure]
    exact (tells_reportSkipped _ _).keeps.after
      ((Kept.refl binds state).moved (rule.reaches_skipMalformed state.cursor)) quiet

private theorem keeps_parseRecovering (keeps : run.Keeps) {rule : Rule U}
    (binding : rule.Creates → binds)
    (recovery : Option (Rule U)) (also : ∀ inner ∈ recovery, inner.Creates → binds) :
    (run.parseRecovering rule recovery).Keeps binds := by
  refine (keeps_collect (keeps.parse binding)).bind ?_
  rintro ⟨parsed, values⟩
  cases parsed with
  | true => exact (tells_emitAll values).keeps.bind fun _ => keeps_pure _
  | false => exact keeps_recoverFrom keeps rule recovery also

private theorem keeps_attemptRecovering (keeps : run.Keeps) {rule : Rule U}
    (binding : rule.Creates → binds) (recovery : Option (Rule U))
    (also : ∀ inner ∈ recovery, inner.Creates → binds) :
    (run.attemptRecovering rule recovery).Keeps binds := by
  refine (keeps_collect (keeps.attempt binding)).bind ?_
  rintro ⟨attempt, values⟩
  cases attempt with
  | accepted => exact (tells_emitAll values).keeps.bind fun _ => keeps_pure _
  | canceled => exact keeps_ofBool (keeps_recoverFrom keeps rule recovery also)
  | backtracked => exact (tells_emitAll values).keeps.bind fun _ => keeps_pure _

private theorem tells_attemptLookahead (needle limit : Pattern U) :
    (attemptLookahead needle limit : Parser U σ Attempt).Tells :=
  looks_cursor.tells.bind fun _ => tells_pure _

private theorem tells_parseLookahead (needle limit : Pattern U) :
    (parseLookahead needle limit : Parser U σ Bool).Tells := by
  refine looks_cursor.tells.bind fun here => ?_
  split
  · exact tells_pure _
  · exact tells_reportedHere _ true

end Recovery

variable [CodeUnit U]

private theorem keeps_parseRule (keeps : run.Keeps) {rule : Rule U}
    (binding : rule.Creates → binds) : (run.parseRule rule).Keeps binds := by
  have part (inner : Rule U) (member : inner ∈ rule.lasting) : inner.Creates → binds :=
    fun creates => binding (.inside member creates)
  cases rule with
  | token token => exact keeps_parseToken keeps token
  | tokenized rule kind => exact keeps_parseTokenized keeps rule kind
  | identifier shape reserved => exact keeps_parseIdentifier keeps shape reserved
  | capture rule => exact keeps_parseCapture keeps (part rule (by simp [Rule.lasting]))
  | position => exact tells_parsePosition.keeps
  | constant value => exact (tells_emit value).keeps.bind fun _ => keeps_pure _
  | integer type digits signed => exact keeps_parseInteger keeps type digits signed
  | codePoint digits => exact keeps_parseCodePoint keeps digits
  | symbol table word => exact keeps_parseSymbol keeps table (part word (by simp [Rule.lasting]))
  | symbolHere table => exact keeps_parseSymbolHere keeps table
  | sequence rules => exact keeps_parseAll keeps rules part
  | branch condition rest => exact keeps_parseAll keeps (condition :: rest) part
  | choice members => exact keeps_parseChoice keeps members part
  | optional rule => exact keeps_parseOptional keeps (part rule (by simp [Rule.lasting]))
  | otherwise => exact keeps_pure _
  | loop body => exact fun _ _ _ => (ensures_parseLoop_kept keeps body).mono fun _ _ _ kept =>
      kept.weaken
  | leave => exact keeps_parseLeave
  | repeated body => exact keeps_parseRepeated keeps (part body (by simp [Rule.lasting]))
  | repeatedOnce body => exact keeps_parseRepeatedOnce keeps (part body (by simp [Rule.lasting]))
  | times count body separator =>
    exact keeps_parseTimes keeps (part body (by simp [Rule.lasting])) separator
      (fun rule member => part rule (by simp_all [Rule.lasting])) count
  | list item separator =>
    exact keeps_parseList keeps (part item (by simp [Rule.lasting])) separator
      fun rule member => part rule (by simp_all [Rule.lasting])
  | terminatedList terminator item separator limits mayBeEmpty =>
    exact keeps_parseTerminatedList keeps ⟨terminator, item, separator, limits⟩
      (part terminator (by simp [Rule.lasting])) (part item (by simp [Rule.lasting]))
      (fun rule member => part rule (by simp_all [Rule.lasting])) mayBeEmpty
  | delimited opening closing content escapes =>
    exact keeps_parseDelimited keeps (part opening (by simp [Rule.lasting]))
      ⟨closing, content, escapes⟩ (part closing (by simp [Rule.lasting]))
      fun escape member rule inside => part rule (by
        simp only [Rule.lasting, List.mem_cons, List.mem_flatMap]
        exact .inr (.inr ⟨escape, member, List.mem_flatMap.mp inside⟩))
  | onVariable name operation => exact keeps_parseVariable keeps name operation binding
  | recovering rule recovery =>
    exact keeps_parseRecovering keeps (part rule (by simp [Rule.lasting])) recovery
      fun inner member => part inner (by simp_all [Rule.lasting])
  | find targets limits => exact keeps_parseFind targets limits
  | recover branches limits => exact keeps_parseRecover keeps branches limits part
  | peek rule expected => exact (tells_parsePeek rule expected).keeps
  | lookahead needle limit => exact (tells_parseLookahead needle limit).keeps
  | call production => exact (keeps_call keeps production false).bind fun _ => keeps_pure _
  | whitespace rule =>
    exact (keeps_skipWith keeps (part rule (by simp [Rule.lasting]))).bind fun _ => keeps_pure _
  | withoutWhitespace rule =>
    exact keeps_parseWithoutWhitespace keeps (part rule (by simp [Rule.lasting]))
  | combination members partly => exact keeps_parseMembers keeps members part partly [] _

private theorem keeps_attemptRule (keeps : run.Keeps) {rule : Rule U}
    (binding : rule.Creates → binds) : (run.attemptRule rule).Keeps binds := by
  have part (inner : Rule U) (member : inner ∈ rule.lasting) : inner.Creates → binds :=
    fun creates => binding (.inside member creates)
  have runs := keeps_ofBool (keeps_parseRule keeps binding)
  cases rule with
  | token token => exact keeps_attemptToken keeps token
  | tokenized rule kind => exact keeps_attemptTokenized keeps rule kind
  | identifier shape reserved => exact keeps_attemptIdentifier keeps shape reserved
  | capture rule => exact keeps_attemptCapture keeps (part rule (by simp [Rule.lasting]))
  | integer type digits signed => exact keeps_attemptInteger keeps type digits signed
  | symbol table word => exact keeps_attemptSymbol keeps table (part word (by simp [Rule.lasting]))
  | symbolHere table => exact keeps_attemptSymbolHere keeps table
  | sequence rules => exact keeps_attemptSequence keeps rules part
  | branch condition rest =>
    exact keeps_attemptThen keeps (part condition (by simp [Rule.lasting]))
      (keeps_parseAll keeps rest fun rule member => part rule (by simp [Rule.lasting, member]))
  | choice members => exact keeps_attemptChoice keeps members part
  | repeatedOnce body =>
    have bodyBinding := part body (by simp [Rule.lasting])
    exact keeps_attemptThen keeps bodyBinding (keeps_parseRepeated keeps bodyBinding)
  | list item separator =>
    exact keeps_attemptList keeps (part item (by simp [Rule.lasting])) separator
      fun rule member => part rule (by simp_all [Rule.lasting])
  | delimited opening closing content escapes =>
    exact keeps_attemptDelimited keeps (part opening (by simp [Rule.lasting]))
      ⟨closing, content, escapes⟩ (part closing (by simp [Rule.lasting]))
      fun escape member rule inside => part rule (by
        simp only [Rule.lasting, List.mem_cons, List.mem_flatMap]
        exact .inr (.inr ⟨escape, member, List.mem_flatMap.mp inside⟩))
  | onVariable name operation =>
    cases operation with
    | requireFlag expected => exact (tells_attemptRequirement name _).keeps
    | requireCounter expected => exact (tells_attemptRequirement name _).keeps
    | _ => exact runs
  | recovering rule recovery =>
    exact keeps_attemptRecovering keeps (part rule (by simp [Rule.lasting])) recovery
      fun inner member => part inner (by simp_all [Rule.lasting])
  | peek rule expected => exact (tells_attemptPeek rule expected).keeps
  | lookahead needle limit => exact (tells_attemptLookahead needle limit).keeps
  | call production => exact keeps_call keeps production true
  | withoutWhitespace rule =>
    exact keeps_attemptWithoutWhitespace keeps (part rule (by simp [Rule.lasting]))
  | _ => exact runs

theorem keeps_withFuel (fuel : Nat) : (withFuel fuel : Runner U σ).Keeps := by
  induction fuel with
  | zero => exact ⟨fun _ _ _ _ => ensures_outOfFuel _, fun _ _ _ _ => ensures_outOfFuel _⟩
  | succ fuel ih => exact ⟨keeps_parseRule ih, keeps_attemptRule ih⟩

end Runner

namespace Rule

/-- Rules after which there are as many variables as before, where whitespace creates none. -/
def Balanced {U : Type} (scope : Scope U) : Rule U → Prop
  | loop _ => True
  | call _ => ∀ whitespace ∈ scope.whitespace?, ¬whitespace.Creates
  | _ => False

end Rule

/-- What running a rule leaves as it was, or only adds to. The newest variables come first, so that
those on entry are at the end. -/
structure Disciplined {U σ : Type} (rule : Rule U) (entry : List Value) (before : State U σ)
    (values : List Value) (after : State U σ) : Prop where
  frames : after.scope.frames = before.scope.frames
  inWhitespace : after.scope.inWhitespace = before.scope.inWhitespace
  noWhitespace : after.scope.noWhitespace = before.scope.noWhitespace
  muted : after.report.muted = before.report.muted
  /-- No parser takes a value back, so this one holds of all of them. -/
  produced : entry <+: values
  names : before.scope.bindings.map Prod.fst <:+ after.scope.bindings.map Prod.fst
  height_le : before.scope.bindings.length ≤ after.scope.bindings.length
  balanced : rule.Balanced before.scope →
    after.scope.bindings.length = before.scope.bindings.length
  source : after.cursor.source = before.cursor.source
  stop : after.cursor.stop = before.cursor.stop
  forward : before.cursor.position ≤ after.cursor.position
  inside : after.cursor.position ≤ before.cursor.stop

private theorem Kept.disciplined {U σ : Type} {rule : Rule U} {before after : State U σ}
    (kept : Kept (¬rule.Balanced before.scope) before after) (entry more : List Value) :
    Disciplined rule entry before (entry ++ more) after where
  frames := kept.frames
  inWhitespace := kept.inWhitespace
  noWhitespace := kept.noWhitespace
  muted := kept.muted
  produced := List.prefix_append entry more
  names := kept.names
  height_le := by simpa using kept.names.length_le
  balanced balanced := kept.height.resolve_left fun unbalanced => unbalanced balanced
  source := kept.reaches.source
  stop := kept.reaches.stop
  forward := kept.reaches.position
  inside := kept.reaches.stop ▸ after.cursor.position_le_stop

namespace Runner

variable {U σ : Type} [CodeUnit U] {run : Runner U σ} {environment : Environment U σ}
  {state : State U σ}

/-- Loops and calls do not need the permission to bind variables. -/
theorem ensures_parseRule_kept (keeps : run.Keeps) (rule : Rule U) :
    (run.parseRule rule).Ensures environment state fun _ _ after =>
      Kept (¬rule.Balanced state.scope) state after := by
  by_cases balanced : rule.Balanced state.scope
  · cases rule with
    | loop body => exact (ensures_parseLoop_kept keeps body).mono fun _ _ _ kept => kept.weaken
    | call id =>
      simp only [parseRule, ensures_bind, ensures_pure]
      exact ensures_call_kept keeps id false fun whitespace found creates _ =>
        balanced whitespace found creates
    | _ => exact balanced.elim
  · exact keeps_parseRule keeps (fun _ => balanced) environment state (.inl balanced)

private theorem ensures_attemptRule_kept (keeps : run.Keeps) (rule : Rule U) :
    (run.attemptRule rule).Ensures environment state fun _ _ after =>
      Kept (¬rule.Balanced state.scope) state after := by
  by_cases balanced : rule.Balanced state.scope
  · cases rule with
    | loop body =>
      simp only [attemptRule, ensures_bind, ensures_pure]
      exact ensures_parseRule_kept keeps (.loop body)
    | call id =>
      exact ensures_call_kept keeps id true fun whitespace found creates _ =>
        balanced whitespace found creates
    | _ => exact balanced.elim
  · exact keeps_attemptRule keeps (fun _ => balanced) environment state (.inl balanced)

/-- Every rule keeps the discipline, whatever it answers, after whatever values were there. -/
theorem rule_keeps_context (fuel : Nat) (rule : Rule U) (environment : Environment U σ)
    (before : State U σ) (entry : List Value) :
    (∀ step, (do
        emitAll entry
        (withFuel fuel).parse rule) environment before = some step →
      Disciplined rule entry before step.values step.state) ∧
    (∀ step, (do
        emitAll entry
        (withFuel fuel).attempt rule) environment before = some step →
      Disciplined rule entry before step.values step.state) := by
  have following {α : Type} {parser : Parser U σ α}
      (kept : parser.Ensures environment before fun _ _ after =>
        Kept (¬rule.Balanced before.scope) before after) :
      (do
        emitAll entry
        parser).Ensures environment before fun _ values after =>
          Disciplined rule entry before values after := by
    rw [ensures_bind, ensures_emitAll]
    exact kept.mono fun _ more _ kept => kept.disciplined entry more
  cases fuel with
  | zero => exact ⟨following (ensures_outOfFuel _), following (ensures_outOfFuel _)⟩
  | succ fuel =>
    have keeps := keeps_withFuel (U := U) (σ := σ) fuel
    exact ⟨following (ensures_parseRule_kept keeps rule),
      following (ensures_attemptRule_kept keeps rule)⟩

def bindingUnit : Grammar Char where
  productions := #[⟨⟨0, "unit", true, false⟩,
    .sequence [.onVariable "seen" (.create (.flag true)),
      .token ⟨.literal ⟨['b'], "b", false⟩, .literal, none⟩], none, none, none⟩]
  whitespace := none
  entry := 0

def blanks : Rule Char :=
  .token ⟨.literal ⟨[' '], " ", false⟩, .whitespace, none⟩

def beforeBindingUnit : State Char Recording :=
  { beforeOtherUnit with
    scope := ⟨[⟨⟨.detached, .otherwise, none, none, none⟩, some blanks, 0⟩],
      [("outer", .flag false)], false, 0⟩ }

theorem call_of_binding_unit_keeps_context :
    ∃ step, (do
        emitAll [.integer 1]
        (withFuel 5).parse (.call 0)) ⟨bindingUnit, .standard, Recording.observer true⟩
          beforeBindingUnit = some step ∧
      step.answer = true ∧ step.state.cursor.position = 1 ∧ [.integer 1] <+: step.values ∧
      step.state.scope.bindings.map Prod.fst = ["outer"] := by
  have accepts : ((do
      emitAll [.integer 1]
      (withFuel 5).parse (.call 0) : Parser Char Recording Bool)
        ⟨bindingUnit, .standard, Recording.observer true⟩ beforeBindingUnit).map
          (fun step => (step.answer, step.state.cursor.position)) = some (true, 1) := by
    decide +kernel
  obtain ⟨step, ran, accepted⟩ := Option.map_eq_some_iff.mp accepts
  obtain ⟨answered, moved⟩ := Prod.mk.inj accepted
  have kept := (rule_keeps_context 5 (.call 0) ⟨bindingUnit, .standard, Recording.observer true⟩
    beforeBindingUnit [.integer 1]).1 step ran
  have balanced : (Rule.call 0 : Rule Char).Balanced beforeBindingUnit.scope := by
    intro whitespace found creates
    obtain rfl : blanks = whitespace := Option.some.inj found
    cases creates with
    | inside lasts _ => simp [blanks, Rule.lasting] at lasts
  have same := kept.names.eq_of_length (by simpa using (kept.balanced balanced).symm)
  exact ⟨step, ran, answered, moved, kept.produced, same.symm⟩

end Runner
end Descent
