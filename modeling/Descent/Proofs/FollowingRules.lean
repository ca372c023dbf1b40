import Descent.Proofs.FollowingLists

/-! All rules, run side by side: delimited content, variables, recovery and productions, and so the
interpreter. Whatever is done with some fuel is done with more fuel as well. -/

namespace Descent.Runner

open Descent.Parser Pairing

variable {U σ σ' : Type} {lax : Prop} {run : Runner U σ} {twin : Runner U σ'}
  {pairing : Pairing U σ σ'} {environment : Environment U σ} {other : Environment U σ'}

section Delimiters

/-- Pending runs that begin at places that correspond, after as many items. -/
structure SameContent (pairing : Pairing U σ σ') (content content' : Content) : Prop where
  pending : Option.Rel pairing.alignment.Places content.pending content'.pending
  items : SameItems pairing.exact content.items content'.items

structure FitsContent (alignment : Alignment U) (form : Delimited U) : Prop where
  closing : alignment.Fits form.closing
  escapes : ∀ escape ∈ form.escapes, ∀ rule ∈ escape.actions.flatMap EscapeAction.parts,
    alignment.Fits rule

private theorem fitsContent_of_fits {alignment : Alignment U} {opening closing : Rule U}
    {content : UnitClass} {escapes : List (Escape U (Rule U))}
    (fits : alignment.Fits (.delimited opening closing content escapes)) :
    FitsContent alignment ⟨closing, content, escapes⟩ where
  closing := fits.part (.tail _ (.head _))
  escapes _ listed _ member := fits.part (.tail _
    (.tail _ (List.mem_flatMap.mpr ⟨_, listed, member⟩)))

namespace SameContent

variable {content content' : Content} (same : SameContent pairing content content')
include same

private theorem isSome_pending : content.pending.isSome = content'.pending.isSome := by
  obtain ⟨pending, -⟩ := same
  generalize content.pending = first, content'.pending = first' at pending
  cases pending <;> rfl

private theorem places_getD {position position' : Nat}
    (here : pairing.alignment.Places position position') :
    pairing.alignment.Places (content.pending.getD position)
      (content'.pending.getD position') := by
  obtain ⟨pending, -⟩ := same
  generalize content.pending = first, content'.pending = first' at pending ⊢
  cases pending with
  | some begins => exact begins
  | none => exact here

end SameContent

private theorem sameContent_empty : SameContent pairing ⟨none, []⟩ ⟨none, []⟩ :=
  ⟨.none, rfl, fun _ => rfl⟩

private theorem agrees_escapeUnit (kept : pairing.Kept lax environment other)
    (value : Cursor U → Cursor U → Value) :
    pairing.Agrees environment other (escapeUnit value : Parser U σ Attempt)
      (escapeUnit value) := by
  refine follows_cursor.bind fun before before' here => (agrees_setCursor here.next).bind fun _ =>
    (agrees_reportToken kept _ here.position here.next.position).bind fun _ =>
      (agrees_emit fun exact => ?_).bind fun _ => agrees_pure _
  rw [(kept.whole exact).cursors here]

private theorem follows_flush (kept : pairing.Kept lax environment other)
    {content content' : Content} (same : SameContent pairing content content') {stop stop' : Nat}
    (ends : pairing.alignment.Places stop stop') :
    pairing.Follows environment other (SameContent pairing)
      (flush content stop : Parser U σ Content) (flush content' stop') := by
  obtain ⟨pending, items⟩ := content
  obtain ⟨pending', items'⟩ := content'
  obtain ⟨begun, same⟩ := same
  change Option.Rel pairing.alignment.Places pending pending' at begun
  unfold flush
  cases begun with
  | none => exact follows_pure ⟨.none, same⟩
  | some begins =>
    refine (agrees_reportToken kept _ begins ends).bind fun _ =>
      follows_pure ⟨.none, same.concat fun exact => ?_⟩
    rw [(kept.whole exact).spans (Alignment.spans_between begins ends)]

variable [CodeUnit U] (followed : run.FollowedBy lax twin)
  (kept : pairing.Kept lax environment other)
include followed kept

private theorem agrees_escapeSequence {actions : List (EscapeAction (Rule U))}
    (fits : ∀ rule ∈ actions.flatMap EscapeAction.parts, pairing.alignment.Fits rule) :
    pairing.Agrees environment other (run.escapeSequence actions)
      (twin.escapeSequence actions) := by
  induction actions with
  | nil => exact agrees_pure _
  | cons action rest ih =>
    rw [List.flatMap_cons] at fits
    have ih := ih fun rule member => fits rule (List.mem_append_right _ member)
    cases action with
    | map unit value =>
      refine follows_cursor.bind fun here here' same => ?_
      rw [same.peek]
      split
      · exact agrees_escapeUnit kept _
      · exact ih
    | capture members =>
      refine follows_cursor.bind fun here here' same => ?_
      rw [same.peek]
      split
      · exact agrees_escapeUnit kept _
      · exact ih
    | rule rule =>
      refine (followed.attempt kept (fits rule (.head _))).bind fun attempt => ?_
      cases attempt with
      | accepted => exact agrees_pure _
      | canceled => exact agrees_pure _
      | backtracked => exact ih

omit [CodeUnit U] in
private theorem follows_closeContent {form : Delimited U}
    (fits : FitsContent pairing.alignment form)
    {content content' : Content} (same : SameContent pairing content content') :
    pairing.Follows environment other (fun first second =>
      SameContent pairing first.1 second.1 ∧ first.2.1 = second.2.1 ∧
        (pairing.exact → first.2.2 = second.2.2))
      (run.closeContent form content) (twin.closeContent form content') := by
  have closes : pairing.Follows environment other (fun first second =>
      SameContent pairing first.1 second.1 ∧ first.2.1 = second.2.1 ∧
        (pairing.exact → first.2.2 = second.2.2))
      (do
        let content ← flush content (← cursor).position
        return (content, ← collect (run.attempt form.closing)))
      (do
        let content ← flush content' (← cursor).position
        return (content, ← collect (twin.attempt form.closing))) :=
    follows_cursor.bind fun _ _ here => (follows_flush kept same here.position).bind
      fun _ _ flushed => (follows_collect (followed.attempt kept fits.closing)).bind
        fun _ _ closed => follows_pure ⟨flushed, closed⟩
  unfold closeContent
  rw [same.isSome_pending]
  cases content'.pending.isSome with
  | false => exact closes
  | true =>
    refine (agrees_probe followed kept fits.closing).bind fun attempt => ?_
    cases attempt.isBacktracked with
    | true => exact follows_pure ⟨same, rfl, fun _ => rfl⟩
    | false => exact closes

private theorem follows_escaped {escape : Escape U (Rule U)}
    (fits : ∀ rule ∈ escape.actions.flatMap EscapeAction.parts, pairing.alignment.Fits rule)
    {content content' : Content} (same : SameContent pairing content content') :
    pairing.Follows environment other
      (Rounds (SameContent pairing) (SameClosing pairing.exact))
      (run.escaped escape content) (twin.escaped escape content') := by
  refine follows_cursor.bind fun before before' here =>
    (follows_flush kept same here.position).bind fun _ _ flushed => ?_
  have introduced := follows_quietly (agrees_parseToken followed kept escape.introducer)
  refine Agrees.bind introduced fun parsed => ?_
  cases parsed with
  | false => exact follows_pure (.done trivial)
  | true =>
    refine (follows_collect (agrees_escapeSequence followed kept fits)).bind ?_
    rintro ⟨attempt, values⟩ ⟨_, values'⟩ ⟨rfl, same'⟩
    cases attempt with
    | accepted => exact follows_pure (.again ⟨flushed.pending, flushed.items.concat same'⟩)
    | canceled => exact follows_pure (.done trivial)
    | backtracked =>
      exact follows_cursor.bind fun _ _ ends =>
        (agrees_reportError kept _ here.position (here.spanTo ends)).bind
          fun _ => follows_pure (.again flushed)

omit followed in
private theorem follows_contentUnit (form : Delimited U) {content content' : Content}
    (same : SameContent pairing content content') (unit : U) :
    pairing.Follows environment other (SameContent pairing)
      (contentUnit form content unit : Parser U σ Content) (contentUnit form content' unit) := by
  refine follows_cursor.bind fun before before' here => ?_
  have next := here.next
  dsimp only
  split
  · exact (agrees_setCursor next).bind fun _ =>
      follows_pure ⟨.some (same.places_getD here.position), same.items⟩
  · exact (follows_flush kept same here.position).bind fun _ _ flushed =>
      (agrees_setCursor next).bind fun _ =>
        (agrees_reportToken kept _ here.position next.position).bind fun _ =>
          (agrees_reportError kept _ here.position (here.spanTo next)).bind
            fun _ => follows_pure flushed

private theorem follows_contentStep {form : Delimited U} (fits : FitsContent pairing.alignment form)
    {opened opened' : Nat} (begins : pairing.alignment.Places opened opened')
    {content content' : Content} (same : SameContent pairing content content') :
    pairing.Follows environment other
      (Rounds (SameContent pairing) (SameClosing pairing.exact))
      (run.contentStep form opened content) (twin.contentStep form opened' content') := by
  refine (follows_closeContent followed kept fits same).bind ?_
  rintro ⟨content, attempt, closing⟩ ⟨content', _, closing'⟩ ⟨same, rfl, same'⟩
  cases attempt with
  | accepted => exact follows_pure (.done ⟨same.items, same'⟩)
  | canceled => exact follows_pure (.done trivial)
  | backtracked =>
    refine follows_cursor.bind fun here here' ends => ?_
    rw [ends.peek]
    cases here'.peek with
    | none =>
      have spans := Alignment.spans_between begins ends.position
      exact (agrees_discard (follows_flush kept same ends.position)).bind fun _ =>
        (agrees_reportError kept _ ends.position spans).bind fun _ => follows_pure (.done trivial)
    | some unit =>
      simp only [Alignment.matchesAt_eq _ ends]
      cases found : form.escapes.find? fun escape => escape.introducer.pattern.matchesAt here' with
      | some escape =>
        exact follows_escaped followed kept (fits.escapes escape (List.mem_of_find?_eq_some found))
          same
      | none =>
        exact (follows_contentUnit kept form same unit).bind fun _ _ same =>
          follows_pure (.again same)

theorem agrees_parseContent {form : Delimited U} (fits : FitsContent pairing.alignment form)
    {opened opened' : Nat} (begins : pairing.alignment.Places opened opened') :
    pairing.Agrees environment other (run.parseContent form opened)
      (twin.parseContent form opened') := by
  refine (follows_currentSink kept).bind fun sink sink' sinks => ?_
  refine (follows_iterate (fun _ _ same => follows_contentStep followed kept fits begins same)
    followed.fuel sameContent_empty).bind ?_
  exact agrees_closeList sinks

private theorem agrees_attemptDelimited {opening : Rule U} (opens : pairing.alignment.Fits opening)
    {form : Delimited U} (fits : FitsContent pairing.alignment form) :
    pairing.Agrees environment other (run.attemptDelimited opening form)
      (twin.attemptDelimited opening form) := by
  refine follows_cursor.bind fun before before' here => ?_
  have content := agrees_parseContent followed kept.deeper fits here.position
  refine Agrees.bind (follows_withoutWhitespace
    (agrees_attemptThen followed kept.deeper opens content)) fun attempt => ?_
  cases attempt with
  | accepted => exact (agrees_skipWhitespace followed kept).bind fun _ => agrees_pure _
  | canceled => exact agrees_pure _
  | backtracked => exact agrees_pure _

/-- All of it, from the opening rule to the closing one. -/
theorem agrees_parseWithin {opening : Rule U} (opens : pairing.alignment.Fits opening)
    {form : Delimited U} (fits : FitsContent pairing.alignment form) {opened opened' : Nat}
    (begins : pairing.alignment.Places opened opened') :
    pairing.Agrees environment other
      (do if ← run.parse opening then run.parseContent form opened else return false)
      (do if ← twin.parse opening then twin.parseContent form opened' else return false) := by
  refine (followed.parse kept opens).bind fun parsed => ?_
  cases parsed with
  | true => exact agrees_parseContent followed kept fits begins
  | false => exact agrees_pure _

private theorem agrees_parseDelimited {opening : Rule U} (opens : pairing.alignment.Fits opening)
    {form : Delimited U} (fits : FitsContent pairing.alignment form) :
    pairing.Agrees environment other (run.parseDelimited opening form)
      (twin.parseDelimited opening form) := by
  refine follows_cursor.bind fun before before' here => ?_
  have whole := agrees_parseWithin followed kept.deeper opens fits here.position
  refine Agrees.bind (follows_withoutWhitespace whole) fun parsed => ?_
  cases parsed with
  | true => exact (agrees_skipWhitespace followed kept).bind fun _ => agrees_pure _
  | false => exact agrees_pure _

end Delimiters

section Variables

variable (kept : pairing.Kept lax environment other)

include kept

private theorem agrees_missingVariable (name : String) {position position' : Nat}
    (here : pairing.alignment.Places position position') :
    pairing.Agrees environment other (missingVariable name position : Parser U σ Bool)
      (missingVariable name position') :=
  (agrees_reportErrorAt kept _ here).bind fun _ => agrees_pure _

private theorem agrees_contextMismatch {position position' : Nat} {span span' : Span}
    (here : pairing.alignment.Places position position')
    (spans : pairing.alignment.Spans span span') :
    pairing.Agrees environment other (contextMismatch position span : Parser U σ Bool)
      (contextMismatch position' span') :=
  (agrees_reportError kept _ here spans).bind fun _ => agrees_pure _

omit kept

private theorem agrees_findFlag (name : String) :
    pairing.Agrees environment other (findFlag name : Parser U σ (Option Bool)) (findFlag name) :=
  (follows_findVariable name).bind fun _ _ same => follows_pure (Alignment.flag?_eq same)

private theorem agrees_findCounter (name : String) :
    pairing.Agrees environment other (findCounter name : Parser U σ (Option Int))
      (findCounter name) :=
  (follows_findVariable name).bind fun _ _ same => follows_pure (Alignment.counter?_eq same)

private theorem follows_findLexeme (name : String) :
    pairing.Follows environment other (Option.Rel fun span span' =>
        pairing.alignment.Binds (.lexeme span) (.lexeme span'))
      (findLexeme name : Parser U σ (Option Span)) (findLexeme name) :=
  (follows_findVariable name).bind fun _ _ same => follows_pure (Alignment.rel_lexeme? same)

private theorem agrees_requirement (name : String) (operation : Operation (Rule U)) :
    pairing.Agrees environment other (requirement name operation : Parser U σ (Option Bool))
      (requirement name operation) := by
  cases operation with
  | requireFlag expected => exact (agrees_findFlag name).bind fun _ => agrees_pure _
  | requireCounter expected => exact (agrees_findCounter name).bind fun _ => agrees_pure _
  | _ => exact agrees_pure _

include kept

private theorem agrees_parseRequirement (name : String) (operation : Operation (Rule U)) :
    pairing.Agrees environment other (parseRequirement name operation : Parser U σ Bool)
      (parseRequirement name operation) := by
  refine follows_cursor.bind fun _ _ here =>
    (agrees_requirement name operation).bind fun holds => ?_
  rcases holds with _ | _ | _
  · exact agrees_missingVariable kept name here.position
  · exact agrees_contextMismatch kept here.position (Alignment.spans_empty here.position)
  · exact agrees_pure _

private theorem agrees_attemptRequirement (name : String) (operation : Operation (Rule U)) :
    pairing.Agrees environment other (attemptRequirement name operation : Parser U σ Attempt)
      (attemptRequirement name operation) := by
  refine (agrees_requirement name operation).bind fun holds => ?_
  rcases holds with _ | _ | _
  · exact follows_cursor.bind fun _ _ here =>
      (agrees_missingVariable kept name here.position).bind fun _ => agrees_pure _
  · exact agrees_pure _
  · exact agrees_pure _

variable (followed : run.FollowedBy lax twin)
include followed

private theorem agrees_parseMeasure (name : String) {rule : Rule U}
    (fits : pairing.alignment.Fits rule) (negative : Bool) :
    pairing.Agrees environment other (run.parseMeasure name rule negative)
      (twin.parseMeasure name rule negative) := by
  refine follows_cursor.bind fun before before' here =>
    (agrees_findCounter name).bind fun counter => ?_
  cases counter with
  | none => exact agrees_missingVariable kept name here.position
  | some value =>
    refine (followed.parse kept fits).bind fun parsed => ?_
    cases parsed with
    | false => exact agrees_pure _
    | true =>
      refine follows_cursor.bind fun after after' ends => ?_
      have position := here.position
      have position' := ends.position
      have read : after.position - before.position = after'.position - before'.position := by
        omega
      dsimp only
      rw [read]
      exact agrees_assignVariable _ (Alignment.binds_addTo _)

private theorem agrees_parseCaptureVariable (name : String) {rule : Rule U}
    (fits : pairing.alignment.Fits rule) :
    pairing.Agrees environment other (run.parseCaptureVariable name rule)
      (twin.parseCaptureVariable name rule) := by
  refine follows_cursor.bind fun before before' here => ?_
  refine Agrees.bind (follows_withoutWhitespace (followed.parse kept.deeper fits)) fun parsed => ?_
  cases parsed with
  | false => exact agrees_pure _
  | true =>
    refine follows_cursor.bind fun after after' ends => ?_
    have lexeme : pairing.alignment.Binds (.lexeme (before.spanTo after))
        (.lexeme (before'.spanTo after')) :=
      .lexeme (.inl (here.spanTo ends)) (here.extract_spanTo ends)
    refine (agrees_assignVariable name fun _ => lexeme).bind fun assigned => ?_
    cases assigned with
    | true => exact (agrees_skipWhitespace followed kept).bind fun _ => agrees_pure _
    | false =>
      exact (agrees_bindVariable name lexeme).bind fun _ =>
        (agrees_skipWhitespace followed kept).bind fun _ => agrees_pure _

private theorem agrees_parseRematch [CodeUnit U] (name : String) {rule : Rule U}
    (fits : pairing.alignment.Fits rule) :
    pairing.Agrees environment other (run.parseRematch name rule)
      (twin.parseRematch name rule) := by
  refine follows_cursor.bind fun before before' here =>
    (follows_findLexeme name).bind fun lexeme lexeme' same => ?_
  cases same with
  | none => exact agrees_missingVariable kept name here.position
  | some same =>
    refine Agrees.bind (follows_withoutWhitespace (followed.parse kept.deeper fits)) ?_
    intro parsed
    cases parsed with
    | false => exact agrees_pure _
    | true =>
      refine follows_cursor.bind fun after after' ends => ?_
      dsimp only
      rw [here.slice_spanTo ends, ends.slice_of_binds same]
      split
      · exact (agrees_skipWhitespace followed kept).bind fun _ => agrees_pure _
      · exact agrees_contextMismatch kept here.position (here.spanTo ends)

private theorem agrees_parseVariable [CodeUnit U] (name : String) {operation : Operation (Rule U)}
    (fits : pairing.alignment.Fits (.onVariable name operation)) :
    pairing.Agrees environment other (run.parseVariable name operation)
      (twin.parseVariable name operation) := by
  refine follows_cursor.bind fun here here' same => ?_
  have missing : pairing.Agrees environment other
      (missingVariable name here.position : Parser U σ Bool)
      (missingVariable name here'.position) :=
    agrees_missingVariable kept name same.position
  have part (rule : Rule U) (member : rule ∈ operation.parts) : pairing.alignment.Fits rule :=
    fits.part member
  cases operation with
  | create initial => exact (agrees_bindVariable name fits.create).bind fun _ => agrees_pure _
  | setFlag value =>
    refine (agrees_assignVariable name fun _ => .flag value).bind fun assigned => ?_
    cases assigned with
    | true => exact agrees_pure _
    | false => exact missing
  | toggleFlag =>
    refine (agrees_findFlag name).bind fun flag => ?_
    cases flag with
    | none => exact missing
    | some value => exact agrees_assignVariable name fun _ => .flag _
  | selectFlag set unset =>
    refine (agrees_findFlag name).bind fun flag => ?_
    rcases flag with _ | _ | _
    · exact missing
    · exact followed.parse kept (part unset (.tail _ (.head _)))
    · exact followed.parse kept (part set (.head _))
  | requireFlag expected => exact agrees_parseRequirement kept name _
  | requireCounter expected => exact agrees_parseRequirement kept name _
  | add amount =>
    refine (agrees_findCounter name).bind fun counter => ?_
    cases counter with
    | none => exact missing
    | some value => exact agrees_assignVariable name fun _ => .counter _
  | measure rule negative =>
    exact agrees_parseMeasure kept followed name (part rule (.head _)) negative
  | compareCounter value less equal greater =>
    refine (agrees_findCounter name).bind fun counter => ?_
    cases counter with
    | none => exact missing
    | some counter =>
      dsimp only
      split
      · exact followed.parse kept (part less (.head _))
      · split
        · exact followed.parse kept (part equal (.tail _ (.head _)))
        · exact followed.parse kept (part greater (.tail _ (.tail _ (.head _))))
  | capture rule => exact agrees_parseCaptureVariable kept followed name (part rule (.head _))
  | rematch rule => exact agrees_parseRematch kept followed name (part rule (.head _))

end Variables

section Recovery

variable (followed : run.FollowedBy lax twin) (kept : pairing.Kept lax environment other)
include followed kept

private theorem agrees_recoverFrom [CodeUnit U] {rule : Rule U} {recovery : Option (Rule U)}
    (fits : pairing.alignment.Fits (.recovering rule recovery)) :
    pairing.Agrees environment other (run.recoverFrom rule recovery)
      (twin.recoverFrom rule recovery) := by
  cases recovery with
  | some recovery => exact followed.parse kept fits.recovery
  | none =>
    have skips : pairing.Agrees environment other (skipMalformed rule : Parser U σ Bool)
        (skipMalformed rule) := by
      refine follows_cursor.bind fun before before' here => ?_
      have found := Alignment.found_skipMalformedRule rule here
      exact (agrees_setCursor found.2).bind fun _ => follows_pure found.1
    exact follows_cursor.bind fun _ _ here => skips.bind fun _ => follows_cursor.bind
      fun _ _ ends => (agrees_reportSkipped kept here ends).bind fun _ => agrees_pure _

private theorem agrees_parseRecovering [CodeUnit U] {rule : Rule U} {recovery : Option (Rule U)}
    (fits : pairing.alignment.Fits (.recovering rule recovery)) :
    pairing.Agrees environment other (run.parseRecovering rule recovery)
      (twin.parseRecovering rule recovery) := by
  refine (follows_collect (followed.parse kept (fits.part (.head _)))).bind ?_
  rintro ⟨parsed, values⟩ ⟨_, values'⟩ ⟨rfl, same⟩
  cases parsed with
  | true => exact (agrees_emitAll same).bind fun _ => agrees_pure _
  | false => exact agrees_recoverFrom followed kept fits

private theorem agrees_attemptRecovering [CodeUnit U] {rule : Rule U} {recovery : Option (Rule U)}
    (fits : pairing.alignment.Fits (.recovering rule recovery)) :
    pairing.Agrees environment other (run.attemptRecovering rule recovery)
      (twin.attemptRecovering rule recovery) := by
  refine (follows_collect (followed.attempt kept (fits.part (.head _)))).bind ?_
  rintro ⟨attempt, values⟩ ⟨_, values'⟩ ⟨rfl, same⟩
  cases attempt with
  | accepted => exact (agrees_emitAll same).bind fun _ => agrees_pure _
  | canceled =>
    exact (agrees_recoverFrom followed kept fits).bind fun _ => agrees_pure _
  | backtracked => exact (agrees_emitAll same).bind fun _ => agrees_pure _

private theorem agrees_parseFind {targets limits : List (Rule U)}
    (fits : ∀ rule ∈ targets, pairing.alignment.Fits rule)
    (limited : ∀ rule ∈ limits, pairing.alignment.Fits rule) :
    pairing.Agrees environment other (run.parseFind targets limits)
      (twin.parseFind targets limits) := by
  have target : pairing.Follows environment other (Option.Rel Eq)
      (do return if ← run.anyAccepts targets then some () else none : Parser U σ (Option Unit))
      (do return if ← twin.anyAccepts targets then some () else none) := by
    refine (agrees_anyAccepts followed kept fits).bind fun accepts => follows_pure ?_
    cases accepts with
    | true => exact .some rfl
    | false => exact .none
  refine follows_cursor.bind fun _ _ here =>
    (follows_seek target (agrees_anyAccepts followed kept limited)).bind fun found found' same => ?_
  cases same with
  | some _ =>
    exact follows_cursor.bind fun _ _ ends => (agrees_reportSkipped kept here ends).bind
      fun _ => agrees_pure _
  | none => exact (agrees_setCursor here).bind fun _ => agrees_pure _

private theorem agrees_parseRecover {branches limits : List (Rule U)}
    (fits : ∀ rule ∈ branches, pairing.alignment.Fits rule)
    (limited : ∀ rule ∈ limits, pairing.alignment.Fits rule) :
    pairing.Agrees environment other (run.parseRecover branches limits)
      (twin.parseRecover branches limits) := by
  refine follows_cursor.bind fun _ _ here =>
    (follows_seek (follows_firstTaken followed kept fits)
      (agrees_anyAccepts followed kept limited)).bind fun taken taken' same =>
        follows_cursor.bind fun _ _ ends => (agrees_reportSkipped kept here ends).bind fun _ => ?_
  cases same with
  | some same =>
    obtain ⟨rfl, fits⟩ := same
    exact followed.parse kept fits
  | none => exact agrees_pure _

private theorem agrees_attemptMember (index : Nat) {members : List (Rule U)}
    (fits : ∀ member ∈ members, pairing.alignment.Fits member) :
    pairing.Agrees environment other (run.attemptMember index members)
      (twin.attemptMember index members) := by
  induction members generalizing index with
  | nil => exact agrees_pure _
  | cons member rest ih =>
    refine (followed.attempt kept (fits member (.head _))).bind fun attempt => ?_
    cases attempt with
    | accepted => exact agrees_pure _
    | canceled => exact agrees_pure _
    | backtracked => exact ih (index + 1) fun other listed => fits other (.tail _ listed)

private theorem agrees_parseMembers {members : List (Rule U)}
    (fits : ∀ member ∈ members, pairing.alignment.Fits member) (partly : Bool) (seen : List Nat)
    (missing : Nat) :
    pairing.Agrees environment other (run.parseMembers members partly seen missing)
      (twin.parseMembers members partly seen missing) := by
  induction missing generalizing seen with
  | zero => exact agrees_pure _
  | succ missing ih =>
    refine follows_cursor.bind fun _ _ here =>
      (agrees_attemptMember followed kept 0 fits).bind fun taken => ?_
    cases taken with
    | none =>
      cases partly with
      | true => exact agrees_pure _
      | false => exact (agrees_reportErrorAt kept _ here.position).bind fun _ => agrees_pure _
    | some taken =>
      obtain ⟨index, attempt⟩ := taken
      dsimp only
      split
      · exact agrees_pure _
      · split
        · exact follows_cursor.bind fun _ _ ends =>
            (agrees_reportError kept _ here.position (here.spanTo ends)).bind fun _ => agrees_pure _
        · exact ih (index :: seen)

end Recovery

section Calls

variable (kept : pairing.Kept lax environment other)
include kept

private theorem follows_start (profile : Profile) {position position' : Nat}
    (here : pairing.alignment.Places position position') :
    pairing.Follows environment other (fun ticket ticket' => pairing.exact → ticket = ticket')
      (start profile position : Parser U σ Ticket) (start profile position') := by
  refine follows_of_ensures (fun _ => ensures_start profile position)
    (fun _ => ensures_start profile position') fun states => ⟨fun exact => ?_, fun _ => rfl,
      { states with reports := kept.start profile here states.reports }⟩
  rw [(kept.whole exact).places here]
  exact kept.ticket profile position states.reports exact

private theorem agrees_finish (profile : Profile) {ticket ticket' : Ticket}
    {values values' : List Value}
    (tickets : pairing.exact → ticket = ticket') (same : pairing.exact → values = values') :
    pairing.Agrees environment other (finish profile ticket values : Parser U σ Unit)
      (finish profile ticket' values') := by
  refine follows_of_ensures (fun _ => ensures_finish profile ticket values)
    (fun _ => ensures_finish profile ticket' values') fun {state state'} states => ?_
  refine ⟨rfl, fun exact => ?_, { states with reports := ?_ }⟩
  · rw [tickets exact, same exact, (kept.whole exact).places states.cursor.position]
    exact kept.produced _ _ _ _ states.reports exact
  · refine kept.ended profile (fun exact => ⟨tickets exact, ?_⟩)
      (.finished _ _ states.cursor.position) states.reports
    rw [same exact, (kept.whole exact).places states.cursor.position]

omit kept in
private theorem ensures_tellEnd {α : Type} {state : State U σ} {profile : Profile}
    {ticket : Ticket} {change : Observer σ → σ → σ} {ending : Ending}
    (told : change environment.observer = ending.tell environment.observer profile ticket)
    (answer : α) (post : α → List Value → State U σ → Prop) :
    (do
      unless ← isMuted do notify change
      return answer : Parser U σ α).Ensures environment state post ↔
      post answer [] (state.withEnd environment profile ticket ending) := by
  cases muted : state.report.isMuted <;> simp [State.withEnd, Report.withEnd, muted, told]

private theorem agrees_tellEnd {α : Type} (profile : Profile) {ticket ticket' : Ticket}
    (tickets : pairing.exact → ticket = ticket') {change : Observer σ → σ → σ}
    {change' : Observer σ' → σ' → σ'} {ending ending' : Ending}
    (endings : pairing.alignment.Endings ending ending') (same : pairing.exact → ending = ending')
    (told : change environment.observer = ending.tell environment.observer profile ticket)
    (told' : change' other.observer = ending'.tell other.observer profile ticket') (answer : α) :
    pairing.Agrees environment other
      (do
        unless ← isMuted do notify change
        return answer : Parser U σ α)
      (do
        unless ← isMuted do notify change'
        return answer) :=
  follows_of_ensures (fun _ => ensures_tellEnd told answer) (fun _ => ensures_tellEnd told' answer)
    fun states => ⟨rfl, fun _ => rfl,
      { states with
        reports := kept.ended profile (fun exact => ⟨tickets exact, same exact⟩) endings
          states.reports }⟩

omit kept in
private theorem agrees_pushFrame {production production' : Production U}
    (twins : production.Twins pairing.hidden production') {whitespace whitespace' : Option (Rule U)}
    (same : pairing.hidden = none → whitespace' = whitespace)
    (fits : ∀ rule ∈ whitespace, pairing.alignment.Fits rule) :
    pairing.Agrees environment other (pushFrame production whitespace : Parser U σ Unit)
      (pushFrame production' whitespace') :=
  agrees_modifyScope fun scopes => scopes.inside twins same fits

/-- Both sides skip the same whitespace, unless it is hidden, and what it creates begins alike. -/
theorem follows_whitespaceOf {production production' : Production U}
    (member : production ∈ environment.grammar.productions)
    (twins : production.Twins pairing.hidden production') :
    pairing.Follows environment other
      (fun found found' => (pairing.hidden = none → found' = found) ∧
        ∀ rule ∈ found, pairing.alignment.Fits rule)
      (whitespaceOf production : Parser U σ (Option (Rule U))) (whitespaceOf production') :=
  follows_of_ensures (fun _ => ensures_whitespaceOf production)
    (fun _ => ensures_whitespaceOf production') fun states =>
      ⟨⟨states.scope.whitespaceFor kept.grammar twins,
        states.scope.fits_whitespaceFor kept.fits member⟩, fun _ => rfl, states⟩

variable (followed : run.FollowedBy lax twin)
include followed

private theorem follows_inFrame {production production' : Production U}
    (member : production ∈ environment.grammar.productions)
    (twins : production.Twins pairing.hidden production') (asBranch : Bool) :
    pairing.Follows environment other (fun first second =>
      first.1 = second.1 ∧ (pairing.exact → first.2 = second.2))
      (run.inFrame production asBranch) (twin.inFrame production' asBranch) := by
  have runs : pairing.Agrees environment other
      (if asBranch then run.attempt production.rule
        else do return .ofBool (← run.parse production.rule))
      (if asBranch then twin.attempt production'.rule
        else do return .ofBool (← twin.parse production'.rule)) := by
    rw [twins.rule]
    cases asBranch with
    | true => exact followed.attempt kept (kept.fits.rule member)
    | false => exact (followed.parse kept (kept.fits.rule member)).bind fun _ => agrees_pure _
  have rest : pairing.Follows environment other (fun first second =>
      first.1 = second.1 ∧ (pairing.exact → first.2 = second.2))
      (do
        let result ← collect <|
          if asBranch then run.attempt production.rule
          else do return .ofBool (← run.parse production.rule)
        popFrame
        return result)
      (do
        let result ← collect <|
          if asBranch then twin.attempt production'.rule
          else do return .ofBool (← twin.parse production'.rule)
        popFrame
        return result) :=
    (follows_collect runs).bind fun _ _ same => (agrees_modifyScope Alignment.Scopes.outside).bind
      fun _ => follows_pure same
  refine (follows_whitespaceOf kept member twins).bind fun whitespace whitespace' found => ?_
  refine follows_scope.bind fun scope scope' scopes =>
    (agrees_pushFrame twins found.1 found.2).bind fun _ => follows_environment.bind ?_
  rintro _ _ ⟨same, same'⟩
  dsimp only
  rw [same, same', kept.leading, scopes.isEmpty_frames]
  cases scope.frames.isEmpty && environment.config.skipLeadingWhitespace with
  | true => exact (agrees_skipWhitespace followed kept).bind fun _ => rest
  | false => exact rest

private theorem agrees_callProduction {production production' : Production U}
    (member : production ∈ environment.grammar.productions)
    (twins : production.Twins pairing.hidden production') (asBranch : Bool) :
    pairing.Agrees environment other (run.callProduction production asBranch)
      (twin.callProduction production' asBranch) := by
  refine follows_cursor.bind fun _ _ begins => (agrees_modifyReport kept.entry).bind fun _ => ?_
  rw [twins.profile]
  refine (follows_start kept _ begins.position).bind fun ticket ticket' tickets => ?_
  refine (follows_inFrame kept followed member twins asBranch).bind ?_
  rintro ⟨attempt, values⟩ ⟨_, values'⟩ ⟨rfl, same⟩
  cases attempt with
  | accepted =>
    refine (agrees_finish kept _ tickets same).bind fun _ => ?_
    dsimp only
    split
    · exact (agrees_skipWhitespace followed kept).bind fun _ => agrees_pure _
    · exact agrees_pure _
  | backtracked =>
    exact (agrees_modifyReport kept.backtrack).bind fun _ => (agrees_setCursor begins).bind
      fun _ => agrees_tellEnd kept _ tickets .declined (fun _ => rfl) rfl rfl _
  | canceled =>
    exact follows_cursor.bind fun _ _ here =>
      agrees_tellEnd kept _ tickets (.canceled here.position)
        (fun exact => by rw [(kept.whole exact).places here.position]) rfl rfl _

theorem agrees_call (id : ProductionId) (asBranch : Bool) :
    pairing.Agrees environment other (run.call id asBranch) (twin.call id asBranch) := by
  refine follows_environment.bind ?_
  rintro _ _ ⟨same, same'⟩
  rw [same, same']
  have twins := kept.grammar.production id
  have member : ∀ production ∈ environment.grammar.production? id,
      production ∈ environment.grammar.productions := fun _ found => Array.mem_of_getElem? found
  generalize environment.grammar.production? id = found at twins member ⊢
  generalize other.grammar.production? id = found' at twins ⊢
  cases twins with
  | some twins => exact agrees_callProduction kept followed (member _ rfl) twins asBranch
  | none =>
    exact follows_cursor.bind fun _ _ here => (agrees_reportErrorAt kept _ here.position).bind
      fun _ => agrees_pure _

end Calls

section Interpreter

variable [CodeUnit U]

private theorem agrees_attemptLookahead (needle limit : Pattern U) :
    pairing.Agrees environment other (attemptLookahead needle limit : Parser U σ Attempt)
      (attemptLookahead needle limit) :=
  follows_cursor.bind fun _ _ here => follows_pure (by rw [Alignment.matchesAt_eq _ here])

private theorem agrees_parseLookahead (kept : pairing.Kept lax environment other)
    (needle limit : Pattern U) :
    pairing.Agrees environment other (parseLookahead needle limit : Parser U σ Bool)
      (parseLookahead needle limit) := by
  refine follows_cursor.bind fun _ _ here => ?_
  rw [Alignment.matchesAt_eq _ here]
  split
  · exact agrees_pure _
  · exact follows_cursor.bind fun _ _ here => (agrees_reportErrorAt kept _ here.position).bind
      fun _ => agrees_pure _

variable (followed : run.FollowedBy lax twin) (kept : pairing.Kept lax environment other)
include followed kept

theorem agrees_parseRule {rule : Rule U} (fits : pairing.alignment.Fits rule) :
    pairing.Agrees environment other (run.parseRule rule) (twin.parseRule rule) := by
  have part (inner : Rule U) (member : inner ∈ rule.parts) : pairing.alignment.Fits inner :=
    fits.part member
  cases rule with
  | token token => exact agrees_parseToken followed kept token
  | tokenized rule kind => exact agrees_parseTokenized followed kept (part rule (.head _)) kind
  | identifier shape reserved => exact agrees_parseIdentifier followed kept shape reserved
  | capture rule => exact agrees_parseCapture followed kept (part rule (.head _))
  | position => exact agrees_parsePosition kept
  | constant value => exact (agrees_emit fun _ => rfl).bind fun _ => agrees_pure _
  | integer type digits signed => exact agrees_parseInteger followed kept type digits signed
  | codePoint digits => exact agrees_parseCodePoint followed kept digits
  | symbol table word => exact agrees_parseSymbol followed kept table (part word (.head _))
  | symbolHere table => exact agrees_parseSymbolHere followed kept table
  | sequence rules => exact agrees_parseAll followed kept part
  | branch condition rest => exact agrees_parseAll followed kept part
  | choice members => exact agrees_parseChoice followed kept part
  | optional rule => exact agrees_parseOptional followed kept (part rule (.head _))
  | otherwise => exact agrees_pure _
  | loop body => exact agrees_parseLoop followed kept (part body (.head _))
  | leave => exact agrees_parseLeave kept
  | repeated body => exact agrees_parseRepeated followed kept (part body (.head _))
  | repeatedOnce body => exact agrees_parseRepeatedOnce followed kept (part body (.head _))
  | times count body separator =>
    exact agrees_parseTimes followed kept (part body (.head _)) (fits_separator part) count
  | list item separator =>
    exact agrees_parseList followed kept (part item (.head _)) (fits_between part)
  | terminatedList terminator item separator limits mayBeEmpty =>
    exact agrees_parseTerminatedList followed kept (fitsList_of_fits fits) mayBeEmpty
  | delimited opening closing content escapes =>
    exact agrees_parseDelimited followed kept (part opening (.head _)) (fitsContent_of_fits fits)
  | onVariable name operation => exact agrees_parseVariable kept followed name fits
  | recovering rule recovery => exact agrees_parseRecovering followed kept fits
  | find targets limits =>
    exact agrees_parseFind followed kept
      (fun rule member => part rule (List.mem_append_left _ member))
      (fun rule member => part rule (List.mem_append_right _ member))
  | recover branches limits =>
    exact agrees_parseRecover followed kept
      (fun rule member => part rule (List.mem_append_left _ member))
      (fun rule member => part rule (List.mem_append_right _ member))
  | peek rule expected => exact agrees_parsePeek followed kept (part rule (.head _)) expected
  | lookahead needle limit => exact agrees_parseLookahead kept needle limit
  | call production =>
    exact (agrees_call kept followed production false).bind fun _ => agrees_pure _
  | whitespace rule =>
    exact (agrees_skipWith followed kept (part rule (.head _))).bind fun _ => agrees_pure _
  | withoutWhitespace rule =>
    exact agrees_parseWithoutWhitespace followed kept (part rule (.head _))
  | combination members partly => exact agrees_parseMembers followed kept part partly [] _

theorem agrees_attemptRule {rule : Rule U} (fits : pairing.alignment.Fits rule) :
    pairing.Agrees environment other (run.attemptRule rule) (twin.attemptRule rule) := by
  have part (inner : Rule U) (member : inner ∈ rule.parts) : pairing.alignment.Fits inner :=
    fits.part member
  have runs : pairing.Agrees environment other
      (do return Attempt.ofBool (← run.parseRule rule))
      (do return Attempt.ofBool (← twin.parseRule rule)) :=
    (agrees_parseRule followed kept fits).bind fun _ => agrees_pure _
  cases rule with
  | token token => exact agrees_attemptToken followed kept token
  | tokenized rule kind => exact agrees_attemptTokenized followed kept (part rule (.head _)) kind
  | identifier shape reserved => exact agrees_attemptIdentifier followed kept shape reserved
  | capture rule => exact agrees_attemptCapture followed kept (part rule (.head _))
  | integer type digits signed => exact agrees_attemptInteger followed kept type digits signed
  | symbol table word => exact agrees_attemptSymbol followed kept table (part word (.head _))
  | symbolHere table => exact agrees_attemptSymbolHere followed kept table
  | sequence rules => exact agrees_attemptSequence followed kept part
  | branch condition rest =>
    exact agrees_attemptThen followed kept (part condition (.head _))
      (agrees_parseAll followed kept fun rule member => part rule (.tail _ member))
  | choice members => exact agrees_attemptChoice followed kept part
  | repeatedOnce body =>
    exact agrees_attemptThen followed kept (part body (.head _))
      (agrees_parseRepeated followed kept (part body (.head _)))
  | list item separator =>
    exact agrees_attemptList followed kept (part item (.head _)) (fits_between part)
  | delimited opening closing content escapes =>
    exact agrees_attemptDelimited followed kept (part opening (.head _)) (fitsContent_of_fits fits)
  | onVariable name operation =>
    cases operation with
    | requireFlag expected => exact agrees_attemptRequirement kept name _
    | requireCounter expected => exact agrees_attemptRequirement kept name _
    | _ => exact runs
  | recovering rule recovery => exact agrees_attemptRecovering followed kept fits
  | peek rule expected => exact agrees_attemptPeek followed kept (part rule (.head _)) expected
  | lookahead needle limit => exact agrees_attemptLookahead needle limit
  | call production => exact agrees_call kept followed production true
  | withoutWhitespace rule =>
    exact agrees_attemptWithoutWhitespace followed kept (part rule (.head _))
  | _ => exact runs

end Interpreter

/-- What is done with some fuel is done with more fuel as well, whoever observes it. -/
theorem followedBy_withFuel [CodeUnit U] {lax : Prop} {fuel more : Nat} (enough : fuel ≤ more) :
    (withFuel fuel : Runner U σ).FollowedBy lax (withFuel more : Runner U σ') := by
  -- Rules inside have one fuel less on both sides.
  induction fuel generalizing more with
  | zero =>
    exact ⟨Nat.zero_le _, fun _ _ _ _ _ _ => ensures_outOfFuel _,
      fun _ _ _ _ _ _ => ensures_outOfFuel _⟩
  | succ fuel ih =>
    obtain ⟨more, rfl⟩ := Nat.exists_eq_add_of_le' (Nat.le_trans (Nat.le_add_left 1 fuel) enough)
    have followed := ih (Nat.le_of_succ_le_succ enough)
    exact ⟨enough, fun kept _ fits => agrees_parseRule followed kept fits,
      fun kept _ fits => agrees_attemptRule followed kept fits⟩

/-- The same source and the same observer on both sides, and everything the same. -/
theorem kept_identical (source : Array U) {hidden : Option Nat} {grammar twin : Grammar U}
    (twins : grammar.Twins hidden twin) (config : ParseConfig) (observer : Observer σ) :
    (⟨.whole source, Eq, True, hidden⟩ : Pairing U σ σ).Kept False ⟨grammar, config, observer⟩
      ⟨twin, config, observer⟩ where
  compares := False.elim
  grammar := twins
  leading := rfl
  fits := (Alignment.isWhole_whole source).fitsGrammar grammar
  whole _ := Alignment.isWhole_whole source
  sink _ _ := rfl
  muting same := by rw [same]
  unmuting same := by rw [same]
  token _ _ _ _ _ begins ends _ _ same := by
    rw [same, (Alignment.isWhole_whole source).places begins,
      (Alignment.isWhole_whole source).places ends]
  error _ _ _ errors _ _ same := by
    rw [same, (Alignment.isWhole_whole source).errors errors]
    rfl
  entry same := by rw [same]
  start _ _ _ here _ _ same := by rw [same, (Alignment.isWhole_whole source).places here]
  ticket _ _ _ _ same _ := by rw [same]
  ended _ _ _ _ _ same _ _ _ same' := by
    obtain ⟨rfl, rfl⟩ := same trivial
    rw [same']
  produced _ _ _ _ _ _ same _ := by rw [same]
  backtrack same := by rw [same]

private theorem ran_of_identical {α : Type} {parser twin : Parser U σ α}
    {environment : Environment U σ} {state : State U σ} {step : Step U σ α}
    (agrees : (⟨.whole state.cursor.source, Eq, True, none⟩ : Pairing U σ σ).Agrees environment
      environment parser twin)
    (ran : parser environment state = some step) : twin environment state = some step := by
  have whole := Alignment.isWhole_whole state.cursor.source
  obtain ⟨answer, values, after⟩ := step
  obtain ⟨_, _, ⟨_, _, _⟩, twin_ran, rfl, same, ⟨cursor, scope, reports⟩⟩ :=
    agrees state state ⟨Alignment.cursors_whole _, whole.scopes_refl _, rfl⟩ _ ran
  rw [twin_ran]
  cases same trivial
  cases whole.cursors cursor
  cases whole.scopes scope
  cases reports
  rfl

variable [CodeUnit U] {fuel more : Nat} {rule : Rule U} {state : State U σ}

/-- More fuel changes no outcome. -/
theorem parse_with_more_fuel {step : Step U σ Bool} (enough : fuel ≤ more)
    (ran : (withFuel fuel).parse rule environment state = some step) :
    (withFuel more).parse rule environment state = some step :=
  ran_of_identical
    ((followedBy_withFuel enough).parse (kept_identical _ (Grammar.twins_of_eq rfl) _ _)
      ((Alignment.isWhole_whole _).fits rule)) ran

theorem attempt_with_more_fuel {step : Step U σ Attempt} (enough : fuel ≤ more)
    (ran : (withFuel fuel).attempt rule environment state = some step) :
    (withFuel more).attempt rule environment state = some step :=
  ran_of_identical
    ((followedBy_withFuel enough).attempt (kept_identical _ (Grammar.twins_of_eq rfl) _ _)
      ((Alignment.isWhole_whole _).fits rule)) ran

end Descent.Runner
