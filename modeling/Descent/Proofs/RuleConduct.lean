import Descent.Proofs.DelimiterConduct
import Descent.Proofs.ListConduct
import Descent.Proofs.StructureConduct

/-! Every rule accounts for what it reads, whatever it answers: with variables, after errors,
and so in all. -/

namespace Descent.Runner

open Descent.Parser

variable {U σ : Type} {run : Runner U σ} {environment : Environment U σ} {origin : Nat}
  {before state : State U σ}

private theorem ensures_missingVariable (settled : Settled environment origin before state)
    (name : String) :
    (missingVariable name state.cursor.position).Ensures environment state fun _ _ after =>
      Settled environment origin before after := by
  simp only [missingVariable, ensures_bind, ensures_reportErrorAt, ensures_pure]
  exact settled.withErrorHere _

private theorem ensures_contextMismatch (settled : Settled environment origin before state)
    {start : Cursor U} (origin_le : origin ≤ start.position)
    (reaches : start.Reaches state.cursor) :
    (contextMismatch start.position (start.spanTo state.cursor)).Ensures environment state
      fun _ _ after => Settled environment origin before after := by
  simp only [contextMismatch, ensures_bind, ensures_reportError, ensures_pure]
  exact settled.withError _ origin_le (Nat.le_refl _) (Nat.le_max_left ..)
    (Nat.le_of_eq reaches.stop_spanTo)

private theorem settles_parseRequirement (name : String) (operation : Operation (Rule U)) :
    (parseRequirement name operation : Parser U σ Bool).Settles := by
  intro environment state framed
  have settled := Conduct.start environment state
  simp only [parseRequirement, ensures_bind, ensures_cursor]
  refine (looks_requirement name operation).ensures fun answer => ?_
  rcases answer with _ | _ | _
  · exact ensures_missingVariable settled name
  · simp only [contextMismatch, ensures_bind, ensures_reportError, ensures_pure]
    exact settled.withErrorHere _
  · simpa using settled

private theorem settles_attemptRequirement (name : String) (operation : Operation (Rule U)) :
    (attemptRequirement name operation : Parser U σ Attempt).Settles := by
  intro environment state framed
  have settled := Conduct.start environment state
  rw [attemptRequirement, ensures_bind]
  refine (looks_requirement name operation).ensures fun answer => ?_
  rcases answer with _ | _ | _
  · simp only [ensures_bind, ensures_cursor, ensures_pure]
    exact ensures_missingVariable settled name
  · simpa using settled
  · simpa using settled

private theorem settles_parseMeasure (settles : run.Settles) (name : String) (rule : Rule U)
    (negative : Bool) : (run.parseMeasure name rule negative).Settles := by
  intro environment state framed
  rw [parseMeasure, ensures_bind, ensures_cursor, ensures_bind]
  refine (looks_findCounter name).ensures fun counter => ?_
  cases counter with
  | none => exact ensures_missingVariable (.start environment state) name
  | some value =>
    refine ((settles.parse rule).bind fun parsed => ?_) environment state framed
    cases parsed with
    | false => exact settles_pure _
    | true => exact looks_cursor.settles.bind fun here => settles_assignVariable _ _

private theorem settles_parseCaptureVariable (settles : run.Settles) (name : String)
    (rule : Rule U) : (run.parseCaptureVariable name rule).Settles := by
  refine looks_cursor.settles.bind fun start => ?_
  refine (settles_withoutWhitespace (settles.parse rule)).bind fun parsed => ?_
  cases parsed with
  | false => exact settles_pure _
  | true =>
    have skips := (settles_skipWhitespace settles).bind fun _ =>
      (settles_pure true : (pure true : Parser U σ Bool).Settles)
    refine looks_cursor.settles.bind fun here => ?_
    refine (settles_assignVariable _ _).bind fun assigned => ?_
    cases assigned with
    | true => exact skips
    | false => exact (settles_bindVariable _ _).bind fun _ => skips

/-- A lexeme that differs from the one that was kept is an error that covers it. -/
theorem settles_parseRematch [CodeUnit U] (settles : run.Settles) (name : String)
    (rule : Rule U) : (run.parseRematch name rule).Settles := by
  intro environment state framed
  rw [parseRematch, ensures_bind, ensures_cursor, ensures_bind]
  refine (looks_findLexeme name).ensures fun lexeme => ?_
  cases lexeme with
  | none => exact ensures_missingVariable (.start environment state) name
  | some expected =>
    rw [ensures_bind]
    refine (settles_withoutWhitespace (settles.parse rule) environment state framed).mono ?_
    intro parsed values after settled
    cases parsed with
    | false => simpa using settled
    | true =>
      simp only [Bool.not_true, Bool.false_eq_true, if_false, ensures_bind, ensures_cursor]
      split
      · simpa using (settles_skipWhitespace settles).after framed settled
      · exact ensures_contextMismatch settled (Nat.le_refl _) settled.reaches

private theorem settles_parseVariable [CodeUnit U] (settles : run.Settles) (name : String)
    (operation : Operation (Rule U)) : (run.parseVariable name operation).Settles := by
  intro environment state framed
  have missing := ensures_missingVariable (.start environment state) name
  rw [parseVariable, ensures_bind, ensures_cursor]
  cases operation with
  | create initial =>
    exact ((settles_bindVariable name initial).bind fun _ => settles_pure true) environment state
      framed
  | setFlag value =>
    have assigned := settles_assignVariable name (fun _ => .flag value) environment state framed
    rw [ensures_assignVariable] at assigned
    simp only [ensures_bind, ensures_assignVariable]
    cases found : state.scope.bindings.find name with
    | none => simpa using missing
    | some old =>
      rw [found] at assigned
      simpa using assigned
  | toggleFlag =>
    rw [ensures_bind]
    refine (looks_findFlag name).ensures fun flag => ?_
    cases flag with
    | none => exact missing
    | some value => exact settles_assignVariable _ _ environment state framed
  | selectFlag set unset =>
    rw [ensures_bind]
    refine (looks_findFlag name).ensures fun flag => ?_
    rcases flag with _ | _ | _
    · exact missing
    · exact settles.parse unset environment state framed
    · exact settles.parse set environment state framed
  | requireFlag expected => exact settles_parseRequirement name _ environment state framed
  | requireCounter expected => exact settles_parseRequirement name _ environment state framed
  | add amount =>
    rw [ensures_bind]
    refine (looks_findCounter name).ensures fun counter => ?_
    cases counter with
    | none => exact missing
    | some value => exact settles_assignVariable _ _ environment state framed
  | measure rule negative => exact settles_parseMeasure settles name rule negative _ _ framed
  | compareCounter value less equal greater =>
    rw [ensures_bind]
    refine (looks_findCounter name).ensures fun counter => ?_
    cases counter with
    | none => exact missing
    | some counter =>
      change (if counter < value then run.parse less
        else if counter = value then run.parse equal else run.parse greater).Ensures _ _ _
      split
      · exact settles.parse less environment state framed
      · split
        · exact settles.parse equal environment state framed
        · exact settles.parse greater environment state framed
  | capture rule => exact settles_parseCaptureVariable settles name rule _ _ framed
  | rematch rule => exact settles_parseRematch settles name rule _ _ framed

/-- Skipping to a target covers what comes before it, or does not happen. -/
theorem settles_parseFind (targets limits : List (Rule U)) :
    (run.parseFind targets limits).Settles := by
  intro environment state framed
  have settled := Conduct.start environment state
  have looks : (do
      return if ← run.anyAccepts targets then some () else none :
        Parser U σ (Option Unit)).LooksFor fun answer => ∀ found ∈ answer, True :=
    looksFor_bind (looks_anyAccepts targets) fun _ => looksFor_pure fun _ _ => trivial
  simp only [parseFind, ensures_bind, ensures_cursor]
  refine (ensures_seek_looking looks (looks_anyAccepts limits)).mono ?_
  intro answer values after ensured
  obtain ⟨-, reaches, same, -⟩ := ensured
  cases answer with
  | none =>
    simp only [ensures_bind, ensures_setCursor, ensures_pure]
    rw [same]
    exact settled
  | some found =>
    simp only [ensures_bind, ensures_cursor, ensures_reportSkipped, ensures_pure]
    have skipped := settled.skipped reaches
    rwa [← same] at skipped

private theorem settles_parseRecover (settles : run.Settles) (branches limits : List (Rule U)) :
    (run.parseRecover branches limits).Settles := by
  intro environment state framed
  have settled := Conduct.start environment state
  simp only [parseRecover, ensures_bind, ensures_cursor]
  refine (ensures_seek_looking (looksFor_firstTaken branches) (looks_anyAccepts limits)).mono ?_
  intro answer values after ensured
  obtain ⟨-, reaches, same, -⟩ := ensured
  simp only [ensures_reportSkipped]
  have skipped := settled.skipped reaches
  rw [← same] at skipped
  cases answer with
  | none => simpa using skipped
  | some branch => exact (settles.parse branch).after framed skipped

theorem settles_attemptMember (settles : run.Settles) (index : Nat) (members : List (Rule U)) :
    (run.attemptMember index members).Settles := by
  induction members generalizing index with
  | nil => exact settles_pure _
  | cons member rest ih =>
    refine (settles.attempt member).bind fun attempt => ?_
    cases attempt with
    | accepted => exact settles_pure _
    | canceled => exact settles_pure _
    | backtracked => exact ih (index + 1)

private theorem settles_parseMembers (settles : run.Settles) (members : List (Rule U))
    (partly : Bool) (seen : List Nat) (missing : Nat) :
    (run.parseMembers members partly seen missing).Settles := by
  induction missing generalizing seen with
  | zero => exact settles_pure _
  | succ missing ih =>
    intro environment state framed
    rw [parseMembers, ensures_bind, ensures_cursor, ensures_bind]
    refine (settles_attemptMember settles 0 members environment state framed).mono ?_
    intro answer values after settled
    cases answer with
    | none =>
      cases partly with
      | true => simpa using settled
      | false =>
        simp only [Bool.false_eq_true, if_false, ensures_bind, ensures_reportErrorAt,
          ensures_pure]
        exact settled.withError _ (Nat.le_refl _) (Nat.le_refl _) (Nat.le_refl _)
          settled.reaches.position
    | some taken =>
      obtain ⟨index, attempt⟩ := taken
      change Parser.Ensures (if !attempt.isAccepted then _ else _) _ _ _
      split
      · simpa using settled
      · split
        · simp only [ensures_bind, ensures_cursor, ensures_reportError, ensures_pure]
          exact settled.withError _ (Nat.le_refl _) (Nat.le_refl _) (Nat.le_max_left ..)
            (Nat.le_of_eq settled.reaches.stop_spanTo)
        · exact (ih (index :: seen)).after framed settled

variable [CodeUnit U]

theorem settles_recoverFrom (settles : run.Settles) (rule : Rule U)
    (recovery : Option (Rule U)) : (run.recoverFrom rule recovery).Settles := by
  intro environment state framed
  cases recovery with
  | some recovery => exact settles.parse recovery environment state framed
  | none =>
    simp only [recoverFrom, skipMalformed, ensures_bind, ensures_cursor, ensures_setCursor,
      ensures_pure, ensures_reportSkipped]
    exact (Conduct.start environment state).skipped (rule.reaches_skipMalformed state.cursor)

private theorem settles_parseRecovering (settles : run.Settles) (rule : Rule U)
    (recovery : Option (Rule U)) : (run.parseRecovering rule recovery).Settles := by
  apply (settles_collect (settles.parse rule)).bind
  intro answer
  obtain ⟨parsed, values⟩ := answer
  cases parsed with
  | true => exact (settles_emitAll values).bind fun _ => settles_pure _
  | false => exact settles_recoverFrom settles rule recovery

private theorem settles_attemptRecovering (settles : run.Settles) (rule : Rule U)
    (recovery : Option (Rule U)) : (run.attemptRecovering rule recovery).Settles := by
  apply (settles_collect (settles.attempt rule)).bind
  intro answer
  obtain ⟨attempt, values⟩ := answer
  cases attempt with
  | accepted => exact (settles_emitAll values).bind fun _ => settles_pure _
  | canceled => exact settles_ofBool (settles_recoverFrom settles rule recovery)
  | backtracked => exact (settles_emitAll values).bind fun _ => settles_pure _

private theorem settles_attemptLookahead (needle limit : Pattern U) :
    (attemptLookahead needle limit : Parser U σ Attempt).Settles :=
  looks_cursor.settles.bind fun _ => settles_pure _

private theorem settles_parseLookahead (needle limit : Pattern U) :
    (parseLookahead needle limit : Parser U σ Bool).Settles := by
  refine looks_cursor.settles.bind fun here => ?_
  split
  · exact settles_pure _
  · exact settles_reportErrorHere _ (settles_pure _)

private theorem settles_parseRule (settles : run.Settles) (shy : run.AlwaysShy) (rule : Rule U) :
    (run.parseRule rule).Settles := by
  cases rule with
  | token token => exact settles_parseToken settles token
  | tokenized rule kind => exact settles_parseTokenized settles rule kind
  | identifier shape reserved => exact settles_parseIdentifier settles shape reserved
  | capture rule => exact settles_parseCapture settles rule
  | position => exact settles_parsePosition
  | constant value => exact (settles_emit value).bind fun _ => settles_pure _
  | integer type digits signed => exact settles_parseInteger settles type digits signed
  | codePoint digits => exact settles_parseCodePoint settles digits
  | symbol table word => exact settles_parseSymbol settles table word
  | symbolHere table => exact settles_parseSymbolHere settles table
  | sequence rules => exact settles_parseAll settles rules
  | branch condition rest => exact settles_parseAll settles (condition :: rest)
  | choice members => exact settles_parseChoice settles members
  | optional rule => exact settles_parseOptional settles rule
  | otherwise => exact settles_pure _
  | loop body => exact settles_parseLoop settles body
  | leave => exact settles_parseLeave
  | repeated body => exact settles_parseRepeated settles body
  | repeatedOnce body => exact settles_parseRepeatedOnce settles body
  | times count body separator => exact settles_parseTimes settles body separator count
  | list item separator => exact settles_parseList settles item separator
  | terminatedList terminator item separator limits mayBeEmpty =>
    exact settles_parseTerminatedList settles _ mayBeEmpty
  | delimited opening closing content escapes => exact settles_parseDelimited settles opening _
  | onVariable name operation => exact settles_parseVariable settles name operation
  | recovering rule recovery => exact settles_parseRecovering settles rule recovery
  | find targets limits => exact settles_parseFind targets limits
  | recover branches limits => exact settles_parseRecover settles branches limits
  | peek rule expected => exact settles_parsePeek rule expected
  | lookahead needle limit => exact settles_parseLookahead needle limit
  | call production =>
    exact (settles_call settles shy production false).bind fun _ => settles_pure _
  | whitespace rule => exact (settles_skipWith settles rule).bind fun _ => settles_pure _
  | withoutWhitespace rule => exact settles_parseWithoutWhitespace settles rule
  | combination members partly => exact settles_parseMembers settles members partly [] _

private theorem settles_attemptRule (settles : run.Settles) (shy : run.AlwaysShy) (rule : Rule U) :
    (run.attemptRule rule).Settles := by
  have runs := settles_ofBool (settles_parseRule settles shy rule)
  cases rule with
  | token token => exact settles_attemptToken settles token
  | tokenized rule kind => exact settles_attemptTokenized settles rule kind
  | identifier shape reserved => exact settles_attemptIdentifier settles shape reserved
  | capture rule => exact settles_attemptCapture settles rule
  | integer type digits signed => exact settles_attemptInteger settles type digits signed
  | symbol table word => exact settles_attemptSymbol settles table word
  | symbolHere table => exact settles_attemptSymbolHere settles table
  | sequence rules => exact settles_attemptSequence settles rules
  | branch condition rest =>
    exact settles_attemptThen settles condition (settles_parseAll settles rest)
  | choice members => exact settles_attemptChoice settles members
  | repeatedOnce body =>
    exact settles_attemptThen settles body (settles_parseRepeated settles body)
  | list item separator => exact settles_attemptList settles item separator
  | delimited opening closing content escapes =>
    exact settles_attemptDelimited settles opening _
  | onVariable name operation =>
    cases operation with
    | requireFlag expected => exact settles_attemptRequirement name _
    | requireCounter expected => exact settles_attemptRequirement name _
    | _ => exact runs
  | recovering rule recovery => exact settles_attemptRecovering settles rule recovery
  | peek rule expected => exact settles_attemptPeek rule expected
  | lookahead needle limit => exact settles_attemptLookahead needle limit
  | call production => exact settles_call settles shy production true
  | withoutWhitespace rule => exact settles_attemptWithoutWhitespace settles rule
  | _ => exact runs

/-- Whatever rule is run, it keeps the scope and accounts for all that it reads. -/
theorem settles_withFuel (fuel : Nat) : (withFuel fuel : Runner U σ).Settles := by
  induction fuel with
  | zero => exact ⟨fun _ _ _ _ => ensures_outOfFuel _, fun _ _ _ _ => ensures_outOfFuel _⟩
  | succ fuel ih =>
    have shy := alwaysShy_withFuel (U := U) (σ := σ) fuel
    exact ⟨fun rule => settles_parseRule ih shy rule, fun rule => settles_attemptRule ih shy rule⟩

end Descent.Runner
