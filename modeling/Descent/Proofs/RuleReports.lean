import Descent.Proofs.DelimiterReports
import Descent.Proofs.ListReports
import Descent.Proofs.TokenReports

/-! Every rule reports its failures, if it is one of some rules that are closed under the
rules inside, that skip to no targets, and whose symbols have words that cannot fail in a
speculation. -/

namespace Descent.Runner

open Descent.Parser

variable {U σ : Type} {run : Runner U σ} {environment : Environment U σ}
  {sound : Rule U → Prop}

private theorem reports_missingVariable (name : String) (position : Nat) {failed : Bool → Prop} :
    (missingVariable name position : Parser U σ Bool).Reports environment failed := by
  intro state framed
  simp [missingVariable, State.withError]

private theorem reports_contextMismatch (position : Nat) (span : Span) {failed : Bool → Prop} :
    (contextMismatch position span : Parser U σ Bool).Reports environment failed := by
  intro state framed
  simp [contextMismatch, State.withError]

private theorem reports_parseRequirement (name : String) (operation : Operation (Rule U)) :
    (parseRequirement name operation : Parser U σ Bool).Reports environment (· = false) := by
  refine looks_cursor.settles.bind_reports fun start => ?_
  refine (looks_requirement name operation).settles.bind_reports fun answer => ?_
  rcases answer with _ | _ | _
  · exact reports_missingVariable name _
  · exact reports_contextMismatch _ _
  · exact reports_pure (by simp)

private theorem reports_attemptRequirement (name : String) (operation : Operation (Rule U)) :
    (attemptRequirement name operation : Parser U σ Attempt).Reports environment
      (· = .canceled) := by
  refine (looks_requirement name operation).settles.bind_reports fun answer => ?_
  rcases answer with _ | _ | _
  · exact looks_cursor.settles.bind_reports fun here =>
      reports_ofBool (reports_missingVariable name _)
  · exact reports_pure (by simp)
  · exact reports_pure (by simp)

/-- A variable whose contents were read is there. -/
theorem mem_names {α : Type} {bindings : Bindings} {name : String} {contents : Binding → Option α}
    {value : α} (found : (bindings.find name).bind contents = some value) :
    name ∈ bindings.map Prod.fst := by
  obtain ⟨binding, found, -⟩ := Option.bind_eq_some_iff.mp found
  obtain ⟨before, after, rfl, -⟩ := List.lookup_eq_some_iff.mp found
  simp

/-- A variable that is there can be assigned to. -/
theorem reports_assignVariable {state : State U σ} {name : String}
    (present : name ∈ state.scope.bindings.map Prod.fst) (change : Binding → Binding)
    (errors : Nat) :
    (assignVariable name change).Ensures environment state fun assigned _ after =>
      assigned = false → errors < after.report.statistics.errors := by
  rw [ensures_assignVariable]
  cases found : state.scope.bindings.find name with
  | none =>
    obtain ⟨entry, member, rfl⟩ := List.mem_map.mp present
    simpa using List.lookup_eq_none_iff.mp found entry member
  | some old => simp

/-- The counter is still there after the rule, whatever the rule has bound. -/
theorem reports_parseMeasure (settles : run.Settles) (reports : run.ReportsOf environment sound)
    (name : String) (rule : Rule U) (ruleSound : sound rule) (negative : Bool) :
    (run.parseMeasure name rule negative).Reports environment (· = false) := by
  intro state framed
  simp only [parseMeasure, findCounter, ensures_bind, ensures_cursor, ensures_findVariable,
    ensures_pure]
  cases found : (state.scope.bindings.find name).bind Binding.counter? with
  | none => exact reports_missingVariable name _ state framed
  | some value =>
    have present := mem_names found
    simp only [Option.isNone_some, Bool.false_eq_true, if_false, ensures_bind]
    refine ((settles.parse rule environment state framed).and
      (reports.parse rule ruleSound state framed)).mono ?_
    intro parsed values after ensured
    obtain ⟨settled, reported⟩ := ensured
    cases parsed with
    | false => simpa using reported rfl
    | true =>
      simp only [Bool.not_true, Bool.false_eq_true, if_false, ensures_bind, ensures_cursor]
      exact reports_assignVariable (settled.names.subset present) _ _

private theorem reports_parseCaptureVariable (settles : run.Settles)
    (reports : run.ReportsOf environment sound) (name : String) (rule : Rule U)
    (ruleSound : sound rule) :
    (run.parseCaptureVariable name rule).Reports environment (· = false) := by
  refine looks_cursor.settles.bind_reports fun start => ?_
  refine (reports_withoutWhitespace (reports.parse rule ruleSound)).bind
    (settles_withoutWhitespace (settles.parse rule)) fun parsed => ?_
  cases parsed with
  | false => exact .inl ⟨rfl, settles_pure _⟩
  | true =>
    refine .inr (looks_cursor.settles.bind_reports fun here => ?_)
    refine (settles_assignVariable _ _).bind_reports fun assigned => ?_
    intro state framed
    cases assigned <;> simp

/-- A member that was taken has not declined. -/
theorem reports_attemptMember (settles : run.Settles)
    (reports : run.ReportsOf environment sound) (index : Nat) (members : List (Rule U))
    (all : ∀ rule ∈ members, sound rule) :
    (run.attemptMember index members).Reports environment
      fun answer => ∃ taken ∈ answer, taken.2 ≠ .accepted := by
  induction members generalizing index with
  | nil => exact reports_pure (by simp)
  | cons member rest ih =>
    refine (reports.attempt member (all member (by simp))).bind (settles.attempt member)
      fun attempt => ?_
    cases attempt with
    | accepted => exact .inr (reports_pure (by simp))
    | canceled => exact .inl ⟨rfl, settles_pure _⟩
    | backtracked => exact .inr (ih _ fun other member => all other (by simp [member]))

private theorem reports_parseMembers (settles : run.Settles)
    (reports : run.ReportsOf environment sound)
    (members : List (Rule U)) (all : ∀ rule ∈ members, sound rule) (partly : Bool)
    (seen : List Nat) (missing : Nat) :
    (run.parseMembers members partly seen missing).Reports environment (· = false) := by
  induction missing generalizing seen with
  | zero => exact reports_pure (by simp)
  | succ missing ih =>
    refine looks_cursor.settles.bind_reports fun start => ?_
    refine (reports_attemptMember settles reports 0 members all).bind
      (settles_attemptMember settles 0 members) fun answer => ?_
    cases answer with
    | none =>
      refine .inr fun state framed => ?_
      cases partly <;> simp [State.withError]
    | some taken =>
      obtain ⟨index, attempt⟩ := taken
      cases attempt with
      | accepted =>
        refine .inr ?_
        change (if seen.contains index then _ else _ : Parser U σ Bool).Reports environment _
        split
        · exact fun state framed => by simp
        · exact ih (index :: seen)
      | canceled => exact .inl ⟨⟨_, rfl, by simp⟩, settles_pure _⟩
      | backtracked => exact .inl ⟨⟨_, rfl, by simp⟩, settles_pure _⟩

/-- The answers that are failures, of a rule that is tried or of one that has to match. -/
def FailsAs (asBranch : Bool) : Attempt → Prop
  | .accepted => False
  | .canceled => True
  | .backtracked => asBranch = false

private theorem reports_runAs (reports : run.ReportsOf environment sound) (asBranch : Bool)
    (rule : Rule U) (ruleSound : sound rule) :
    (run.runAs asBranch rule).Reports environment (FailsAs asBranch) := by
  intro state framed
  cases asBranch with
  | true =>
    refine (reports.attempt rule ruleSound state framed).mono ?_
    intro attempt _ after reported fails
    cases attempt with
    | accepted => exact fails.elim
    | canceled => exact reported rfl
    | backtracked => cases fails
  | false =>
    simp only [runAs, Bool.false_eq_true, if_false, ensures_bind, ensures_pure]
    refine (reports.parse rule ruleSound state framed).mono ?_
    intro parsed _ after reported fails
    cases parsed with
    | false => exact reported rfl
    | true => exact fails.elim

/-- A call fails with the rule of its production, also from outside of productions. -/
theorem ensures_callProduction_reports (settles : run.Settles)
    (reports : run.ReportsOf environment sound) (production : Production U)
    (ruleSound : sound production.rule) (asBranch : Bool) (state : State U σ) :
    (run.callProduction production asBranch).Ensures environment state fun attempt _ after =>
      FailsAs asBranch attempt →
        state.report.statistics.errors < after.report.statistics.errors := by
  rw [ensures_callProduction]
  have inner : (state.inside environment production).scope.frames ≠ [] := by
    simp [State.inside, Scope.inside]
  refine (settles_skipLeading settles _ environment environment _ inner).mono ?_
  intro _ skipped middle leading
  have framed : middle.scope.frames ≠ [] := by rwa [leading.frames]
  refine (reports_runAs reports asBranch production.rule ruleSound middle framed).mono ?_
  intro attempt values after reported
  unfold CallEnsures
  cases attempt with
  | accepted => simp [FailsAs]
  | canceled => exact fun fails => Nat.lt_of_le_of_lt leading.errors_le (reported fails)
  | backtracked => exact fun fails => Nat.lt_of_le_of_lt leading.errors_le (reported fails)

theorem ensures_call_reports (settles : run.Settles) (reports : run.ReportsOf environment sound)
    (productions : ∀ id, ∀ production ∈ environment.grammar.production? id, sound production.rule)
    (id : ProductionId) (asBranch : Bool) (state : State U σ) :
    (run.call id asBranch).Ensures environment state fun attempt _ after =>
      FailsAs asBranch attempt →
        state.report.statistics.errors < after.report.statistics.errors := by
  rw [call, ensures_bind, ensures_environment]
  cases found : environment.grammar.production? id with
  | some production =>
    exact ensures_callProduction_reports settles reports production
      (productions id production found) asBranch state
  | none => simp [State.withError]

variable [CodeUnit U]

private theorem reports_parseRematch (settles : run.Settles)
    (reports : run.ReportsOf environment sound)
    (name : String) (rule : Rule U) (ruleSound : sound rule) :
    (run.parseRematch name rule).Reports environment (· = false) := by
  refine looks_cursor.settles.bind_reports fun start => ?_
  refine (looks_findLexeme name).settles.bind_reports fun lexeme => ?_
  cases lexeme with
  | none => exact reports_missingVariable name _
  | some expected =>
    refine (reports_withoutWhitespace (reports.parse rule ruleSound)).bind
      (settles_withoutWhitespace (settles.parse rule)) fun parsed => ?_
    cases parsed with
    | false => exact .inl ⟨rfl, settles_pure _⟩
    | true =>
      refine .inr (looks_cursor.settles.bind_reports fun here => ?_)
      change (if here.slice (start.spanTo here) = here.slice expected then _ else _ :
        Parser U σ Bool).Reports environment _
      split
      · exact fun state framed => by simp
      · exact reports_contextMismatch _ _

section Variables

variable (name : String)

private theorem reports_setFlag (value : Bool) :
    (run.parseVariable name (.setFlag value)).Reports environment (· = false) := by
  intro state framed
  simp only [parseVariable, ensures_bind, ensures_cursor, ensures_assignVariable]
  cases state.scope.bindings.find name with
  | none => simpa using reports_missingVariable name _ state framed
  | some old => simp

private theorem reports_toggleFlag :
    (run.parseVariable name .toggleFlag).Reports environment (· = false) := by
  intro state framed
  simp only [parseVariable, findFlag, ensures_bind, ensures_cursor, ensures_findVariable,
    ensures_pure]
  cases found : (state.scope.bindings.find name).bind Binding.flag? with
  | none => exact reports_missingVariable name _ state framed
  | some value => exact reports_assignVariable (mem_names found) _ _

private theorem reports_add (amount : Int) :
    (run.parseVariable name (.add amount)).Reports environment (· = false) := by
  intro state framed
  simp only [parseVariable, findCounter, ensures_bind, ensures_cursor, ensures_findVariable,
    ensures_pure]
  cases found : (state.scope.bindings.find name).bind Binding.counter? with
  | none => exact reports_missingVariable name _ state framed
  | some value => exact reports_assignVariable (mem_names found) _ _

private theorem reports_selectFlag (reports : run.ReportsOf environment sound) {set unset : Rule U}
    (setSound : sound set) (unsetSound : sound unset) :
    (run.parseVariable name (.selectFlag set unset)).Reports environment (· = false) := by
  refine looks_cursor.settles.bind_reports fun start => ?_
  refine (looks_findFlag name).settles.bind_reports fun flag => ?_
  rcases flag with _ | _ | _
  · exact reports_missingVariable name _
  · exact reports.parse unset unsetSound
  · exact reports.parse set setSound

private theorem reports_compareCounter (reports : run.ReportsOf environment sound) (value : Int)
    {less equal greater : Rule U} (lessSound : sound less) (equalSound : sound equal)
    (greaterSound : sound greater) :
    (run.parseVariable name (.compareCounter value less equal greater)).Reports environment
      (· = false) := by
  refine looks_cursor.settles.bind_reports fun start => ?_
  refine (looks_findCounter name).settles.bind_reports fun counter => ?_
  cases counter with
  | none => exact reports_missingVariable name _
  | some counter =>
    change (if counter < value then run.parse less
      else if counter = value then run.parse equal else run.parse greater).Reports _ _
    split
    · exact reports.parse less lessSound
    · split
      · exact reports.parse equal equalSound
      · exact reports.parse greater greaterSound

end Variables

private theorem reports_parseVariable (settles : run.Settles)
    (reports : run.ReportsOf environment sound)
    (name : String) (operation : Operation (Rule U)) (all : ∀ rule ∈ operation.parts, sound rule) :
    (run.parseVariable name operation).Reports environment (· = false) := by
  have start : (cursor : Parser U σ (Cursor U)).Settles := looks_cursor.settles
  cases operation with
  | create initial => exact fun state framed => by simp [parseVariable]
  | setFlag value => exact reports_setFlag name value
  | toggleFlag => exact reports_toggleFlag name
  | selectFlag set unset =>
    exact reports_selectFlag name reports (all set (.head _)) (all unset (.tail _ (.head _)))
  | requireFlag expected => exact start.bind_reports fun _ => reports_parseRequirement name _
  | requireCounter expected => exact start.bind_reports fun _ => reports_parseRequirement name _
  | add amount => exact reports_add name amount
  | measure rule negative =>
    exact start.bind_reports fun _ =>
      reports_parseMeasure settles reports name rule (all rule (.head _)) negative
  | compareCounter value less equal greater =>
    exact reports_compareCounter name reports value (all less (.head _))
      (all equal (.tail _ (.head _))) (all greater (.tail _ (.tail _ (.head _))))
  | capture rule =>
    exact start.bind_reports fun _ =>
      reports_parseCaptureVariable settles reports name rule (all rule (.head _))
  | rematch rule =>
    exact start.bind_reports fun _ =>
      reports_parseRematch settles reports name rule (all rule (.head _))

/-- A recovery may fail in silence: what it recovers from was reported. -/
theorem reports_parseRecovering (settles : run.Settles)
    (reports : run.ReportsOf environment sound) (rule : Rule U) (ruleSound : sound rule)
    (recovery : Option (Rule U)) :
    (run.parseRecovering rule recovery).Reports environment (· = false) := by
  refine (reports_collect (reports.parse rule ruleSound)).bind
    (settles_collect (settles.parse rule)) ?_
  intro answer
  obtain ⟨parsed, values⟩ := answer
  cases parsed with
  | true => exact .inr ((settles_emitAll values).bind_reports fun _ => reports_pure (by simp))
  | false => exact .inl ⟨rfl, settles_recoverFrom settles rule recovery⟩

private theorem reports_attemptRecovering (settles : run.Settles)
    (reports : run.ReportsOf environment sound) (rule : Rule U) (ruleSound : sound rule)
    (recovery : Option (Rule U)) :
    (run.attemptRecovering rule recovery).Reports environment (· = .canceled) := by
  refine (reports_collect (reports.attempt rule ruleSound)).bind
    (settles_collect (settles.attempt rule)) ?_
  intro answer
  obtain ⟨attempt, values⟩ := answer
  cases attempt with
  | accepted => exact .inr ((settles_emitAll values).bind_reports fun _ => reports_pure (by simp))
  | canceled => exact .inl ⟨rfl, settles_ofBool (settles_recoverFrom settles rule recovery)⟩
  | backtracked =>
    exact .inr ((settles_emitAll values).bind_reports fun _ => reports_pure (by simp))

private theorem reports_attemptLookahead (needle limit : Pattern U) :
    (attemptLookahead needle limit : Parser U σ Attempt).Reports environment (· = .canceled) := by
  refine looks_cursor.settles.bind_reports fun here => ?_
  split <;> exact reports_pure (by simp)

private theorem reports_parseLookahead (needle limit : Pattern U) :
    (parseLookahead needle limit : Parser U σ Bool).Reports environment (· = false) := by
  refine looks_cursor.settles.bind_reports fun here => ?_
  split
  · exact reports_pure (by simp)
  · exact reports_errorHere _ (settles_pure _)

/-- Rules that are closed under what they are made of and report their failures by
themselves. -/
structure Sound (environment : Environment U σ) (run : Runner U σ) (sound : Rule U → Prop) :
    Prop where
  part : ∀ rule, sound rule → ∀ inner ∈ rule.parts, sound inner
  production : ∀ id, ∀ production ∈ environment.grammar.production? id, sound production.rule
  find : ∀ targets limits, ¬sound (.find targets limits)
  recover : ∀ branches limits, ¬sound (.recover branches limits)
  symbol : ∀ table word, sound (.symbol table word) →
    ∀ state : State U σ, state.scope.frames ≠ [] →
      (run.attempt word).Ensures (unobserved environment) (unreported state).withoutWhitespace
        fun attempt _ _ => attempt ≠ .canceled

private theorem reports_parseCall (settles : run.Settles)
    (reports : run.ReportsOf environment sound) (closed : Sound environment run sound)
    (production : ProductionId) :
    (run.parseRule (.call production)).Reports environment (· = false) := by
  intro state framed
  simp only [parseRule, ensures_bind, ensures_pure]
  refine (ensures_call_reports settles reports closed.production production false state).mono ?_
  intro attempt _ after reported fails
  cases attempt with
  | accepted => cases fails
  | canceled => exact reported trivial
  | backtracked => exact reported rfl

private theorem reports_attemptCall (settles : run.Settles)
    (reports : run.ReportsOf environment sound) (closed : Sound environment run sound)
    (production : ProductionId) :
    (run.attemptRule (.call production)).Reports environment (· = .canceled) := by
  intro state framed
  refine (ensures_call_reports settles reports closed.production production true state).mono ?_
  intro attempt _ after reported fails
  cases fails
  exact reported trivial

private theorem reports_parseRule (settles : run.Settles)
    (reports : run.ReportsOf environment sound)
    (closed : Sound environment run sound) (rule : Rule U) (ruleSound : sound rule) :
    (run.parseRule rule).Reports environment (· = false) := by
  have part := closed.part rule ruleSound
  cases rule with
  | token token => exact reports_parseToken token
  | tokenized rule kind => exact reports_parseTokenized rule kind
  | identifier shape reserved => exact reports_parseIdentifier shape reserved
  | capture rule =>
    exact reports_parseCapture settles reports rule (part rule (.head _))
  | position => exact reports_parsePosition
  | constant value => exact (settles_emit value).bind_reports fun _ => reports_pure (by simp)
  | integer type digits signed => exact reports_parseInteger type digits signed
  | codePoint digits => exact reports_parseCodePoint digits
  | symbol table word =>
    exact reports_parseSymbol settles reports table word (part word (.head _))
  | symbolHere table => exact reports_parseSymbolHere table
  | sequence rules => exact reports_parseAll settles reports rules part
  | branch condition rest => exact reports_parseAll settles reports (condition :: rest) part
  | choice members => exact reports_parseChoice settles reports members part
  | optional rule =>
    exact reports_parseOptional settles reports rule (part rule (.head _))
  | otherwise => exact reports_pure (by simp)
  | loop body => exact reports_parseLoop settles reports body (part body (.head _))
  | leave => exact reports_parseLeave
  | repeated body =>
    exact reports_parseRepeated settles reports body (part body (.head _))
  | repeatedOnce body =>
    exact reports_parseRepeatedOnce settles reports body (part body (.head _))
  | times count body separator =>
    exact reports_parseTimes settles reports body (part body (.head _)) separator
      (fun rule member => part rule (.tail _ (Option.mem_toList.mpr member))) count
  | list item separator =>
    exact reports_parseList settles reports item (part item (.head _)) separator
      fun _ member => part _ (.tail _ (Rule.mem_separator member))
  | terminatedList terminator item separator limits mayBeEmpty =>
    exact reports_parseTerminatedList settles reports ⟨terminator, item, separator, limits⟩
      (part terminator (.head _)) (part item (.tail _ (.head _)))
      (fun _ member => part _ (List.mem_append_left limits
        (.tail _ (.tail _ (Rule.mem_separator member))))) mayBeEmpty
  | delimited opening closing content escapes =>
    exact reports_parseDelimited settles reports opening (part opening (.head _))
      ⟨closing, content, escapes⟩ (part closing (.tail _ (.head _)))
      fun _ member rule inside => part rule (Rule.mem_parts_delimited member inside)
  | onVariable name operation => exact reports_parseVariable settles reports name operation part
  | recovering rule recovery =>
    exact reports_parseRecovering settles reports rule (part rule (.head _)) recovery
  | find targets limits => exact absurd ruleSound (closed.find targets limits)
  | recover branches limits => exact absurd ruleSound (closed.recover branches limits)
  | peek rule expected => exact reports_parsePeek rule expected
  | lookahead needle limit => exact reports_parseLookahead needle limit
  | call production => exact reports_parseCall settles reports closed production
  | whitespace rule =>
    exact (settles_skipWith settles rule).bind_reports fun _ => reports_pure (by simp)
  | withoutWhitespace rule =>
    exact reports_parseWithoutWhitespace reports rule (part rule (.head _))
  | combination members partly => exact reports_parseMembers settles reports members part partly _ _

private theorem reports_attemptRule (settles : run.Settles)
    (reports : run.ReportsOf environment sound)
    (closed : Sound environment run sound) (rule : Rule U) (ruleSound : sound rule) :
    (run.attemptRule rule).Reports environment (· = .canceled) := by
  have part := closed.part rule ruleSound
  have runs := reports_ofBool (reports_parseRule settles reports closed rule ruleSound)
  cases rule with
  | token token => exact reports_attemptToken token
  | tokenized rule kind => exact reports_attemptTokenized rule kind
  | identifier shape reserved => exact reports_attemptIdentifier shape reserved
  | capture rule =>
    exact reports_attemptCapture settles reports rule (part rule (.head _))
  | integer type digits signed => exact reports_attemptInteger type digits signed
  | symbol table word => exact reports_attemptSymbol table word (closed.symbol table word ruleSound)
  | symbolHere table => exact reports_attemptSymbolHere table
  | sequence rules => exact reports_attemptSequence settles reports rules part
  | branch condition rest =>
    exact reports_attemptThen settles reports condition (part condition (.head _))
      (reports_parseAll settles reports rest fun rule member => part rule (.tail _ member))
  | choice members => exact reports_attemptChoice settles reports members part
  | repeatedOnce body =>
    have bodySound := part body (.head _)
    exact reports_attemptThen settles reports body bodySound
      (reports_parseRepeated settles reports body bodySound)
  | list item separator =>
    exact reports_attemptList settles reports item (part item (.head _)) separator
      fun _ member => part _ (.tail _ (Rule.mem_separator member))
  | delimited opening closing content escapes =>
    exact reports_attemptDelimited settles reports opening (part opening (.head _))
      ⟨closing, content, escapes⟩ (part closing (.tail _ (.head _)))
      fun _ member rule inside => part rule (Rule.mem_parts_delimited member inside)
  | onVariable name operation =>
    cases operation with
    | requireFlag expected => exact reports_attemptRequirement name _
    | requireCounter expected => exact reports_attemptRequirement name _
    | _ => exact runs
  | recovering rule recovery =>
    exact reports_attemptRecovering settles reports rule (part rule (.head _)) recovery
  | peek rule expected => exact reports_attemptPeek rule expected
  | lookahead needle limit => exact reports_attemptLookahead needle limit
  | call production => exact reports_attemptCall settles reports closed production
  | withoutWhitespace rule =>
    exact reports_attemptWithoutWhitespace reports rule (part rule (.head _))
  | _ => exact runs

/-- Failures are reported at every fuel, if the conditions on symbols hold at every fuel. -/
theorem reports_withFuel (closed : ∀ fuel, Sound environment (withFuel fuel) sound) (fuel : Nat) :
    (withFuel fuel).ReportsOf environment sound := by
  induction fuel with
  | zero => exact ⟨fun _ _ _ _ => ensures_outOfFuel _, fun _ _ _ _ => ensures_outOfFuel _⟩
  | succ fuel ih =>
    have settles := settles_withFuel (U := U) (σ := σ) fuel
    exact ⟨fun rule ruleSound => reports_parseRule settles ih (closed fuel) rule ruleSound,
      fun rule ruleSound => reports_attemptRule settles ih (closed fuel) rule ruleSound⟩

end Descent.Runner
