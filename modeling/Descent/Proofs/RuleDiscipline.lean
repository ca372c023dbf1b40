import Descent.Proofs.Discipline

/-! Every rule keeps what it has to keep, whatever it answers, and binds variables only if there is
something in it that creates them. -/

namespace Descent

open Descent.Parser

namespace Rule

variable {U : Type}

/-- The rules inside a rule that may leave variables behind it, with those that it recovers with.
What is bound in a loop lasts one round, and what is bound in a speculation does not last at all. -/
def lasting : Rule U → List (Rule U)
  | capture rule | symbol _ rule | optional rule | repeated rule | repeatedOnce rule => [rule]
  | whitespace rule | withoutWhitespace rule => [rule]
  | recovering rule recovery => rule :: recovery.toList
  | sequence rules | choice rules | combination rules _ => rules
  | branch condition rest => condition :: rest
  | times _ body separator => body :: separator.toList
  | list item separator => item :: (separator.map Separator.rule).toList
  | terminatedList terminator item separator _ _ =>
    terminator :: item :: (separator.map Separator.rule).toList
  | delimited opening closing _ escapes =>
    opening :: closing :: escapes.flatMap fun escape => escape.actions.flatMap EscapeAction.parts
  | onVariable _ operation => operation.parts
  | recover branches _ => branches
  | token _ | tokenized .. | identifier .. | position | constant _ | integer .. | codePoint _ => []
  | symbolHere _ | otherwise | loop _ | leave | find .. | peek .. | lookahead .. | call _ => []

/-- A rule that can leave a variable behind that it has created. -/
inductive Creates : Rule U → Prop
  | create (name : String) (initial : Binding) : Creates (.onVariable name (.create initial))
  | capture (name : String) (rule : Rule U) : Creates (.onVariable name (.capture rule))
  | inside {rule inner : Rule U} (lasts : inner ∈ rule.lasting) (creates : inner.Creates) :
    Creates rule

end Rule

namespace Runner

variable {U σ : Type} {run : Runner U σ} {binds : Prop} {environment : Environment U σ}
  {state : State U σ}

/-- A runner all of whose rules keep what they have to keep. Those that create variables need the
permission to bind them. -/
structure Keeps (run : Runner U σ) : Prop where
  parse {binds : Prop} {rule : Rule U} (binding : rule.Creates → binds) :
    (run.parse rule).Keeps binds
  attempt {binds : Prop} {rule : Rule U} (binding : rule.Creates → binds) :
    (run.attempt rule).Keeps binds

section Whitespace

/-- Inside of whitespace, no rule for whitespace is in effect. -/
theorem binding_of_quiet (quiet : binds ∨ state.scope.inWhitespace = true) :
    ∀ whitespace ∈ state.scope.whitespace?, whitespace.Creates → binds := by
  intro whitespace found _
  rcases quiet with binding | inside
  · exact binding
  · simp [Scope.whitespace?, inside] at found

variable (keeps : run.Keeps)
include keeps

/-- The rule for whitespace is tried where no whitespace is skipped by itself. -/
theorem ensures_skipWith_kept {whitespace : Rule U} (binding : whitespace.Creates → binds) :
    (run.skipWith whitespace).Ensures environment state fun _ _ after =>
      Kept binds state after := by
  simp only [skipWith, ensures_bind, ensures_cursor, ensures_scope, ensures_modifyScope,
    ensures_modifyReport, ensures_ite, ensures_reportToken, ensures_pure, loop]
  -- In the muffled state whitespace is being skipped, so the rule needs no permission to bind.
  have rounds : (iterate (fun _ => do
      let start ← cursor
      let attempt ← quietly (run.attempt whitespace)
      if attempt.isAccepted && (← cursor).position != start.position then return .again ()
      else return .done ()) run.fuel () : Parser U σ Unit).Keeps binds := by
    refine keeps_iterate (fun _ => ?_) _ _
    refine looks_cursor.keeps.bind fun start => ?_
    refine (keeps_quietly (keeps.attempt binding)).bind fun attempt => ?_
    refine looks_cursor.keeps.bind fun here => ?_
    split <;> exact keeps_pure _
  refine (rounds environment state.muffled (.inr rfl)).mono fun _ _ after kept => ?_
  have skipped : Kept binds state (after.unmuffled state.scope.inWhitespace) := kept.unmuffled
  split
  · exact skipped.told rfl rfl (by simp [State.withToken, State.unmuffled])
  · exact skipped

theorem keeps_skipWith {whitespace : Rule U} (binding : whitespace.Creates → binds) :
    (run.skipWith whitespace).Keeps binds :=
  fun _ _ _ => ensures_skipWith_kept keeps binding

/-- No variables are bound behind the back of a rule if the rule for whitespace in effect creates
none. -/
theorem ensures_skipWhitespace_kept
    (binding : ∀ whitespace ∈ state.scope.whitespace?, whitespace.Creates → binds) :
    run.skipWhitespace.Ensures environment state fun _ _ after => Kept binds state after := by
  rw [skipWhitespace, ensures_bind, ensures_scope]
  cases found : state.scope.whitespace? with
  | none => exact (ensures_pure ..).mpr (.refl binds state)
  | some whitespace => exact ensures_skipWith_kept keeps (binding whitespace found)

theorem keeps_skipWhitespace : run.skipWhitespace.Keeps binds :=
  fun _ _ quiet => ensures_skipWhitespace_kept keeps (binding_of_quiet quiet)

theorem keeps_ifAccepted {parser : Parser U σ Attempt} (inner : parser.Keeps binds) :
    (do
      let attempt ← parser
      if attempt.isAccepted then run.skipWhitespace
      return attempt : Parser U σ Attempt).Keeps binds := by
  refine inner.bind fun attempt => ?_
  cases attempt with
  | accepted => exact (keeps_skipWhitespace keeps).bind fun _ => keeps_pure _
  | canceled => exact keeps_pure _
  | backtracked => exact keeps_pure _

theorem keeps_ifParsed {parser : Parser U σ Bool} (inner : parser.Keeps binds) :
    (do
      let parsed ← parser
      if parsed then run.skipWhitespace
      return parsed : Parser U σ Bool).Keeps binds := by
  refine inner.bind fun parsed => ?_
  cases parsed with
  | true => exact (keeps_skipWhitespace keeps).bind fun _ => keeps_pure _
  | false => exact keeps_pure _

end Whitespace

section Calls

private theorem keeps_skipLeading (keeps : run.Keeps) (outermost : Bool)
    (environment : Environment U σ) : (run.skipLeading outermost environment).Keeps binds := by
  unfold skipLeading
  split
  · exact keeps_skipWhitespace keeps
  · exact keeps_pure ()

private theorem keeps_runAs (keeps : run.Keeps) (asBranch : Bool) (rule : Rule U) :
    (run.runAs asBranch rule).Keeps True := by
  cases asBranch with
  | true => exact keeps.attempt fun _ => trivial
  | false => exact keeps_ofBool (keeps.parse fun _ => trivial)

/-- Whatever the rule of a production binds is gone after it. Only whitespace after a token may
leave variables behind. -/
theorem ensures_callProduction_kept (keeps : run.Keeps) (production : Production U)
    (asBranch : Bool)
    (binding : ∀ whitespace ∈ state.scope.whitespace?, whitespace.Creates → binds) :
    (run.callProduction production asBranch).Ensures environment state fun _ _ after =>
      Kept binds state after := by
  rw [ensures_callProduction]
  have begun : Kept True (state.inside environment production)
      (state.inside environment production) := .refl True _
  refine ((keeps_skipLeading keeps _ environment).after begun (.inl trivial)).mono
    fun _ skipped middle leading => ?_
  refine ((keeps_runAs keeps asBranch production.rule).after leading (.inl trivial)).mono
    fun attempt values after kept => ?_
  have outside : Kept binds state after.outside := kept.outside.weaken
  unfold CallEnsures
  cases attempt with
  | accepted =>
    let ended := after.outside.withEnd environment production.profile
      (state.report.ticket environment.observer production.profile state.cursor.position)
      (.finished values after.cursor.position)
    have finished : Kept binds state ended := outside.told rfl rfl rfl
    -- After a token it is the whitespace of the caller that is skipped.
    have same : ended.scope.whitespace? = state.scope.whitespace? := by
      simp only [Scope.whitespace?, finished.frames, finished.inWhitespace, finished.noWhitespace]
    change (if production.profile.isToken then run.skipWhitespace else pure ()).Ensures environment
      ended _
    split
    · exact (ensures_skipWhitespace_kept keeps (by rwa [same])).mono
        fun _ _ _ next => finished.trans next
    · exact (ensures_pure ..).mpr finished
  | canceled => exact outside.told rfl rfl rfl
  | backtracked => exact { outside with reaches := .refl _ }

theorem ensures_call_kept (keeps : run.Keeps) (id : ProductionId) (asBranch : Bool)
    (binding : ∀ whitespace ∈ state.scope.whitespace?, whitespace.Creates → binds) :
    (run.call id asBranch).Ensures environment state fun _ _ after => Kept binds state after := by
  rw [call, ensures_bind, ensures_environment]
  cases environment.grammar.production? id with
  | some production => exact ensures_callProduction_kept keeps production asBranch binding
  | none => exact (tells_reportedHere _ Attempt.canceled).ensures

theorem keeps_call (keeps : run.Keeps) (id : ProductionId) (asBranch : Bool) :
    (run.call id asBranch).Keeps binds :=
  fun _ _ quiet => ensures_call_kept keeps id asBranch (binding_of_quiet quiet)

end Calls

section Tokens

private theorem ensures_acceptToken_kept (keeps : run.Keeps) (kind : TokenKind) {after : Cursor U}
    (reaches : state.cursor.Reaches after) (quiet : binds ∨ state.scope.inWhitespace = true) :
    (run.acceptToken kind state.cursor after).Ensures environment state fun _ _ last =>
      Kept binds state last :=
  ((tells_reportToken kind _ _).keeps.bind fun _ => keeps_skipWhitespace keeps).moving reaches quiet

/-- A speculation stops further on. -/
theorem ensures_probeWhole_kept (keeps : run.Keeps) (rule : Rule U) :
    (run.probeWhole rule).Ensures environment state fun answer _ after =>
      after = state ∧ state.cursor.Reaches answer.2 := by
  simp only [probeWhole, ensures_lookAhead, ensures_quietly, ensures_speculate]
  have whole : (withoutWhitespace (run.parse rule)).Keeps True :=
    keeps_withoutWhitespace (keeps.parse fun _ => trivial)
  refine (whole _ (unreported state) (.inl trivial)).mono fun _ _ after kept => ?_
  exact ⟨trivial, kept.reaches⟩

theorem keeps_attemptTokenized (keeps : run.Keeps) (rule : Rule U) (kind : TokenKind) :
    (run.attemptTokenized rule kind).Keeps binds := by
  refine keeps_cursor fun environment state quiet => ?_
  rw [ensures_bind]
  refine (ensures_probeWhole_kept keeps rule).mono ?_
  rintro ⟨isMatch, after⟩ values _ ⟨rfl, reaches⟩
  cases isMatch with
  | true => simpa using ensures_acceptToken_kept keeps kind reaches quiet
  | false => simpa using Kept.refl binds _

theorem keeps_parseTokenized (keeps : run.Keeps) (rule : Rule U) (kind : TokenKind) :
    (run.parseTokenized rule kind).Keeps binds := by
  refine keeps_cursor fun environment state quiet => ?_
  rw [ensures_bind]
  refine (ensures_probeWhole_kept keeps rule).mono ?_
  rintro ⟨isMatch, after⟩ values _ ⟨rfl, reaches⟩
  cases isMatch with
  | true => simpa using ensures_acceptToken_kept keeps kind reaches quiet
  | false =>
    exact Keeps.moving ((tells_reportSkipped _ _).bind fun _ =>
      tells_reported _ _ _ false).keeps reaches quiet

private theorem keeps_acceptCapture (keeps : run.Keeps) (start : Cursor U) (values : List Value) :
    (run.acceptCapture start values).Keeps binds :=
  looks_cursor.keeps.bind fun _ => (tells_emit _).keeps.bind fun _ =>
    (tells_emitAll values).keeps.bind fun _ => keeps_skipWhitespace keeps

theorem keeps_attemptCapture (keeps : run.Keeps) {rule : Rule U} (binding : rule.Creates → binds) :
    (run.attemptCapture rule).Keeps binds := by
  refine looks_cursor.keeps.bind fun start => ?_
  refine (keeps_collect (keeps_withoutWhitespace (keeps.attempt binding))).bind ?_
  rintro ⟨attempt, values⟩
  cases attempt with
  | accepted => exact (keeps_acceptCapture keeps start values).bind fun _ => keeps_pure _
  | canceled => exact keeps_pure _
  | backtracked => exact keeps_pure _

theorem keeps_parseCapture (keeps : run.Keeps) {rule : Rule U} (binding : rule.Creates → binds) :
    (run.parseCapture rule).Keeps binds := by
  refine looks_cursor.keeps.bind fun start => ?_
  refine (keeps_collect (keeps_withoutWhitespace (keeps.parse binding))).bind ?_
  rintro ⟨parsed, values⟩
  cases parsed with
  | true => exact (keeps_acceptCapture keeps start values).bind fun _ => keeps_pure _
  | false => exact keeps_pure _

theorem tells_parsePosition : (parsePosition : Parser U σ Bool).Tells :=
  looks_cursor.tells.bind fun _ => (tells_reportToken _ _ _).bind fun _ =>
    (tells_emit _).bind fun _ => tells_pure _

private theorem keeps_acceptSymbol (keeps : run.Keeps) (value : Value) :
    (run.acceptSymbol value).Keeps binds :=
  (tells_emit value).keeps.bind fun _ => keeps_skipWhitespace keeps

private theorem ensures_acceptSymbolHere_kept (keeps : run.Keeps) {after : Cursor U} (value : Value)
    (reaches : state.cursor.Reaches after) (quiet : binds ∨ state.scope.inWhitespace = true) :
    (run.acceptSymbolHere state.cursor after value).Ensures environment state fun _ _ last =>
      Kept binds state last :=
  Keeps.moving ((tells_reportToken _ _ _).keeps.bind fun _ => keeps_acceptSymbol keeps value)
    reaches quiet

theorem ensures_failure_kept {stopped : Cursor U} (reaches : state.cursor.Reaches stopped)
    (kind : ParseError.Kind) (quiet : binds ∨ state.scope.inWhitespace = true) :
    (do
      setCursor stopped
      reportFailure state.cursor stopped kind
      return false : Parser U σ Bool).Ensures environment state fun _ _ after =>
        Kept binds state after :=
  Keeps.moving ((tells_reportFailure _ _ kind).bind fun _ => tells_pure false).keeps reaches quiet

variable [CodeUnit U]

theorem keeps_attemptToken (keeps : run.Keeps) (token : Token U) :
    (run.attemptToken token).Keeps binds := by
  refine keeps_cursor fun environment state quiet => ?_
  have forward := token.pattern.forward_run state.cursor
  cases found : token.pattern.run state.cursor with
  | failed failure stopped => exact (ensures_pure ..).mpr (.refl binds state)
  | matched after =>
    simpa using ensures_acceptToken_kept keeps token.kind (forward.matched found) quiet

theorem keeps_parseToken (keeps : run.Keeps) (token : Token U) :
    (run.parseToken token).Keeps binds := by
  refine keeps_cursor fun environment state quiet => ?_
  have forward := token.pattern.forward_run state.cursor
  cases found : token.pattern.run state.cursor with
  | failed failure stopped => exact ensures_failure_kept (forward.failed found) _ quiet
  | matched after =>
    simpa using ensures_acceptToken_kept keeps token.kind (forward.matched found) quiet

private theorem ensures_acceptIdentifier_kept (keeps : run.Keeps) (reserved : Trie U)
    {after : Cursor U}
    (reaches : state.cursor.Reaches after) (quiet : binds ∨ state.scope.inWhitespace = true) :
    (run.acceptIdentifier reserved state.cursor after).Ensures environment state fun _ _ last =>
      Kept binds state last := by
  refine Keeps.moving ((tells_reportToken _ _ _).keeps.bind fun _ => ?_) reaches quiet
  have accepts : (do
      emit (.lexeme (state.cursor.spanTo after))
      run.skipWhitespace : Parser U σ Unit).Keeps binds :=
    (tells_emit _).keeps.bind fun _ => keeps_skipWhitespace keeps
  dsimp only
  split
  · exact (tells_reportError _ _ _).keeps.bind fun _ => accepts
  · exact accepts

theorem keeps_attemptIdentifier (keeps : run.Keeps) (shape : IdentifierShape) (reserved : Trie U) :
    (run.attemptIdentifier shape reserved).Keeps binds := by
  refine keeps_cursor fun environment state quiet => ?_
  have forward := shape.forward_run state.cursor
  cases found : shape.run state.cursor with
  | failed failure stopped => exact (ensures_pure ..).mpr (.refl binds state)
  | matched after =>
    simpa using ensures_acceptIdentifier_kept keeps reserved (forward.matched found) quiet

theorem keeps_parseIdentifier (keeps : run.Keeps) (shape : IdentifierShape) (reserved : Trie U) :
    (run.parseIdentifier shape reserved).Keeps binds := by
  refine keeps_cursor fun environment state quiet => ?_
  have forward := shape.forward_run state.cursor
  cases found : shape.run state.cursor with
  | failed failure stopped => exact ensures_failure_kept (forward.failed found) _ quiet
  | matched after =>
    simpa using ensures_acceptIdentifier_kept keeps reserved (forward.matched found) quiet

private theorem ensures_acceptInteger_kept (keeps : run.Keeps) (type : IntegerType)
    (digits : DigitRun)
    (negative : Bool) {first after : Cursor U} (reaches : state.cursor.Reaches after)
    (quiet : binds ∨ state.scope.inWhitespace = true) :
    (run.acceptInteger type digits negative state.cursor first after).Ensures environment state
      fun _ _ last => Kept binds state last := by
  refine Keeps.moving ((tells_reportToken _ _ _).keeps.bind fun _ => ?_) reaches quiet
  cases digits.convert type negative after (first.spanTo after) with
  | error failure => exact (tells_reported _ _ _ false).keeps
  | ok number =>
    exact (tells_emit _).keeps.bind fun _ => (keeps_skipWhitespace keeps).bind fun _ => keeps_pure _

theorem keeps_attemptInteger (keeps : run.Keeps) (type : IntegerType) (digits : DigitRun)
    (signed : Bool) : (run.attemptInteger type digits signed).Keeps binds := by
  refine keeps_cursor fun environment state quiet => ?_
  have sign := reaches_readSign signed state.cursor
  rcases read : readSign signed state.cursor with ⟨negative, first⟩
  rw [read] at sign
  have forward := digits.forward_run first
  dsimp only
  cases found : digits.run first with
  | failed failure stopped => exact (ensures_pure ..).mpr (.refl binds state)
  | matched after =>
    simpa using ensures_acceptInteger_kept keeps type digits negative
      (sign.trans (forward.matched found)) quiet

theorem keeps_parseInteger (keeps : run.Keeps) (type : IntegerType) (digits : DigitRun)
    (signed : Bool) : (run.parseInteger type digits signed).Keeps binds := by
  refine keeps_cursor fun environment state quiet => ?_
  have sign := reaches_readSign signed state.cursor
  rcases read : readSign signed state.cursor with ⟨negative, first⟩
  rw [read] at sign
  have forward := digits.forward_run first
  dsimp only
  cases found : digits.run first with
  | failed failure stopped =>
    exact ensures_failure_kept (sign.trans (forward.failed found)) _ quiet
  | matched after =>
    exact ensures_acceptInteger_kept keeps type digits negative
      (sign.trans (forward.matched found)) quiet

theorem keeps_parseCodePoint (keeps : run.Keeps) (digits : DigitCount) :
    (run.parseCodePoint digits).Keeps binds := by
  refine keeps_cursor fun environment state quiet => ?_
  have reaches := digits.reaches_readCodePoint state.cursor
  rcases read : digits.readCodePoint state.cursor with ⟨answer, after⟩
  rw [read] at reaches
  cases answer with
  | error failure => exact ensures_failure_kept reaches _ quiet
  | ok character =>
    exact Keeps.moving ((tells_reportToken _ _ _).keeps.bind fun _ => (tells_emit _).keeps.bind
      fun _ => (keeps_skipWhitespace keeps).bind fun _ => keeps_pure true) reaches quiet

theorem keeps_attemptSymbolHere (keeps : run.Keeps) (table : SymbolTable U) :
    (run.attemptSymbolHere table).Keeps binds := by
  refine keeps_cursor fun environment state quiet => ?_
  cases found : table.longest state.cursor with
  | none => exact (ensures_pure ..).mpr (.refl binds state)
  | some longest =>
    simpa using ensures_acceptSymbolHere_kept keeps longest.1
      (SymbolTable.longest_reaches found) quiet

theorem keeps_parseSymbolHere (keeps : run.Keeps) (table : SymbolTable U) :
    (run.parseSymbolHere table).Keeps binds := by
  refine keeps_cursor fun environment state quiet => ?_
  cases found : table.longest state.cursor with
  | none => exact (tells_reported _ _ _ false).keeps environment state quiet
  | some longest =>
    simpa using ensures_acceptSymbolHere_kept keeps longest.1
      (SymbolTable.longest_reaches found) quiet

theorem keeps_attemptSymbol (keeps : run.Keeps) (table : SymbolTable U) {word : Rule U}
    (binding : word.Creates → binds) : (run.attemptSymbol table word).Keeps binds := by
  refine looks_cursor.keeps.bind fun start => ?_
  refine (looks_lookAhead_speculate _).keeps.bind ?_
  rintro ⟨attempt, after⟩
  cases attempt with
  | accepted =>
    simp only [Attempt.isAccepted]
    cases table.find (after.slice (start.spanTo after)) with
    | none => exact keeps_pure _
    | some value =>
      exact (keeps_discard (keeps_quietly (keeps_withoutWhitespace
        (keeps.parse binding)))).bind fun _ =>
          (keeps_acceptSymbol keeps value).bind fun _ => keeps_pure _
  | canceled => exact keeps_pure _
  | backtracked => exact keeps_pure _

theorem keeps_parseSymbol (keeps : run.Keeps) (table : SymbolTable U) {word : Rule U}
    (binding : word.Creates → binds) : (run.parseSymbol table word).Keeps binds := by
  refine looks_cursor.keeps.bind fun start => ?_
  refine (keeps_quietly (keeps_withoutWhitespace (keeps.parse binding))).bind fun parsed => ?_
  cases parsed with
  | false => exact keeps_pure _
  | true =>
    refine looks_cursor.keeps.bind fun here => ?_
    dsimp only
    cases table.find (here.slice (start.spanTo here)) with
    | none => exact (tells_reported _ _ _ false).keeps
    | some value => exact (keeps_acceptSymbol keeps value).bind fun _ => keeps_pure _

end Tokens

section Structure

theorem keeps_parseAll (keeps : run.Keeps) (rules : List (Rule U))
    (binding : ∀ rule ∈ rules, rule.Creates → binds) : (run.parseAll rules).Keeps binds := by
  induction rules with
  | nil => exact keeps_pure true
  | cons rule rest ih =>
    refine (keeps.parse (binding rule (.head _))).bind fun parsed => ?_
    cases parsed with
    | true => exact ih fun other member => binding other (.tail _ member)
    | false => exact keeps_pure false

theorem keeps_attemptThen (keeps : run.Keeps) {first : Rule U} (binding : first.Creates → binds)
    {rest : Parser U σ Bool} (rest_keeps : rest.Keeps binds) :
    (run.attemptThen first rest).Keeps binds := by
  refine (keeps.attempt binding).bind fun attempt => ?_
  cases attempt with
  | accepted => exact keeps_ofBool rest_keeps
  | canceled => exact keeps_pure _
  | backtracked => exact keeps_pure _

theorem keeps_attemptSequence (keeps : run.Keeps) (rules : List (Rule U))
    (binding : ∀ rule ∈ rules, rule.Creates → binds) :
    (run.attemptSequence rules).Keeps binds := by
  cases rules with
  | nil => exact keeps_pure _
  | cons first rest =>
    exact keeps_attemptThen keeps (binding first (.head _))
      (keeps_parseAll keeps rest fun other member => binding other (.tail _ member))

theorem keeps_attemptChoice (keeps : run.Keeps) (members : List (Rule U))
    (binding : ∀ rule ∈ members, rule.Creates → binds) :
    (run.attemptChoice members).Keeps binds := by
  induction members with
  | nil => exact keeps_pure _
  | cons first rest ih =>
    refine (keeps.attempt (binding first (.head _))).bind fun attempt => ?_
    cases attempt with
    | accepted => exact keeps_pure _
    | canceled => exact keeps_pure _
    | backtracked => exact ih fun other member => binding other (.tail _ member)

theorem keeps_parseChoice (keeps : run.Keeps) (members : List (Rule U))
    (binding : ∀ rule ∈ members, rule.Creates → binds) :
    (run.parseChoice members).Keeps binds := by
  refine (keeps_attemptChoice keeps members binding).bind fun attempt => ?_
  cases attempt with
  | accepted => exact keeps_pure _
  | canceled => exact keeps_pure _
  | backtracked => exact (tells_reportedHere _ false).keeps

theorem keeps_parseOptional (keeps : run.Keeps) {rule : Rule U} (binding : rule.Creates → binds) :
    (run.parseOptional rule).Keeps binds := by
  refine (keeps.attempt binding).bind fun attempt => ?_
  cases attempt with
  | accepted => exact keeps_pure _
  | canceled => exact keeps_pure _
  | backtracked => exact (tells_emit _).keeps.bind fun _ => keeps_pure _

theorem tells_attemptPeek (rule : Rule U) (expected : Bool) :
    (run.attemptPeek rule expected).Tells :=
  (looks_peekHolds rule expected).tells.bind fun _ => tells_pure _

theorem tells_parsePeek (rule : Rule U) (expected : Bool) :
    (run.parsePeek rule expected).Tells := by
  refine (looks_peekHolds rule expected).tells.bind fun holds => ?_
  cases holds with
  | true => exact tells_pure true
  | false => exact tells_reportedHere _ true

theorem keeps_parseRepeated (keeps : run.Keeps) {body : Rule U} (binding : body.Creates → binds) :
    (run.parseRepeated body).Keeps binds := by
  refine keeps_iterate (fun _ => ?_) _ _
  refine looks_cursor.keeps.bind fun start => (keeps.attempt binding).bind fun attempt => ?_
  cases attempt with
  | accepted =>
    refine looks_cursor.keeps.bind fun here => ?_
    split <;> exact keeps_pure _
  | canceled => exact keeps_pure _
  | backtracked => exact keeps_pure _

theorem keeps_parseRepeatedOnce (keeps : run.Keeps) {body : Rule U}
    (binding : body.Creates → binds) : (run.parseRepeatedOnce body).Keeps binds := by
  refine (keeps.parse binding).bind fun parsed => ?_
  cases parsed with
  | true => exact keeps_parseRepeated keeps binding
  | false => exact keeps_pure _

theorem keeps_parseTimes (keeps : run.Keeps) {body : Rule U} (binding : body.Creates → binds)
    (separator : Option (Rule U)) (also : ∀ rule ∈ separator, rule.Creates → binds) (count : Nat) :
    (run.parseTimes body separator count).Keeps binds := by
  induction count using parseTimes.induct with
  | case1 => exact keeps_pure _
  | case2 => exact keeps.parse binding
  | case3 count more ih =>
    rw [parseTimes]
    · refine (keeps.parse binding).bind fun parsed => ?_
      cases parsed with
      | false => exact keeps_pure _
      | true =>
        cases separator with
        | none => exact ih
        | some separator =>
          refine (keeps.parse (also separator rfl)).bind fun separated => ?_
          cases separated with
          | false => exact keeps_pure _
          | true => exact ih
    · exact more

/-- Whatever a loop binds is gone after it. -/
theorem ensures_parseLoop_kept (keeps : run.Keeps) (body : Rule U) :
    (run.parseLoop body).Ensures environment state fun _ _ after => Kept False state after := by
  simp only [parseLoop, ensures_bind, ensures_bindingsHeight, ensures_bindVariable, loop,
    ensures_restoreBindings, ensures_pure]
  let inner := state.withBindings ((loopExit, Binding.flag false) :: ·)
  have bound : Kept True state inner := (Kept.refl True state).bound trivial _ _
  -- A body that fails may leave variables behind; the height comes back with the end of the loop.
  refine ensures_iterate (fun _ _ middle => Kept True inner middle) ?_ _ _ (.refl True inner)
  intro _ values middle kept
  have round : (run.loopRound body inner.scope.bindings.length).Ensures environment middle
      fun _ _ after => Kept True inner after := by
    rw [loopRound, ensures_bind, ensures_cursor, ensures_bind]
    refine ((keeps.attempt fun _ => trivial).after kept (.inl trivial)).mono ?_
    intro attempt _ after kept
    have restored : Kept True inner (after.withBindings _) := kept.restored.weaken
    cases attempt with
    | accepted =>
      simp only [ensures_bind, ensures_restoreBindings, ensures_findVariable, ensures_cursor]
      split <;> simpa using restored
    | canceled => simpa using kept
    | backtracked => simpa using kept
  refine round.mono fun answer more after kept => ?_
  cases answer with
  | again => exact kept
  | done result => exact (bound.trans kept).restored

theorem keeps_parseLeave : (parseLeave : Parser U σ Bool).Keeps binds := by
  refine (keeps_assignVariable _ _).bind fun assigned => ?_
  cases assigned with
  | true => exact keeps_pure _
  | false => exact (tells_reportedHere _ false).keeps

end Structure

section Lists

private theorem tells_checkTrailing (separator : Separator (Rule U)) (span : Span) :
    (checkTrailing separator span : Parser U σ Unit).Tells := by
  unfold checkTrailing
  split
  · exact tells_pure ()
  · exact tells_reportError _ _ _

private theorem keeps_nextItem (keeps : run.Keeps) {item : Rule U} (binding : item.Creates → binds)
    (items : List (List Value)) (before : Cursor U) {declined : Parser U σ Unit}
    (tells : declined.Tells) : (run.nextItem item items before declined).Keeps binds := by
  refine (keeps_collect (keeps.attempt binding)).bind ?_
  rintro ⟨attempt, values⟩
  cases attempt with
  | accepted =>
    refine looks_cursor.keeps.bind fun here => ?_
    split <;> exact keeps_pure _
  | canceled => exact keeps_pure _
  | backtracked => exact tells.keeps.bind fun _ => keeps_pure _

private theorem keeps_restOfList (keeps : run.Keeps) {item : Rule U}
    (binding : item.Creates → binds) (separator : Option (Separator (Rule U)))
    (also : ∀ rule ∈ separator.map Separator.rule, rule.Creates → binds)
    (items : List (List Value)) : (run.restOfList item separator items).Keeps binds := by
  refine keeps_iterate (fun items => ?_) _ _
  refine looks_cursor.keeps.bind fun before => ?_
  cases separator with
  | none => exact keeps_nextItem keeps binding items before (tells_pure ())
  | some separator =>
    refine (keeps_quietly (keeps.attempt (also _ rfl))).bind fun attempt => ?_
    cases attempt with
    | backtracked => exact keeps_pure _
    | canceled => exact keeps_pure _
    | accepted =>
      exact looks_cursor.keeps.bind fun here =>
        keeps_nextItem keeps binding items before (tells_checkTrailing separator _)

private theorem keeps_finishList (keeps : run.Keeps) {item : Rule U}
    (binding : item.Creates → binds) (separator : Option (Separator (Rule U)))
    (also : ∀ rule ∈ separator.map Separator.rule, rule.Creates → binds) (sink : Sink)
    (first : List Value) : (run.finishList item separator sink first).Keeps binds := by
  refine (keeps_restOfList keeps binding separator also _).bind fun items => ?_
  cases items with
  | none => exact keeps_pure _
  | some items => exact (tells_emitUnlessNothing _).keeps.bind fun _ => keeps_pure _

theorem keeps_attemptList (keeps : run.Keeps) {item : Rule U} (binding : item.Creates → binds)
    (separator : Option (Separator (Rule U)))
    (also : ∀ rule ∈ separator.map Separator.rule, rule.Creates → binds) :
    (run.attemptList item separator).Keeps binds := by
  refine looks_currentSink.keeps.bind fun sink => ?_
  refine (keeps_collect (keeps.attempt binding)).bind ?_
  rintro ⟨attempt, values⟩
  cases attempt with
  | accepted => exact keeps_ofBool (keeps_finishList keeps binding separator also sink values)
  | canceled => exact keeps_pure _
  | backtracked => exact keeps_pure _

theorem keeps_parseList (keeps : run.Keeps) {item : Rule U} (binding : item.Creates → binds)
    (separator : Option (Separator (Rule U)))
    (also : ∀ rule ∈ separator.map Separator.rule, rule.Creates → binds) :
    (run.parseList item separator).Keeps binds := by
  refine looks_currentSink.keeps.bind fun sink => ?_
  refine (keeps_collect (keeps.parse binding)).bind ?_
  rintro ⟨parsed, values⟩
  cases parsed with
  | true => exact keeps_finishList keeps binding separator also sink values
  | false => exact keeps_pure _

/-- A search for something that a list can go on with, and then a report of what was skipped. -/
theorem keeps_recoverList (list : TerminatedList U) : (run.recoverList list).Keeps binds := by
  refine looks_cursor.keeps.bind fun before => ?_
  have searches : (seek (run.recoveryAt list before) (return false)).Keeps binds :=
    fun _ _ _ => ensures_seek_kept (looks_recoveryAt list before).looks (looks_pure false)
  exact searches.bind fun _ => looks_cursor.keeps.bind fun _ =>
    (tells_reportSkipped _ _).keeps.bind fun _ => keeps_pure _

theorem keeps_listStep (keeps : run.Keeps) (list : TerminatedList U)
    (terminator : list.terminator.Creates → binds) (item : list.item.Creates → binds)
    (also : ∀ rule ∈ list.separator.map Separator.rule, rule.Creates → binds) (phase : ListPhase)
    (items : List (List Value)) : (run.listStep list phase items).Keeps binds := by
  cases phase with
  | terminator =>
    refine (keeps_collect (keeps.attempt terminator)).bind ?_
    rintro ⟨attempt, values⟩
    cases attempt <;> exact keeps_pure _
  | separator =>
    unfold listStep
    cases separated : list.separator with
    | none => exact keeps_pure _
    | some separator =>
      rw [separated] at also
      refine looks_cursor.keeps.bind fun before => ?_
      refine (keeps_quietly (keeps.parse (also _ rfl))).bind fun parsed => ?_
      cases parsed with
      | true => exact looks_cursor.keeps.bind fun _ => keeps_pure _
      | false => exact keeps_pure _
  | afterSeparator span =>
    refine (keeps_collect (keeps.attempt terminator)).bind ?_
    rintro ⟨attempt, values⟩
    cases attempt with
    | accepted =>
      dsimp only
      cases list.separator with
      | none => exact keeps_pure _
      | some separator =>
        exact (tells_checkTrailing separator span).keeps.bind fun _ => keeps_pure _
    | canceled => exact keeps_pure _
    | backtracked => exact keeps_pure _
  | item =>
    refine (keeps_collect (keeps.parse item)).bind ?_
    rintro ⟨parsed, values⟩
    cases parsed <;> exact keeps_pure _
  | recovery =>
    refine (keeps_recoverList list).bind fun next => ?_
    cases next <;> exact keeps_pure _

theorem keeps_parseTerminatedList (keeps : run.Keeps) (list : TerminatedList U)
    (terminator : list.terminator.Creates → binds) (item : list.item.Creates → binds)
    (also : ∀ rule ∈ list.separator.map Separator.rule, rule.Creates → binds) (mayBeEmpty : Bool) :
    (run.parseTerminatedList list mayBeEmpty).Keeps binds := by
  refine looks_currentSink.keeps.bind fun sink => ?_
  have steps : (run.loop (if mayBeEmpty then ListPhase.terminator else .item, [])
      fun current => run.listStep list current.1 current.2).Keeps binds :=
    keeps_iterate (fun current => keeps_listStep keeps list terminator item also _ _) _ _
  refine steps.bind fun result => ?_
  cases result with
  | none => exact keeps_pure _
  | some result =>
    exact (tells_emitUnlessNothing _).keeps.bind fun _ => (tells_emitAll _).keeps.bind fun _ =>
      keeps_pure _

end Lists

end Runner
end Descent
