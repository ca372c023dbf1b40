import Descent.Proofs.RuleConduct

/-! Failures that are reported: when a rule that was run answers that it failed, there are
more errors than before. Rules that are there only to recover from a failure are left out,
and so is skipping to a target, whose failure is none. -/

namespace Descent

namespace Operation

variable {R : Type}

def parts : Operation R → List R
  | selectFlag set unset => [set, unset]
  | measure rule _ | capture rule | rematch rule => [rule]
  | compareCounter _ less equal greater => [less, equal, greater]
  | create _ | setFlag _ | toggleFlag | requireFlag _ | add _ | requireCounter _ => []

end Operation

namespace EscapeAction

variable {R : Type}

def parts : EscapeAction R → List R
  | rule content => [content]
  | map .. | capture _ => []

end EscapeAction

namespace Rule

variable {U : Type}

/-- The rules directly inside a rule, but for what it recovers with. -/
def parts : Rule U → List (Rule U)
  | tokenized rule _ | capture rule | symbol _ rule | optional rule | loop rule => [rule]
  | repeated rule | repeatedOnce rule | recovering rule _ | peek rule _ => [rule]
  | whitespace rule | withoutWhitespace rule => [rule]
  | sequence rules | choice rules | combination rules _ => rules
  | branch condition rest => condition :: rest
  | times _ body separator => body :: separator.toList
  | list item separator => item :: (separator.map Separator.rule).toList
  | terminatedList terminator item separator limits _ =>
    terminator :: item :: (separator.map Separator.rule).toList ++ limits
  | delimited opening closing _ escapes =>
    opening :: closing :: escapes.flatMap fun escape => escape.actions.flatMap EscapeAction.parts
  | onVariable _ operation => operation.parts
  | find targets limits => targets ++ limits
  | recover branches limits => branches ++ limits
  | token _ | identifier .. | position | constant _ | integer .. | codePoint _ => []
  | symbolHere _ | otherwise | leave | lookahead .. | call _ => []

theorem mem_separator {separator : Option (Separator (Rule U))} {found : Separator (Rule U)}
    (member : found ∈ separator) : found.rule ∈ (separator.map Separator.rule).toList :=
  Option.mem_toList.mpr (Option.mem_map_of_mem _ member)

theorem mem_parts_delimited {opening closing rule : Rule U} {content : UnitClass}
    {escapes : List (Escape U (Rule U))} {escape : Escape U (Rule U)} (member : escape ∈ escapes)
    (inside : rule ∈ escape.actions.flatMap EscapeAction.parts) :
    rule ∈ (Rule.delimited opening closing content escapes).parts :=
  .tail _ (.tail _ (List.mem_flatMap.mpr ⟨escape, member, inside⟩))

/-- A rule somewhere inside another one, but not in what is recovered with. -/
inductive Exposed (outer : Rule U) : Rule U → Prop
  | self : Exposed outer outer
  | part {middle inner : Rule U} (exposed : Exposed outer middle) (part : inner ∈ middle.parts) :
      Exposed outer inner

theorem Exposed.mem {rules : List (Rule U)} {outer inner : Rule U} (exposed : outer.Exposed inner)
    (outermost : outer ∈ rules) (closed : ∀ rule ∈ rules, ∀ part ∈ rule.parts, part ∈ rules) :
    inner ∈ rules := by
  induction exposed with
  | self => exact outermost
  | part _ part ih => exact closed _ ih _ part

end Rule

namespace Grammar

variable {U : Type} [CodeUnit U]

def Has (grammar : Grammar U) (rule : Rule U) : Prop :=
  (∃ production ∈ grammar.productions, production.rule.Exposed rule) ∨
    (∃ production ∈ grammar.productions, ∃ whitespace ∈ production.whitespace,
      whitespace.Exposed rule) ∨
    ∃ whitespace ∈ grammar.whitespace, whitespace.Exposed rule

/-- A grammar that skips to targets only when it recovers. -/
def Sparing (grammar : Grammar U) : Prop :=
  ∀ rule, grammar.Has rule →
    (∀ targets limits, rule ≠ .find targets limits) ∧
      ∀ branches limits, rule ≠ .recover branches limits

def Reports (grammar : Grammar U) (rule : Rule U) : Prop :=
  ∀ (σ : Type) (config : ParseConfig) (observer : Observer σ) (fuel : Nat) (state : State U σ),
    state.scope.frames ≠ [] →
      (∀ step, (Runner.withFuel fuel).parse rule ⟨grammar, config, observer⟩ state = some step →
        step.answer = false →
          state.report.statistics.errors < step.state.report.statistics.errors) ∧
      (∀ step, (Runner.withFuel fuel).attempt rule ⟨grammar, config, observer⟩ state = some step →
        step.answer = .canceled →
          state.report.statistics.errors < step.state.report.statistics.errors)

/-- A word of a symbol that can be taken and then fail, which a rule for symbols only finds out
in a speculation. -/
def CancelsAsWord (grammar : Grammar U) (word : Rule U) : Prop :=
  ∃ (σ : Type) (config : ParseConfig) (observer : Observer σ) (fuel : Nat) (state : State U σ)
    (step : Step U σ Attempt), state.scope.frames ≠ [] ∧
      (Runner.withFuel fuel).attempt word (Parser.unobserved ⟨grammar, config, observer⟩)
        (Parser.unreported state).withoutWhitespace = some step ∧
      step.answer = .canceled

end Grammar

namespace Parser

variable {U σ α β : Type} {environment : Environment U σ}

/-- Inside a production, every outcome with a failing answer has more errors. -/
def Reports (parser : Parser U σ α) (environment : Environment U σ) (failed : α → Prop) : Prop :=
  ∀ state, state.scope.frames ≠ [] →
    parser.Ensures environment state fun answer _ after =>
      failed answer → state.report.statistics.errors < after.report.statistics.errors

variable {failed : α → Prop} {failed' : β → Prop}

private theorem Reports.of_never {parser : Parser U σ α} (never : ∀ answer, ¬failed answer) :
    parser.Reports environment failed :=
  fun _ _ => .of_forall fun answer _ _ fails => absurd fails (never answer)

theorem reports_pure {answer : α} (succeeded : ¬failed answer) :
    (pure answer : Parser U σ α).Reports environment failed := by
  simpa [Reports] using fun _ _ fails => absurd fails succeeded

/-- A failure was reported either in the first part or in the second one, and nothing takes a
report back. -/
theorem Reports.bind {first : Parser U σ α} {rest : α → Parser U σ β}
    (reports : first.Reports environment failed) (settles : first.Settles)
    (next : ∀ answer, (failed answer ∧ (rest answer).Settles) ∨
      (rest answer).Reports environment failed') :
    (first >>= rest).Reports environment failed' := by
  intro state framed
  rw [ensures_bind]
  refine ((settles environment state framed).and (reports state framed)).mono ?_
  intro answer values middle ensured
  obtain ⟨settled, reported⟩ := ensured
  have framed : middle.scope.frames ≠ [] := by rwa [settled.frames]
  rcases next answer with ⟨fails, settles⟩ | reports
  · refine (settles environment middle framed).mono ?_
    intro _ _ after settled' _
    exact Nat.lt_of_lt_of_le (reported fails) settled'.errors_le
  · refine (reports middle framed).mono ?_
    intro last _ after reported' fails
    exact Nat.lt_of_le_of_lt settled.errors_le (reported' fails)

/-- What comes first cannot fail. -/
theorem Settles.bind_reports {first : Parser U σ α} {rest : α → Parser U σ β}
    (settles : first.Settles) (reports : ∀ answer, (rest answer).Reports environment failed') :
    (first >>= rest).Reports environment failed' := by
  have never : first.Reports environment fun _ => False := .of_never fun _ => id
  exact never.bind settles fun answer => .inr (reports answer)

theorem reports_collect {parser : Parser U σ α} (reports : parser.Reports environment failed) :
    (collect parser).Reports environment fun answer => failed answer.1 := by
  simpa [Reports] using reports

theorem reports_quietly {parser : Parser U σ α} (reports : parser.Reports environment failed) :
    (quietly parser).Reports environment failed := by
  simpa [Reports] using reports

theorem reports_withoutWhitespace {parser : Parser U σ α}
    (reports : parser.Reports environment failed) :
    (withoutWhitespace parser).Reports environment failed := by
  intro state framed
  rw [ensures_withoutWhitespace]
  exact reports state.withoutWhitespace framed

theorem reports_iterate {round : α → Parser U σ (Round α β)}
    (settles : ∀ current, (round current).Settles)
    (reports : ∀ current, (round current).Reports environment
      fun answer => ∃ result, answer = .done result ∧ failed' result)
    (fuel : Nat) (start : α) : (iterate round fuel start).Reports environment failed' := by
  intro state framed
  refine ensures_iterate
    (fun _ _ middle => Settled environment state.cursor.position state middle) ?_ fuel start
    (.start environment state)
  intro current values middle settled
  have framed' : middle.scope.frames ≠ [] := by rwa [settled.frames]
  refine (((settles current).after framed settled).and (reports current middle framed')).mono ?_
  intro answer more after ensured
  obtain ⟨next, reported⟩ := ensured
  cases answer with
  | again => exact next
  | done result =>
    intro fails
    exact Nat.lt_of_le_of_lt settled.errors_le (reported ⟨result, rfl, fails⟩)

theorem reports_errorHere (kind : ParseError.Kind) {rest : Parser U σ α}
    (settles : rest.Settles) :
    (do
      reportErrorAt kind (← cursor).position
      rest : Parser U σ α).Reports environment failed := by
  intro state framed
  simp only [ensures_bind, ensures_cursor, ensures_reportErrorAt]
  refine (settles environment (state.withError environment kind _ _) framed).mono ?_
  intro answer _ after settled _
  exact Nat.lt_of_succ_le settled.errors_le

end Parser
end Descent
