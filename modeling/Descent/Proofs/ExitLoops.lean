import Descent.Proofs.ExitRules

/-! Loops and leaves. A loop puts a variable of its own on top of the others, and drops it in the
end with all that came on top of it; a leave sets the innermost of these variables. Hence what is
counted at every fuel is what the loop outside will see. -/

namespace Descent

open Descent.Parser

/-- What the innermost loop sees. -/
theorem Bindings.find_of_exits {bindings : Bindings} {content : Binding}
    {outer : List (Option Binding)} (exits : bindings.exits = some content :: outer) :
    bindings.find loopExit = some content := by
  cases bindings with
  | nil => cases exits
  | cons entry rest =>
    obtain ⟨name, old⟩ := entry
    by_cases same : name = loopExit
    · rw [same, exits_loopExit] at exits
      cases exits
      simp [find, same]
    · rw [exits_cons same] at exits
      cases exits

namespace Scope.Signals

variable {U : Type} {before after : Scope U} {leaves : Nat}

/-- A loop drops its own variable with all that came on top of it. -/
theorem dropped {content : Binding} {outer : Bindings}
    (pushed : before.bindings = (loopExit, content) :: outer)
    (signals : Signals leaves before after) :
    (after.bindings.restore outer.length).exits = outer.exits := by
  have restored := signals.restored
  obtain ⟨added, exits⟩ := signals.exits
  have height := congrArg List.length exits
  have own : (if leaves = 0 then before.bindings.exits
      else Bindings.raised before.bindings.exits).drop 1 = outer.exits := by
    rw [pushed, Bindings.exits_loopExit]
    split <;> rfl
  have length : before.bindings.length = outer.length + 1 := congrArg List.length pushed
  have above : after.bindings.length - outer.length =
      after.bindings.length - before.bindings.length + 1 := by
    rw [Bindings.length_exits, List.length_append, List.length_replicate, apply_ite List.length,
      Bindings.length_raised, ite_self, Bindings.length_exits] at height
    omega
  rw [Bindings.exits_restore] at restored
  rw [Bindings.exits_restore, above, ← own, ← restored, List.drop_drop]

end Scope.Signals

namespace Runner

section Rounds

variable {U σ : Type} {run : Runner U σ} {environment : Environment U σ} {state : State U σ}

/-- What a round makes of an attempt at the body. -/
theorem ensures_loopRound (body : Rule U) (height : Nat)
    (post : Round Unit Bool → List Value → State U σ → Prop) :
    (run.loopRound body height).Ensures environment state post ↔
      (run.attempt body).Ensures environment state fun attempt values after =>
        let dropped := after.withBindings (Bindings.restore · height)
        match attempt with
        | .backtracked => post (.done true) values after
        | .canceled => post (.done false) values after
        | .accepted =>
          if dropped.scope.bindings.find loopExit = some (.flag true) ∨
            after.cursor.position = state.cursor.position then post (.done true) values dropped
          else post (.again ()) values dropped := by
  rw [loopRound, ensures_bind, ensures_cursor, ensures_bind]
  refine ensures_congr fun attempt values after => ?_
  cases attempt with
  | accepted =>
    simp only [ensures_bind, ensures_restoreBindings, ensures_findVariable, ensures_cursor,
      ensures_ite, ensures_pure, Bool.or_eq_true, beq_iff_eq, List.nil_append, List.append_nil]
    rfl
  | canceled => simp
  | backtracked => simp

/-- A round goes on to signal what the body signals. -/
theorem ensures_loopRound_signals {inner : State U σ} {body : Rule U} {leaves : Nat}
    (signals : inner.scope.Signals leaves state.scope)
    (attempts : (run.attempt body).Ensures environment state fun _ _ after =>
      ∃ more, state.scope.Signals more after.scope) :
    (run.loopRound body inner.scope.bindings.length).Ensures environment state fun _ _ after =>
      ∃ leaves, inner.scope.Signals leaves after.scope := by
  rw [ensures_loopRound]
  refine attempts.mono fun attempt values after further => ?_
  obtain ⟨more, further⟩ := further
  have signals := signals.trans further
  cases attempt with
  | accepted =>
    have dropped : inner.scope.Signals (leaves + more)
        (after.withBindings (Bindings.restore · inner.scope.bindings.length)).scope :=
      ⟨signals.frames, 0, signals.restored⟩
    dsimp only
    split <;> exact ⟨_, dropped⟩
  | canceled => exact ⟨_, signals⟩
  | backtracked => exact ⟨_, signals⟩

/-- A loop is not left by what is inside it: what it watches is its own. -/
theorem ensures_parseLoop_exits {body : Rule U}
    (attempts : ∀ middle : State U σ, middle.scope.frames = state.scope.frames →
      (run.attempt body).Ensures environment middle fun _ _ after =>
        ∃ leaves, middle.scope.Signals leaves after.scope) :
    (run.parseLoop body).Ensures environment state fun _ _ after =>
      after.scope.frames = state.scope.frames ∧
        after.scope.bindings.exits = state.scope.bindings.exits := by
  simp only [parseLoop, ensures_bind, ensures_bindingsHeight, ensures_bindVariable, loop,
    ensures_restoreBindings, ensures_pure]
  let inner := state.withBindings ((loopExit, Binding.flag false) :: ·)
  refine ensures_iterate (fun _ _ middle => ∃ leaves, inner.scope.Signals leaves middle.scope) ?_
    _ _ ⟨0, .refl _⟩
  intro _ values middle signals
  obtain ⟨leaves, signals⟩ := signals
  refine (ensures_loopRound_signals signals (attempts middle signals.frames)).mono ?_
  intro answer more after signals
  cases answer with
  | again => exact signals
  | done result =>
    obtain ⟨leaves, signals⟩ := signals
    exact ⟨signals.frames, signals.dropped rfl⟩

end Rounds

section Counting

variable {U : Type} {run : Runner U Nat}

private theorem marks_leaveCounted : (leaveCounted : Parser U Nat Bool).Marks := by
  intro environment state undisturbed
  simp only [leaveCounted, parseLeave, addOne, ensures_bind, ensures_modifyReport,
    ensures_assignVariable]
  cases found : state.scope.bindings.find loopExit with
  | none =>
    let counted : State U Nat :=
      { state with report := { state.report with notes := state.report.notes + 1 } }
    have marked : Marked state counted :=
      ⟨1, rfl, rfl, 0, (Bindings.raised_of_find_none found).symm⟩
    exact (marks_reportedHere _ false).after marked undisturbed
  | some content =>
    refine (ensures_pure ..).mpr ⟨1, rfl, rfl, 0, ?_⟩
    exact Bindings.exits_assign_loopExit state.scope.bindings

private theorem marks_loop (marks : run.Marks) {body : Rule U} (unnamed : ¬body.Names loopExit) :
    (uncounted (run.parseLoop body)).Marks := by
  intro environment state undisturbed
  rw [ensures_uncounted]
  have attempts (middle : State U Nat) (frames : middle.scope.frames = state.scope.frames) :
      (run.attempt body).Ensures environment middle fun _ _ after =>
        ∃ leaves, middle.scope.Signals leaves after.scope := by
    have inside : Undisturbed environment middle :=
      { undisturbed with scope := by rw [Scope.Names, frames]; exact undisturbed.scope }
    refine (marks.attempt unnamed environment middle inside).mono fun _ _ after marked => ?_
    obtain ⟨leaves, -, signals⟩ := marked
    exact ⟨leaves, signals⟩
  refine (ensures_parseLoop_exits attempts).mono fun _ _ after kept => ?_
  exact ⟨0, rfl, .of_added 0 kept.1 kept.2⟩

variable [CodeUnit U]

private theorem marks_parseCounted (marks : run.Marks) {rule : Rule U}
    (unnamed : ¬rule.Names loopExit) : (run.parseCounted rule).Marks := by
  have part (inner : Rule U) (member : inner ∈ rule.parts) : ¬inner.Names loopExit :=
    fun names => unnamed (.part member names)
  cases rule with
  | token token => exact marks_parseToken marks token
  | tokenized rule kind => exact marks_parseTokenized marks rule kind
  | identifier shape reserved => exact marks_parseIdentifier marks shape reserved
  | capture rule => exact marks_parseCapture marks (part rule (.head _))
  | position => exact marks_parsePosition
  | constant value => exact (marks_emit value).bind fun _ => marks_pure _
  | integer type digits signed => exact marks_parseInteger marks type digits signed
  | codePoint digits => exact marks_parseCodePoint marks digits
  | symbol table word => exact marks_parseSymbol marks table (part word (.head _))
  | symbolHere table => exact marks_parseSymbolHere marks table
  | sequence rules => exact marks_parseAll marks part
  | branch condition rest => exact marks_parseAll marks part
  | choice members => exact marks_parseChoice marks part
  | optional rule => exact marks_parseOptional marks (part rule (.head _))
  | otherwise => exact marks_pure _
  | loop body => exact marks_loop marks (part body (.head _))
  | leave => exact marks_leaveCounted
  | repeated body => exact marks_parseRepeated marks (part body (.head _))
  | repeatedOnce body => exact marks_parseRepeatedOnce marks (part body (.head _))
  | times count body separator =>
    exact marks_parseTimes marks (part body (.head _))
      (fun rule member => part rule (.tail _ (Option.mem_toList.mpr member))) count
  | list item separator =>
    exact marks_parseList marks (part item (.head _))
      fun rule member => part rule (.tail _ (Option.mem_toList.mpr member))
  | terminatedList terminator item separator limits mayBeEmpty =>
    exact marks_parseTerminatedList marks (part terminator (.head _))
      (part item (.tail _ (.head _))) (fun rule member => part rule (.tail _ (.tail _
        (List.mem_append_left _ (Option.mem_toList.mpr member))))) mayBeEmpty
  | delimited opening closing content escapes =>
    exact marks_parseDelimited marks (part closing (.tail _ (.head _)))
      (fun _ member rule inside => part rule (Rule.mem_parts_delimited member inside))
      (part opening (.head _))
  | onVariable name operation => exact marks_parseVariable marks unnamed
  | recovering rule recovery =>
    exact marks_parseRecovering marks (part rule (.head _)) fun inner member names =>
      unnamed (by rw [member]; exact .recovery names)
  | find targets limits => exact marks_parseFind targets limits
  | recover branches limits =>
    exact marks_parseRecover marks (fun rule member => part rule (List.mem_append_left _ member))
      limits
  | peek rule expected => exact marks_parsePeek rule expected
  | lookahead needle limit => exact marks_parseLookahead needle limit
  | call production => exact (marks_call marks production false).bind fun _ => marks_pure _
  | whitespace rule =>
    exact (marks_skipWith marks (part rule (.head _))).bind fun _ => marks_pure _
  | withoutWhitespace rule => exact marks_parseWithoutWhitespace marks (part rule (.head _))
  | combination members partly => exact marks_parseMembers marks part partly [] _

private theorem marks_attemptCounted (marks : run.Marks) {rule : Rule U}
    (unnamed : ¬rule.Names loopExit) : (run.attemptCounted rule).Marks := by
  have part (inner : Rule U) (member : inner ∈ rule.parts) : ¬inner.Names loopExit :=
    fun names => unnamed (.part member names)
  have runs := marks_ofBool (marks_parseCounted marks unnamed)
  cases rule with
  | token token => exact marks_attemptToken marks token
  | tokenized rule kind => exact marks_attemptTokenized marks rule kind
  | identifier shape reserved => exact marks_attemptIdentifier marks shape reserved
  | capture rule => exact marks_attemptCapture marks (part rule (.head _))
  | integer type digits signed => exact marks_attemptInteger marks type digits signed
  | symbol table word => exact marks_attemptSymbol marks table (part word (.head _))
  | symbolHere table => exact marks_attemptSymbolHere marks table
  | sequence rules => exact marks_attemptSequence marks part
  | branch condition rest =>
    exact marks_attemptThen marks (part condition (.head _))
      (marks_parseAll marks fun rule member => part rule (.tail _ member))
  | choice members => exact marks_attemptChoice marks part
  | repeatedOnce body =>
    exact marks_attemptThen marks (part body (.head _))
      (marks_parseRepeated marks (part body (.head _)))
  | list item separator =>
    exact marks_attemptList marks (part item (.head _))
      fun rule member => part rule (.tail _ (Option.mem_toList.mpr member))
  | delimited opening closing content escapes =>
    exact marks_attemptDelimited marks (part closing (.tail _ (.head _)))
      (fun _ member rule inside => part rule (Rule.mem_parts_delimited member inside))
      (part opening (.head _))
  | onVariable name operation =>
    cases operation with
    | requireFlag expected => exact marks_attemptRequirement name _
    | requireCounter expected => exact marks_attemptRequirement name _
    | _ => exact runs
  | recovering rule recovery =>
    exact marks_attemptRecovering marks (part rule (.head _)) fun inner member names =>
      unnamed (by rw [member]; exact .recovery names)
  | peek rule expected => exact marks_attemptPeek rule expected
  | lookahead needle limit => exact marks_attemptLookahead needle limit
  | call production => exact marks_call marks production true
  | withoutWhitespace rule => exact marks_attemptWithoutWhitespace marks (part rule (.head _))
  | _ => exact runs

theorem marks_counting (fuel : Nat) : (counting fuel : Runner U Nat).Marks := by
  induction fuel with
  | zero => exact ⟨fun _ _ _ _ => ensures_outOfFuel _, fun _ _ _ _ => ensures_outOfFuel _⟩
  | succ fuel marks =>
    exact ⟨fun unnamed => marks_parseCounted marks unnamed,
      fun unnamed => marks_attemptCounted marks unnamed⟩

end Counting

end Runner
end Descent
