import Descent.Proofs.Backtracking
import Descent.Proofs.Tiling

/-! What every rule does to the state, whatever its answer: the reader goes on in its
view, the scope is as before but for the contents of variables and new ones, and what the
observer was told accounts for all that was read. -/

namespace Descent

open Happening

namespace Bindings

@[simp] theorem names_assign (name : String) (binding : Binding) (bindings : Bindings) :
    (bindings.assign name binding).map Prod.fst = bindings.map Prod.fst := by
  induction bindings with
  | nil => rfl
  | cons entry rest ih =>
    rw [assign]
    split <;> simp [ih]

/-- Dropping all that was bound since then leaves the same variables. -/
theorem names_restore {before after : Bindings}
    (suffix : before.map Prod.fst <:+ after.map Prod.fst) :
    (after.restore before.length).map Prod.fst = before.map Prod.fst := by
  obtain ⟨added, same⟩ := suffix
  have length : after.length = added.length + before.length := by
    simpa using (congrArg List.length same).symm
  rw [restore, List.map_drop, ← same, length, Nat.add_sub_cancel, List.drop_left]

end Bindings

namespace State

variable {U σ : Type}

def muffled (state : State U σ) : State U σ :=
  { state with
    scope := { state.scope with inWhitespace := true }
    report := { state.report with muted := state.report.muted + 1 } }

def unmuffled (inside : Bool) (state : State U σ) : State U σ :=
  { state with
    scope := { state.scope with inWhitespace := inside }
    report := { state.report with muted := state.report.muted - 1 } }

end State

/-- From a position on, all that was read up to another one is accounted for. Where the
observer is kept from seeing productions and tokens, there are only errors. -/
def Accounts (muted first : Nat) (history : List Happening) (last : Nat) : Prop :=
  if muted = 0 then Tiles first history last
  else ∀ happening ∈ history, ∃ profile raised, happening = .error profile raised

/-- From one state to another, with all input up to `covered` accounted for, and errors that
begin at `origin` or later. -/
structure Conduct {U σ : Type} (environment : Environment U σ) (origin : Nat)
    (before : State U σ) (covered : Nat) (after : State U σ) : Prop where
  origin_le : origin ≤ before.cursor.position
  reaches : before.cursor.Reaches after.cursor
  covered_le : covered ≤ after.cursor.position
  frames : after.scope.frames = before.scope.frames
  inWhitespace : after.scope.inWhitespace = before.scope.inWhitespace
  noWhitespace : after.scope.noWhitespace = before.scope.noWhitespace
  names : before.scope.bindings.map Prod.fst <:+ after.scope.bindings.map Prod.fst
  muted : after.report.muted = before.report.muted
  told : ∃ history : List Happening,
    after.report.ledger = tellAll environment.observer environment.config.maxErrors history
      before.report.ledger ∧
    (∀ error ∈ raisedIn history, error.Within origin after.cursor.position) ∧
    Accounts before.report.muted before.cursor.position history covered

/-- Nothing is left to account for. -/
abbrev Settled {U σ : Type} (environment : Environment U σ) (origin : Nat)
    (before after : State U σ) : Prop :=
  Conduct environment origin before after.cursor.position after

theorem Accounts.append {muted first middle last : Nat} {history rest : List Happening}
    (before : Accounts muted first history middle) (after : Accounts muted middle rest last) :
    Accounts muted first (history ++ rest) last := by
  unfold Accounts at *
  split at before
  next unmuted =>
    rw [if_pos unmuted] at after ⊢
    exact before.append after
  next silent =>
    rw [if_neg silent] at after ⊢
    intro happening member
    rcases List.mem_append.mp member with member | member
    · exact before happening member
    · exact after happening member

namespace Conduct

variable {U σ : Type} {environment : Environment U σ} {origin covered : Nat}
  {before middle after : State U σ}

protected theorem refl (state : State U σ) (le : origin ≤ state.cursor.position) :
    Settled environment origin state state where
  origin_le := le
  reaches := .refl _
  covered_le := Nat.le_refl _
  frames := rfl
  inWhitespace := rfl
  noWhitespace := rfl
  names := List.suffix_refl _
  muted := rfl
  told := by
    refine ⟨[], rfl, by simp, ?_⟩
    unfold Accounts
    split
    · exact .done _
    · simp

theorem start (environment : Environment U σ) (state : State U σ) :
    Settled environment state.cursor.position state state :=
  .refl state (Nat.le_refl _)

/-- Errors of a later stretch begin later. -/
protected theorem trans (first : Settled environment origin before middle)
    (second : Conduct environment middle.cursor.position middle covered after) :
    Conduct environment origin before covered after := by
  obtain ⟨history, told, within, accounts⟩ := first.told
  obtain ⟨rest, last, also, more⟩ := second.told
  refine ⟨first.origin_le, first.reaches.trans second.reaches, second.covered_le,
    second.frames.trans first.frames, second.inWhitespace.trans first.inWhitespace,
    second.noWhitespace.trans first.noWhitespace, first.names.trans second.names,
    second.muted.trans first.muted, history ++ rest, ?_, ?_, ?_⟩
  · rw [last, told, tellAll_append]
  · intro error member
    rw [raisedIn_append] at member
    rcases List.mem_append.mp member with member | member
    · exact (within error member).mono (Nat.le_refl _) second.reaches.position
    · exact (also error member).mono (Nat.le_trans first.origin_le first.reaches.position)
        (Nat.le_refl _)
  · rw [first.muted] at more
    exact accounts.append more

/-- What was not read yet was not reported. -/
theorem moved {cursor : Cursor U} (conduct : Conduct environment origin before covered after)
    (reaches : after.cursor.Reaches cursor) :
    Conduct environment origin before covered { after with cursor } := by
  obtain ⟨history, told, within, accounts⟩ := conduct.told
  exact { conduct with
    reaches := conduct.reaches.trans reaches
    covered_le := Nat.le_trans conduct.covered_le reaches.position
    told := ⟨history, told, fun error member =>
      (within error member).mono (Nat.le_refl _) reaches.position, accounts⟩ }

/-- A token accounts for what it covers. -/
theorem withToken (conduct : Conduct environment origin before covered after) (kind : TokenKind)
    {stop : Nat} (forward : covered ≤ stop) (le : stop ≤ after.cursor.position) :
    Conduct environment origin before stop
      (after.withToken environment.observer kind covered stop) := by
  obtain ⟨history, told, within, accounts⟩ := conduct.told
  refine { conduct with
    covered_le := le
    muted := by simpa [State.withToken] using conduct.muted
    told := ?_ }
  by_cases muted : after.report.muted = 0
  · refine ⟨history ++ [.token kind covered stop], ?_, ?_, accounts.append ?_⟩
    · rw [tellAll_append, ← told]
      simp [State.withToken, Report.withToken, Report.isMuted, muted, Report.ledger,
        Happening.tell]
    · simpa [raised, State.withToken] using within
    · rw [conduct.muted] at muted
      rw [Accounts, if_pos muted]
      exact .token forward (.done stop)
  · refine ⟨history, ?_, within, ?_⟩
    · simpa [State.withToken, Report.withToken, Report.isMuted, muted] using told
    · rw [conduct.muted] at muted
      rw [Accounts, if_neg muted] at accounts ⊢
      exact accounts

theorem withSkipped {first last : Cursor U}
    (conduct : Conduct environment origin before first.position after)
    (reaches : first.Reaches last) (le : last.position ≤ after.cursor.position) :
    Conduct environment origin before last.position
      (after.withSkipped environment.observer first last) := by
  by_cases forward : first.position < last.position
  · simpa [State.withSkipped, Report.withSkipped, forward, State.withToken] using
      conduct.withToken .error reaches.position le
  · have same : first.position = last.position :=
      Nat.le_antisymm reaches.position (Nat.le_of_not_lt forward)
    simpa [State.withSkipped, Report.withSkipped, same] using conduct

theorem withError (conduct : Conduct environment origin before covered after)
    (kind : ParseError.Kind) {position : Nat} {span : Span} (origin_le : origin ≤ span.first)
    (first_le : span.first ≤ position) (le_stop : position ≤ span.stop)
    (stop_le : span.stop ≤ after.cursor.position) :
    Conduct environment origin before covered
      (after.withError environment kind position span) := by
  obtain ⟨history, told, within, accounts⟩ := conduct.told
  refine { conduct with
    told := ⟨history ++ [.error after.scope.profile (after.scope.errorOf kind position span)],
      ?_, ?_, accounts.append ?_⟩ }
  · rw [tellAll_append, ← told]
    simp [State.withError, Report.withError, Report.ledger, Happening.tell]
  · intro error member
    simp only [raisedIn_append, raisedIn_cons, raised, raisedIn_nil, List.append_nil,
      List.mem_append, List.mem_singleton] at member
    rcases member with member | rfl
    · exact within error member
    · exact ⟨origin_le, first_le, le_stop, stop_le⟩
  · unfold Accounts
    split
    · exact .error (.done covered)
    · simp

theorem withErrorHere (settled : Settled environment origin before after)
    (kind : ParseError.Kind) :
    Settled environment origin before
      (after.withError environment kind after.cursor.position
        (.empty after.cursor.position)) :=
  settled.withError kind (Nat.le_trans settled.origin_le settled.reaches.position)
    (Nat.le_refl _) (Nat.le_refl _) (Nat.le_refl _)

/-- What is read as one token is accounted for at once. -/
theorem read {cursor : Cursor U} (settled : Settled environment origin before after)
    (kind : TokenKind) (reaches : after.cursor.Reaches cursor) :
    Settled environment origin before
      (({ after with cursor } : State U σ).withToken environment.observer kind
        after.cursor.position cursor.position) :=
  (settled.moved reaches).withToken kind reaches.position (Nat.le_refl _)

/-- What is skipped is accounted for as well. -/
theorem skipped {cursor : Cursor U} (settled : Settled environment origin before after)
    (reaches : after.cursor.Reaches cursor) :
    Settled environment origin before
      (({ after with cursor } : State U σ).withSkipped environment.observer after.cursor
        cursor) :=
  (settled.moved reaches).withSkipped reaches (Nat.le_refl _)

/-- So is what is read by mistake, as skipped input with an error. -/
theorem readMistaken {cursor : Cursor U} (settled : Settled environment origin before after)
    (kind : ParseError.Kind) {position : Nat} (reaches : after.cursor.Reaches cursor)
    (first_le : after.cursor.position ≤ position) (le_stop : position ≤ cursor.position) :
    Settled environment origin before
      ((({ after with cursor } : State U σ).withSkipped environment.observer after.cursor
        cursor).withError environment kind position (after.cursor.spanTo cursor)) := by
  refine (settled.skipped reaches).withError kind
    (Nat.le_trans settled.origin_le settled.reaches.position) first_le ?_ ?_
  · rwa [reaches.stop_spanTo]
  · rw [reaches.stop_spanTo]
    exact Nat.le_refl _

theorem withBindings (conduct : Conduct environment origin before covered after)
    {change : Bindings → Bindings}
    (kept : before.scope.bindings.map Prod.fst <:+ (change after.scope.bindings).map Prod.fst) :
    Conduct environment origin before covered (after.withBindings change) :=
  { conduct with names := kept }

/-- The variables that were there before stay when all others are dropped. -/
theorem restoreBindings (conduct : Conduct environment origin before covered after) :
    Conduct environment origin before covered
      (after.withBindings (Bindings.restore · before.scope.bindings.length)) := by
  apply conduct.withBindings
  have restored := Bindings.names_restore conduct.names
  exact ⟨[], restored.symm⟩

theorem againWithWhitespace
    (conduct : Conduct environment origin before.withoutWhitespace covered after) :
    Conduct environment origin before covered after.againWithWhitespace :=
  { conduct with
    noWhitespace := by
      simp [State.againWithWhitespace, State.withoutWhitespace, conduct.noWhitespace] }

/-- A rule that declines has covered nothing. -/
theorem of_restored {values : List Value}
    (restored : Restored environment before values after) (le : origin ≤ before.cursor.position) :
    Settled environment origin before after where
  origin_le := le
  reaches := by
    rw [restored.cursor]
    exact .refl _
  covered_le := Nat.le_refl _
  frames := by rw [restored.scope]
  inWhitespace := by rw [restored.scope]
  noWhitespace := by rw [restored.scope]
  names := by simp [restored.scope]
  muted := restored.muted
  told := by
    obtain ⟨history, declined, silent, told⟩ := restored.told
    refine ⟨history, told, by simp [raisedIn_declined history declined], ?_⟩
    rw [restored.cursor, Accounts]
    split
    · exact .of_declined before.cursor.position declined
    next muted => simp [silent muted]

/-- What a skip of whitespace reports besides itself is errors. -/
theorem unmuffled (conduct : Conduct environment origin before.muffled covered after) :
    Conduct environment origin before before.cursor.position
      (after.unmuffled before.scope.inWhitespace) := by
  obtain ⟨history, told, within, silent⟩ := conduct.told
  rw [Accounts, if_neg (by simp [State.muffled])] at silent
  refine { conduct with
    covered_le := conduct.reaches.position
    inWhitespace := rfl
    muted := by simp [State.unmuffled, conduct.muted, State.muffled]
    told := ⟨history, told, within, ?_⟩ }
  unfold Accounts
  split
  · exact .of_errors _ silent
  · exact silent

/-- Where productions are seen, the end of one is told with all that was told inside. -/
theorem ledger_ended {production : Production U} {history : List Happening} (ending : Ending)
    (seen : before.report.muted = 0) (muted : after.report.muted = before.report.muted)
    (told : after.report.ledger = tellAll environment.observer environment.config.maxErrors history
      (before.inside environment production).report.ledger) :
    (after.outside.withEnd environment production.profile
        (before.report.ticket environment.observer production.profile before.cursor.position)
        ending).report.ledger =
      (Happening.production production.profile before.cursor.position history ending).tell
        environment.observer environment.config.maxErrors before.report.ledger := by
  simp [State.inside, Report.ledger, Report.withStart, Report.isMuted, seen] at told
  simp [State.withEnd, State.outside, Report.ledger, Report.withEnd, Report.ticket,
    Report.isMuted, tell_production, muted, seen, ← told]

/-- A production accounts for what was read inside. -/
theorem ended {production : Production U} {ending : Ending}
    (conduct : Settled environment origin (before.inside environment production) after)
    (ended : ending.stop? = some after.cursor.position) :
    Settled environment origin before
      (after.outside.withEnd environment production.profile
        (before.report.ticket environment.observer production.profile before.cursor.position)
        ending) := by
  obtain ⟨history, told, within, accounts⟩ := conduct.told
  have frames : after.scope.frames = ⟨production,
      before.scope.whitespaceFor environment.grammar production,
      before.scope.bindings.length⟩ :: before.scope.frames := conduct.frames
  have outside : after.outside.scope = ⟨before.scope.frames,
      after.scope.bindings.restore before.scope.bindings.length, after.scope.inWhitespace,
      after.scope.noWhitespace⟩ := by
    simp [State.outside, Scope.outside, frames]
  have muted : after.report.muted = before.report.muted := conduct.muted
  refine { conduct with
    frames := by simp [State.withEnd, outside]
    inWhitespace := by
      simpa [State.withEnd, outside, State.inside, Scope.inside] using conduct.inWhitespace
    noWhitespace := by
      simpa [State.withEnd, outside, State.inside, Scope.inside] using conduct.noWhitespace
    names := ?_
    told := ?_ }
  · have names : before.scope.bindings.map Prod.fst <:+ after.scope.bindings.map Prod.fst :=
      conduct.names
    have restored := Bindings.names_restore names
    simp [State.withEnd, outside, restored]
  by_cases seen : before.report.muted = 0
  · refine ⟨[.production production.profile before.cursor.position history ending], ?_, ?_, ?_⟩
    · exact ledger_ended ending seen muted told
    · simpa [raised, State.withEnd, State.outside] using within
    · rw [Accounts, if_pos seen]
      rw [Accounts, if_pos (by exact seen)] at accounts
      exact .production ended accounts (.done _)
  · refine ⟨history, ?_, within, accounts⟩
    simp [State.inside, Report.ledger, Report.withStart, Report.isMuted, seen] at told
    simp [State.withEnd, State.outside, Report.ledger, Report.withEnd, Report.isMuted, muted, seen,
      told]

theorem errors_le (conduct : Conduct environment origin before covered after) :
    before.report.statistics.errors ≤ after.report.statistics.errors := by
  obtain ⟨history, told, -, -⟩ := conduct.told
  have counted := errors_tellAll environment.observer environment.config.maxErrors history
    before.report.ledger
  rw [← told] at counted
  exact Nat.le.intro counted.symm

end Conduct
end Descent
