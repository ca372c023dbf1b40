import Descent.Proofs.FollowingRules

/-! Where a rule around forbids to skip whitespace, the rules for it play no part: two grammars that
differ in nothing else do the same there. -/

namespace Descent

open Descent.Parser Pairing

def Grammar.bare {U : Type} (grammar : Grammar U) : Grammar U :=
  { grammar with productions := grammar.productions.map Production.bare, whitespace := none }

def Scope.bare {U : Type} (scope : Scope U) : Scope U :=
  { scope with frames := scope.frames.map Frame.bare }

def State.bare {U σ : Type} (state : State U σ) : State U σ :=
  { state with scope := state.scope.bare }

def Step.bare {U σ α : Type} (step : Step U σ α) : Step U σ α :=
  { step with state := step.state.bare }

variable {U σ α : Type}

theorem Grammar.twins_of_bare {grammar other : Grammar U} (same : other.bare = grammar.bare)
    (floor : Nat) : grammar.Twins (some floor) other where
  production id := by
    have found : (other.production? id).map Production.bare =
        (grammar.production? id).map Production.bare := by
      have entry := congrArg (fun grammar : Grammar U => grammar.production? id) same
      simpa [Grammar.bare, Grammar.production?] using entry
    generalize grammar.production? id = first at found
    generalize other.production? id = second at found
    cases first with
    | none =>
      rw [Option.map_eq_none_iff.mp found]
      exact .none
    | some production =>
      obtain ⟨twin, rfl, same⟩ := Option.map_eq_some_iff.mp found
      exact .some ⟨same, nofun⟩
  same := nofun

namespace Alignment.IsWhole

variable {alignment : Alignment U} (isWhole : alignment.IsWhole) {scope scope' : Scope U}
include isWhole

private theorem scopes_of_bare (same : scope'.bare = scope.bare) {floor : Nat}
    (hides : floor < scope.noWhitespace) : alignment.Scopes (some floor) scope scope' := by
  obtain ⟨frames, bindings, inWhitespace, noWhitespace⟩ := scope
  obtain ⟨frames', bindings', inWhitespace', noWhitespace'⟩ := scope'
  obtain ⟨frames_same, rfl, rfl, rfl⟩ := Scope.mk.inj same
  have identical := isWhole.scopes_refl ⟨frames, bindings', inWhitespace', noWhitespace'⟩
  refine ⟨?_, identical.bindings, rfl, rfl, ?_, identical.fits⟩
  · rw [← List.forall₂_eq_eq_eq, List.forall₂_map_left_iff, List.forall₂_map_right_iff]
      at frames_same
    exact frames_same.flip.imp fun _ _ bare => ⟨bare, nofun⟩
  · rintro _ ⟨⟩
    exact hides

private theorem bare_scopes {hidden : Option Nat} (same : alignment.Scopes hidden scope scope') :
    scope'.bare = scope.bare := by
  have frames : scope'.frames.map Frame.bare = scope.frames.map Frame.bare := by
    rw [← List.forall₂_eq_eq_eq, List.forall₂_map_left_iff, List.forall₂_map_right_iff]
    exact same.frames.flip.imp fun _ _ twin => twin.bare
  have bindings : List.Forall₂ Eq scope.bindings scope'.bindings :=
    same.bindings.imp fun _ _ named => Prod.ext named.name (isWhole.binds named.binds).symm
  rw [List.forall₂_eq_eq_eq] at bindings
  rw [Scope.bare, Scope.bare, frames, bindings, same.inWhitespace, same.noWhitespace]

end Alignment.IsWhole

namespace Runner

section Hidden

variable {environment other : Environment U σ} {state twin : State U σ}

/-- Two runs in which everything is the same but for the rules for whitespace. -/
def covered (source : Array U) : Pairing U σ σ := ⟨.whole source, Eq, True, some 0⟩

theorem cursor_of_bare (same : twin.bare = state.bare) : twin.cursor = state.cursor :=
  show twin.bare.cursor = state.bare.cursor by rw [same]

theorem withoutWhitespace_of_bare (same : twin.bare = state.bare) :
    twin.withoutWhitespace.bare = state.withoutWhitespace.bare :=
  show twin.bare.withoutWhitespace = state.bare.withoutWhitespace by rw [same]

private theorem states_of_bare (same : twin.bare = state.bare)
    (hides : 0 < state.scope.noWhitespace) :
    (covered state.cursor.source).States state twin := by
  obtain ⟨cursor, scope, report⟩ := state
  obtain ⟨cursor', scope', report'⟩ := twin
  obtain ⟨rfl, scopes, rfl⟩ := State.mk.inj same
  exact ⟨Alignment.cursors_whole _, (Alignment.isWhole_whole _).scopes_of_bare scopes hides, rfl⟩

private theorem bare_of_states {source : Array U}
    (states : (covered source).States state twin) : twin.bare = state.bare := by
  have whole := Alignment.isWhole_whole source
  rw [State.bare, State.bare, whole.cursors states.cursor, whole.bare_scopes states.scope,
    states.reports]

theorem map_bare_of_agrees {parser parser' : Parser U σ α}
    (agrees : (covered state.cursor.source).Agrees environment other parser parser')
    (conversely : (covered twin.cursor.source).Agrees other environment parser' parser)
    (same : twin.bare = state.bare) (hides : 0 < state.scope.noWhitespace) :
    (parser environment state).map Step.bare = (parser' other twin).map Step.bare := by
  cases ran : parser environment state with
  | some step =>
    obtain ⟨answer, values, after, twin_ran, rfl, equal, stopped⟩ :=
      agrees state twin (states_of_bare same hides) step ran
    rw [twin_ran, Option.map_some, Option.map_some, Step.bare, Step.bare, equal trivial,
      bare_of_states stopped]
  | none =>
    cases twin_ran : parser' other twin with
    | none => rfl
    | some step =>
      have hides' : 0 < twin.scope.noWhitespace :=
        (congrArg (fun state : State U σ => state.scope.noWhitespace) same).symm ▸ hides
      obtain ⟨answer, values, after, back, -⟩ :=
        conversely twin state (states_of_bare same.symm hides') step twin_ran
      rw [ran] at back
      cases back

variable [CodeUnit U] {grammar grammar' : Grammar U} (config : ParseConfig) (observer : Observer σ)
  (rule : Rule U) (grammars : grammar'.bare = grammar.bare) (states : twin.bare = state.bare)
  (hides : 0 < state.scope.noWhitespace) (fuel : Nat)
include grammars states hides

/-- A rule that has to match does the same whatever the rules for whitespace are. -/
theorem bare_parse :
    ((withFuel fuel).parse rule ⟨grammar, config, observer⟩ state).map Step.bare =
      ((withFuel fuel).parse rule ⟨grammar', config, observer⟩ twin).map Step.bare :=
  have fits (source : Array U) := (Alignment.isWhole_whole source).fits rule
  map_bare_of_agrees
    ((followedBy_withFuel (Nat.le_refl fuel)).parse
      (kept_identical _ (Grammar.twins_of_bare grammars 0) config observer) (fits _))
    ((followedBy_withFuel (Nat.le_refl fuel)).parse
      (kept_identical _ (Grammar.twins_of_bare grammars.symm 0) config observer) (fits _))
    states hides

theorem bare_attempt :
    ((withFuel fuel).attempt rule ⟨grammar, config, observer⟩ state).map Step.bare =
      ((withFuel fuel).attempt rule ⟨grammar', config, observer⟩ twin).map Step.bare :=
  have fits (source : Array U) := (Alignment.isWhole_whole source).fits rule
  map_bare_of_agrees
    ((followedBy_withFuel (Nat.le_refl fuel)).attempt
      (kept_identical _ (Grammar.twins_of_bare grammars 0) config observer) (fits _))
    ((followedBy_withFuel (Nat.le_refl fuel)).attempt
      (kept_identical _ (Grammar.twins_of_bare grammars.symm 0) config observer) (fits _))
    states hides

end Hidden

end Runner
end Descent
