import Descent.Proofs.History

/-! Which histories account for a stretch of input. Tokens and productions follow each
other without gaps; errors cover no input, and neither do productions that declined, inside
which there are no errors. -/

namespace Descent

structure ParseError.Within (origin last : Nat) (error : ParseError) : Prop where
  origin_le : origin ≤ error.span.first
  first_le : error.span.first ≤ error.position
  le_stop : error.position ≤ error.span.stop
  stop_le : error.span.stop ≤ last

theorem ParseError.Within.mono {origin least last most : Nat} {error : ParseError}
    (within : error.Within origin last) (before : least ≤ origin) (after : last ≤ most) :
    error.Within least most :=
  ⟨Nat.le_trans before within.origin_le, within.first_le, within.le_stop,
    Nat.le_trans within.stop_le after⟩

namespace Happening

mutual

def raised : Happening → List ParseError
  | token .. => []
  | error _ raised => [raised]
  | production _ _ inside _ => raisedIn inside
termination_by structural happening => happening

def raisedIn : List Happening → List ParseError
  | [] => []
  | first :: rest => first.raised ++ raisedIn rest
termination_by structural history => history

end

@[simp] theorem raisedIn_nil : raisedIn [] = [] := rfl

@[simp] theorem raisedIn_cons (first : Happening) (rest : List Happening) :
    raisedIn (first :: rest) = first.raised ++ raisedIn rest := rfl

@[simp] theorem raisedIn_append (first rest : List Happening) :
    raisedIn (first ++ rest) = raisedIn first ++ raisedIn rest := by
  induction first with
  | nil => rfl
  | cons happening first ih => simp [ih]

mutual

/-- Errors are counted, seen or not. -/
theorem errors_tell {σ : Type} (observer : Observer σ) (limit : Nat) (happening : Happening)
    (ledger : Ledger σ) :
    (happening.tell observer limit ledger).errors = ledger.errors + happening.raised.length := by
  match happening with
  | token kind first stop => rfl
  | error profile raised => rfl
  | production profile first inside ending =>
    exact errors_tellAll observer limit inside { ledger with notes := _ }
termination_by structural happening

theorem errors_tellAll {σ : Type} (observer : Observer σ) (limit : Nat)
    (history : List Happening) (ledger : Ledger σ) :
    (tellAll observer limit history ledger).errors =
      ledger.errors + (raisedIn history).length := by
  match history with
  | [] => rfl
  | happening :: rest =>
    rw [tellAll_cons, errors_tellAll observer limit rest, errors_tell observer limit happening,
      raisedIn_cons, List.length_append, Nat.add_assoc]
termination_by structural history

end

mutual

theorem Declined.raised {happening : Happening} (declined : happening.Declined) :
    happening.raised = [] := by
  match happening, declined with
  | .production profile first inside .declined, .production all =>
    exact raisedIn_declined inside all
termination_by structural happening

theorem raisedIn_declined (history : List Happening)
    (declined : ∀ happening ∈ history, happening.Declined) : raisedIn history = [] := by
  match history with
  | [] => rfl
  | happening :: rest =>
    rw [raisedIn_cons, (declined happening (by simp)).raised,
      raisedIn_declined rest fun other member => declined other (by simp [member]),
      List.nil_append]
termination_by structural history

end

/-- A history of what was read from one position to another. -/
inductive Tiles : Nat → List Happening → Nat → Prop
  | done (position : Nat) : Tiles position [] position
  | token {kind : TokenKind} {first stop last : Nat} {rest : List Happening}
      (forward : first ≤ stop) (after : Tiles stop rest last) :
      Tiles first (.token kind first stop :: rest) last
  | error {profile : Profile} {raised : ParseError} {first last : Nat} {rest : List Happening}
      (after : Tiles first rest last) : Tiles first (.error profile raised :: rest) last
  | production {profile : Profile} {ending : Ending} {first stop last : Nat}
      {inside rest : List Happening} (ended : ending.stop? = some stop)
      (inner : Tiles first inside stop) (after : Tiles stop rest last) :
      Tiles first (.production profile first inside ending :: rest) last
  | declined {profile : Profile} {begun first last : Nat} {inside rest : List Happening}
      (all : ∀ happening ∈ inside, happening.Declined) (after : Tiles first rest last) :
      Tiles first (.production profile begun inside .declined :: rest) last

namespace Tiles

variable {first middle last : Nat} {history rest : List Happening}

theorem append (before : Tiles first history middle) (after : Tiles middle rest last) :
    Tiles first (history ++ rest) last := by
  induction before with
  | done => exact after
  | token forward _ ih => exact .token forward (ih after)
  | error _ ih => exact .error (ih after)
  | production ended inner _ _ ih => exact .production ended inner (ih after)
  | declined all _ ih => exact .declined all (ih after)

/-- Productions that declined cover nothing. -/
theorem of_declined (position : Nat) (all : ∀ happening ∈ history, happening.Declined) :
    Tiles position history position := by
  induction history with
  | nil => exact .done position
  | cons happening rest ih =>
    have declined := all happening (by simp)
    cases declined with
    | production inner =>
      exact .declined inner (ih fun other member => all other (by simp [member]))

theorem of_errors (position : Nat)
    (all : ∀ happening ∈ history, ∃ profile raised, happening = .error profile raised) :
    Tiles position history position := by
  induction history with
  | nil => exact .done position
  | cons happening rest ih =>
    obtain ⟨profile, raised, rfl⟩ := all happening (by simp)
    exact .error (ih fun other member => all other (by simp [member]))

end Tiles
end Happening
end Descent
