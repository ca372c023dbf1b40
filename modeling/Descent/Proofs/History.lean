import Descent.Proofs.Effects

/-! What a run tells its observer, as a finite description: tokens, errors and
productions, each with all that is told between its start and its end. Calls that open
and close like brackets are exactly those that have such a description. -/

namespace Descent

inductive Ending where
  | finished (values : List Value) (stop : Nat)
  | canceled (stop : Nat)
  | declined

namespace Ending

def stop? : Ending → Option Nat
  | finished _ stop => some stop
  | canceled stop => some stop
  | declined => none

def tell {σ : Type} (observer : Observer σ) (profile : Profile) (ticket : Ticket) :
    Ending → σ → σ
  | finished values stop, notes => (observer.finish profile ticket values stop notes).2
  | canceled stop, notes => observer.cancel profile ticket stop notes
  | declined, notes => observer.backtrack profile ticket notes

end Ending

inductive Happening where
  | token (kind : TokenKind) (first stop : Nat)
  | error (profile : Profile) (error : ParseError)
  | production (profile : Profile) (first : Nat) (inside : List Happening) (ending : Ending)

/-- What the observer sees counted, and its notes. -/
@[ext]
structure Ledger (σ : Type) where
  tokens : Nat
  errors : Nat
  notes : σ

def Report.ledger {σ : Type} (report : Report σ) : Ledger σ :=
  ⟨report.statistics.tokens, report.statistics.errors, report.notes⟩

namespace Happening

variable {σ : Type} (observer : Observer σ) (limit : Nat)

mutual

/-- Tells an observer, which sees errors up to a limit. A production that ends is told with
the ticket that its start was answered with. -/
def tell : Happening → Ledger σ → Ledger σ
  | token kind first stop, ledger =>
    { ledger with
      tokens := ledger.tokens + 1
      notes := observer.token kind first stop ledger.notes }
  | error profile raised, ledger =>
    let errors := ledger.errors + 1
    { ledger with
      errors
      notes :=
        if errors ≤ limit then observer.error profile raised ledger.notes else ledger.notes }
  | production profile first inside ending, ledger =>
    let (ticket, notes) := observer.start profile first ledger.notes
    let last := tellAll inside { ledger with notes }
    { last with notes := ending.tell observer profile ticket last.notes }
termination_by structural happening => happening

def tellAll : List Happening → Ledger σ → Ledger σ
  | [], ledger => ledger
  | first :: rest, ledger => tellAll rest (first.tell ledger)
termination_by structural history => history

end

theorem tell_production (profile : Profile) (first : Nat) (inside : List Happening)
    (ending : Ending) (ledger : Ledger σ) :
    (production profile first inside ending).tell observer limit ledger =
      let started := observer.start profile first ledger.notes
      let last := tellAll observer limit inside { ledger with notes := started.2 }
      { last with notes := ending.tell observer profile started.1 last.notes } := rfl

@[simp] theorem tellAll_nil (ledger : Ledger σ) : tellAll observer limit [] ledger = ledger := rfl

@[simp] theorem tellAll_cons (first : Happening) (rest : List Happening) (ledger : Ledger σ) :
    tellAll observer limit (first :: rest) ledger =
      tellAll observer limit rest (first.tell observer limit ledger) := rfl

@[simp] theorem tellAll_append (first rest : List Happening) (ledger : Ledger σ) :
    tellAll observer limit (first ++ rest) ledger =
      tellAll observer limit rest (tellAll observer limit first ledger) := by
  induction first generalizing ledger with
  | nil => rfl
  | cons happening first ih => exact ih _

/-- A production that declined, inside which only such productions were started. -/
inductive Declined : Happening → Prop
  | production {profile : Profile} {first : Nat} {inside : List Happening}
      (all : ∀ happening ∈ inside, happening.Declined) :
      Declined (.production profile first inside .declined)

mutual

/-- Productions that declined are not counted. -/
theorem Declined.counts {happening : Happening} (declined : happening.Declined)
    (ledger : Ledger σ) :
    (happening.tell observer limit ledger).tokens = ledger.tokens ∧
      (happening.tell observer limit ledger).errors = ledger.errors := by
  match happening, declined with
  | .production profile first inside .declined, .production all =>
    exact declined_counts inside all { ledger with notes := _ }
termination_by structural happening

theorem declined_counts (history : List Happening)
    (declined : ∀ happening ∈ history, happening.Declined) (ledger : Ledger σ) :
    (tellAll observer limit history ledger).tokens = ledger.tokens ∧
      (tellAll observer limit history ledger).errors = ledger.errors := by
  match history with
  | [] => exact ⟨rfl, rfl⟩
  | happening :: rest =>
    have first := (declined happening (by simp)).counts ledger
    have last := declined_counts rest (fun other member => declined other (by simp [member]))
      (happening.tell observer limit ledger)
    exact ⟨last.1.trans first.1, last.2.trans first.2⟩
termination_by structural history

end

end Happening
end Descent
