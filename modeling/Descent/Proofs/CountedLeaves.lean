import Descent.Proofs.ObserverIndependence

/-! Runs that count how often they leave a loop. They go the same way as other runs. A loop keeps
the leaves of its body to itself, and a speculation is forgotten with its leaves, so what is left
of them in the end are those that are meant for a loop around. -/

namespace Descent

open Descent.Parser Pairing

namespace Parser

variable {U α : Type}

def addOne : Parser U Nat Unit :=
  modifyReport fun report => { report with notes := report.notes + 1 }

def uncounted (inner : Parser U Nat α) : Parser U Nat α := fun environment state =>
  (inner environment state).map fun step =>
    { step with
      state := { step.state with
        report := { step.state.report with notes := state.report.notes } } }

@[simp] theorem ensures_uncounted {environment : Environment U Nat} {state : State U Nat}
    (inner : Parser U Nat α) (post : α → List Value → State U Nat → Prop) :
    (uncounted inner).Ensures environment state post ↔
      inner.Ensures environment state fun answer values after =>
        post answer values
          { after with report := { after.report with notes := state.report.notes } } := by
  constructor
  · intro ensured step ran
    exact ensured { step with
      state := { step.state with
        report := { step.state.report with notes := state.report.notes } } }
      (by simp [uncounted, ran])
  · intro ensured step ran
    simp only [uncounted, Option.map_eq_some_iff] at ran
    obtain ⟨inside, found, rfl⟩ := ran
    exact ensured inside found

end Parser

namespace Runner

section Counting

variable {U : Type} [CodeUnit U] (run : Runner U Nat)

def leaveCounted : Parser U Nat Bool := do
  addOne
  parseLeave

def parseCounted : Rule U → Parser U Nat Bool
  | .leave => leaveCounted
  | .loop body => uncounted (run.parseLoop body)
  | rule => run.parseRule rule

/-- Tries a rule. Neither a loop nor leaving it is a branch. -/
def attemptCounted : Rule U → Parser U Nat Attempt
  | .leave => do return .ofBool (← leaveCounted)
  | .loop body => do return .ofBool (← uncounted (run.parseLoop body))
  | rule => run.attemptRule rule

def counting : Nat → Runner U Nat
  | 0 => ⟨fun _ => outOfFuel, fun _ => outOfFuel, 0⟩
  | fuel + 1 =>
    ⟨fun rule environment state => (counting fuel).parseCounted rule environment state,
      fun rule environment state => (counting fuel).attemptCounted rule environment state,
      fuel + 1⟩

/-- How often a loop around is left while a rule is tried: not by a loop inside, and not in a
speculation. There is no answer if there is not enough fuel. -/
def leavesIn {σ : Type} (fuel : Nat) (rule : Rule U) (environment : Environment U σ)
    (state : State U σ) : Option Nat :=
  ((counting fuel).attempt rule ⟨environment.grammar, environment.config, .silent⟩
    ⟨state.cursor, state.scope, .fresh 0⟩).map fun step => step.state.report.notes

end Counting

section Following

variable {U σ α : Type} {pairing : Pairing U σ Nat} {environment : Environment U σ}
  {other : Environment U Nat} (compare : ∀ report twin, pairing.reports report twin)
  {parser : Parser U σ α} {twin : Parser U Nat α}
  (agrees : pairing.Agrees environment other parser twin)
include compare agrees

private theorem agrees_addOne_then :
    pairing.Agrees environment other parser (do
      addOne
      twin) := by
  intro state state' states
  let added : State U Nat :=
    { state' with report := { state'.report with notes := state'.report.notes + 1 } }
  have counted : pairing.States state added := { states with reports := compare _ _ }
  refine (agrees state added counted).mono ?_
  intro answer values after followed
  obtain ⟨answer', values', after', ran, agreed⟩ := followed
  exact ⟨answer', values', after', ran_then () added rfl ran, agreed⟩

private theorem agrees_uncounted : pairing.Agrees environment other parser (uncounted twin) := by
  intro state state' states
  refine (agrees state state' states).mono ?_
  intro answer values after followed
  obtain ⟨answer', values', after', ran, same, produced, states'⟩ := followed
  let forgotten : State U Nat :=
    { after' with report := { after'.report with notes := state'.report.notes } }
  have counted : pairing.States after forgotten := { states' with reports := compare _ _ }
  exact ⟨answer', values', forgotten, by simp [uncounted, ran, forgotten], same, produced, counted⟩

end Following

variable {U σ : Type} [CodeUnit U]

section Rules

variable {run : Runner U σ} {twin : Runner U Nat} (followed : run.FollowedBy True twin)
  {pairing : Pairing U σ Nat} {environment : Environment U σ} {other : Environment U Nat}
  (kept : pairing.Kept True environment other) {rule : Rule U} (fits : pairing.alignment.Fits rule)
include followed kept fits

private theorem agrees_parseCounted :
    pairing.Agrees environment other (run.parseRule rule) (twin.parseCounted rule) := by
  have compare := kept.compares trivial
  cases rule with
  | leave => exact agrees_addOne_then compare (agrees_parseLeave kept)
  | loop body =>
    exact agrees_uncounted compare (agrees_parseLoop followed kept (fits.part (.head _)))
  | _ => exact agrees_parseRule followed kept fits

private theorem agrees_attemptCounted :
    pairing.Agrees environment other (run.attemptRule rule) (twin.attemptCounted rule) := by
  have parses := agrees_parseCounted followed kept fits
  cases rule with
  | leave => exact parses.bind fun _ => agrees_pure _
  | loop body => exact parses.bind fun _ => agrees_pure _
  | _ => exact agrees_attemptRule followed kept fits

end Rules

/-- Counting changes nothing but the count. -/
theorem followedBy_counting (fuel : Nat) :
    (withFuel fuel : Runner U σ).FollowedBy True (counting fuel) := by
  induction fuel with
  | zero =>
    exact ⟨Nat.le_refl _, fun _ _ _ _ _ _ => ensures_outOfFuel _,
      fun _ _ _ _ _ _ => ensures_outOfFuel _⟩
  | succ fuel followed =>
    exact ⟨Nat.le_refl _, fun kept _ fits => agrees_parseCounted followed kept fits,
      fun kept _ fits => agrees_attemptCounted followed kept fits⟩

/-- Whatever is tried can also be tried counting. -/
theorem ran_counting {fuel : Nat} {rule : Rule U} {environment : Environment U σ}
    {state : State U σ} {attempt : Attempt} {values : List Value} {after : State U σ}
    (ran : (withFuel fuel).attempt rule environment state = some ⟨attempt, values, after⟩) :
    ∃ produced report, (counting fuel).attempt rule
      ⟨environment.grammar, environment.config, .silent⟩
      ⟨state.cursor, state.scope, .fresh 0⟩ =
        some ⟨attempt, produced, ⟨after.cursor, after.scope, report⟩⟩ := by
  have whole := Alignment.isWhole_whole state.cursor.source
  let other : Environment U Nat := ⟨environment.grammar, environment.config, .silent⟩
  let twin : State U Nat := ⟨state.cursor, state.scope, .fresh 0⟩
  have kept : (places (.whole state.cursor.source)).Kept True environment other :=
    kept_places rfl rfl (whole.fitsGrammar _)
  obtain ⟨answer, produced, ⟨cursor, scope, report⟩, counted, same, -, stopped⟩ :=
    (followedBy_counting fuel).attempt kept (whole.fits rule) state twin (places_states rfl rfl)
      _ ran
  cases same
  cases whole.cursors stopped.cursor
  cases whole.scopes stopped.scope
  exact ⟨produced, report, counted⟩

end Runner
end Descent
