import Descent.Config
import Descent.Cursor
import Descent.Observer
/-!
The state of a running grammar: where it is in the input, what is in scope there, and what has been
reported.
-/

namespace Descent

structure Frame (U : Type) where
  production : Production U
  /-- The rule for whitespace inside. -/
  whitespace : Option (Rule U)
  /-- How many bindings there were when it started. -/
  height : Nat

structure Scope (U : Type) where
  /-- The running productions, the innermost one first. -/
  frames : List (Frame U)
  bindings : Bindings
  /-- Whether whitespace is being skipped. -/
  inWhitespace : Bool
  /-- How many rules around forbid to skip whitespace. -/
  noWhitespace : Nat

structure Statistics where
  /-- Productions that started. -/
  productions : Nat
  /-- Productions that declined. -/
  backtracks : Nat
  /-- Tokens that the observer has seen. -/
  tokens : Nat
  /-- Errors, with those that the observer has not seen. -/
  errors : Nat
  deriving DecidableEq, Repr

namespace Statistics

def zero : Statistics := ⟨0, 0, 0, 0⟩

end Statistics

structure Report (σ : Type) where
  /-- How many skips of whitespace keep the observer from seeing productions and tokens. -/
  muted : Nat
  statistics : Statistics
  /-- The notes of the observer. -/
  notes : σ

structure State (U σ : Type) where
  cursor : Cursor U
  scope : Scope U
  report : Report σ

namespace Scope

variable {U : Type}

def outermost : Scope U := ⟨[], [], false, 0⟩

/-- The innermost production, or what stands for none. -/
def profile (scope : Scope U) : Profile :=
  match scope.frames with
  | [] => .detached
  | frame :: _ => frame.production.profile

def productionName? (scope : Scope U) : Option String :=
  scope.frames.head?.map fun frame => frame.production.profile.name

/-- The rule for whitespace in effect, where skipping it is not forbidden. -/
def whitespace? (scope : Scope U) : Option (Rule U) :=
  if scope.inWhitespace || 0 < scope.noWhitespace then none
  else scope.frames.head?.bind Frame.whitespace

end Scope

namespace Report

variable {σ : Type}

def fresh (notes : σ) : Report σ := ⟨0, .zero, notes⟩

def isMuted (report : Report σ) : Bool :=
  report.muted != 0

end Report

namespace State

variable {U σ : Type}

def initial (cursor : Cursor U) (notes : σ) : State U σ :=
  ⟨cursor, .outermost, .fresh notes⟩

end State
end Descent
