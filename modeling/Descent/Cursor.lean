import Descent.Span
import Descent.Text.CodeUnit
/-!
Cursors: a place in a source of code units, with the place where reading has to stop. A cursor is
a value, so backtracking is going on with an older one. Positions count from the beginning of the
whole source, also in a window on a part of it.
-/

namespace Descent

@[ext]
structure Cursor (U : Type) where
  source : Array U
  position : Nat
  stop : Nat
  position_le_stop : position ≤ stop
  stop_le_size : stop ≤ source.size

namespace Cursor

variable {U : Type}

instance [DecidableEq U] : DecidableEq (Cursor U) := fun _ _ =>
  decidable_of_iff _ Cursor.ext_iff.symm

def start (source : Array U) : Cursor U :=
  ⟨source, 0, source.size, Nat.zero_le _, Nat.le_refl _⟩

def atEnd (cursor : Cursor U) : Bool :=
  cursor.stop ≤ cursor.position

def peek (cursor : Cursor U) : Option U :=
  if h : cursor.position < cursor.stop then
    have inside := Nat.lt_of_lt_of_le h cursor.stop_le_size
    some cursor.source[cursor.position]
  else none

def peekAhead (cursor : Cursor U) (ahead : Nat) : Option U :=
  if h : cursor.position + ahead < cursor.stop then
    have inside := Nat.lt_of_lt_of_le h cursor.stop_le_size
    some cursor.source[cursor.position + ahead]
  else none

/-- One unit further; at the end, nothing changes. -/
def next (cursor : Cursor U) : Cursor U :=
  if h : cursor.position < cursor.stop then
    { cursor with position := cursor.position + 1, position_le_stop := h }
  else cursor

/-- Any position up to where reading stops. -/
def moveTo (cursor : Cursor U) (position : Nat) : Cursor U :=
  { cursor with
    position := min position cursor.stop
    position_le_stop := Nat.min_le_right .. }

def toEnd (cursor : Cursor U) : Cursor U :=
  { cursor with position := cursor.stop, position_le_stop := Nat.le_refl _ }

def left (cursor : Cursor U) : Nat :=
  cursor.stop - cursor.position

def remaining (cursor : Cursor U) : List U :=
  (cursor.source.extract cursor.position cursor.stop).toList

/-- The units of a span, as far as the source has them. -/
def slice (cursor : Cursor U) (span : Span) : List U :=
  (cursor.source.extract span.first span.stop).toList

def window (cursor : Cursor U) (span : Span) : Cursor U :=
  let stop := min span.stop cursor.source.size
  ⟨cursor.source, min span.first stop, stop, Nat.min_le_right .., Nat.min_le_right ..⟩

/-- From one cursor to a later one of the same view. -/
def spanTo (before after : Cursor U) : Span :=
  .between before.position after.position

/-- The first answer of `visit` on the way to the end of the view, both ends included. -/
def search {α : Type} (visit : Cursor U → Option α) (cursor : Cursor U) : Option α :=
  go cursor.left cursor
where
  go : Nat → Cursor U → Option α
    | 0, cursor => visit cursor
    | left + 1, cursor =>
      match visit cursor with
      | some answer => some answer
      | none => go left cursor.next

/-- Steps as long as they succeed and move. -/
def advanceWhile (move : Cursor U → Option (Cursor U)) (cursor : Cursor U) : Cursor U :=
  go cursor.left cursor
where
  go : Nat → Cursor U → Cursor U
    | 0, cursor => cursor
    | left + 1, cursor =>
      match move cursor with
      | none => cursor
      | some after => if after.position = cursor.position then after else go left after

def skip (test : U → Bool) (cursor : Cursor U) : Cursor U :=
  cursor.advanceWhile fun cursor => if cursor.peek.any test then some cursor.next else none

/-- The cursor as it is shown to a reader: where it is, where it stops, and the next unit. -/
def describe [CodeUnit U] (cursor : Cursor U) : String :=
  let next := match cursor.peek with
    | some unit => "Some(" ++ CodeUnit.describe unit ++ ")"
    | none => "None"
  "Reader \x7b position: " ++ Nat.repr cursor.position ++ ", end: " ++ Nat.repr cursor.stop ++
    ", next: " ++ next ++ " \x7d"

end Cursor
end Descent
