/-!
Half-open ranges of source positions. A span never ends before it begins.
-/

namespace Descent

structure Span where
  first : Nat
  stop : Nat
  first_le_stop : first ≤ stop := by omega
  deriving DecidableEq, Repr

namespace Span

/-- The span from `first` to `stop`, where a stop before `first` is raised to it. -/
def between (first stop : Nat) : Span :=
  ⟨first, max first stop, Nat.le_max_left ..⟩

def empty (position : Nat) : Span :=
  ⟨position, position, Nat.le_refl _⟩

def length (span : Span) : Nat :=
  span.stop - span.first

def isEmpty (span : Span) : Bool :=
  span.first == span.stop

def contains (span : Span) (position : Nat) : Bool :=
  span.first ≤ position && position < span.stop

def includes (outer inner : Span) : Bool :=
  outer.first ≤ inner.first && inner.stop ≤ outer.stop

def cover (a b : Span) : Span :=
  between (min a.first b.first) (max a.stop b.stop)

/-- Spans are ordered by where they begin, then by where they stop. -/
def compare (a b : Span) : Ordering :=
  (Ord.compare a.first b.first).then (Ord.compare a.stop b.stop)

instance : ToString Span where
  toString span := Nat.repr span.first ++ ".." ++ Nat.repr span.stop

theorem stop_between (first stop : Nat) : (between first stop).stop = max first stop := rfl

end Span
end Descent
