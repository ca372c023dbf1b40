import Descent.Cursor
import Descent.MatchFailure
/-!
What matching answers: the cursor after the match, or why there is none and where that showed.
-/

namespace Descent

inductive MatchResult (U : Type) where
  | matched (after : Cursor U)
  | failed (failure : MatchFailure) (stopped : Cursor U)

namespace MatchResult

variable {U : Type}

def isMatched : MatchResult U → Bool
  | matched _ => true
  | failed .. => false

def after? : MatchResult U → Option (Cursor U)
  | matched after => some after
  | failed .. => none

/-- The cursor that reading goes on from if a failure is not undone. -/
def cursor : MatchResult U → Cursor U
  | matched after => after
  | failed _ stopped => stopped

end MatchResult
end Descent
