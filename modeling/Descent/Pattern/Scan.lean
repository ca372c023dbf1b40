import Descent.Pattern.Result
/-!
Scans: what looks for a match at one place after another, the end of the view included. What is
looked for is whatever can be matched at a place.
-/

namespace Descent

/-- What can be matched at a place. -/
class Matcher (U M : Type) where
  run : M → Cursor U → MatchResult U

namespace Matcher

variable {U M : Type}

instance : Matcher U (Cursor U → MatchResult U) := ⟨fun answers here => answers here⟩

@[simp] theorem run_answers (answers : Cursor U → MatchResult U) (here : Cursor U) :
    run answers here = answers here := rfl

/-- At each place, the needle is tried before the limit. -/
def seek (needle limit : Cursor U → Bool) (cursor : Cursor U) : MatchResult U :=
  let visit (here : Cursor U) : Option (MatchResult U) :=
    if needle here then some (.matched here)
    else if limit here then some (.failed .notFound here)
    else none
  (cursor.search visit).getD (.failed .notFound cursor.toEnd)

variable [Matcher U M]

def matchesAt (matcher : M) (here : Cursor U) : Bool :=
  (run matcher here).isMatched

/-- Everything up to the first match of a needle and this match. Without a match, everything to the
end if `orEnd` is set. -/
def upTo (needle : M) (orEnd : Bool) (cursor : Cursor U) : MatchResult U :=
  match cursor.search fun here => (run needle here).after? with
  | some after => .matched after
  | none =>
    if orEnd then .matched cursor.toEnd else .failed .unexpectedEnd cursor.toEnd

/-- Everything up to the first place where a needle matches, unless a limit matches before. -/
def find (needles limits : List M) (cursor : Cursor U) : MatchResult U :=
  seek (fun here => needles.any (matchesAt · here)) (fun here => limits.any (matchesAt · here))
    cursor

/-- Nothing, if a needle matches somewhere before a limit does. -/
def lookahead (needle limit : M) (cursor : Cursor U) : MatchResult U :=
  if (seek (matchesAt needle) (matchesAt limit) cursor).isMatched then .matched cursor
  else .failed .notFound cursor

end Matcher
end Descent
