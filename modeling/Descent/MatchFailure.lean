/-!
Why a pattern did not match. These codes are local to one attempt; what is reported to a user is a
`ParseError.Kind`.
-/

namespace Descent

inductive MatchFailure where
  | mismatch
  /-- A literal stopped matching at its unit `index`. -/
  | literalMismatch (index : Nat)
  /-- An identifier was read, but not the keyword. -/
  | keywordMismatch
  | expectedDigit
  /-- No digit follows a digit separator. -/
  | missingSeparatorDigit
  /-- More digits follow a leading zero where that is forbidden. -/
  | leadingZero
  | overflow
  /-- The digits name no scalar value. -/
  | invalidCodePoint
  | unexpectedEnd
  | expectedEnd
  /-- The input is what the pattern excludes. -/
  | excludedMatch
  /-- A scan reached its limit before its target. -/
  | notFound
  deriving DecidableEq, Repr

namespace MatchFailure

def tag : MatchFailure → String
  | mismatch => "mismatch"
  | literalMismatch _ => "literal_mismatch"
  | keywordMismatch => "keyword_mismatch"
  | expectedDigit => "expected_digit"
  | missingSeparatorDigit => "missing_separator_digit"
  | leadingZero => "leading_zero"
  | overflow => "overflow"
  | invalidCodePoint => "invalid_code_point"
  | unexpectedEnd => "unexpected_eof"
  | expectedEnd => "expected_eof"
  | excludedMatch => "excluded_match"
  | notFound => "not_found"

/-- The failures that their tag says everything about. -/
def plain : List MatchFailure :=
  [mismatch, keywordMismatch, expectedDigit, missingSeparatorDigit, leadingZero, overflow,
    invalidCodePoint, unexpectedEnd, expectedEnd, excludedMatch, notFound]

def ofTag? (tag : String) : Option MatchFailure :=
  plain.find? fun failure => failure.tag == tag

end MatchFailure
end Descent
