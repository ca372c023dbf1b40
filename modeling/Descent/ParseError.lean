import Descent.MatchFailure
import Descent.Span
import Descent.Text.Quoted
/-!
Errors reported while a grammar reads its input. Every kind has a message and a short stable tag.
-/

namespace Descent

inductive ParseError.Kind where
  /-- The literal `text` stopped matching at its unit `index`. -/
  | expectedLiteral (text : String) (index : Nat)
  | expectedKeyword (text : String)
  | expectedCharClass (name : String)
  | expectedDigit
  | exhaustedAlternatives
  | missingToken
  | exhaustedChoice
  | missingDelimiter
  | forbiddenLeadingZero
  | integerOverflow
  | invalidCodePoint
  | reservedIdentifier
  | unknownSymbol
  | combinationDuplicate
  | minusFailure
  | contextMismatch
  | invalidEscapeSequence
  | unexpectedTrailingSeparator
  | expectedEnd
  | unexpectedEnd
  | notFound
  | custom (message : String)
  deriving DecidableEq, Repr

namespace ParseError.Kind

def message : Kind → String
  | expectedLiteral text _ => "expected " ++ Text.quoted text
  | expectedKeyword text => "expected keyword " ++ Text.quoted text
  | expectedCharClass name => "expected " ++ name
  | expectedDigit => "expected a digit"
  | exhaustedAlternatives => "none of the alternatives matched"
  | missingToken => "missing token"
  | exhaustedChoice => "exhausted choice"
  | missingDelimiter => "missing closing delimiter"
  | forbiddenLeadingZero => "forbidden leading zero"
  | integerOverflow => "integer overflow"
  | invalidCodePoint => "invalid code point"
  | reservedIdentifier => "reserved identifier"
  | unknownSymbol => "unknown symbol"
  | combinationDuplicate => "duplicate element in combination"
  | minusFailure => "matched an excluded pattern"
  | contextMismatch => "input does not match context state"
  | invalidEscapeSequence => "invalid escape sequence"
  | unexpectedTrailingSeparator => "unexpected trailing separator"
  | expectedEnd => "expected end of input"
  | unexpectedEnd => "unexpected end of input"
  | notFound => "could not find a recovery point"
  | custom message => message

def tag : Kind → String
  | expectedLiteral .. => "expected_literal"
  | expectedKeyword _ => "expected_keyword"
  | expectedCharClass _ => "expected_char_class"
  | expectedDigit => "expected_digit"
  | exhaustedAlternatives => "exhausted_alternatives"
  | missingToken => "missing_token"
  | exhaustedChoice => "exhausted_choice"
  | missingDelimiter => "missing_delimiter"
  | forbiddenLeadingZero => "forbidden_leading_zero"
  | integerOverflow => "integer_overflow"
  | invalidCodePoint => "invalid_code_point"
  | reservedIdentifier => "reserved_identifier"
  | unknownSymbol => "unknown_symbol"
  | combinationDuplicate => "combination_duplicate"
  | minusFailure => "minus_failure"
  | contextMismatch => "context_mismatch"
  | invalidEscapeSequence => "invalid_escape_sequence"
  | unexpectedTrailingSeparator => "unexpected_trailing_separator"
  | expectedEnd => "expected_eof"
  | unexpectedEnd => "unexpected_eof"
  | notFound => "not_found"
  | custom _ => "custom"

/-- The kinds that their tag says everything about. -/
def plain : List Kind :=
  [expectedDigit, exhaustedAlternatives, missingToken, exhaustedChoice, missingDelimiter,
    forbiddenLeadingZero, integerOverflow, invalidCodePoint, reservedIdentifier, unknownSymbol,
    combinationDuplicate, minusFailure, contextMismatch, invalidEscapeSequence,
    unexpectedTrailingSeparator, expectedEnd, unexpectedEnd, notFound]

def ofTag? (tag : String) : Option Kind :=
  plain.find? fun kind => kind.tag == tag

/-- What a failed match is reported as where the pattern has nothing more exact to say. -/
def ofFailure : MatchFailure → Kind
  | .mismatch => exhaustedAlternatives
  | .literalMismatch index => expectedLiteral "" index
  | .keywordMismatch => expectedKeyword ""
  | .expectedDigit => expectedDigit
  | .missingSeparatorDigit => expectedDigit
  | .leadingZero => forbiddenLeadingZero
  | .overflow => integerOverflow
  | .invalidCodePoint => invalidCodePoint
  | .unexpectedEnd => unexpectedEnd
  | .expectedEnd => expectedEnd
  | .excludedMatch => minusFailure
  | .notFound => notFound

end ParseError.Kind

/-- An error, the production that reported it, the place where it was noticed and the input that
it covers. -/
structure ParseError where
  production : String
  position : Nat
  span : Span
  kind : ParseError.Kind
  deriving DecidableEq, Repr

namespace ParseError

def atPosition (production : String) (position : Nat) (kind : Kind) : ParseError :=
  ⟨production, position, .empty position, kind⟩

def message (error : ParseError) : String :=
  error.kind.message

end ParseError
end Descent
