import Descent.Pattern.Digits
import Descent.Pattern.Literal
import Descent.Pattern.Scan
import Descent.Trie
/-!
Patterns: what one token is made of. Matching a pattern has no state and no effect but its answer;
a failure leaves the cursor wherever it showed, and whoever wants to go back keeps the older one.
-/

namespace Descent

inductive Pattern (U : Type) where
  /-- One unit of a class. -/
  | oneOf (members : UnitClass)
  | literal (content : Literal U)
  | keyword (content : Literal U) (shape : IdentifierShape)
  | identifier (shape : IdentifierShape)
  | digits (content : DigitRun)
  | digitCount (content : DigitCount)
  /-- The longest of some strings. -/
  | strings (keys : Trie U)
  /-- The option that takes the most input, of options the first one. The strings among the
  options are numbered, and `order` has the index of the option for each number. -/
  | longest (keys : Trie U) (order : List Nat) (others : List (Nat × Pattern U))
  /-- All that is left. -/
  | anything
  | endOfInput
  /-- A line feed, with or without a carriage return before it. -/
  | newline
  /-- A newline or the end. -/
  | endOfLine
  | repeated (body : Pattern U)
  | repeatedOnce (body : Pattern U)
  /-- Everything up to the first match of `needle` and this match. Without a match, everything to
  the end if `orEnd` is set. -/
  | upTo (needle : Pattern U) (orEnd : Bool)
  /-- Everything up to the first place where a needle matches, unless a limit matches before. -/
  | find (needles limits : List (Pattern U))
  /-- What `content` matches, unless `excluded` matches just the same. -/
  | minus (content excluded : Pattern U)
  /-- Nothing, if `needle` matches somewhere before `limit` does. -/
  | lookahead (needle limit : Pattern U)

namespace Pattern

variable {U : Type} [CodeUnit U]

def runOneOf (members : UnitClass) (cursor : Cursor U) : MatchResult U :=
  match cursor.peek with
  | none => .failed .unexpectedEnd cursor
  | some unit => if members.accepts unit then .matched cursor.next else .failed .mismatch cursor

def runStrings (keys : Trie U) (cursor : Cursor U) : MatchResult U :=
  match keys.longest cursor with
  | some (_, after) => .matched after
  | none => .failed .mismatch cursor

def bestString (keys : Trie U) (order : List Nat) (cursor : Cursor U) : Option (Nat × Cursor U) :=
  (keys.longest cursor).bind fun (number, after) =>
    (order[number]?).map fun index => (index, after)

/-- A carriage return that no line feed follows has been read when this fails. -/
def runNewline (cursor : Cursor U) : MatchResult U :=
  match cursor.peek with
  | none => .failed .unexpectedEnd cursor
  | some unit =>
    if CodeUnit.isChar unit '\n' then .matched cursor.next
    else if CodeUnit.isChar unit '\r' then
      if cursor.next.peek.any (CodeUnit.isChar · '\n') then .matched cursor.next.next
      else .failed .mismatch cursor.next
    else .failed .mismatch cursor

/-- The better of two options: the longer one, of two of the same length the one with the smaller
index. -/
def better (best : Option (Nat × Cursor U)) (index : Nat) (after : Cursor U) :
    Nat × Cursor U :=
  match best with
  | none => (index, after)
  | some (bestIndex, bestAfter) =>
    if bestAfter.position < after.position ∨
        (after.position = bestAfter.position ∧ index < bestIndex) then (index, after)
    else (bestIndex, bestAfter)

mutual

def run : Pattern U → Cursor U → MatchResult U
  | oneOf members, cursor => runOneOf members cursor
  | literal content, cursor => content.run cursor
  | keyword content shape, cursor => shape.runKeyword content cursor
  | identifier shape, cursor => shape.run cursor
  | digits content, cursor => content.run cursor
  | digitCount content, cursor => content.run cursor
  | strings keys, cursor => runStrings keys cursor
  | longest keys order others, cursor =>
    match bestOf others cursor (bestString keys order cursor) with
    | some (_, after) => .matched after
    | none => .failed .mismatch cursor
  | anything, cursor => .matched cursor.toEnd
  | endOfInput, cursor => if cursor.atEnd then .matched cursor else .failed .expectedEnd cursor
  | newline, cursor => runNewline cursor
  | endOfLine, cursor => if cursor.atEnd then .matched cursor else runNewline cursor
  | repeated body, cursor => .matched (cursor.advanceWhile fun here => (body.run here).after?)
  | repeatedOnce body, cursor =>
    match body.run cursor with
    | .matched after => .matched (after.advanceWhile fun here => (body.run here).after?)
    | .failed failure stopped => .failed failure stopped
  | upTo needle orEnd, cursor =>
    Matcher.upTo (fun here : Cursor U => needle.run here) orEnd cursor
  | find needles limits, cursor => Matcher.seek (anyMatches needles) (anyMatches limits) cursor
  | minus content excluded, cursor =>
    match content.run cursor with
    | .failed failure stopped => .failed failure stopped
    | .matched after =>
      match excluded.run (after.window (cursor.spanTo after)) with
      | .failed .. => .matched after
      | .matched excludedAfter =>
        if excludedAfter.atEnd then .failed .excludedMatch after else .matched after
  | lookahead needle limit, cursor =>
    Matcher.lookahead (fun here : Cursor U => needle.run here) (fun here => limit.run here) cursor
termination_by structural pattern => pattern

/-- The best of the options given by a pattern and of one found before. -/
def bestOf : List (Nat × Pattern U) → Cursor U → Option (Nat × Cursor U) →
    Option (Nat × Cursor U)
  | [], _, best => best
  | (index, pattern) :: rest, cursor, best =>
    match pattern.run cursor with
    | .failed .. => bestOf rest cursor best
    | .matched after => bestOf rest cursor (some (better best index after))
termination_by structural others => others

def anyMatches : List (Pattern U) → Cursor U → Bool
  | [], _ => false
  | pattern :: rest, cursor => (pattern.run cursor).isMatched || anyMatches rest cursor
termination_by structural patterns => patterns

end

instance : Matcher U (Pattern U) := ⟨Pattern.run⟩

def matchesAt (pattern : Pattern U) (cursor : Cursor U) : Bool :=
  (pattern.run cursor).isMatched

@[simp] theorem matcher_matchesAt (pattern : Pattern U) (cursor : Cursor U) :
    Matcher.matchesAt pattern cursor = pattern.matchesAt cursor := rfl

/-- Like `run`, but a failure leaves the cursor where it was. -/
def runOrStay (pattern : Pattern U) (cursor : Cursor U) : MatchResult U :=
  match pattern.run cursor with
  | .matched after => .matched after
  | .failed failure _ => .failed failure cursor

/-- Past one malformed occurrence, and whether going on from there makes sense. Most patterns
know no way to skip one. -/
def skipMalformed : Pattern U → Cursor U → Bool × Cursor U
  | oneOf _, cursor => (!cursor.atEnd, cursor.next)
  | digits content, cursor =>
    let after := content.skipMalformed cursor
    (cursor.position < after.position, after)
  | minus content _, cursor => content.skipMalformed cursor
  | repeatedOnce body, cursor => body.skipMalformed cursor
  | _, cursor => (false, cursor)

def errorKind : Pattern U → MatchFailure → ParseError.Kind
  | oneOf members, _ => .expectedCharClass members.name
  | literal content, .literalMismatch index => .expectedLiteral content.text index
  | literal content, _ => .expectedLiteral content.text 0
  | keyword content _, _ => .expectedKeyword content.text
  | identifier shape, _ => .expectedCharClass shape.leading.name
  | digits _, .leadingZero => .forbiddenLeadingZero
  | digits _, _ => .expectedDigit
  | digitCount _, _ => .expectedDigit
  | longest .., _ => .exhaustedAlternatives
  | endOfInput, _ => .expectedEnd
  | newline, _ => .expectedCharClass "newline"
  | endOfLine, _ => .expectedCharClass "EOL"
  | repeatedOnce body, failure => body.errorKind failure
  | upTo .., _ => .unexpectedEnd
  | find .., _ => .notFound
  | minus _ _, .excludedMatch => .minusFailure
  | minus content _, failure => content.errorKind failure
  | lookahead .., _ => .notFound
  | strings _, failure => .ofFailure failure
  | anything, failure => .ofFailure failure
  | repeated _, failure => .ofFailure failure

end Pattern
end Descent
