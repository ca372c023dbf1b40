import Descent.Parsing.Delimiters
import Descent.Parsing.Lists
import Descent.Parsing.Production
import Descent.Parsing.Recovery
import Descent.Parsing.Structure
import Descent.Parsing.Variables
/-!
The interpreter. What a rule does is said in terms of a runner for the rules inside it and in the
productions that it calls; a runner with some fuel runs them with less.
-/

namespace Descent

namespace Runner

open Descent.Parser

variable {U σ : Type} [CodeUnit U] (run : Runner U σ)

def parseRule : Rule U → Parser U σ Bool
  | .token token => run.parseToken token
  | .tokenized rule kind => run.parseTokenized rule kind
  | .identifier shape reserved => run.parseIdentifier shape reserved
  | .capture rule => run.parseCapture rule
  | .position => parsePosition
  | .constant value => do
    emit value
    return true
  | .integer type digits signed => run.parseInteger type digits signed
  | .codePoint digits => run.parseCodePoint digits
  | .symbol table word => run.parseSymbol table word
  | .symbolHere table => run.parseSymbolHere table
  | .sequence rules => run.parseAll rules
  | .branch condition rest => run.parseAll (condition :: rest)
  | .choice members => run.parseChoice members
  | .optional rule => run.parseOptional rule
  | .otherwise => return true
  | .loop body => run.parseLoop body
  | .leave => parseLeave
  | .repeated body => run.parseRepeated body
  | .repeatedOnce body => run.parseRepeatedOnce body
  | .times count body separator => run.parseTimes body separator count
  | .list item separator => run.parseList item separator
  | .terminatedList terminator item separator limits mayBeEmpty =>
    run.parseTerminatedList ⟨terminator, item, separator, limits⟩ mayBeEmpty
  | .delimited opening closing content escapes =>
    run.parseDelimited opening ⟨closing, content, escapes⟩
  | .onVariable name operation => run.parseVariable name operation
  | .recovering rule recovery => run.parseRecovering rule recovery
  | .find targets limits => run.parseFind targets limits
  | .recover branches limits => run.parseRecover branches limits
  | .peek rule expected => run.parsePeek rule expected
  | .lookahead needle limit => parseLookahead needle limit
  | .call production => do return (← run.call production false).isAccepted
  | .whitespace rule => do
    run.skipWith rule
    return true
  | .withoutWhitespace rule => run.parseWithoutWhitespace rule
  | .combination members partly => run.parseMembers members partly [] members.length

/-- Tries a rule. One that is no branch is run, and never declines. -/
def attemptRule : Rule U → Parser U σ Attempt
  | .token token => run.attemptToken token
  | .tokenized rule kind => run.attemptTokenized rule kind
  | .identifier shape reserved => run.attemptIdentifier shape reserved
  | .capture rule => run.attemptCapture rule
  | .integer type digits signed => run.attemptInteger type digits signed
  | .symbol table word => run.attemptSymbol table word
  | .symbolHere table => run.attemptSymbolHere table
  | .sequence rules => run.attemptSequence rules
  | .branch condition rest => run.attemptThen condition (run.parseAll rest)
  | .choice members => run.attemptChoice members
  | .repeatedOnce body => run.attemptThen body (run.parseRepeated body)
  | .list item separator => run.attemptList item separator
  | .delimited opening closing content escapes =>
    run.attemptDelimited opening ⟨closing, content, escapes⟩
  | .onVariable name (.requireFlag expected) => attemptRequirement name (.requireFlag expected)
  | .onVariable name (.requireCounter expected) =>
    attemptRequirement name (.requireCounter expected)
  | .recovering rule recovery => run.attemptRecovering rule recovery
  | .peek rule expected => run.attemptPeek rule expected
  | .lookahead needle limit => attemptLookahead needle limit
  | .call production => run.call production true
  | .withoutWhitespace rule => run.attemptWithoutWhitespace rule
  | rule => do return .ofBool (← run.parseRule rule)

/-- The runner with some fuel: every rule inside a rule costs one, and no loop goes round more
often than the fuel says. -/
def withFuel : Nat → Runner U σ
  | 0 => ⟨fun _ => outOfFuel, fun _ => outOfFuel, 0⟩
  | fuel + 1 =>
    ⟨fun rule environment state => (withFuel fuel).parseRule rule environment state,
      fun rule environment state => (withFuel fuel).attemptRule rule environment state,
      fuel + 1⟩

end Runner
end Descent
