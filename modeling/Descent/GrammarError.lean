import Descent.Text.Quoted
/-!
Errors found while a grammar, or a table inside one, is put together.
-/

namespace Descent

inductive GrammarError where
  /-- A production was declared but got no rule. -/
  | undefinedProduction (name : String)
  | duplicateProduction (name : String)
  /-- A production id that no declaration has. -/
  | unknownProduction (id : Nat)
  /-- A string that was already in the set. -/
  | duplicateString (text : String)
  | emptyLiteral
  | missingEntry
  deriving DecidableEq, Repr

namespace GrammarError

def message : GrammarError → String
  | undefinedProduction name =>
    "production " ++ Text.quoted name ++ " was declared but never defined"
  | duplicateProduction name => "production " ++ Text.quoted name ++ " is declared twice"
  | unknownProduction id =>
    "production id " ++ Nat.repr id ++ " does not belong to this grammar"
  | duplicateString text =>
    "string " ++ Text.quoted text ++ " appears more than once in a literal set"
  | emptyLiteral => "literal strings must not be empty"
  | missingEntry => "grammar has no entry production"

def tag : GrammarError → String
  | undefinedProduction _ => "undefined_production"
  | duplicateProduction _ => "duplicate_production"
  | unknownProduction _ => "unknown_production"
  | duplicateString _ => "duplicate_string"
  | emptyLiteral => "empty_literal"
  | missingEntry => "missing_entry"

end GrammarError
end Descent
