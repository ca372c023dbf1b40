import Descent.Binding
import Descent.Token
import Descent.Value.Basic
/-!
Rules: the language that the right-hand sides of productions are written in. A rule is data; what
it does to the input is said by the interpreter. Productions call each other by number, so a rule
is finite even in a recursive grammar.
-/

namespace Descent

/-- The index of a production in its grammar. Grammars are taken to have fewer than 2 ^ 32
productions, so that an index fits into 32 bits. -/
abbrev ProductionId := Nat

structure Separator (R : Type) where
  rule : R
  /-- Whether it may also stand after the last item. -/
  trailing : Bool

/-- What may follow the introducer of an escape sequence. -/
inductive EscapeAction (R : Type) where
  /-- A unit that stands for a value. -/
  | map (unit : Nat) (value : Value)
  | rule (rule : R)
  /-- A unit that stands for itself. -/
  | capture (members : UnitClass)

/-- Escape sequences that begin with the same introducer; the first action that applies is
taken. -/
structure Escape (U R : Type) where
  introducer : Token U
  actions : List (EscapeAction R)

inductive Operation (R : Type) where
  | create (initial : Binding)
  | setFlag (value : Bool)
  | toggleFlag
  /-- One of two rules, by the flag. -/
  | selectFlag (set unset : R)
  | requireFlag (expected : Bool)
  | add (amount : Int)
  /-- Adds the number of units that a rule takes, or subtracts it. -/
  | measure (rule : R) (negative : Bool)
  /-- One of three rules, by how the counter compares with a number. -/
  | compareCounter (value : Int) (less equal greater : R)
  | requireCounter (expected : Int)
  /-- Keeps the input that a rule takes. -/
  | capture (rule : R)
  /-- Requires a rule to take the same input as was kept. -/
  | rematch (rule : R)

structure SymbolTable (U : Type) where
  keys : Trie U
  values : Array Value

inductive Rule (U : Type) where
  | token (token : Token U)
  /-- Whatever a rule takes, as one token. -/
  | tokenized (rule : Rule U) (kind : TokenKind)
  /-- An identifier, with its lexeme as the value. A reserved one is reported and accepted. -/
  | identifier (shape : IdentifierShape) (reserved : Trie U)
  /-- A rule with its lexeme in front of its values. -/
  | capture (rule : Rule U)
  /-- The current position as a value. -/
  | position
  | constant (value : Value)
  /-- An integer, with a sign in front if `signed` is set. -/
  | integer (type : IntegerType) (digits : DigitRun) (signed : Bool)
  | codePoint (digits : DigitCount)
  /-- The value of the symbol that is exactly the lexeme of a rule. -/
  | symbol (table : SymbolTable U) (word : Rule U)
  /-- The value of the longest symbol here. -/
  | symbolHere (table : SymbolTable U)
  | sequence (rules : List (Rule U))
  /-- A condition and the rest, taken when the condition holds. -/
  | branch (condition : Rule U) (rest : List (Rule U))
  /-- The first member that is taken. -/
  | choice (members : List (Rule U))
  | optional (rule : Rule U)
  /-- A condition that holds everywhere. -/
  | otherwise
  /-- Repeats until it is left, its body is not taken, or nothing is read. -/
  | loop (body : Rule U)
  /-- Leaves the innermost loop after this round. -/
  | leave
  | repeated (body : Rule U)
  | repeatedOnce (body : Rule U)
  | times (count : Nat) (body : Rule U) (separator : Option (Rule U))
  /-- One or more items. -/
  | list (item : Rule U) (separator : Option (Separator (Rule U)))
  /-- Items up to a terminator; a malformed one is skipped, unless a limit comes first. -/
  | terminatedList (terminator item : Rule U) (separator : Option (Separator (Rule U)))
      (limits : List (Rule U)) (mayBeEmpty : Bool)
  /-- Content units and escape sequences between two delimiters. -/
  | delimited (opening closing : Rule U) (content : UnitClass)
      (escapes : List (Escape U (Rule U)))
  | onVariable (name : String) (operation : Operation (Rule U))
  /-- Goes on after a failure, with `recovery` or else past what the rule can skip itself. -/
  | recovering (rule : Rule U) (recovery : Option (Rule U))
  /-- Skips input up to a target. -/
  | find (targets limits : List (Rule U))
  /-- Skips input up to the first place where a branch is taken. -/
  | recover (branches limits : List (Rule U))
  /-- A condition on what follows: `expected` says whether the rule has to match. -/
  | peek (rule : Rule U) (expected : Bool)
  /-- A condition on what follows: the needle comes before the limit. -/
  | lookahead (needle limit : Pattern U)
  | call (production : ProductionId)
  /-- Skips whitespace of its own. -/
  | whitespace (rule : Rule U)
  /-- A rule inside which no whitespace is skipped. -/
  | withoutWhitespace (rule : Rule U)
  /-- All members in any order; only some of them if `partly` is set. -/
  | combination (members : List (Rule U)) (partly : Bool)

end Descent
