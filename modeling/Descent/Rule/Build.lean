import Descent.Rule.Basic
/-!
Rules put together from simpler ones, and tables that have to be checked first.
-/

namespace Descent

namespace SymbolTable

variable {U : Type} [CodeUnit U]

def ofEntries (entries : List (String × Value)) : Except GrammarError (SymbolTable U) := do
  let keys ← Trie.ofTexts (entries.map Prod.fst)
  return ⟨keys, (entries.map Prod.snd).toArray⟩

def find (table : SymbolTable U) (units : List U) : Option Value :=
  (table.keys.lookup units).bind fun index => table.values[index]?

def longest (table : SymbolTable U) (cursor : Cursor U) : Option (Value × Cursor U) :=
  (table.keys.longest cursor).bind fun (index, after) =>
    (table.values[index]?).map fun value => (value, after)

end SymbolTable

namespace Trie

variable {U : Type} [CodeUnit U]

def reserve (reserved : Trie U) (words : List String) : Except GrammarError (Trie U) :=
  reserved.insertAll reserved.size (words.map CodeUnit.ofText)

def reserved (lists : List (List String)) : Except GrammarError (Trie U) :=
  lists.foldlM reserve empty

end Trie

namespace Rule

variable {U : Type} [CodeUnit U]

def literal (text : String) : Rule U :=
  .token (.literal text)

def brackets (opening closing item : Rule U) (separator : Option (Separator (Rule U)))
    (limits : List (Rule U)) (mayBeEmpty : Bool) : Rule U :=
  .sequence [opening, .terminatedList closing item separator limits mayBeEmpty]

/-- A reference to the variable with an empty lexeme, to be captured later. -/
def createLexeme (name : String) : Rule U :=
  .onVariable name (.create (.lexeme (.empty 0)))

/-- Skips one malformed occurrence after a failure, without a report. Only a token knows how. -/
def skipMalformed : Rule U → Cursor U → Bool × Cursor U
  | token content, cursor => content.pattern.skipMalformed cursor
  | _, cursor => (false, cursor)

end Rule
end Descent
