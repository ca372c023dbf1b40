import Descent.Pattern.Basic
/-!
Alternatives: strings and matchers in one declared order, of which the one that takes the most
input is chosen. The matchers are patterns, or whatever else can be matched at a place.
-/

namespace Descent

/-- `names` has one entry an option; strings and matchers refer to it by index. The strings are
numbered by themselves, and `order` has the index of the option for each number. -/
structure Alternatives (U : Type) (M : Type := Pattern U) where
  names : List String
  keys : Trie U
  order : List Nat
  others : List (Nat × M)

namespace Alternatives

variable {U M : Type}

def empty : Alternatives U M := ⟨[], .empty, [], []⟩

def size (options : Alternatives U M) : Nat :=
  options.names.length

def isEmpty (options : Alternatives U M) : Bool :=
  options.names.isEmpty

def name? (options : Alternatives U M) (index : Nat) : Option String :=
  options.names[index]?

def addPattern (options : Alternatives U M) (name : String) (pattern : M) : Alternatives U M :=
  { options with
    names := options.names ++ [name]
    others := options.others ++ [(options.size, pattern)] }

variable [CodeUnit U]

/-- The alternatives after the attempt to add an option that is a string, and what came of it. -/
def tryAddText (options : Alternatives U M) (text : String) :
    Alternatives U M × Except GrammarError Unit :=
  match options.keys.tryInsert (CodeUnit.ofText text) options.order.length with
  | (keys, .error error) => ({ options with keys }, .error error)
  | (keys, .ok ()) =>
    ({ options with
        names := options.names ++ [text]
        keys
        order := options.order ++ [options.size] }, .ok ())

def addText (options : Alternatives U M) (text : String) :
    Except GrammarError (Alternatives U M) :=
  match options.tryAddText text with
  | (more, .ok ()) => .ok more
  | (_, .error error) => .error error

def ofTexts (texts : List String) : Except GrammarError (Alternatives U M) :=
  texts.foldlM addText empty

/-- The best of the options given by a matcher and of one found before. -/
def bestOther [Matcher U M] : List (Nat × M) → Cursor U → Option (Nat × Cursor U) →
    Option (Nat × Cursor U)
  | [], _, best => best
  | (index, pattern) :: rest, cursor, best =>
    match Matcher.run pattern cursor with
    | .failed .. => bestOther rest cursor best
    | .matched after => bestOther rest cursor (some (Pattern.better best index after))

/-- The index of the option that takes the most input, and the cursor after it. -/
def choose [Matcher U M] (options : Alternatives U M) (cursor : Cursor U) :
    Option (Nat × Cursor U) :=
  bestOther options.others cursor (Pattern.bestString options.keys options.order cursor)

def parse [Matcher U M] (options : Alternatives U M) (cursor : Cursor U) :
    Except MatchFailure Nat × Cursor U :=
  match options.choose cursor with
  | some (index, after) => (.ok index, after)
  | none => (.error .mismatch, cursor)

def toPattern (options : Alternatives U) : Pattern U :=
  .longest options.keys options.order options.others

end Alternatives
end Descent
