/-!
Options for running a grammar and for building a tree.
-/

namespace Descent

structure ParseConfig where
  /-- Whether whitespace is skipped before the entry's rule. -/
  skipLeadingWhitespace : Bool
  /-- How many errors observers see; the others are only counted. -/
  maxErrors : Nat
  deriving DecidableEq, Repr

namespace ParseConfig

def standard : ParseConfig := ⟨true, 100⟩

end ParseConfig

structure TreeConfig where
  /-- How many nodes are allocated at a time; none is the same as one. -/
  slabCapacity : Nat
  /-- Whether the ends of tokens are kept with them, as far as they fit into 32 bits. -/
  compactTokens : Bool
  deriving DecidableEq, Repr

namespace TreeConfig

def standard : TreeConfig := ⟨1024, true⟩

end TreeConfig
end Descent
