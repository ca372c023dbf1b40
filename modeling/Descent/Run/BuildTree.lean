import Descent.Run.Basic
import Descent.Tree.Builder
/-!
The tree of an input. There is one also for input that the entry fails on, and it holds everything
up to where that happened.
-/

namespace Descent.Grammar

variable {U : Type} [CodeUnit U]

def parseTree (grammar : Grammar U) (config : ParseConfig) (treeConfig : TreeConfig)
    (cursor : Cursor U) (fuel : Nat) : Option (ParseResult ParseTree) :=
  (grammar.run config TreeBuilder.observer (.empty treeConfig) cursor fuel).map fun completion =>
    match completion.notes.finish with
    | .ok (tree, errors) => ⟨completion.verdict, some tree, errors⟩
    | .error _ => ⟨completion.verdict, none, []⟩

end Descent.Grammar
