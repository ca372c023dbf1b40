import Descent.Grammar.Basic
import Descent.GrammarError
import Std.Data.HashMap
/-!
Building a grammar: productions are declared by name, and get a rule and options then or later.
Mistakes on the way are kept, and the first one is the answer in the end.
-/

namespace Descent

structure ProductionOptions (U : Type) where
  token : Bool
  transparent : Bool
  whitespace : Option (Rule U)
  callback : Option (Callback U)
  sink : Option Sink

namespace ProductionOptions

variable {U : Type}

def none : ProductionOptions U := ⟨false, false, .none, .none, .none⟩

/-- What is said later counts; what is left out changes nothing. -/
def update (old new : ProductionOptions U) : ProductionOptions U where
  token := old.token || new.token
  transparent := old.transparent || new.transparent
  whitespace := new.whitespace <|> old.whitespace
  callback := new.callback <|> old.callback
  sink := new.sink <|> old.sink

end ProductionOptions

structure Declaration (U : Type) where
  name : String
  rule : Option (Rule U)
  options : ProductionOptions U

namespace Declaration

variable {U : Type}

def named (name : String) : Declaration U :=
  ⟨name, none, .none⟩

def setRule (rule : Rule U) (declaration : Declaration U) : Declaration U :=
  { declaration with rule := some rule }

def update (options : ProductionOptions U) (declaration : Declaration U) : Declaration U :=
  { declaration with options := declaration.options.update options }

/-- The production that a declaration describes. The entry always has a node in a tree. -/
def production (entry id : ProductionId) (declaration : Declaration U) :
    Except GrammarError (Production U) :=
  match declaration.rule with
  | none => .error (.undefinedProduction declaration.name)
  | some rule =>
    let options := declaration.options
    .ok {
      profile := ⟨id, declaration.name, options.token, options.transparent && id != entry⟩
      rule
      whitespace := options.whitespace
      callback := options.callback
      sink := options.sink }

end Declaration

/-- A grammar in the making, with the numbers that names have and the mistakes so far, the first
one first. -/
structure GrammarBuilder (U : Type) where
  declarations : Array (Declaration U)
  ids : Std.HashMap String ProductionId
  whitespace : Option (Rule U)
  entry : Option ProductionId
  errors : Array GrammarError

namespace GrammarBuilder

variable {U : Type}

def empty : GrammarBuilder U := ⟨#[], ∅, none, none, #[]⟩

def report (builder : GrammarBuilder U) (error : GrammarError) : GrammarBuilder U :=
  { builder with errors := builder.errors.push error }

def find? (builder : GrammarBuilder U) (name : String) : Option ProductionId :=
  builder.ids[name]?

/-- A new production. A name that is taken is a mistake and means the production that has it. -/
def add (builder : GrammarBuilder U) (declaration : Declaration U) :
    ProductionId × GrammarBuilder U :=
  match builder.find? declaration.name with
  | some id => (id, builder.report (.duplicateProduction declaration.name))
  | none =>
    let id := builder.declarations.size
    (id, { builder with
      declarations := builder.declarations.push declaration
      ids := builder.ids.insert declaration.name id })

def declare (builder : GrammarBuilder U) (name : String) : ProductionId × GrammarBuilder U :=
  builder.add (.named name)

/-- Changes a declaration; there has to be one. -/
def modify (builder : GrammarBuilder U) (id : ProductionId)
    (change : Declaration U → Declaration U) : GrammarBuilder U :=
  if id < builder.declarations.size then
    { builder with declarations := builder.declarations.modify id change }
  else builder.report (.unknownProduction id)

/-- Gives a production its rule, in place of one it may have. -/
def define (builder : GrammarBuilder U) (id : ProductionId) (rule : Rule U) : GrammarBuilder U :=
  builder.modify id (.setRule rule)

def setOptions (builder : GrammarBuilder U) (id : ProductionId) (options : ProductionOptions U) :
    GrammarBuilder U :=
  builder.modify id (.update options)

def defineWith (builder : GrammarBuilder U) (id : ProductionId) (rule : Rule U)
    (options : ProductionOptions U) : GrammarBuilder U :=
  builder.modify id fun declaration => (declaration.setRule rule).update options

def production (builder : GrammarBuilder U) (name : String) (rule : Rule U) :
    ProductionId × GrammarBuilder U :=
  let (id, builder) := builder.declare name
  (id, builder.define id rule)

def setWhitespace (builder : GrammarBuilder U) (rule : Rule U) : GrammarBuilder U :=
  { builder with whitespace := some rule }

def setEntry (builder : GrammarBuilder U) (id : ProductionId) : GrammarBuilder U :=
  { builder with entry := some id }

def chosenEntry (builder : GrammarBuilder U) : Except GrammarError ProductionId :=
  match builder.entry with
  | some id =>
    if id < builder.declarations.size then .ok id else .error (.unknownProduction id)
  | none => if builder.declarations.isEmpty then .error .missingEntry else .ok 0

def productionsFrom (entry first : ProductionId) :
    List (Declaration U) → Except GrammarError (List (Production U))
  | [] => .ok []
  | declaration :: rest => do
    let production ← declaration.production entry first
    return production :: (← productionsFrom entry (first + 1) rest)

/-- The grammar, or the first mistake: one made while declaring, then one about the entry, then
the first production without a rule. -/
def build (builder : GrammarBuilder U) : Except GrammarError (Grammar U) := do
  if let some error := builder.errors[0]? then throw error
  let entry ← builder.chosenEntry
  let productions ← productionsFrom entry 0 builder.declarations.toList
  return ⟨productions.toArray, builder.whitespace, entry⟩

end GrammarBuilder
end Descent
