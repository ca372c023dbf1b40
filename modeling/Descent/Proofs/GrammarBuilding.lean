import Descent.Grammar.Builder

/-! Grammars that were built without a mistake. -/

namespace Descent

namespace GrammarBuilder

variable {U : Type} {builder : GrammarBuilder U}

private theorem productionsFrom_length {entry first : ProductionId}
    {declarations : List (Declaration U)} {productions : List (Production U)}
    (built : productionsFrom entry first declarations = .ok productions) :
    productions.length = declarations.length := by
  induction declarations generalizing first productions with
  | nil => cases built; rfl
  | cons declaration rest ih =>
    simp only [productionsFrom] at built
    cases own : declaration.production entry first with
    | error mistake => rw [own] at built; cases built
    | ok production =>
      cases others : productionsFrom entry (first + 1) rest with
      | error mistake => rw [own, others] at built; cases built
      | ok more =>
        rw [own, others] at built
        cases built
        exact congrArg Nat.succ (ih others)

private theorem chosenEntry_lt {entry : ProductionId} (chosen : builder.chosenEntry = .ok entry) :
    entry < builder.declarations.size := by
  unfold chosenEntry at chosen
  split at chosen
  · split at chosen
    · cases chosen; assumption
    · cases chosen
  · split at chosen <;> rename_i none
    · cases chosen
    · cases chosen
      exact Nat.pos_of_ne_zero fun empty => none (by simp [Array.isEmpty, empty])

/-- A grammar that was built has its entry. -/
theorem production?_entry {grammar : Grammar U} (built : builder.build = .ok grammar) :
    ∃ production, grammar.production? grammar.entry = some production := by
  unfold build at built
  cases mistake : builder.errors[0]? with
  | some error => rw [mistake] at built; cases built
  | none =>
    rw [mistake] at built
    cases chosen : builder.chosenEntry with
    | error missing => rw [chosen] at built; cases built
    | ok entry =>
      rw [chosen] at built
      change (productionsFrom entry 0 builder.declarations.toList).bind _ = _ at built
      cases productions : productionsFrom entry 0 builder.declarations.toList with
      | error undefined => rw [productions] at built; cases built
      | ok all =>
        rw [productions] at built
        cases built
        have length := productionsFrom_length productions
        have less := chosenEntry_lt chosen
        rw [Array.length_toList] at length
        exact ⟨_, Array.getElem?_eq_getElem (by simpa [length] using less)⟩

theorem build_production (name : String) (rule : Rule U) :
    (empty.production name rule).2.build =
      .ok ⟨#[⟨⟨0, name, false, false⟩, rule, none, none, none⟩], none, 0⟩ := by
  simp [production, declare, add, find?, empty, Declaration.named, define, modify, build,
    chosenEntry, productionsFrom, Declaration.production, Declaration.setRule,
    ProductionOptions.none]
  rfl

end GrammarBuilder

end Descent
