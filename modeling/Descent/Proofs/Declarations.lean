import Descent.Proofs.GrammarBuilding
import Mathlib.Data.List.Basic
import Mathlib.Data.List.Induction

/-! What is said about a grammar while it is built, and what the builder makes of it. As long as
nothing is wrong the builder holds what the statements say, each production at the number of its
name; the first statement that is wrong decides the answer. -/

namespace Descent

private theorem ProductionOptions.update_none {U : Type} (options : ProductionOptions U) :
    options.update .none = options := by
  cases options
  simp [update, none]

namespace GrammarBuilder

variable {U : Type}

inductive Statement (U : Type) where
  | declare (name : String)
  /-- A rule, and what else is said along with it, which may be nothing. -/
  | define (id : ProductionId) (rule : Rule U) (given : ProductionOptions U)
  | production (name : String) (rule : Rule U)
  | options (id : ProductionId) (given : ProductionOptions U)
  | whitespace (rule : Rule U)
  | entry (id : ProductionId)

namespace Statement

def apply (builder : GrammarBuilder U) : Statement U → GrammarBuilder U
  | declare name => (builder.declare name).2
  | define id rule given => builder.defineWith id rule given
  | production name rule => (builder.production name rule).2
  | options id given => builder.setOptions id given
  | whitespace rule => builder.setWhitespace rule
  | entry id => builder.setEntry id

def name? : Statement U → Option String
  | declare name => some name
  | production name _ => some name
  | _ => none

/-- The production that has to be declared already. -/
def target? : Statement U → Option ProductionId
  | define id _ _ => some id
  | options id _ => some id
  | _ => none

def rule? (names : List String) (id : ProductionId) : Statement U → Option (Rule U)
  | define target rule _ => if target = id then some rule else none
  | production name rule => if names[id]? = some name then some rule else none
  | _ => none

def options? (id : ProductionId) : Statement U → Option (ProductionOptions U)
  | define target _ given => if target = id then some given else none
  | options target given => if target = id then some given else none
  | _ => none

def whitespace? : Statement U → Option (Rule U)
  | whitespace rule => some rule
  | _ => none

def entry? : Statement U → Option ProductionId
  | entry id => some id
  | _ => none

end Statement

def after (statements : List (Statement U)) : GrammarBuilder U :=
  statements.foldl Statement.apply empty

section Meaning

variable (statements : List (Statement U))

def namesIn : List String :=
  statements.filterMap Statement.name?

def ruleIn (id : ProductionId) : Option (Rule U) :=
  (statements.filterMap (Statement.rule? (namesIn statements) id)).getLast?

/-- All that is said of a production besides its rule. -/
def optionsIn (id : ProductionId) : ProductionOptions U :=
  (statements.filterMap (Statement.options? id)).foldl ProductionOptions.update .none

def whitespaceIn : Option (Rule U) :=
  (statements.filterMap Statement.whitespace?).getLast?

def entryIn : Option ProductionId :=
  (statements.filterMap Statement.entry?).getLast?

def describe (id : ProductionId) (name : String) : Declaration U :=
  ⟨name, ruleIn statements id, optionsIn statements id⟩

/-- What is wrong with a statement after some others: it declares a name again, or speaks of a
production that is not declared yet. -/
def Statement.mistake? (statement : Statement U) : Option GrammarError :=
  match statement with
  | declare name | production name _ =>
    if name ∈ namesIn statements then some (.duplicateProduction name) else none
  | define id _ _ | options id _ =>
    if id < (namesIn statements).length then none else some (.unknownProduction id)
  | whitespace _ | entry _ => none

/-- No statement is wrong after those before it. -/
def Sound : Prop :=
  ∀ before statement after, statements = before ++ statement :: after →
    statement.mistake? before = none

end Meaning

variable {statements : List (Statement U)} {statement : Statement U} {builder : GrammarBuilder U}

section Appended

private theorem after_concat (statements : List (Statement U)) (statement : Statement U) :
    after (statements ++ [statement]) = statement.apply (after statements) := by
  simp [after]

private theorem namesIn_concat (statements : List (Statement U)) (statement : Statement U) :
    namesIn (statements ++ [statement]) = namesIn statements ++ statement.name?.toList := by
  cases said : statement.name? <;> simp [namesIn, said]

private theorem whitespaceIn_concat (statements : List (Statement U)) (statement : Statement U) :
    whitespaceIn (statements ++ [statement]) =
      statement.whitespace?.or (whitespaceIn statements) := by
  cases said : statement.whitespace? <;> simp [whitespaceIn, said]

private theorem entryIn_concat (statements : List (Statement U)) (statement : Statement U) :
    entryIn (statements ++ [statement]) = statement.entry?.or (entryIn statements) := by
  cases said : statement.entry? <;> simp [entryIn, said]

private theorem optionsIn_concat (statements : List (Statement U)) (statement : Statement U)
    (id : ProductionId) : optionsIn (statements ++ [statement]) id =
      (optionsIn statements id).update ((statement.options? id).getD .none) := by
  cases said : statement.options? id <;>
    simp [optionsIn, said, ProductionOptions.update_none]

private theorem getElem?_concat_eq_some_iff {names : List String} {name other : String} {id : Nat} :
    (names ++ [name])[id]? = some other ↔
      names[id]? = some other ∨ id = names.length ∧ name = other := by
  obtain before | rfl | beyond := Nat.lt_trichotomy id names.length
  · rw [List.getElem?_append_left before]
    simp [Nat.ne_of_lt before]
  · simp
  · have none : (names ++ [name])[id]? = none :=
      List.getElem?_eq_none (by rw [List.length_append]; exact beyond)
    simp [none, Nat.le_of_lt beyond, Nat.ne_of_gt beyond]

private theorem mem_namesIn (inside : statement ∈ statements) {name : String}
    (declares : statement.name? = some name) : name ∈ namesIn statements :=
  List.mem_filterMap.mpr ⟨statement, inside, declares⟩

/-- A new name is not the one of a production that has got its rule. -/
theorem rule?_concat {fresh : String} (new : fresh ∉ namesIn statements) (id : ProductionId)
    (inside : statement ∈ statements) :
    statement.rule? (namesIn statements ++ [fresh]) id =
      statement.rule? (namesIn statements) id := by
  cases statement with
  | production name rule =>
    have old := mem_namesIn inside rfl
    have other : fresh ≠ name := fun same => new (same ▸ old)
    simp only [Statement.rule?, getElem?_concat_eq_some_iff, other, and_false, or_false]
  | _ => rfl

private theorem ruleIn_concat (fresh : ∀ name ∈ statement.name?, name ∉ namesIn statements)
    (id : ProductionId) : ruleIn (statements ++ [statement]) id =
      (statement.rule? (namesIn (statements ++ [statement])) id).or (ruleIn statements id) := by
  have same : statements.filterMap (Statement.rule? (namesIn (statements ++ [statement])) id) =
      statements.filterMap (Statement.rule? (namesIn statements) id) := by
    apply List.filterMap_congr
    intro other inside
    rw [namesIn_concat]
    cases said : statement.name? with
    | none => rw [Option.toList_none, List.append_nil]
    | some name => exact rule?_concat (fresh name said) id inside
  unfold ruleIn
  rw [List.filterMap_append, same, List.getLast?_append]
  cases said : statement.rule? (namesIn (statements ++ [statement])) id <;> simp [said]

private theorem describe_concat (fresh : ∀ name ∈ statement.name?, name ∉ namesIn statements)
    (id : ProductionId) (name : String) : describe (statements ++ [statement]) id name =
      ⟨name, (statement.rule? (namesIn (statements ++ [statement])) id).or (ruleIn statements id),
        (optionsIn statements id).update ((statement.options? id).getD .none)⟩ := by
  rw [describe, ruleIn_concat fresh, optionsIn_concat]

/-- A statement that gives neither a rule nor options leaves the productions as they are. -/
theorem describe_concat_of_none (fresh : ∀ name ∈ statement.name?, name ∉ namesIn statements)
    (no_rule : ∀ names id, statement.rule? names id = none)
    (no_options : ∀ id, statement.options? id = none) :
    describe (statements ++ [statement]) = describe statements := by
  funext id name
  rw [describe_concat fresh, no_rule, no_options, Option.getD_none, ProductionOptions.update_none]
  rfl

end Appended

section Soundness

private theorem sound_nil : Sound ([] : List (Statement U)) := by
  intro before statement after split
  cases (List.nil_eq_append_iff.mp split).2

private theorem sound_concat_iff : Sound (statements ++ [statement]) ↔
    Sound statements ∧ statement.mistake? statements = none := by
  constructor
  · intro sound
    refine ⟨?_, sound statements statement [] rfl⟩
    rintro before other after rfl
    exact sound before other (after ++ [statement]) (by simp)
  · rintro ⟨sound, right⟩ before other after split
    cases after using List.reverseRecOn with
    | nil =>
      obtain ⟨rfl, same⟩ := List.append_inj' split rfl
      cases same
      exact right
    | append_singleton after last =>
      rw [← List.cons_append, ← List.append_assoc] at split
      exact sound before other after (List.append_inj' split rfl).1

private theorem mistake?_eq_none_iff : statement.mistake? statements = none ↔
    (∀ name ∈ statement.name?, name ∉ namesIn statements) ∧
      ∀ id ∈ statement.target?, id < (namesIn statements).length := by
  cases statement <;> simp [Statement.mistake?, Statement.name?, Statement.target?]

/-- No name is declared twice when each is new where it is declared. -/
theorem nodup_namesIn_iff : (namesIn statements).Nodup ↔
    ∀ before statement after, statements = before ++ statement :: after →
      ∀ name ∈ statement.name?, name ∉ namesIn before := by
  constructor
  · rintro once before statement after rfl name declares old
    rw [namesIn, List.filterMap_append, List.nodup_append] at once
    exact once.2.2 name old name (mem_namesIn List.mem_cons_self declares) rfl
  · intro fresh
    induction statements using List.reverseRecOn with
    | nil => exact List.nodup_nil
    | append_singleton statements statement ih =>
      have once := ih fun before other after split =>
        fresh before other (after ++ [statement]) (by rw [split, List.append_assoc]; rfl)
      rw [namesIn_concat, List.nodup_append]
      refine ⟨once, by cases statement.name? <;> simp, ?_⟩
      rintro old inside name declares rfl
      exact fresh statements statement [] rfl old (Option.mem_toList.mp declares) inside

/-- Nothing is wrong when no name is declared twice and every production that is spoken of was
declared before. -/
theorem sound_iff : Sound statements ↔ (namesIn statements).Nodup ∧
    ∀ before statement after, statements = before ++ statement :: after →
      ∀ id ∈ statement.target?, id < (namesIn before).length := by
  rw [nodup_namesIn_iff]
  simp only [Sound, mistake?_eq_none_iff]
  exact ⟨fun sound => ⟨fun before statement after split => (sound _ _ _ split).1,
    fun before statement after split => (sound _ _ _ split).2⟩,
    fun ⟨fresh, known⟩ before statement after split => ⟨fresh _ _ _ split, known _ _ _ split⟩⟩

/-- A production that is spoken of is declared. -/
theorem Sound.target_lt (sound : Sound statements) (inside : statement ∈ statements)
    {id : ProductionId} (target : statement.target? = some id) :
    id < (namesIn statements).length := by
  obtain ⟨before, after, rfl⟩ := List.append_of_mem inside
  have known := (sound_iff.mp sound).2 before statement after rfl id target
  rw [namesIn, List.filterMap_append, List.length_append]
  exact Nat.lt_add_right _ known

/-- Nothing is said of a production that is not declared. -/
theorem Sound.nothing_said (sound : Sound statements) {id : ProductionId}
    (unknown : (namesIn statements).length ≤ id) :
    ruleIn statements id = none ∧ optionsIn statements id = .none := by
  have elsewhere : ∀ statement ∈ statements, statement.target? ≠ some id :=
    fun _ inside target => Nat.not_lt.mpr unknown (sound.target_lt inside target)
  constructor
  · have none : statements.filterMap (Statement.rule? (namesIn statements) id) = [] := by
      apply List.filterMap_eq_nil_iff.mpr
      intro statement inside
      have other := elsewhere statement inside
      cases statement <;>
        simp_all [Statement.rule?, Statement.target?]
    rw [ruleIn, none, List.getLast?_nil]
  · have none : statements.filterMap (Statement.options? id) = [] := by
      apply List.filterMap_eq_nil_iff.mpr
      intro statement inside
      have other := elsewhere statement inside
      cases statement <;> simp_all [Statement.options?, Statement.target?]
    rw [optionsIn, none, List.foldl_nil]

end Soundness

/-- A builder that holds what some statements say. -/
structure Reflects (statements : List (Statement U)) (builder : GrammarBuilder U) : Prop where
  errors : builder.errors = #[]
  declarations : ∀ id, builder.declarations[id]? =
    (namesIn statements)[id]?.map (describe statements id)
  ids : ∀ name id, builder.find? name = some id ↔ (namesIn statements)[id]? = some name
  whitespace : builder.whitespace = whitespaceIn statements
  entry : builder.entry = entryIn statements

namespace Reflects

theorem size (reflects : Reflects statements builder) :
    builder.declarations.size = (namesIn statements).length := by
  apply Nat.le_antisymm
  · apply Array.getElem?_eq_none_iff.mp
    rw [reflects.declarations, List.getElem?_eq_none (Nat.le_refl _), Option.map_none]
  · apply List.getElem?_eq_none_iff.mp
    apply Option.map_eq_none_iff.mp
    rw [← reflects.declarations, Array.getElem?_eq_none (Nat.le_refl _)]

theorem find?_eq_none_iff (reflects : Reflects statements builder) {name : String} :
    builder.find? name = none ↔ name ∉ namesIn statements := by
  rw [Option.eq_none_iff_forall_ne_some, List.mem_iff_getElem?, not_exists]
  exact forall_congr' fun id => not_congr (reflects.ids name id)

end Reflects

private theorem reflects_empty : Reflects ([] : List (Statement U)) empty where
  errors := rfl
  declarations _ := rfl
  ids name id := by simp [find?, empty, namesIn]
  whitespace := rfl
  entry := rfl

section Changes

variable {declarations : Array (Declaration U)} {names : List String}
  {first next : ProductionId → String → Declaration U}

private theorem getElem?_push_named (held : ∀ id, declarations[id]? = names[id]?.map (first id))
    (same : ∀ id, id < names.length → next id = first id) (size : declarations.size = names.length)
    (name : String) (id : ProductionId) :
    (declarations.push (next names.length name))[id]? = (names ++ [name])[id]?.map (next id) := by
  rw [Array.getElem?_push, size]
  by_cases new : id = names.length
  · rw [if_pos new, new, List.getElem?_concat_length, Option.map_some]
  rw [if_neg new, held]
  by_cases old : id < names.length
  · rw [List.getElem?_append_left old, same id old]
  · have beyond : names[id]? = none := List.getElem?_eq_none (Nat.le_of_not_lt old)
    have beyond' : (names ++ [name])[id]? = none := by
      apply List.getElem?_eq_none
      rw [List.length_append]
      exact Nat.lt_of_le_of_ne (Nat.le_of_not_lt old) (Ne.symm new)
    rw [beyond, beyond', Option.map_none, Option.map_none]

private theorem getElem?_modify_named {id : ProductionId} {change : Declaration U → Declaration U}
    (held : ∀ id, declarations[id]? = names[id]?.map (first id))
    (same : ∀ other, other ≠ id → next other = first other)
    (changed : ∀ name, next id name = change (first id name)) (other : ProductionId) :
    (declarations.modify id change)[other]? = names[other]?.map (next other) := by
  rw [Array.getElem?_modify, held]
  by_cases here : id = other
  · subst here
    rw [if_pos rfl, Option.map_map]
    exact congrArg (names[id]?.map ·) (funext fun name => (changed name).symm)
  · rw [if_neg here, same other (Ne.symm here)]

end Changes

theorem Reflects.add {declaration : Declaration U} {statements more : List (Statement U)}
    (reflects : Reflects statements builder) (fresh : declaration.name ∉ namesIn statements)
    (names : namesIn more = namesIn statements ++ [declaration.name])
    (same : ∀ id, id < (namesIn statements).length → describe more id = describe statements id)
    (described : describe more (namesIn statements).length declaration.name = declaration)
    (whitespace : whitespaceIn more = whitespaceIn statements)
    (entry : entryIn more = entryIn statements) : Reflects more (builder.add declaration).2 := by
  have size := reflects.size
  have unknown := reflects.find?_eq_none_iff.mpr fresh
  simp only [GrammarBuilder.add, unknown]
  refine ⟨reflects.errors, ?_, ?_, whitespace ▸ reflects.whitespace, entry ▸ reflects.entry⟩
  · intro id
    rw [names]
    have held := getElem?_push_named reflects.declarations same size declaration.name id
    rwa [described] at held
  · intro name id
    rw [names, getElem?_concat_eq_some_iff, ← reflects.ids, ← size]
    simp only [find?, Std.HashMap.getElem?_insert, beq_iff_eq]
    by_cases own : declaration.name = name
    · subst own
      have none : builder.ids[declaration.name]? = none := unknown
      simp [none, eq_comm]
    · simp [own]

theorem Reflects.modify {id : ProductionId} {change : Declaration U → Declaration U}
    {statements more : List (Statement U)} (reflects : Reflects statements builder)
    (known : id < (namesIn statements).length) (names : namesIn more = namesIn statements)
    (same : ∀ other, other ≠ id → describe more other = describe statements other)
    (changed : ∀ name, describe more id name = change (describe statements id name))
    (whitespace : whitespaceIn more = whitespaceIn statements)
    (entry : entryIn more = entryIn statements) : Reflects more (builder.modify id change) := by
  rw [GrammarBuilder.modify, if_pos (reflects.size ▸ known)]
  refine ⟨reflects.errors, ?_, ?_, whitespace ▸ reflects.whitespace, entry ▸ reflects.entry⟩
  · rw [names]
    exact getElem?_modify_named reflects.declarations same changed
  · rw [names]
    exact reflects.ids

theorem production_of_fresh {name : String} (fresh : builder.find? name = none) (rule : Rule U) :
    (builder.production name rule).2 = (builder.add ⟨name, some rule, .none⟩).2 := by
  have set : (builder.declarations.push (.named name)).modify builder.declarations.size
      (.setRule rule) = builder.declarations.push ⟨name, some rule, .none⟩ := by
    apply Array.ext_getElem?
    intro id
    rw [Array.getElem?_modify, Array.getElem?_push, Array.getElem?_push]
    by_cases own : id = builder.declarations.size
    · rw [if_pos own.symm, if_pos own, if_pos own]
      rfl
    · rw [if_neg (Ne.symm own), if_neg own, if_neg own]
  have inside : builder.declarations.size < (builder.declarations.push (.named name)).size := by
    rw [Array.size_push]
    exact Nat.lt_succ_self _
  have named : (Declaration.named name : Declaration U).name = name := rfl
  simp only [production, declare, GrammarBuilder.add, named, fresh, define, GrammarBuilder.modify,
    if_pos inside, set]

theorem Reflects.unnamed {next : GrammarBuilder U} (reflects : Reflects statements builder)
    (errors : next.errors = builder.errors)
    (declarations : next.declarations = builder.declarations)
    (ids : next.ids = builder.ids) (names : statement.name? = none)
    (same : describe (statements ++ [statement]) = describe statements)
    (whitespace : next.whitespace = statement.whitespace?.or builder.whitespace)
    (entry : next.entry = statement.entry?.or builder.entry) :
    Reflects (statements ++ [statement]) next where
  errors := errors.trans reflects.errors
  declarations id := by
    rw [declarations, namesIn_concat, names, Option.toList_none, List.append_nil, same]
    exact reflects.declarations id
  ids name id := by
    rw [find?, ids, namesIn_concat, names, Option.toList_none, List.append_nil]
    exact reflects.ids name id
  whitespace := by rw [whitespace, whitespaceIn_concat, reflects.whitespace]
  entry := by rw [entry, entryIn_concat, reflects.entry]

/-- A statement that is not wrong is taken up by the builder. -/
theorem Reflects.apply (reflects : Reflects statements builder) (sound : Sound statements)
    (right : statement.mistake? statements = none) :
    Reflects (statements ++ [statement]) (statement.apply builder) := by
  obtain ⟨fresh, known⟩ := mistake?_eq_none_iff.mp right
  have names := namesIn_concat statements statement
  have whitespace := whitespaceIn_concat statements statement
  have entry := entryIn_concat statements statement
  obtain ⟨no_rule, no_options⟩ := sound.nothing_said (Nat.le_refl _)
  cases statement with
  | declare name =>
    have same := describe_concat_of_none fresh (fun _ _ => rfl) (fun _ => rfl)
    apply reflects.add (fresh name rfl) names (fun id _ => congrFun same id) _ whitespace entry
    rw [same, describe, no_rule, no_options]
    rfl
  | define id rule given =>
    apply reflects.modify (known id rfl) (names.trans (List.append_nil _)) _ _ whitespace entry
    · intro other elsewhere
      funext name
      rw [describe_concat fresh]
      simp [Statement.rule?, Statement.options?, Ne.symm elsewhere, describe,
        ProductionOptions.update_none]
    · intro name
      rw [describe_concat fresh]
      simp [Statement.rule?, Statement.options?, describe, Declaration.update, Declaration.setRule]
  | production name rule =>
    have new := fresh name rfl
    rw [Statement.apply, production_of_fresh (reflects.find?_eq_none_iff.mpr new)]
    apply reflects.add new names _ _ whitespace entry
    · intro id before
      funext other
      have elsewhere : (namesIn statements)[id]? ≠ some name :=
        fun same => new (List.mem_of_getElem? same)
      rw [describe_concat fresh, names]
      simp [Statement.rule?, Statement.options?, Statement.name?, getElem?_concat_eq_some_iff,
        elsewhere, Nat.ne_of_lt before, describe, ProductionOptions.update_none]
    · rw [describe_concat fresh, names]
      simp [Statement.rule?, Statement.options?, Statement.name?, no_options,
        ProductionOptions.update_none]
  | options id given =>
    apply reflects.modify (known id rfl) (names.trans (List.append_nil _)) _ _ whitespace entry
    · intro other elsewhere
      funext name
      rw [describe_concat fresh]
      simp [Statement.rule?, Statement.options?, Ne.symm elsewhere, describe,
        ProductionOptions.update_none]
    · intro name
      rw [describe_concat fresh]
      simp [Statement.rule?, Statement.options?, describe, Declaration.update]
  | whitespace rule =>
    have same := describe_concat_of_none fresh (fun _ _ => rfl) (fun _ => rfl)
    exact reflects.unnamed rfl rfl rfl rfl same rfl rfl
  | entry id =>
    have same := describe_concat_of_none fresh (fun _ _ => rfl) (fun _ => rfl)
    exact reflects.unnamed rfl rfl rfl rfl same rfl rfl

/-- While nothing is wrong, the builder holds what was said. -/
theorem Sound.reflects (sound : Sound statements) : Reflects statements (after statements) := by
  induction statements using List.reverseRecOn with
  | nil => exact reflects_empty
  | append_singleton statements statement ih =>
    obtain ⟨sound, right⟩ := sound_concat_iff.mp sound
    rw [after_concat]
    exact (ih sound).apply sound right

section Mistakes

variable {error : GrammarError}

private theorem errors_report_of_none (right : builder.errors = #[]) (error : GrammarError) :
    (builder.report error).errors[0]? = some error := by
  rw [report, right]
  rfl

private theorem errors_report (wrong : builder.errors[0]? = some error) (other : GrammarError) :
    (builder.report other).errors[0]? = some error := by
  obtain ⟨inside, -⟩ := Array.getElem?_eq_some_iff.mp wrong
  rw [report, Array.getElem?_push, if_neg (Nat.ne_of_lt inside), wrong]

private theorem errors_add (wrong : builder.errors[0]? = some error) (declaration : Declaration U) :
    (builder.add declaration).2.errors[0]? = some error := by
  unfold GrammarBuilder.add
  split
  · exact errors_report wrong _
  · exact wrong

private theorem errors_modify (wrong : builder.errors[0]? = some error) (id : ProductionId)
    (change : Declaration U → Declaration U) :
    (builder.modify id change).errors[0]? = some error := by
  unfold GrammarBuilder.modify
  split
  · exact wrong
  · exact errors_report wrong _

/-- The first mistake stays the first one. -/
theorem errors_apply (wrong : builder.errors[0]? = some error) (statement : Statement U) :
    (statement.apply builder).errors[0]? = some error := by
  cases statement with
  | declare name => exact errors_add wrong _
  | define id rule given => exact errors_modify wrong id _
  | production name rule => exact errors_modify (errors_add wrong _) _ _
  | options id given => exact errors_modify wrong id _
  | whitespace rule => exact wrong
  | entry id => exact wrong

theorem Reflects.declared_again {declaration : Declaration U}
    (reflects : Reflects statements builder) (old : declaration.name ∈ namesIn statements) :
    (builder.add declaration).2.errors[0]? = some (.duplicateProduction declaration.name) := by
  unfold GrammarBuilder.add
  split
  · exact errors_report_of_none reflects.errors _
  · rename_i missing
    exact absurd old (reflects.find?_eq_none_iff.mp missing)

theorem Reflects.unknown {id : ProductionId} (reflects : Reflects statements builder)
    (unknown : ¬id < (namesIn statements).length) (change : Declaration U → Declaration U) :
    (builder.modify id change).errors[0]? = some (.unknownProduction id) := by
  rw [GrammarBuilder.modify, if_neg (reflects.size ▸ unknown)]
  exact errors_report_of_none reflects.errors _

/-- A statement that is wrong is the first mistake if there was none. -/
theorem Reflects.mistake (reflects : Reflects statements builder)
    (wrong : statement.mistake? statements = some error) :
    (statement.apply builder).errors[0]? = some error := by
  cases statement with
  | declare name =>
    obtain ⟨old, ⟨⟩⟩ := Option.ite_none_right_eq_some.mp wrong
    exact reflects.declared_again old
  | define id rule given =>
    obtain ⟨unknown, ⟨⟩⟩ := Option.ite_none_left_eq_some.mp wrong
    exact reflects.unknown unknown _
  | production name rule =>
    obtain ⟨old, ⟨⟩⟩ := Option.ite_none_right_eq_some.mp wrong
    exact errors_modify (reflects.declared_again old) _ _
  | options id given =>
    obtain ⟨unknown, ⟨⟩⟩ := Option.ite_none_left_eq_some.mp wrong
    exact reflects.unknown unknown _
  | whitespace rule => cases wrong
  | entry id => cases wrong

/-- The first statement that is wrong is the mistake the builder answers with. -/
theorem Sound.first_mistake {before : List (Statement U)} (sound : Sound before)
    (wrong : statement.mistake? before = some error) (rest : List (Statement U)) :
    (after (before ++ statement :: rest)).errors[0]? = some error := by
  induction rest using List.reverseRecOn with
  | nil =>
    rw [after_concat]
    exact sound.reflects.mistake wrong
  | append_singleton rest last ih =>
    rw [← List.cons_append, ← List.append_assoc, after_concat]
    exact errors_apply ih last

/-- If something is wrong, there is a first statement that is. -/
theorem exists_first_mistake (unsound : ¬Sound statements) :
    ∃ before statement rest error, statements = before ++ statement :: rest ∧ Sound before ∧
      statement.mistake? before = some error := by
  induction statements using List.reverseRecOn with
  | nil => exact absurd sound_nil unsound
  | append_singleton statements last ih =>
    by_cases sound : Sound statements
    · cases wrong : last.mistake? statements with
      | none => exact absurd (sound_concat_iff.mpr ⟨sound, wrong⟩) unsound
      | some error => exact ⟨statements, last, [], error, rfl, sound, wrong⟩
    · obtain ⟨before, statement, rest, error, rfl, sound, wrong⟩ := ih sound
      exact ⟨before, statement, rest ++ [last], error, by simp, sound, wrong⟩

end Mistakes

end GrammarBuilder

end Descent
