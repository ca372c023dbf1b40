import Descent.Proofs.Declarations

/-! Which statements make a grammar, and which one. They do when each name is declared once and
before anything else is said of it, when there is an entry, and when all productions have rules;
else the first problem is the answer, and problems of statements come before that of the entry,
which comes before missing rules. -/

namespace Descent

variable {U : Type}

private theorem Grammar.getElem?_names (grammar : Grammar U) (id : ProductionId) :
    grammar.names[id]? = (grammar.production? id).map (·.profile.name) := by
  rw [names, List.getElem?_map, Array.getElem?_toList]
  rfl

/-- Where names are not used twice, the number that a name has is that of its production. -/
theorem Grammar.find?_eq_some_iff {grammar : Grammar U} (once : grammar.names.Nodup)
    {name : String} {id : ProductionId} : grammar.find? name = some id ↔
      ∃ production, grammar.production? id = some production ∧ production.profile.name = name := by
  rw [find?, Array.findIdx?_eq_some_iff_getElem]
  constructor
  · rintro ⟨inside, same, -⟩
    exact ⟨_, Array.getElem?_eq_getElem inside, beq_iff_eq.mp same⟩
  · rintro ⟨production, found, rfl⟩
    obtain ⟨inside, rfl⟩ := Array.getElem?_eq_some_iff.mp found
    refine ⟨inside, beq_self_eq_true _, ?_⟩
    intro earlier before same
    -- Two productions with one name have one number.
    have twice : grammar.names[earlier]? = grammar.names[id]? := by
      rw [getElem?_names, getElem?_names, found, production?,
        Array.getElem?_eq_getElem (Nat.lt_trans before inside)]
      exact congrArg some (beq_iff_eq.mp same)
    have short : earlier < grammar.names.length := by
      rw [names, List.length_map, Array.length_toList]
      exact Nat.lt_trans before inside
    exact Nat.ne_of_lt before ((List.getElem?_inj short once).mp twice)

namespace GrammarBuilder

variable {statements : List (Statement U)} {error : GrammarError}

structure WellFormed (statements : List (Statement U)) : Prop where
  names_once : (namesIn statements).Nodup
  ids_known : ∀ before statement after, statements = before ++ statement :: after →
    ∀ id ∈ statement.target?, id < (namesIn before).length
  some_name : namesIn statements ≠ []
  entry_known : ∀ id ∈ entryIn statements, id < (namesIn statements).length
  rules_given : ∀ id, id < (namesIn statements).length → ruleIn statements id ≠ none

/-- The problem that comes first: a statement that is wrong, then a missing entry, then a
production without a rule. -/
inductive FirstProblem (statements : List (Statement U)) : GrammarError → Prop
  | statement {before : List (Statement U)} {statement : Statement U}
      {after : List (Statement U)} {error : GrammarError}
      (split : statements = before ++ statement :: after) (sound : Sound before)
      (wrong : statement.mistake? before = some error) : FirstProblem statements error
  | unknown_entry {id : ProductionId} (sound : Sound statements)
      (entry : entryIn statements = some id) (unknown : (namesIn statements).length ≤ id) :
      FirstProblem statements (.unknownProduction id)
  | no_entry (sound : Sound statements) (entry : entryIn statements = none)
      (empty : namesIn statements = []) : FirstProblem statements .missingEntry
  | no_rule {id : ProductionId} {name : String} (sound : Sound statements)
      (entry : ∀ id ∈ entryIn statements, id < (namesIn statements).length)
      (named : (namesIn statements)[id]? = some name) (missing : ruleIn statements id = none)
      (earlier : ∀ other, other < id → ruleIn statements other ≠ none) :
      FirstProblem statements (.undefinedProduction name)

/-- The grammar that some statements describe: its productions are those that were declared, in
order, each with the last rule it got and with all its options, and the entry is never
transparent. -/
structure Describes (statements : List (Statement U)) (grammar : Grammar U) : Prop where
  names : grammar.names = namesIn statements
  find : ∀ name id, grammar.find? name = some id ↔
    ∃ production, grammar.production? id = some production ∧ production.profile.name = name
  ids : ∀ {id production}, grammar.production? id = some production → production.profile.id = id
  rules : ∀ {id production}, grammar.production? id = some production →
    ruleIn statements id = some production.rule
  options : ∀ {id production}, grammar.production? id = some production →
    production.profile.isToken = (optionsIn statements id).token ∧
      production.whitespace = (optionsIn statements id).whitespace ∧
      production.callback = (optionsIn statements id).callback ∧
      production.sink = (optionsIn statements id).sink
  transparent : ∀ {id production}, grammar.production? id = some production →
    production.profile.isTransparent =
      ((optionsIn statements id).transparent && id != grammar.entry)
  entry : grammar.entry = (entryIn statements).getD 0
  entry_shows : ∃ production, grammar.production? grammar.entry = some production ∧
    production.profile.isTransparent = false
  whitespace : grammar.whitespace = whitespaceIn statements

section Productions

variable {entry first : ProductionId} {declarations : List (Declaration U)}
  {productions : List (Production U)}

private theorem productionsFrom_cons (declaration : Declaration U) :
    productionsFrom entry first (declaration :: declarations) =
      (declaration.production entry first).bind fun production =>
        (productionsFrom entry (first + 1) declarations).map (production :: ·) :=
  rfl

/-- Every declaration has become its production. -/
theorem productionsFrom_eq_ok (built : productionsFrom entry first declarations = .ok productions)
    (id : Nat) : declarations[id]?.map (·.production entry (first + id)) =
      productions[id]?.map Except.ok := by
  induction declarations generalizing first productions id with
  | nil =>
    cases built
    rfl
  | cons declaration rest ih =>
    rw [productionsFrom_cons] at built
    cases own : declaration.production entry first with
    | error missing => rw [own] at built; cases built
    | ok production =>
      cases others : productionsFrom entry (first + 1) rest with
      | error missing => rw [own, others] at built; cases built
      | ok more =>
        rw [own, others] at built
        cases built
        cases id with
        | zero => exact congrArg some own
        | succ id =>
          have there := ih others id
          rwa [Nat.add_assoc, Nat.add_comm 1] at there

private theorem productionsFrom_of_no_rule {declaration : Declaration U}
    (none : declaration.rule = none) : productionsFrom entry first (declaration :: declarations) =
      .error (.undefinedProduction declaration.name) := by
  rw [productionsFrom_cons, Declaration.production, none]
  rfl

private theorem productionsFrom_of_rule {declaration : Declaration U}
    (some : declaration.rule ≠ none) :
    productionsFrom entry first (declaration :: declarations) = .error error ↔
      productionsFrom entry (first + 1) declarations = .error error := by
  obtain ⟨rule, own⟩ := Option.ne_none_iff_exists'.mp some
  rw [productionsFrom_cons, Declaration.production, own]
  change Except.map _ (productionsFrom entry (first + 1) declarations) = _ ↔ _
  cases productionsFrom entry (first + 1) declarations with
  | error failed => exact Iff.rfl
  | ok more => constructor <;> intro impossible <;> cases impossible

/-- The answer is the first declaration without a rule. -/
theorem productionsFrom_eq_error_iff : productionsFrom entry first declarations = .error error ↔
    ∃ (id : Nat) (declaration : Declaration U), declarations[id]? = some declaration ∧
      declaration.rule = none ∧ error = .undefinedProduction declaration.name ∧
        ∀ other, other < id → ∀ earlier : Declaration U, declarations[other]? = some earlier →
          earlier.rule ≠ none := by
  induction declarations generalizing first with
  | nil =>
    constructor
    · intro failed
      cases failed
    · rintro ⟨id, declaration, found, -⟩
      cases found
  | cons declaration rest ih =>
    by_cases own : declaration.rule = none
    · rw [productionsFrom_of_no_rule own]
      constructor
      · intro failed
        cases failed
        exact ⟨0, declaration, rfl, own, rfl, fun _ before => absurd before (Nat.not_lt_zero _)⟩
      · rintro ⟨id, missed, found, none, rfl, earlier⟩
        cases id with
        | zero =>
          cases found
          rfl
        | succ id => exact absurd own (earlier 0 (Nat.succ_pos id) declaration rfl)
    · rw [productionsFrom_of_rule own, ih]
      constructor
      · rintro ⟨id, missed, found, none, rfl, earlier⟩
        refine ⟨id + 1, missed, found, none, rfl, ?_⟩
        intro other before earlier' found'
        cases other with
        | zero =>
          cases found'
          exact own
        | succ other => exact earlier other (Nat.lt_of_succ_lt_succ before) earlier' found'
      · rintro ⟨id, missed, found, none, rfl, earlier⟩
        cases id with
        | zero =>
          cases found
          exact absurd none own
        | succ id =>
          exact ⟨id, missed, found, none, rfl, fun other before =>
            earlier (other + 1) (Nat.succ_lt_succ before)⟩

end Productions

section Building

theorem build_of_mistake {builder : GrammarBuilder U} (wrong : builder.errors[0]? = some error) :
    builder.build = .error error := by
  rw [build, wrong]
  rfl

private theorem build_of_no_mistake {builder : GrammarBuilder U} (right : builder.errors = #[]) :
    builder.build = builder.chosenEntry.bind fun entry =>
      (productionsFrom entry 0 builder.declarations.toList).map fun productions =>
        ⟨productions.toArray, builder.whitespace, entry⟩ := by
  rw [build, right]
  rfl

variable {builder : GrammarBuilder U}

namespace Reflects

variable (reflects : Reflects statements builder)
include reflects

private theorem chosenEntry_of_known (some_name : namesIn statements ≠ [])
    (known : ∀ id ∈ entryIn statements, id < (namesIn statements).length) :
    builder.chosenEntry = .ok ((entryIn statements).getD 0) := by
  unfold chosenEntry
  rw [reflects.entry]
  cases said : entryIn statements with
  | none =>
    have inside : builder.declarations.isEmpty = false := by
      rw [← Bool.not_eq_true, Array.isEmpty_iff_size_eq_zero, reflects.size]
      exact fun empty => some_name (List.length_eq_zero_iff.mp empty)
    simp [inside]
  | some id =>
    have inside : id < builder.declarations.size := reflects.size ▸ known id said
    simp [inside]

private theorem chosenEntry_of_unknown {id : ProductionId} (entry : entryIn statements = some id)
    (unknown : (namesIn statements).length ≤ id) :
    builder.chosenEntry = .error (.unknownProduction id) := by
  unfold chosenEntry
  rw [reflects.entry, entry]
  exact if_neg (Nat.not_lt.mpr (reflects.size ▸ unknown))

private theorem chosenEntry_of_missing (entry : entryIn statements = none)
    (empty : namesIn statements = []) : builder.chosenEntry = .error .missingEntry := by
  unfold chosenEntry
  rw [reflects.entry, entry]
  apply if_pos
  rw [Array.isEmpty_iff_size_eq_zero, reflects.size, empty]
  rfl

private theorem productionsFrom_eq_error_iff {entry : ProductionId} :
    productionsFrom entry 0 builder.declarations.toList = .error error ↔
      ∃ id name, (namesIn statements)[id]? = some name ∧ ruleIn statements id = none ∧
        error = .undefinedProduction name ∧
          ∀ other, other < id → ruleIn statements other ≠ none := by
  have held (id : Nat) : builder.declarations.toList[id]? =
      (namesIn statements)[id]?.map (describe statements id) := by
    rw [Array.getElem?_toList]
    exact reflects.declarations id
  rw [GrammarBuilder.productionsFrom_eq_error_iff]
  constructor
  · rintro ⟨id, declaration, found, none, rfl, earlier⟩
    rw [held, Option.map_eq_some_iff] at found
    obtain ⟨name, named, rfl⟩ := found
    refine ⟨id, name, named, none, rfl, ?_⟩
    intro other before
    have inside := Nat.lt_trans before (List.getElem?_eq_some_iff.mp named).1
    apply earlier other before (describe statements other _)
    rw [held, List.getElem?_eq_getElem inside, Option.map_some]
  · rintro ⟨id, name, named, none, rfl, earlier⟩
    refine ⟨id, describe statements id name, by rw [held, named, Option.map_some], none, rfl, ?_⟩
    intro other before declaration found
    rw [held, Option.map_eq_some_iff] at found
    obtain ⟨_, -, rfl⟩ := found
    exact earlier other before

/-- The productions are what the statements describe. -/
theorem production_of_productionsFrom {entry : ProductionId} {productions : List (Production U)}
    (built : productionsFrom entry 0 builder.declarations.toList = .ok productions)
    {id : Nat} {production : Production U} (found : productions[id]? = some production) :
    ∃ name rule, (namesIn statements)[id]? = some name ∧ ruleIn statements id = some rule ∧
      production = ⟨⟨id, name, (optionsIn statements id).token,
          (optionsIn statements id).transparent && id != entry⟩, rule,
        (optionsIn statements id).whitespace, (optionsIn statements id).callback,
        (optionsIn statements id).sink⟩ := by
  have made := productionsFrom_eq_ok built id
  rw [found, Array.getElem?_toList, reflects.declarations, Option.map_map, Nat.zero_add] at made
  obtain ⟨name, named, made⟩ := Option.map_eq_some_iff.mp made
  cases given : ruleIn statements id with
  | none => simp [describe, Declaration.production, given] at made
  | some rule =>
    simp only [Function.comp, describe, Declaration.production, given] at made
    exact ⟨name, rule, named, rfl, (Except.ok.inj made).symm⟩

private theorem names_of_productionsFrom {entry : ProductionId} {productions : List (Production U)}
    (built : productionsFrom entry 0 builder.declarations.toList = .ok productions) :
    productions.map (·.profile.name) = namesIn statements := by
  apply List.ext_getElem?
  intro id
  rw [List.getElem?_map]
  cases found : productions[id]? with
  | none =>
    have made := productionsFrom_eq_ok built id
    rw [found, Array.getElem?_toList, reflects.declarations, Option.map_map] at made
    exact (Option.map_eq_none_iff.mp made).symm
  | some production =>
    obtain ⟨name, rule, named, -, rfl⟩ := reflects.production_of_productionsFrom built found
    exact named.symm

private theorem rules_given {entry : ProductionId} {productions : List (Production U)}
    (built : productionsFrom entry 0 builder.declarations.toList = .ok productions) (id : Nat)
    (inside : id < (namesIn statements).length) : ruleIn statements id ≠ none := by
  rw [← reflects.names_of_productionsFrom built, List.length_map] at inside
  obtain ⟨_, rule, -, given, -⟩ :=
    reflects.production_of_productionsFrom built (List.getElem?_eq_getElem inside)
  exact Option.ne_none_iff_exists'.mpr ⟨rule, given⟩

private theorem describes {productions : List (Production U)} (once : (namesIn statements).Nodup)
    (some_name : namesIn statements ≠ [])
    (known : ∀ id ∈ entryIn statements, id < (namesIn statements).length)
    (built : productionsFrom ((entryIn statements).getD 0) 0 builder.declarations.toList =
      .ok productions) :
    Describes statements
      ⟨productions.toArray, builder.whitespace, (entryIn statements).getD 0⟩ := by
  have names := reflects.names_of_productionsFrom built
  have found (id : Nat) : productions.toArray[id]? = productions[id]? := List.getElem?_toArray
  have entry_inside : (entryIn statements).getD 0 < productions.length := by
    rw [← List.length_map, names]
    cases said : entryIn statements with
    | none => exact List.length_pos_iff.mpr some_name
    | some id => exact known id said
  constructor
  case names => exact names
  case find =>
    intro name id
    apply Grammar.find?_eq_some_iff
    exact (congrArg List.Nodup names).mpr once
  case ids =>
    intro id production there
    obtain ⟨_, _, -, -, rfl⟩ :=
      reflects.production_of_productionsFrom built ((found id).symm.trans there)
    rfl
  case rules =>
    intro id production there
    obtain ⟨_, _, -, given, rfl⟩ :=
      reflects.production_of_productionsFrom built ((found id).symm.trans there)
    exact given
  case options =>
    intro id production there
    obtain ⟨_, _, -, -, rfl⟩ :=
      reflects.production_of_productionsFrom built ((found id).symm.trans there)
    exact ⟨rfl, rfl, rfl, rfl⟩
  case transparent =>
    intro id production there
    obtain ⟨_, _, -, -, rfl⟩ :=
      reflects.production_of_productionsFrom built ((found id).symm.trans there)
    rfl
  case entry => rfl
  case entry_shows =>
    have there := List.getElem?_eq_getElem entry_inside
    obtain ⟨_, _, -, -, made⟩ := reflects.production_of_productionsFrom built there
    refine ⟨_, (found _).trans there, ?_⟩
    rw [made]
    simp
  case whitespace => exact reflects.whitespace

end Reflects

end Building

theorem WellFormed.sound (well_formed : WellFormed statements) : Sound statements :=
  sound_iff.mpr ⟨well_formed.names_once, well_formed.ids_known⟩

theorem FirstProblem.build (problem : FirstProblem statements error) :
    (after statements).build = .error error := by
  cases problem with
  | statement split sound wrong =>
    subst split
    exact build_of_mistake (sound.first_mistake wrong _)
  | unknown_entry sound entry unknown =>
    have reflects := sound.reflects
    rw [build_of_no_mistake reflects.errors, reflects.chosenEntry_of_unknown entry unknown]
    rfl
  | no_entry sound entry empty =>
    have reflects := sound.reflects
    rw [build_of_no_mistake reflects.errors, reflects.chosenEntry_of_missing entry empty]
    rfl
  | no_rule sound entry named missing earlier =>
    have reflects := sound.reflects
    have some_name : namesIn statements ≠ [] := List.ne_nil_of_mem (List.mem_of_getElem? named)
    have failed : productionsFrom ((entryIn statements).getD 0) 0
        (after statements).declarations.toList = .error (.undefinedProduction _) :=
      reflects.productionsFrom_eq_error_iff.mpr ⟨_, _, named, missing, rfl, earlier⟩
    rw [build_of_no_mistake reflects.errors, reflects.chosenEntry_of_known some_name entry]
    change Except.map _ (productionsFrom _ 0 (after statements).declarations.toList) = _
    rw [failed]
    rfl

/-- Well-formed statements make the grammar that they describe. -/
theorem WellFormed.build (well_formed : WellFormed statements) :
    ∃ grammar, (after statements).build = .ok grammar ∧ Describes statements grammar := by
  have reflects := well_formed.sound.reflects
  rw [build_of_no_mistake reflects.errors,
    reflects.chosenEntry_of_known well_formed.some_name well_formed.entry_known]
  cases built : productionsFrom ((entryIn statements).getD 0) 0
      (after statements).declarations.toList with
  | error failed =>
    obtain ⟨id, name, named, missing, -⟩ := reflects.productionsFrom_eq_error_iff.mp built
    have inside := (List.getElem?_eq_some_iff.mp named).1
    exact absurd missing (well_formed.rules_given id inside)
  | ok productions =>
    refine ⟨_, congrArg (Except.map _) built, ?_⟩
    exact reflects.describes well_formed.names_once well_formed.some_name well_formed.entry_known
      built

private theorem wellFormed_or_problem (statements : List (Statement U)) :
    WellFormed statements ∨ ∃ error, FirstProblem statements error := by
  by_cases sound : Sound statements
  case neg =>
    obtain ⟨before, statement, rest, error, split, sound, wrong⟩ := exists_first_mistake sound
    exact .inr ⟨error, .statement split sound wrong⟩
  by_cases known : ∀ id ∈ entryIn statements, id < (namesIn statements).length
  case neg =>
    simp only [not_forall, Option.mem_def] at known
    obtain ⟨id, entry, unknown⟩ := known
    exact .inr ⟨_, .unknown_entry sound entry (Nat.le_of_not_lt unknown)⟩
  by_cases empty : namesIn statements = []
  case pos =>
    have entry : entryIn statements = none := by
      apply Option.eq_none_iff_forall_not_mem.mpr
      intro id chosen
      have inside := known id chosen
      rw [empty] at inside
      exact Nat.not_lt_zero id inside
    exact .inr ⟨_, .no_entry sound entry empty⟩
  have reflects := sound.reflects
  cases built : productionsFrom ((entryIn statements).getD 0) 0
      (after statements).declarations.toList with
  | error failed =>
    obtain ⟨id, name, named, missing, -, earlier⟩ := reflects.productionsFrom_eq_error_iff.mp built
    exact .inr ⟨_, .no_rule sound known named missing earlier⟩
  | ok productions =>
    obtain ⟨once, ids_known⟩ := sound_iff.mp sound
    exact .inl ⟨once, ids_known, empty, known, reflects.rules_given built⟩

/-- Statements that make a grammar are well-formed and describe it. -/
theorem wellFormed_of_build {grammar : Grammar U} (built : (after statements).build = .ok grammar) :
    WellFormed statements ∧ Describes statements grammar := by
  obtain well_formed | ⟨error, problem⟩ := wellFormed_or_problem statements
  · obtain ⟨described, same, describes⟩ := well_formed.build
    rw [built] at same
    cases same
    exact ⟨well_formed, describes⟩
  · rw [problem.build] at built
    cases built

/-- The grammar finds a name where the builder has it. -/
theorem find?_of_build {grammar : Grammar U} (built : (after statements).build = .ok grammar)
    (name : String) : grammar.find? name = (after statements).find? name := by
  obtain ⟨well_formed, describes⟩ := wellFormed_of_build built
  apply Option.ext
  intro id
  rw [describes.find, well_formed.sound.reflects.ids, ← describes.names, Grammar.getElem?_names,
    Option.map_eq_some_iff]

/-- Whatever is said, in any order: a grammar is built exactly when the statements are well-formed,
it is the one they describe, with its names where the builder has them, and otherwise the answer is
the first problem. -/
theorem well_formed_statements_build (statements : List (Statement U)) :
    ((∃ grammar, (after statements).build = .ok grammar) ↔ WellFormed statements) ∧
      (∀ grammar, (after statements).build = .ok grammar → Describes statements grammar ∧
        ∀ name, grammar.find? name = (after statements).find? name) ∧
      ∀ error, (after statements).build = .error error ↔ FirstProblem statements error := by
  refine ⟨⟨?_, ?_⟩, ?_, fun error => ⟨?_, FirstProblem.build⟩⟩
  · rintro ⟨grammar, built⟩
    exact (wellFormed_of_build built).1
  · intro well_formed
    obtain ⟨grammar, built, -⟩ := well_formed.build
    exact ⟨grammar, built⟩
  · intro grammar built
    exact ⟨(wellFormed_of_build built).2, find?_of_build built⟩
  · intro failed
    obtain well_formed | ⟨first, problem⟩ := wellFormed_or_problem statements
    · obtain ⟨grammar, built, -⟩ := well_formed.build
      rw [built] at failed
      cases failed
    · rw [problem.build] at failed
      cases failed
      exact problem

-- A name declared twice comes before an entry that is missing, and that before a missing rule.
example : (after [.declare "expr", .entry 2, .declare "expr"] : GrammarBuilder Char).build =
    .error (.duplicateProduction "expr") := by cbv

example : (after [.declare "expr", .entry 2] : GrammarBuilder Char).build =
    .error (.unknownProduction 2) := by cbv

example : (after [.declare "expr", .entry 0] : GrammarBuilder Char).build =
    .error (.undefinedProduction "expr") := by cbv

end GrammarBuilder

end Descent
