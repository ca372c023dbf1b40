import Descent.Proofs.OutcomeLogic

/-! Lists that go on after malformed items. What the rules of a list do at each field decides what
the list does with all of them: well-formed fields become its items, in order, and malformed ones
are passed over. -/

namespace Descent.Runner

open Descent.Parser

variable {F U σ : Type}

/-- Where a run can be among the fields of a list: the fields that it has dealt with are told from
those that are still to come. -/
structure Landmarks (F U σ : Type) where
  /-- Before the first of the fields to come, or at the end of a list without fields. -/
  start (done rest : List F) (state : State U σ) : Prop
  /-- Where a field was found to be malformed. -/
  failed (done : List F) (field : F) (rest : List F) (state : State U σ) : Prop
  /-- After a field. -/
  stop (done rest : List F) (state : State U σ) : Prop
  closed (done : List F) (state : State U σ) : Prop

/-- At each landmark, the rules of a list do what there is to do there. A field has values unless
it is malformed. -/
structure Landmarks.Reads (marks : Landmarks F U σ) (run : Runner U σ)
    (environment : Environment U σ) (list : TerminatedList U) (separator : Separator (Rule U))
    (values : F → Option (List Value)) : Prop where
  separated : list.separator = some separator
  empty {state : State U σ} (here : marks.start [] [] state) :
    (run.attempt list.terminator).Gives environment state fun attempt closing after =>
      attempt = .accepted ∧ closing = [] ∧ marks.closed [] after
  more {done rest : List F} {field : F} {state : State U σ}
    (here : marks.start done (field :: rest) state) :
    (run.attempt list.terminator).Gives environment state fun attempt _ after =>
      attempt = .backtracked ∧ marks.start done (field :: rest) after
  reads {done rest : List F} {field : F} {produced : List Value} {state : State U σ}
    (here : marks.start done (field :: rest) state) (good : values field = some produced) :
    (run.parse list.item).Gives environment state fun parsed more after =>
      parsed = true ∧ more = produced ∧ marks.stop (done ++ [field]) rest after
  fails {done rest : List F} {field : F} {state : State U σ}
    (here : marks.start done (field :: rest) state) (malformed : values field = none) :
    (run.parse list.item).Gives environment state fun parsed _ after =>
      parsed = false ∧ marks.failed done field rest after
  recovers {done rest : List F} {field : F} {state : State U σ}
    (here : marks.failed done field rest state) :
    (run.recoverList list).Gives environment state fun phase more after =>
      phase = some (if rest.isEmpty then .terminator else .separator) ∧ more = [] ∧
        marks.stop (done ++ [field]) rest after
  next {done rest : List F} {field : F} {state : State U σ}
    (here : marks.stop done (field :: rest) state) :
    (run.attempt list.terminator).Gives environment state fun attempt _ after =>
      attempt = .backtracked ∧ marks.stop done (field :: rest) after
  separates {done rest : List F} {field : F} {state : State U σ}
    (here : marks.stop done (field :: rest) state) :
    (run.parse separator.rule).Gives environment state fun parsed _ after =>
      parsed = true ∧ marks.start done (field :: rest) after
  last {done : List F} {state : State U σ} (here : marks.stop done [] state) :
    (run.attempt list.terminator).Gives environment state fun attempt closing after =>
      attempt = .accepted ∧ closing = [] ∧ marks.closed done after

variable {marks : Landmarks F U σ} {run : Runner U σ} {environment : Environment U σ}
  {list : TerminatedList U} {separator : Separator (Rule U)} {values : F → Option (List Value)}

/-- What is known after one step of a list: what it goes on with, and where it is. -/
def Steps (run : Runner U σ) (list : TerminatedList U) (environment : Environment U σ)
    (state : State U σ) (phase : ListPhase) (items : List (List Value)) (next : ListPhase)
    (more : List (List Value)) (there : State U σ → Prop) : Prop :=
  (run.listStep list phase items).Gives environment state fun answer values after =>
    answer = .again (next, more) ∧ values = [] ∧ there after

/-- A list has come to its terminator with these items, and all fields are dealt with. -/
def Landmarks.Ended (marks : Landmarks F U σ) (fields : List F) (items : List (List Value))
    (result : Option (List (List Value) × List Value)) (values : List Value) (after : State U σ) :
    Prop :=
  result = some (items, []) ∧ values = [] ∧ marks.closed fields after

def listRounds (run : Runner U σ) (list : TerminatedList U) (rounds : Nat) (phase : ListPhase)
    (items : List (List Value)) : Parser U σ (Option (List (List Value) × List Value)) :=
  iterate (fun (phase, items) => run.listStep list phase items) rounds (phase, items)

theorem Steps.gives {state : State U σ} {phase next : ListPhase} {items more : List (List Value)}
    {rounds : Nat} {there : State U σ → Prop}
    {post : Option (List (List Value) × List Value) → List Value → State U σ → Prop}
    (steps : run.Steps list environment state phase items next more there)
    (goes_on : ∀ after, there after →
      (run.listRounds list rounds next more).Gives environment after post) :
    (run.listRounds list (rounds + 1) phase items).Gives environment state post := by
  rw [listRounds, gives_iterate_succ]
  refine steps.mono ?_
  rintro _ _ after ⟨rfl, rfl, here⟩
  exact goes_on after here

theorem gives_closing {fields : List F} {items : List (List Value)} {rounds : Nat}
    {state : State U σ}
    (here : (run.attempt list.terminator).Gives environment state fun attempt closing after =>
      attempt = .accepted ∧ closing = [] ∧ marks.closed fields after) :
    (run.listRounds list (rounds + 1) .terminator items).Gives environment state
      (marks.Ended fields items) := by
  rw [listRounds, gives_iterate_succ]
  simp only [listStep, gives_bind, gives_collect]
  refine here.mono ?_
  rintro _ _ after ⟨rfl, rfl, closed⟩
  exact (gives_pure ..).mpr ⟨rfl, rfl, closed⟩

namespace Landmarks.Reads

variable (reads : marks.Reads run environment list separator values) {done rest : List F}
  {field : F} {items : List (List Value)} {state : State U σ}
include reads

private theorem steps_first (here : marks.start done (field :: rest) state) :
    run.Steps list environment state .terminator [] .item []
      (marks.start done (field :: rest)) := by
  simp only [Steps, listStep, gives_bind, gives_collect]
  refine (reads.more here).mono ?_
  rintro _ _ after ⟨rfl, start⟩
  rw [List.isEmpty_nil, Bool.not_true, Bool.and_false]
  exact (gives_pure ..).mpr ⟨rfl, rfl, start⟩

/-- After an item, a separator is looked for where there is no terminator. -/
theorem steps_terminator (some_items : items ≠ []) (here : marks.stop done (field :: rest) state) :
    run.Steps list environment state .terminator items .separator items
      (marks.stop done (field :: rest)) := by
  have next : (list.separator.isSome && !items.isEmpty) = true := by
    simpa [reads.separated] using some_items
  simp only [Steps, listStep, gives_bind, gives_collect]
  refine (reads.next here).mono ?_
  rintro _ _ after ⟨rfl, stop⟩
  rw [if_pos next]
  exact (gives_pure ..).mpr ⟨rfl, rfl, stop⟩

private theorem steps_separator (here : marks.stop done (field :: rest) state) :
    (run.listStep list .separator items).Gives environment state fun answer values after =>
      (∃ span, answer = .again (.afterSeparator span, items)) ∧ values = [] ∧
        marks.start done (field :: rest) after := by
  simp only [listStep, reads.separated, gives_bind, gives_cursor, gives_quietly]
  refine (reads.separates here).mono ?_
  rintro _ _ after ⟨rfl, start⟩
  simp only [if_true, gives_bind, gives_cursor, gives_pure]
  exact ⟨⟨_, rfl⟩, rfl, start⟩

private theorem steps_afterSeparator (span : Span) (here : marks.start done (field :: rest) state) :
    run.Steps list environment state (.afterSeparator span) items .item items
      (marks.start done (field :: rest)) := by
  simp only [Steps, listStep, gives_bind, gives_collect]
  refine (reads.more here).mono ?_
  rintro _ _ after ⟨rfl, start⟩
  exact (gives_pure ..).mpr ⟨rfl, rfl, start⟩

private theorem steps_item {produced : List Value} (good : values field = some produced)
    (here : marks.start done (field :: rest) state) :
    run.Steps list environment state .item items .terminator (items ++ [produced])
      (marks.stop (done ++ [field]) rest) := by
  simp only [Steps, listStep, gives_bind, gives_collect]
  refine (reads.reads here good).mono ?_
  rintro _ _ after ⟨rfl, rfl, stop⟩
  exact (gives_pure ..).mpr ⟨rfl, rfl, stop⟩

private theorem steps_malformed (malformed : values field = none)
    (here : marks.start done (field :: rest) state) :
    run.Steps list environment state .item items .recovery items
      (marks.failed done field rest) := by
  simp only [Steps, listStep, gives_bind, gives_collect]
  refine (reads.fails here malformed).mono ?_
  rintro _ _ after ⟨rfl, failed⟩
  exact (gives_pure ..).mpr ⟨rfl, rfl, failed⟩

private theorem steps_recovery (here : marks.failed done field rest state) :
    run.Steps list environment state .recovery items
      (if rest.isEmpty then .terminator else .separator) items
      (marks.stop (done ++ [field]) rest) := by
  simp only [Steps, listStep, gives_bind]
  refine (reads.recovers here).mono ?_
  rintro _ _ after ⟨rfl, rfl, stop⟩
  exact (gives_pure ..).mpr ⟨rfl, rfl, stop⟩

variable {rounds : Nat}
  {post : Option (List (List Value) × List Value) → List Value → State U σ → Prop}

/-- A separator leads to the next field. -/
theorem gives_separator (here : marks.stop done (field :: rest) state)
    (goes_on : ∀ middle, marks.start done (field :: rest) middle →
      (run.listRounds list rounds .item items).Gives environment middle post) :
    (run.listRounds list (rounds + 2) .separator items).Gives environment state post := by
  rw [listRounds, gives_iterate_succ]
  refine (reads.steps_separator here).mono ?_
  rintro _ _ middle ⟨⟨span, rfl⟩, rfl, start⟩
  exact (reads.steps_afterSeparator span start).gives goes_on

/-- From a field on, the well-formed ones become items and the other ones are passed over. A field
takes four rounds at most. -/
theorem gives_items (enough : 4 * rest.length + 3 ≤ rounds)
    (here : marks.start done (field :: rest) state) :
    (run.listRounds list rounds .item items).Gives environment state
      (marks.Ended (done ++ field :: rest) (items ++ (field :: rest).filterMap values)) := by
  induction rest generalizing done field items rounds state with
  | nil =>
    obtain ⟨rounds, rfl⟩ := Nat.exists_eq_add_of_le' enough
    cases good : values field with
    | some produced =>
      refine (reads.steps_item good here).gives fun after stop => ?_
      simpa [good] using gives_closing (reads.last stop)
    | none =>
      refine (reads.steps_malformed good here).gives fun middle failed => ?_
      refine (reads.steps_recovery failed).gives fun after stop => ?_
      simpa [good] using gives_closing (reads.last stop)
  | cons other rest ih =>
    obtain ⟨spare, rfl⟩ := Nat.exists_eq_add_of_le' enough
    have rounds : spare + (4 * (other :: rest).length + 3) =
        spare + (4 * rest.length + 3) + 2 + 1 + 1 := by
      rw [List.length_cons]
      omega
    have others (items : List (List Value)) (middle : State U σ)
        (start : marks.start (done ++ [field]) (other :: rest) middle) :
        (run.listRounds list (spare + (4 * rest.length + 3)) .item items).Gives environment middle
          (marks.Ended (done ++ [field] ++ other :: rest)
            (items ++ (other :: rest).filterMap values)) :=
      ih (Nat.le_add_left _ spare) start
    rw [rounds]
    cases good : values field with
    | some produced =>
      refine (reads.steps_item good here).gives fun middle stop => ?_
      refine (reads.steps_terminator (by simp) stop).gives fun after stop => ?_
      refine reads.gives_separator stop fun last start => ?_
      simpa [good] using others (items ++ [produced]) last start
    | none =>
      -- What a malformed field produced is dropped, so the items stay as they are.
      refine (reads.steps_malformed good here).gives fun middle failed => ?_
      refine (reads.steps_recovery failed).gives fun after stop => ?_
      refine reads.gives_separator stop fun last start => ?_
      simpa [good] using others items last start

private theorem gives_fields {fields : List F} (enough : 4 * fields.length + 1 ≤ rounds)
    (here : marks.start [] fields state) :
    (run.listRounds list rounds .terminator []).Gives environment state
      (marks.Ended fields (fields.filterMap values)) := by
  cases fields with
  | nil =>
    obtain ⟨rounds, rfl⟩ := Nat.exists_eq_add_of_le' enough
    exact gives_closing (reads.empty here)
  | cons field rest =>
    obtain ⟨rounds, rfl⟩ := Nat.exists_eq_add_of_le' (Nat.le_of_add_left_le enough)
    refine (reads.steps_first here).gives fun after start => ?_
    rw [List.length_cons] at enough
    exact reads.gives_items (by omega) start

/-- A list has the values of its well-formed fields, in order, however they are mixed with malformed
ones. -/
theorem gives_parseTerminatedList {fields : List F} (enough : 4 * fields.length + 1 ≤ run.fuel)
    (here : marks.start [] fields state) :
    (run.parseTerminatedList list true).Gives environment state fun parsed produced after =>
      let value := environment.observer.sink state.scope.profile (fields.filterMap values)
      parsed = true ∧ produced = (if value.isNothing then [] else [value]) ∧
        marks.closed fields after := by
  rw [parseTerminatedList, gives_bind, gives_currentSink]
  dsimp only
  rw [if_pos rfl, gives_bind]
  refine (reads.gives_fields enough here).mono ?_
  rintro _ _ after ⟨rfl, rfl, closed⟩
  simp only [emitUnlessNothing, gives_bind, gives_ite, gives_pure, gives_emit, gives_emitAll]
  split
  · exact ⟨trivial, rfl, closed⟩
  · exact ⟨trivial, rfl, closed⟩

end Landmarks.Reads
end Descent.Runner
