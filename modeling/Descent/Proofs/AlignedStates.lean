import Descent.Proofs.AlignedMatching
import Descent.Proofs.FailureReports

/-! What two runs have in scope and report, side by side: variables that hold the same input,
and errors at places that correspond. -/

namespace Descent

namespace Rule

variable {U : Type}

/-- Somewhere in a rule, a variable is created that begins like this. -/
inductive Sets : Rule U → Binding → Prop
  | create (name : String) (initial : Binding) : Sets (.onVariable name (.create initial)) initial
  | part {rule inner : Rule U} {initial : Binding} (part : inner ∈ rule.parts)
      (sets : inner.Sets initial) : Sets rule initial
  | recovery {rule recovery : Rule U} {initial : Binding} (sets : recovery.Sets initial) :
    Sets (.recovering rule (some recovery)) initial

end Rule

/-- Somewhere in a grammar, a variable is created that begins like this. -/
inductive Grammar.Sets {U : Type} (grammar : Grammar U) (initial : Binding) : Prop
  | rule {production : Production U} (member : production ∈ grammar.productions)
      (sets : production.rule.Sets initial)
  | own {production : Production U} {whitespace : Rule U}
      (member : production ∈ grammar.productions)
      (skipped : production.whitespace = some whitespace) (sets : whitespace.Sets initial)
  | whitespace {whitespace : Rule U} (skipped : grammar.whitespace = some whitespace)
      (sets : whitespace.Sets initial)

section Twins

variable {U : Type}

def Production.bare (production : Production U) : Production U :=
  { production with whitespace := none }

def Frame.bare (frame : Frame U) : Frame U :=
  { frame with production := frame.production.bare, whitespace := none }

/-- The same production twice. Its rule for whitespace may differ where that is hidden: where so
many rules around forbid to skip whitespace, and at least one more. -/
structure Production.Twins (hidden : Option Nat) (production twin : Production U) : Prop where
  bare : twin.bare = production.bare
  same : hidden = none → twin = production

structure Frame.Twins (hidden : Option Nat) (frame twin : Frame U) : Prop where
  bare : twin.bare = frame.bare
  same : hidden = none → twin = frame

structure Grammar.Twins (hidden : Option Nat) (grammar twin : Grammar U) : Prop where
  production (id : ProductionId) :
    Option.Rel (Production.Twins hidden) (grammar.production? id) (twin.production? id)
  same : hidden = none → twin = grammar

variable {hidden : Option Nat}

namespace Production.Twins

variable {production twin : Production U} (twins : production.Twins hidden twin)

protected theorem refl (production : Production U) : production.Twins hidden production :=
  ⟨rfl, fun _ => rfl⟩

include twins

theorem profile : twin.profile = production.profile :=
  show twin.bare.profile = production.bare.profile by rw [twins.bare]

theorem rule : twin.rule = production.rule :=
  show twin.bare.rule = production.bare.rule by rw [twins.bare]

theorem deeper : production.Twins (hidden.map (· + 1)) twin :=
  ⟨twins.bare, fun visible => twins.same (Option.map_eq_none_iff.mp visible)⟩

end Production.Twins

namespace Frame.Twins

variable {frame twin : Frame U} (twins : frame.Twins hidden twin)

protected theorem refl (frame : Frame U) : frame.Twins hidden frame :=
  ⟨rfl, fun _ => rfl⟩

include twins

theorem profile : twin.production.profile = frame.production.profile :=
  show twin.bare.production.profile = frame.bare.production.profile by rw [twins.bare]

theorem height : twin.height = frame.height :=
  show twin.bare.height = frame.bare.height by rw [twins.bare]

theorem deeper : frame.Twins (hidden.map (· + 1)) twin :=
  ⟨twins.bare, fun visible => twins.same (Option.map_eq_none_iff.mp visible)⟩

omit twins in
theorem shallower (twins : frame.Twins (hidden.map (· + 1)) twin) : frame.Twins hidden twin :=
  ⟨twins.bare, fun visible => twins.same (Option.map_eq_none_iff.mpr visible)⟩

end Frame.Twins

theorem Grammar.twins_of_eq {grammar twin : Grammar U} (same : twin = grammar) :
    grammar.Twins hidden twin := by
  subst same
  refine ⟨fun id => ?_, fun _ => rfl⟩
  cases twin.production? id with
  | none => exact .none
  | some production => exact .some (.refl production)

theorem Grammar.Twins.deeper {grammar twin : Grammar U} (twins : grammar.Twins hidden twin) :
    grammar.Twins (hidden.map (· + 1)) twin where
  production id := by
    have same := twins.production id
    generalize grammar.production? id = found at same ⊢
    generalize twin.production? id = found' at same ⊢
    cases same with
    | none => exact .none
    | some twins => exact .some twins.deeper
  same visible := twins.same (Option.map_eq_none_iff.mp visible)

end Twins

namespace Alignment

variable {U : Type} (alignment : Alignment U)

/-- Variables with the same content. Lexemes are the same input; they lie at places that
correspond, unless they come from the grammar. -/
inductive Binds : Binding → Binding → Prop
  | flag (value : Bool) : Binds (.flag value) (.flag value)
  | counter (value : Int) : Binds (.counter value) (.counter value)
  | lexeme {span span' : Span} (placed : alignment.Spans span span' ∨ span' = span)
      (same : alignment.source.extract span.first span.stop =
        alignment.other.extract span'.first span'.stop) :
    Binds (.lexeme span) (.lexeme span')

/-- What a rule creates begins alike on both sides. -/
def Fits (rule : Rule U) : Prop :=
  ∀ initial, rule.Sets initial → alignment.Binds initial initial

def FitsGrammar (grammar : Grammar U) : Prop :=
  ∀ initial, grammar.Sets initial → alignment.Binds initial initial

structure Named (entry entry' : String × Binding) : Prop where
  name : entry.1 = entry'.1
  binds : alignment.Binds entry.2 entry'.2

/-- The same things in scope. Where rules for whitespace are hidden, none of them is in effect. -/
structure Scopes (hidden : Option Nat) (scope scope' : Scope U) : Prop where
  frames : List.Forall₂ (Frame.Twins hidden) scope.frames scope'.frames
  bindings : List.Forall₂ alignment.Named scope.bindings scope'.bindings
  inWhitespace : scope'.inWhitespace = scope.inWhitespace
  noWhitespace : scope'.noWhitespace = scope.noWhitespace
  hides : ∀ floor ∈ hidden, floor < scope.noWhitespace
  fits : ∀ frame ∈ scope.frames, ∀ whitespace ∈ frame.whitespace, alignment.Fits whitespace

/-- The same error, at a place that corresponds. -/
structure Errors (error error' : ParseError) : Prop where
  production : error'.production = error.production
  position : alignment.Places error.position error'.position
  span : alignment.Spans error.span error'.span
  kind : error'.kind = error.kind

variable {alignment}

theorem Fits.part {rule inner : Rule U} (fits : alignment.Fits rule) (part : inner ∈ rule.parts) :
    alignment.Fits inner :=
  fun initial sets => fits initial (.part part sets)

theorem Fits.recovery {rule recovery : Rule U}
    (fits : alignment.Fits (.recovering rule (some recovery))) : alignment.Fits recovery :=
  fun initial sets => fits initial (.recovery sets)

theorem Fits.create {name : String} {initial : Binding}
    (fits : alignment.Fits (.onVariable name (.create initial))) :
    alignment.Binds initial initial :=
  fits initial (.create name initial)

theorem Spans.symm {span span' : Span} (spans : alignment.Spans span span') :
    alignment.symm.Spans span' span :=
  ⟨spans.first.symm, spans.stop.symm⟩

theorem Binds.symm {binding binding' : Binding} (same : alignment.Binds binding binding') :
    alignment.symm.Binds binding' binding := by
  cases same with
  | flag value => exact .flag value
  | counter value => exact .counter value
  | lexeme placed same => exact .lexeme (placed.imp Spans.symm Eq.symm) same.symm

/-- Where nothing is hidden, the same productions run. -/
theorem Scopes.frames_eq {scope scope' : Scope U} (same : alignment.Scopes none scope scope') :
    scope'.frames = scope.frames := by
  have identical : List.Forall₂ Eq scope.frames scope'.frames :=
    same.frames.imp fun _ _ twin => (twin.same rfl).symm
  rw [List.forall₂_eq_eq_eq] at identical
  exact identical.symm

theorem Errors.symm {error error' : ParseError} (errors : alignment.Errors error error') :
    alignment.symm.Errors error' error :=
  ⟨errors.production.symm, errors.position.symm, errors.span.symm, errors.kind.symm⟩

theorem IsWhole.symm (isWhole : alignment.IsWhole) : alignment.symm.IsWhole :=
  ⟨isWhole.source.symm, isWhole.shift.symm⟩

namespace FitsGrammar

variable {grammar : Grammar U} {production : Production U}

theorem symm (fits : alignment.FitsGrammar grammar) : alignment.symm.FitsGrammar grammar :=
  fun initial sets => (fits initial sets).symm

theorem rule (fits : alignment.FitsGrammar grammar) (member : production ∈ grammar.productions) :
    alignment.Fits production.rule :=
  fun initial sets => fits initial (.rule member sets)

theorem own (fits : alignment.FitsGrammar grammar) (member : production ∈ grammar.productions) :
    ∀ whitespace ∈ production.whitespace, alignment.Fits whitespace :=
  fun _ skipped initial sets => fits initial (.own member skipped sets)

theorem whitespace (fits : alignment.FitsGrammar grammar) :
    ∀ whitespace ∈ grammar.whitespace, alignment.Fits whitespace :=
  fun _ skipped initial sets => fits initial (.whitespace skipped sets)

end FitsGrammar

namespace IsWhole

variable (isWhole : alignment.IsWhole)
include isWhole

private theorem binds_refl (binding : Binding) : alignment.Binds binding binding := by
  cases binding with
  | flag value => exact .flag value
  | counter value => exact .counter value
  | lexeme span => exact .lexeme (.inr rfl) (by rw [isWhole.source])

theorem fits (rule : Rule U) : alignment.Fits rule :=
  fun initial _ => isWhole.binds_refl initial

theorem fitsGrammar (grammar : Grammar U) : alignment.FitsGrammar grammar :=
  fun initial _ => isWhole.binds_refl initial

theorem binds {binding binding' : Binding} (same : alignment.Binds binding binding') :
    binding' = binding := by
  cases same with
  | flag value => rfl
  | counter value => rfl
  | lexeme placed _ =>
    rcases placed with placed | rfl
    · rw [isWhole.spans placed]
    · rfl

theorem scopes_refl (scope : Scope U) : alignment.Scopes none scope scope where
  frames := List.forall₂_same.mpr fun frame _ => .refl frame
  hides := nofun
  bindings := List.forall₂_same.mpr fun entry _ => ⟨rfl, isWhole.binds_refl entry.2⟩
  inWhitespace := rfl
  noWhitespace := rfl
  fits _ _ whitespace _ := isWhole.fits whitespace

theorem scopes {scope scope' : Scope U} (same : alignment.Scopes none scope scope') :
    scope' = scope := by
  have identical := same.frames_eq
  obtain ⟨frames, bindings, inWhitespace, noWhitespace⟩ := scope
  obtain ⟨frames', bindings', inWhitespace', noWhitespace'⟩ := scope'
  obtain ⟨-, related, rfl, rfl, -, -⟩ := same
  cases identical
  have entries : List.Forall₂ Eq bindings bindings' :=
    related.imp fun _ _ named => Prod.ext named.name (isWhole.binds named.binds).symm
  rw [List.forall₂_eq_eq_eq] at entries
  rw [entries]

theorem errors {error error' : ParseError} (same : alignment.Errors error error') :
    error' = error := by
  obtain ⟨production, position, span, kind⟩ := error
  obtain ⟨production', position', span', kind'⟩ := error'
  obtain ⟨rfl, position, span, rfl⟩ := same
  cases isWhole.places position
  cases isWhole.spans span
  rfl

end IsWhole

theorem flag_beq {found found' : Option Binding} (same : Option.Rel alignment.Binds found found')
    (value : Bool) : (found == some (.flag value)) = (found' == some (.flag value)) := by
  cases same with
  | none => rfl
  | some same => cases same <;> rfl

theorem flag?_eq {found found' : Option Binding} (same : Option.Rel alignment.Binds found found') :
    found.bind Binding.flag? = found'.bind Binding.flag? := by
  cases same with
  | none => rfl
  | some same => cases same <;> rfl

theorem counter?_eq {found found' : Option Binding}
    (same : Option.Rel alignment.Binds found found') :
    found.bind Binding.counter? = found'.bind Binding.counter? := by
  cases same with
  | none => rfl
  | some same => cases same <;> rfl

theorem rel_lexeme? {found found' : Option Binding}
    (same : Option.Rel alignment.Binds found found') :
    Option.Rel (fun span span' => alignment.Binds (.lexeme span) (.lexeme span'))
      (found.bind Binding.lexeme?) (found'.bind Binding.lexeme?) := by
  cases same with
  | none => exact .none
  | some same =>
    cases same with
    | flag value => exact .none
    | counter value => exact .none
    | lexeme placed same => exact .some (.lexeme placed same)

theorem binds_addTo (amount : Int) {binding binding' : Binding}
    (same : alignment.Binds binding binding') :
    alignment.Binds (Runner.addTo amount binding) (Runner.addTo amount binding') := by
  cases same with
  | flag value => exact .flag value
  | counter value => exact .counter _
  | lexeme placed same => exact .lexeme placed same

theorem Cursors.slice_of_binds {after after' : Cursor U} (ends : alignment.Cursors after after')
    {span span' : Span} (same : alignment.Binds (.lexeme span) (.lexeme span')) :
    after.slice span = after'.slice span' := by
  cases same with
  | lexeme _ same => rw [Cursor.slice, Cursor.slice, ends.source, ends.other, same]

section Bindings

variable {bindings bindings' : Bindings}
  (related : List.Forall₂ alignment.Named bindings bindings')
include related

theorem rel_find (name : String) :
    Option.Rel alignment.Binds (bindings.find name) (bindings'.find name) := by
  unfold Bindings.find
  induction related with
  | nil => exact .none
  | @cons entry entry' rest rest' named _ ih =>
    rw [List.lookup_cons, List.lookup_cons, ← named.name]
    split
    · exact .some named.binds
    · exact ih

theorem named_assign (name : String) {binding binding' : Binding}
    (same : alignment.Binds binding binding') :
    List.Forall₂ alignment.Named (bindings.assign name binding)
      (bindings'.assign name binding') := by
  induction related with
  | nil => exact .nil
  | @cons entry entry' rest rest' named others ih =>
    obtain ⟨key, old⟩ := entry
    obtain ⟨key', old'⟩ := entry'
    obtain ⟨rfl, binds⟩ := named
    simp only [Bindings.assign]
    split
    · exact .cons ⟨rfl, same⟩ others
    · exact .cons ⟨rfl, binds⟩ ih

theorem named_restore (height : Nat) :
    List.Forall₂ alignment.Named (bindings.restore height) (bindings'.restore height) := by
  rw [Bindings.restore, Bindings.restore, related.length_eq]
  exact List.forall₂_drop _ related

end Bindings

namespace Scopes

variable {hidden : Option Nat} {scope scope' : Scope U}
  (same : alignment.Scopes hidden scope scope')
include same

theorem profile : scope'.profile = scope.profile := by
  have related := same.frames
  unfold Scope.profile
  generalize scope.frames = frames at related ⊢
  generalize scope'.frames = frames' at related ⊢
  cases related with
  | nil => rfl
  | cons twin _ => exact twin.profile

theorem isEmpty_frames : scope'.frames.isEmpty = scope.frames.isEmpty := by
  have related := same.frames
  generalize scope.frames = frames at related ⊢
  generalize scope'.frames = frames' at related ⊢
  cases related <;> rfl

theorem errors (kind : ParseError.Kind) {position position' : Nat} {span span' : Span}
    (here : alignment.Places position position') (spans : alignment.Spans span span') :
    alignment.Errors (scope.errorOf kind position span) (scope'.errorOf kind position' span') :=
  ⟨by simp only [Scope.errorOf, same.profile], here, spans, rfl⟩

/-- The rule for whitespace in effect is the same: one that is hidden is not in effect. -/
theorem whitespace? : scope'.whitespace? = scope.whitespace? := by
  rw [Scope.whitespace?, Scope.whitespace?, same.inWhitespace, same.noWhitespace]
  cases hidden with
  | some floor =>
    have positive : 0 < scope.noWhitespace := Nat.zero_lt_of_lt (same.hides floor rfl)
    rw [decide_eq_true positive, Bool.or_true, if_pos rfl, if_pos rfl]
  | none =>
    rw [same.frames_eq]

/-- The rule for whitespace in effect creates variables that begin alike. -/
theorem fits_whitespace : ∀ whitespace ∈ scope.whitespace?, alignment.Fits whitespace := by
  intro whitespace found
  unfold Scope.whitespace? at found
  split at found
  · cases found
  · obtain ⟨frame, innermost, skipped⟩ := Option.bind_eq_some_iff.mp found
    exact same.fits frame (List.mem_of_mem_head? innermost) whitespace skipped

theorem fits_whitespaceFor {grammar : Grammar U} (fits : alignment.FitsGrammar grammar)
    {production : Production U} (member : production ∈ grammar.productions) :
    ∀ whitespace ∈ scope.whitespaceFor grammar production, alignment.Fits whitespace := by
  intro whitespace found
  unfold Scope.whitespaceFor at found
  split at found
  · cases found
  · cases own : production.whitespace with
    | some skipped =>
      rw [own] at found
      exact fits.own member whitespace (own.trans found)
    | none =>
      cases frames : scope.frames with
      | nil =>
        rw [own, frames] at found
        exact fits.whitespace whitespace found
      | cons caller callers =>
        rw [own, frames] at found
        exact same.fits caller (frames ▸ List.mem_cons_self) whitespace found

/-- What a production skips is the same, unless that is hidden. -/
theorem whitespaceFor {grammar grammar' : Grammar U} (twins : grammar.Twins hidden grammar')
    {production production' : Production U} (twin : production.Twins hidden production') :
    hidden = none → scope'.whitespaceFor grammar' production' =
      scope.whitespaceFor grammar production := by
  rintro rfl
  rw [twins.same rfl, twin.same rfl, Scope.whitespaceFor, Scope.whitespaceFor, same.frames_eq]

theorem inside {production production' : Production U} {skipped skipped' : Option (Rule U)}
    (twin : production.Twins hidden production') (equal : hidden = none → skipped' = skipped)
    (fits : ∀ whitespace ∈ skipped, alignment.Fits whitespace) :
    alignment.Scopes hidden
      { scope with frames := ⟨production, skipped, scope.bindings.length⟩ :: scope.frames }
      { scope' with
        frames := ⟨production', skipped', scope'.bindings.length⟩ :: scope'.frames } where
  frames := by
    refine .cons ⟨?_, fun visible => ?_⟩ same.frames
    · rw [Frame.bare, Frame.bare, twin.bare, same.bindings.length_eq]
    · rw [twin.same visible, equal visible, same.bindings.length_eq]
  bindings := same.bindings
  inWhitespace := same.inWhitespace
  noWhitespace := same.noWhitespace
  hides := same.hides
  fits frame member := by
    rcases List.mem_cons.mp member with rfl | member
    · exact fits
    · exact same.fits frame member

theorem outside : alignment.Scopes hidden scope.outside scope'.outside := by
  have related := same.frames
  unfold Scope.outside
  cases frames : scope.frames with
  | nil =>
    rw [frames, List.forall₂_nil_left_iff] at related
    rw [related]
    exact same
  | cons frame rest =>
    rw [frames] at related
    obtain ⟨frame', rest', twin, others, frames'⟩ := List.forall₂_cons_left_iff.mp related
    rw [frames']
    have bindings : List.Forall₂ alignment.Named (scope.bindings.restore frame.height)
        (scope'.bindings.restore frame'.height) := by
      rw [twin.height]
      exact named_restore same.bindings frame.height
    exact { same with
      frames := others
      bindings := bindings
      fits := fun other member => same.fits other (frames ▸ .tail _ member) }

theorem deeper : alignment.Scopes (hidden.map (· + 1))
    { scope with noWhitespace := scope.noWhitespace + 1 }
    { scope' with noWhitespace := scope'.noWhitespace + 1 } where
  frames := same.frames.imp fun _ _ twin => twin.deeper
  bindings := same.bindings
  inWhitespace := same.inWhitespace
  noWhitespace := congrArg (· + 1) same.noWhitespace
  hides := by
    intro _ floor
    obtain ⟨least, found, rfl⟩ := Option.map_eq_some_iff.mp floor
    exact Nat.succ_lt_succ (same.hides least found)
  fits := same.fits

omit same in
theorem shallower (same : alignment.Scopes (hidden.map (· + 1)) scope scope') :
    alignment.Scopes hidden { scope with noWhitespace := scope.noWhitespace - 1 }
      { scope' with noWhitespace := scope'.noWhitespace - 1 } where
  frames := same.frames.imp fun _ _ twin => twin.shallower
  bindings := same.bindings
  inWhitespace := same.inWhitespace
  noWhitespace := congrArg (· - 1) same.noWhitespace
  hides floor found := by
    have least := same.hides (floor + 1) (Option.map_eq_some_iff.mpr ⟨floor, found, rfl⟩)
    dsimp only
    omega
  fits := same.fits

end Scopes

end Alignment
end Descent
