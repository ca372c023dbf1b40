import Descent.Pattern.Alternatives
import Descent.Proofs.TrieMap

/-! Which alternative is chosen. Strings and matchers are kept apart, with their places in the
declared order; still the choice is the option that takes the most input, of those the first. -/

namespace Descent

variable {U : Type}

namespace Pattern

section Best

/-- The longer one of two matches is chosen, of two of the same length the one declared first. -/
def Beats (chosen other : Nat × Cursor U) : Prop :=
  other.2.position < chosen.2.position ∨
    (other.2.position = chosen.2.position ∧ chosen.1 ≤ other.1)

/-- The best of what is found; none, if nothing is found. -/
def IsBest (found : Nat × Cursor U → Prop) : Option (Nat × Cursor U) → Prop
  | none => ∀ entry, ¬found entry
  | some chosen => found chosen ∧ ∀ other, found other → Beats chosen other

theorem Beats.trans {first second third : Nat × Cursor U} (one : Beats first second)
    (two : Beats second third) : Beats first third := by
  unfold Beats at *
  omega

theorem IsBest.congr {found found' : Nat × Cursor U → Prop} {best : Option (Nat × Cursor U)}
    (same : ∀ entry, found entry ↔ found' entry) (isBest : IsBest found best) :
    IsBest found' best := by
  have equal : found = found' := funext fun entry => propext (same entry)
  exact equal ▸ isBest

variable {found : Nat × Cursor U → Prop} {best : Option (Nat × Cursor U)}

/-- There is one best match, as an option matches in one way. -/
theorem IsBest.eq_some_iff (isBest : IsBest found best)
    (unique : ∀ index after other, found (index, after) → found (index, other) → after = other)
    {chosen : Nat × Cursor U} :
    best = some chosen ↔ found chosen ∧ ∀ other, found other → Beats chosen other := by
  constructor
  · rintro rfl
    exact isBest
  · rintro ⟨member, beats⟩
    cases best with
    | none => cases isBest chosen member
    | some first =>
      obtain ⟨index, after⟩ := chosen
      obtain ⟨index', after'⟩ := first
      have one := isBest.2 _ member
      have two := beats _ isBest.1
      unfold Beats at one two
      dsimp only at one two
      have same : index' = index := by omega
      subst same
      rw [unique _ _ _ isBest.1 member]

private theorem IsBest.eq_none_iff (isBest : IsBest found best) :
    best = none ↔ ∀ entry, ¬found entry := by
  constructor
  · rintro rfl
    exact isBest
  · intro missing
    cases best with
    | none => rfl
    | some first => cases missing first isBest.1

theorem IsBest.better (isBest : IsBest found best) (index : Nat) (after : Cursor U) :
    IsBest (fun entry => found entry ∨ entry = (index, after))
      (some (better best index after)) := by
  cases best with
  | none =>
    refine ⟨.inr rfl, ?_⟩
    rintro other (member | rfl)
    · cases isBest other member
    · exact .inr ⟨rfl, Nat.le_refl _⟩
  | some chosen =>
    obtain ⟨older, before⟩ := chosen
    obtain ⟨member, beats⟩ := isBest
    unfold Pattern.better
    dsimp only
    split
    next wins =>
      have first : Beats (index, after) (older, before) :=
        wins.imp_right fun same => ⟨same.1.symm, Nat.le_of_lt same.2⟩
      refine ⟨.inr rfl, ?_⟩
      rintro other (member | rfl)
      · exact first.trans (beats other member)
      · exact .inr ⟨rfl, Nat.le_refl _⟩
    next loses =>
      refine ⟨.inl member, ?_⟩
      rintro other (member | rfl)
      · exact beats other member
      · unfold Beats
        dsimp only
        omega

/-- The matchers are tried in order, and each match is held against the best one so far. -/
theorem IsBest.bestOther {M : Type} [Matcher U M] (isBest : IsBest found best)
    (others : List (Nat × M)) (cursor : Cursor U) :
    IsBest (fun entry => found entry ∨
        ∃ pattern, (entry.1, pattern) ∈ others ∧ Matcher.run pattern cursor = .matched entry.2)
      (Alternatives.bestOther others cursor best) := by
  induction others generalizing found best with
  | nil => exact isBest.congr (by simp)
  | cons option rest ih =>
    obtain ⟨index, pattern⟩ := option
    rw [Alternatives.bestOther]
    cases answer : Matcher.run pattern cursor with
    | failed failure stopped =>
      refine (ih isBest).congr fun entry => ?_
      simp [or_and_right, exists_or, and_assoc, answer]
    | matched after =>
      refine (ih (isBest.better index after)).congr fun entry => ?_
      simp [or_and_right, exists_or, and_assoc, answer, Prod.ext_iff, or_assoc, eq_comm]

end Best

end Pattern

namespace Alternatives

variable {M : Type}

inductive Entry (M : Type) where
  | text (content : String)
  | pattern (name : String) (content : M)

namespace Entry

def name : Entry M → String
  | text content => content
  | pattern name _ => name

def pattern? : Entry M → Option M
  | text _ => none
  | pattern _ content => some content

def string? (U : Type) [CodeUnit U] : Entry M → Option (List U)
  | text content => some (CodeUnit.ofText content)
  | pattern .. => none

variable [CodeUnit U]

variable [Matcher U M]

def Matches : Entry M → Cursor U → Cursor U → Prop
  | text content, cursor, after =>
    CodeUnit.ofText content <+: cursor.remaining ∧
      after = cursor.moveTo (cursor.position + (CodeUnit.ofText content : List U).length)
  | pattern _ content, cursor, after => Matcher.run content cursor = .matched after

theorem Matches.unique {entry : Entry M} {cursor after other : Cursor U}
    (one : entry.Matches cursor after) (two : entry.Matches cursor other) : after = other := by
  cases entry with
  | text content => exact one.2.trans two.2.symm
  | pattern name content => exact MatchResult.matched.inj (one.symm.trans two)

private theorem matches_iff {entry : Entry M} {cursor after : Cursor U} :
    entry.Matches cursor after ↔
    (∃ string, entry.string? U = some string ∧ string <+: cursor.remaining ∧
      after = cursor.moveTo (cursor.position + string.length)) ∨
    ∃ pattern, entry.pattern? = some pattern ∧ Matcher.run pattern cursor = .matched after := by
  cases entry <;> simp [Matches, string?, pattern?]

end Entry

section Groups

variable {α : Type} (select : Entry M → Option α)

def placed (entries : List (Entry M)) : List (Nat × α) :=
  entries.zipIdx.filterMap fun (entry, index) => (select entry).map fun chosen => (index, chosen)

variable {select}

private theorem placed_concat (entries : List (Entry M)) (entry : Entry M) :
    placed select (entries ++ [entry]) = placed select entries ++
      ((select entry).map fun chosen => (entries.length, chosen)).toList := by
  rw [placed, List.zipIdx_append, List.filterMap_append, List.zipIdx_singleton, Nat.zero_add]
  cases chosen : select entry <;> simp [placed, chosen]

private theorem mem_placed {entries : List (Entry M)} {index : Nat} {chosen : α} :
    (index, chosen) ∈ placed select entries ↔
      ∃ entry, entries[index]? = some entry ∧ select entry = some chosen := by
  simp [placed, List.mem_zipIdx_iff_getElem?]

end Groups

variable [CodeUnit U]

def declare (options : Alternatives U M) :
    Entry M → Alternatives U M × Except GrammarError Unit
  | .text content => options.tryAddText content
  | .pattern name content => (options.addPattern name content, .ok ())

def declareEach (U : Type) [CodeUnit U] (calls : List (Entry M)) : Alternatives U M :=
  stateAfter declare empty calls

/-- The declarations among these that succeed: the options. -/
def declared (U : Type) [CodeUnit U] (calls : List (Entry M)) : List (Entry M) :=
  acceptedCalls declare (empty : Alternatives U M) calls

def stringsOf (U : Type) [CodeUnit U] (entries : List (Entry M)) : List (Nat × List U) :=
  placed (Entry.string? U) entries

/-- Strings are numbered by themselves, and each group knows the places of its options. -/
structure Holds (options : Alternatives U M) (entries : List (Entry M)) : Prop where
  names : options.names = entries.map Entry.name
  keys : options.keys.Stores ((stringsOf U entries).map Prod.snd).zipIdx
  order : options.order = (stringsOf U entries).map Prod.fst
  others : options.others = placed Entry.pattern? entries

private theorem holds_empty : (empty : Alternatives U M).Holds [] :=
  ⟨rfl, Trie.stores_empty, rfl, rfl⟩

variable {options : Alternatives U M} {entries : List (Entry M)}

theorem Holds.size (holds : options.Holds entries) : options.size = entries.length := by
  rw [Alternatives.size, holds.names, List.length_map]

theorem Holds.addPattern (holds : options.Holds entries) (name : String) (pattern : M) :
    (options.addPattern name pattern).Holds (entries ++ [.pattern name pattern]) := by
  have strings : stringsOf U (entries ++ [.pattern name pattern]) = stringsOf U entries := by
    simp [stringsOf, placed_concat, Entry.string?]
  refine ⟨?_, ?_, ?_, ?_⟩
  · simp [Alternatives.addPattern, holds.names, Entry.name]
  · exact strings ▸ holds.keys
  · exact strings ▸ holds.order
  · simp [Alternatives.addPattern, holds.others, holds.size, placed_concat, Entry.pattern?]

/-- What an attempt to add a string comes to. -/
theorem Holds.tryAddText (holds : options.Holds entries) (content : String) :
    (options.tryAddText content).2 =
        (if (CodeUnit.ofText content : List U) = [] then .error .emptyLiteral
        else if (CodeUnit.ofText content : List U) ∈ (stringsOf U entries).map Prod.snd then
          .error (.duplicateString (CodeUnit.toText (CodeUnit.ofText content : List U)))
        else .ok ()) ∧
      (∀ error, (options.tryAddText content).2 = .error error →
        (options.tryAddText content).1 = options) ∧
      (options.tryAddText content).1.Holds
        (if (options.tryAddText content).2.isOk then entries ++ [.text content] else entries) := by
  obtain ⟨answer, unchanged, stores⟩ :=
    holds.keys.tryInsert (CodeUnit.ofText content) options.order.length
  unfold Alternatives.tryAddText
  generalize options.keys.tryInsert (CodeUnit.ofText content) options.order.length = attempt
    at answer unchanged stores ⊢
  obtain ⟨keys, result⟩ := attempt
  rw [List.zipIdx_map_fst] at answer
  cases result with
  | error error =>
    cases unchanged error rfl
    exact ⟨answer, fun _ _ => rfl, holds⟩
  | ok done =>
    have strings : stringsOf U (entries ++ [.text content]) =
        stringsOf U entries ++ [(entries.length, CodeUnit.ofText content)] :=
      placed_concat entries (.text content)
    have stores : keys.Stores (((stringsOf U entries).map Prod.snd).zipIdx ++
        [(CodeUnit.ofText content, options.order.length)]) := stores
    refine ⟨answer, nofun, ?_⟩
    change Holds _ (entries ++ [.text content])
    refine ⟨?_, ?_, ?_, ?_⟩
    · simp [holds.names, Entry.name]
    · rw [holds.order, List.length_map] at stores
      simpa [strings, List.zipIdx_append] using stores
    · simp [holds.order, holds.size, strings]
    · simp [holds.others, placed_concat, Entry.pattern?]

private theorem holds_declareEach (calls : List (Entry M)) :
    (declareEach U calls).Holds (declared U calls) := by
  refine stateAfter_keeps holds_empty ?_ calls
  intro options entries entry holds
  cases entry with
  | text content => exact (holds.tryAddText content).2.2
  | pattern name content => exact holds.addPattern name content

section Choice

variable {cursor : Cursor U}

omit [CodeUnit U] in
private theorem position_after {string : List U} (begins : string <+: cursor.remaining) :
    (cursor.moveTo (cursor.position + string.length)).position =
      cursor.position + string.length := by
  have short := begins.length_le
  rw [Cursor.length_remaining, Cursor.left] at short
  have inside := cursor.position_le_stop
  exact Nat.min_eq_left (by omega)

/-- The longest string among the options is the best one of them. -/
theorem Holds.bestString (holds : options.Holds entries) (cursor : Cursor U) :
    Pattern.IsBest
      (fun found => ∃ string, (found.1, string) ∈ stringsOf U entries ∧
        string <+: cursor.remaining ∧ found.2 = cursor.moveTo (cursor.position + string.length))
      (Pattern.bestString options.keys options.order cursor) := by
  have map := holds.keys.isMapOf
  have numbered (string : List U) (number : Nat) :
      (string, number) ∈ ((stringsOf U entries).map Prod.snd).zipIdx ↔
        ∃ index, (stringsOf U entries)[number]? = some (index, string) := by
    simp [List.mem_zipIdx_iff_getElem?]
  unfold Pattern.bestString
  cases found : options.keys.longest cursor with
  | none =>
    rintro ⟨index, after⟩ ⟨string, member, begins, -⟩
    obtain ⟨number, there⟩ := List.mem_iff_getElem?.mp member
    exact (map.longest_eq_none_iff cursor).mp found _ ((numbered string number).mpr ⟨index, there⟩)
      begins
  | some entry =>
    obtain ⟨number, after⟩ := entry
    obtain ⟨string, member, begins, longest, rfl⟩ :=
      (map.longest_eq_some_iff cursor number after).mp found
    obtain ⟨index, there⟩ := (numbered string number).mp member
    have place : options.order[number]? = some index := by
      rw [holds.order, List.getElem?_map, there]
      rfl
    simp only [Option.bind_some, place, Option.map_some]
    refine ⟨⟨string, List.mem_of_getElem? there, begins, rfl⟩, ?_⟩
    rintro ⟨index', after'⟩ ⟨string', member', begins', rfl⟩
    obtain ⟨number', there'⟩ := List.mem_iff_getElem?.mp member'
    have stored' := (numbered string' number').mpr ⟨index', there'⟩
    have short : string'.length ≤ string.length := longest _ stored' begins'
    unfold Pattern.Beats
    dsimp only
    rw [position_after begins, position_after begins']
    by_cases shorter : string'.length < string.length
    · exact .inl (Nat.add_lt_add_left shorter _)
    · have same : string' = string :=
        (List.prefix_of_prefix_length_le begins' begins short).eq_of_length (by omega)
      subst same
      have one := (map.lookup_eq_some_iff string' number).mpr member
      have two := (map.lookup_eq_some_iff string' number').mpr stored'
      cases one.symm.trans two
      cases there.symm.trans there'
      exact .inr ⟨rfl, Nat.le_refl _⟩

variable [Matcher U M]

theorem Holds.choose (holds : options.Holds entries) (cursor : Cursor U) :
    Pattern.IsBest
      (fun found => ∃ entry, entries[found.1]? = some entry ∧ entry.Matches cursor found.2)
      (options.choose cursor) := by
  unfold Alternatives.choose
  refine ((holds.bestString cursor).bestOther options.others cursor).congr fun found => ?_
  rw [holds.others]
  simp only [stringsOf, mem_placed, Entry.matches_iff]
  constructor
  · rintro (⟨string, ⟨entry, there, selected⟩, begins⟩ | ⟨pattern, ⟨entry, there, selected⟩, ran⟩)
    · exact ⟨entry, there, .inl ⟨string, selected, begins⟩⟩
    · exact ⟨entry, there, .inr ⟨pattern, selected, ran⟩⟩
  · rintro ⟨entry, there, ⟨string, selected, begins⟩ | ⟨pattern, selected, ran⟩⟩
    · exact .inl ⟨string, ⟨entry, there, selected⟩, begins⟩
    · exact .inr ⟨pattern, ⟨entry, there, selected⟩, ran⟩

private theorem parse_eq_ok_iff {index : Nat} {after : Cursor U} :
    options.parse cursor = (.ok index, after) ↔ options.choose cursor = some (index, after) := by
  unfold parse
  cases options.choose cursor <;> simp [Prod.ext_iff]

private theorem bestOf_eq (others : List (Nat × Pattern U)) (cursor : Cursor U)
    (best : Option (Nat × Cursor U)) :
    Pattern.bestOf others cursor best = bestOther others cursor best := by
  induction others generalizing best with
  | nil => rfl
  | cons option rest ih =>
    obtain ⟨index, pattern⟩ := option
    rw [Pattern.bestOf, bestOther]
    cases answer : pattern.run cursor <;> simp [Matcher.run, answer, ih]

/-- The pattern made of alternatives matches what they choose. -/
theorem toPattern_run (options : Alternatives U) (cursor : Cursor U) :
    options.toPattern.run cursor =
      match options.choose cursor with
      | some (_, after) => .matched after
      | none => .failed .mismatch cursor := by
  rw [toPattern, Pattern.run, bestOf_eq]
  rfl

/-- Whatever is declared, in whatever order, the options are the declarations that succeed, in
that order. Where some option matches, the choice is the one whose match takes the most input, of
those the first, and reading goes on where that match ends; where none does, it goes on where it
was. A string is refused if it is empty or an option already, and then it changes nothing. -/
theorem choice_is_longest_then_first (calls : List (Entry M)) :
    let options := declareEach U calls
    let entries := declared U calls
    options.names = entries.map Entry.name ∧
    (∀ cursor index after, options.parse cursor = (.ok index, after) ↔
      (∃ entry, entries[index]? = some entry ∧ entry.Matches cursor after) ∧
      ∀ (other : Nat) (entry : Entry M) (after' : Cursor U), entries[other]? = some entry →
        entry.Matches cursor after' →
          after'.position < after.position ∨ (after'.position = after.position ∧ index ≤ other)) ∧
    (∀ cursor, (∀ entry ∈ entries, ∀ after, ¬entry.Matches cursor after) →
      options.parse cursor = (.error .mismatch, cursor)) ∧
    (∀ cursor, (∃ entry ∈ entries, ∃ after, entry.Matches cursor after) →
      ∃ index after, options.parse cursor = (.ok index, after)) ∧
    ∀ content, (options.tryAddText content).2 =
        (if (CodeUnit.ofText content : List U) = [] then .error .emptyLiteral
        else if (CodeUnit.ofText content : List U) ∈ (stringsOf U entries).map Prod.snd then
          .error (.duplicateString (CodeUnit.toText (CodeUnit.ofText content : List U)))
        else .ok ()) ∧
      ∀ error, (options.tryAddText content).2 = .error error →
        (options.tryAddText content).1 = options := by
  intro options entries
  have holds : options.Holds entries := holds_declareEach calls
  refine ⟨holds.names, ?_, ?_, ?_, ?_⟩
  · intro cursor index after
    rw [parse_eq_ok_iff, (holds.choose cursor).eq_some_iff]
    · simp only [Prod.forall, forall_exists_index, and_imp, Pattern.Beats]
      refine and_congr_right fun _ => ?_
      constructor
      · exact fun beats other entry after' there found => beats other after' entry there found
      · exact fun beats other after' entry there found => beats other entry after' there found
    · rintro index after other ⟨entry, there, one⟩ ⟨entry', there', two⟩
      cases there.symm.trans there'
      exact one.unique two
  · intro cursor missing
    have nothing : options.choose cursor = none := by
      rw [(holds.choose cursor).eq_none_iff]
      rintro ⟨index, after⟩ ⟨entry, there, found⟩
      exact missing entry (List.mem_of_getElem? there) after found
    rw [parse, nothing]
  · rintro cursor ⟨entry, member, after, found⟩
    obtain ⟨index, there⟩ := List.mem_iff_getElem?.mp member
    cases chosen : options.choose cursor with
    | none => cases (holds.choose cursor).eq_none_iff.mp chosen (index, after) ⟨entry, there, found⟩
    | some best => exact ⟨best.1, best.2, parse_eq_ok_iff.mpr chosen⟩
  · intro content
    obtain ⟨answer, unchanged, -⟩ := holds.tryAddText content
    exact ⟨answer, unchanged⟩

end Choice

end Alternatives
end Descent
