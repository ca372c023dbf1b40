import Descent.Proofs.CursorTexts
import Descent.Proofs.PatternLoops

/-! Where scans come to an end. A scan tries what it looks for at one place after another, so it
stops at the first place of the view, the end included, where that matches, whatever it is and
though it may match without reading. The patterns that scan are scans for patterns. -/

namespace Descent

namespace Cursor

variable {U α : Type} {test : Cursor U → Prop} {cursor : Cursor U} {place : Nat}

/-- The first place of a view, from where the cursor is, at which a test holds. -/
structure FirstPlace (test : Cursor U → Prop) (cursor : Cursor U) (place : Nat) : Prop where
  from_le : cursor.position ≤ place
  le_stop : place ≤ cursor.stop
  here : test (cursor.moveTo place)
  before : ∀ earlier, cursor.position ≤ earlier → earlier < place → ¬test (cursor.moveTo earlier)

def Nowhere (test : Cursor U → Prop) (cursor : Cursor U) : Prop :=
  ∀ place, cursor.position ≤ place → place ≤ cursor.stop → ¬test (cursor.moveTo place)

private theorem atEnd_iff : cursor.atEnd = true ↔ cursor.position = cursor.stop := by
  have inside := cursor.position_le_stop
  simp only [atEnd, decide_eq_true_eq]
  omega

private theorem atEnd_moveTo_iff (inside : place ≤ cursor.stop) :
    (cursor.moveTo place).atEnd = true ↔ place = cursor.stop := by
  rw [atEnd_iff]
  simp only [moveTo, Nat.min_eq_left inside]

private theorem moveTo_stop (cursor : Cursor U) : cursor.moveTo cursor.stop = cursor.toEnd :=
  Cursor.ext rfl (Nat.min_self _) rfl

theorem moveTo_next (inside : cursor.atEnd = false) (place : Nat) :
    cursor.next.position = cursor.position + 1 ∧ cursor.next.stop = cursor.stop ∧
      cursor.next.moveTo place = cursor.moveTo place := by
  have before : cursor.position < cursor.stop := by simpa [atEnd] using inside
  rw [Cursor.next, dif_pos before]
  exact ⟨rfl, rfl, rfl⟩

namespace FirstPlace

theorem start (holds : test cursor) : FirstPlace test cursor cursor.position where
  from_le := Nat.le_refl _
  le_stop := cursor.position_le_stop
  here := by rwa [moveTo_position]
  before _ low high := absurd high (Nat.not_lt.mpr low)

/-- The first place is a later one, if the test fails where the cursor is. -/
theorem further (fails : ¬test cursor) (inside : cursor.atEnd = false)
    (first : FirstPlace test cursor.next place) : FirstPlace test cursor place := by
  obtain ⟨position, stop, same⟩ := moveTo_next inside place
  refine ⟨?_, stop ▸ first.le_stop, same ▸ first.here, ?_⟩
  · have := first.from_le
    omega
  · intro earlier low high
    rcases Nat.eq_or_lt_of_le low with rfl | later
    · rwa [moveTo_position]
    · rw [← (moveTo_next inside earlier).2.2]
      exact first.before earlier (by omega) high

theorem unique {other : Nat} (first : FirstPlace test cursor place)
    (second : FirstPlace test cursor other) : place = other := by
  rcases Nat.lt_trichotomy place other with less | same | greater
  · exact absurd first.here (second.before place first.from_le less)
  · exact same
  · exact absurd second.here (first.before other second.from_le greater)

private theorem not_nowhere (first : FirstPlace test cursor place) : ¬Nowhere test cursor :=
  fun nowhere => nowhere place first.from_le first.le_stop first.here

end FirstPlace

theorem Nowhere.further (fails : ¬test cursor) (inside : cursor.atEnd = false)
    (nowhere : Nowhere test cursor.next) : Nowhere test cursor := by
  intro place low high
  obtain ⟨position, stop, same⟩ := moveTo_next inside place
  rcases Nat.eq_or_lt_of_le low with rfl | later
  · rwa [moveTo_position]
  · rw [← same]
    exact nowhere place (by omega) (by omega)

theorem Nowhere.ended (fails : ¬test cursor) (atEnd : cursor.atEnd = true) :
    Nowhere test cursor := by
  intro place low high
  have here : place = cursor.position := by
    rw [atEnd_iff] at atEnd
    omega
  rwa [here, moveTo_position]

section Searching

variable {visit : Cursor U → Option α} {answer : α}

/-- A search answers at the first place where there is an answer. -/
theorem Searches.leftmost {found : Option α} (searches : Searches visit cursor found) :
    (found = none ∧ Nowhere (fun here => (visit here).isSome) cursor) ∨
      ∃ answer place, found = some answer ∧
        FirstPlace (fun here => (visit here).isSome) cursor place ∧
        visit (cursor.moveTo place) = some answer := by
  induction searches with
  | @found cursor answer visited =>
    refine .inr ⟨answer, cursor.position, rfl, .start ?_, by rwa [moveTo_position]⟩
    rw [visited, Option.isSome_some]
  | ended visited atEnd => exact .inl ⟨rfl, .ended (by simp [visited]) atEnd⟩
  | @further cursor found visited inside searches ih =>
    have fails : ¬(visit cursor).isSome := by simp [visited]
    rcases ih with ⟨nothing, nowhere⟩ | ⟨answer, place, something, first, same⟩
    · exact .inl ⟨nothing, .further fails inside nowhere⟩
    · exact .inr ⟨answer, place, something, .further fails inside first,
        (moveTo_next inside place).2.2 ▸ same⟩

private theorem search_eq_some_iff : cursor.search visit = some answer ↔
    ∃ place, FirstPlace (fun here => (visit here).isSome) cursor place ∧
      visit (cursor.moveTo place) = some answer := by
  have searched : Searches visit cursor (cursor.search visit) := searches_search cursor
  rcases searched.leftmost with
    ⟨nothing, nowhere⟩ | ⟨other, place, something, first, visited⟩
  · rw [nothing]
    refine ⟨nofun, ?_⟩
    rintro ⟨place, first, -⟩
    exact absurd nowhere first.not_nowhere
  · rw [something]
    constructor
    · intro same
      exact ⟨place, first, visited.trans same⟩
    · rintro ⟨again, second, same⟩
      rw [← first.unique second, visited] at same
      exact same

private theorem search_eq_none_iff :
    cursor.search visit = none ↔ Nowhere (fun here => (visit here).isSome) cursor := by
  have searched : Searches visit cursor (cursor.search visit) := searches_search cursor
  rcases searched.leftmost with
    ⟨nothing, nowhere⟩ | ⟨answer, place, something, first, -⟩
  · exact ⟨fun _ => nowhere, fun _ => nothing⟩
  · rw [something]
    exact ⟨nofun, fun nowhere => absurd nowhere first.not_nowhere⟩

end Searching

end Cursor

namespace Matcher

open Cursor
open Pattern (sighting)

variable {U : Type} {cursor after stopped : Cursor U} {failure : MatchFailure} {place other : Nat}

section Seeking

variable {needle limit : Cursor U → Prop}

/-- The first place of a needle, with no limit before it. -/
structure Sights (needle limit : Cursor U → Prop) (cursor : Cursor U) (place : Nat) : Prop where
  first : FirstPlace needle cursor place
  unlimited : ∀ earlier, cursor.position ≤ earlier → earlier < place →
    ¬limit (cursor.moveTo earlier)

/-- The first limit or the end of the view, with no needle up to there. -/
structure Misses (needle limit : Cursor U → Prop) (cursor : Cursor U) (place : Nat) : Prop where
  first : FirstPlace (fun here => here.atEnd = true ∨ limit here) cursor place
  nothing : ∀ earlier, cursor.position ≤ earlier → earlier ≤ place →
    ¬needle (cursor.moveTo earlier)

/-- A needle that is sighted is not missed. -/
theorem Sights.not_misses (sights : Sights needle limit cursor place) :
    ¬Misses needle limit cursor other := by
  intro misses
  have behind : other < place := Nat.lt_of_not_le fun reached =>
    misses.nothing place sights.first.from_le reached sights.first.here
  rcases misses.first.here with atEnd | limited
  · rw [atEnd_moveTo_iff misses.first.le_stop] at atEnd
    have := sights.first.le_stop
    omega
  · exact sights.unlimited other misses.first.from_le behind limited

/-- Before the end of the view, only a limit stops a scan. -/
theorem Misses.intro (le_stop : place ≤ cursor.stop) (from_le : cursor.position ≤ place)
    (ended : place = cursor.stop ∨ limit (cursor.moveTo place))
    (nothing : ∀ earlier, cursor.position ≤ earlier → earlier ≤ place →
      ¬needle (cursor.moveTo earlier))
    (unlimited : ∀ earlier, cursor.position ≤ earlier → earlier < place →
      ¬limit (cursor.moveTo earlier)) : Misses needle limit cursor place where
  first := by
    refine ⟨from_le, le_stop, ended.imp_left (atEnd_moveTo_iff le_stop).mpr, ?_⟩
    rintro earlier low high (atEnd | limited)
    · rw [atEnd_moveTo_iff (Nat.le_trans (Nat.le_of_lt high) le_stop)] at atEnd
      omega
    · exact unlimited earlier low high limited
  nothing := nothing

end Seeking

section Seeking

variable (needle limit : Cursor U → Bool)

private theorem sighting_isSome_iff (here : Cursor U) :
    (sighting needle limit here).isSome ↔ needle here = true ∨ limit here = true := by
  unfold sighting
  cases needle here <;> cases limit here <;> simp

/-- A scan sights a needle and matches before it, or misses all of them and fails. -/
theorem seek_cases (cursor : Cursor U) :
    (∃ place, Sights (needle · = true) (limit · = true) cursor place ∧
      seek needle limit cursor = .matched (cursor.moveTo place)) ∨
    ∃ place, Misses (needle · = true) (limit · = true) cursor place ∧
      seek needle limit cursor = .failed .notFound (cursor.moveTo place) := by
  have sought : seek needle limit cursor =
      (cursor.search (sighting needle limit)).getD (.failed .notFound cursor.toEnd) := rfl
  have searched : Searches (sighting needle limit) cursor _ := searches_search cursor
  rcases searched.leftmost with
    ⟨nothing, nowhere⟩ | ⟨answer, place, something, first, visited⟩
  · simp only [Nowhere, sighting_isSome_iff, not_or] at nowhere
    refine .inr ⟨cursor.stop, .intro (Nat.le_refl _) cursor.position_le_stop (.inl rfl) ?_ ?_, ?_⟩
    · exact fun earlier low high => (nowhere earlier low high).1
    · exact fun earlier low high => (nowhere earlier low (Nat.le_of_lt high)).2
    · rw [sought, nothing, moveTo_stop, Option.getD_none]
  · obtain ⟨from_le, le_stop, -, before⟩ := first
    simp only [sighting_isSome_iff, not_or] at before
    have unlimited (earlier : Nat) (low : cursor.position ≤ earlier) (high : earlier < place) :
        ¬limit (cursor.moveTo earlier) = true := (before earlier low high).2
    rw [sought, something, Option.getD_some]
    unfold sighting at visited
    split at visited
    next sighted =>
      cases visited
      exact .inl ⟨place, ⟨⟨from_le, le_stop, sighted, fun earlier low high =>
        (before earlier low high).1⟩, unlimited⟩, rfl⟩
    next unsighted =>
      split at visited
      next limited =>
        cases visited
        refine .inr ⟨place, .intro le_stop from_le (.inr limited) ?_ unlimited, rfl⟩
        intro earlier low high
        rcases Nat.eq_or_lt_of_le high with rfl | less
        · exact unsighted
        · exact (before earlier low less).1
      next => cases visited

variable {needle limit}

private theorem seek_eq_matched_iff : seek needle limit cursor = .matched after ↔
    ∃ place, Sights (needle · = true) (limit · = true) cursor place ∧
      after = cursor.moveTo place := by
  rcases seek_cases needle limit cursor with ⟨place, sights, sought⟩ | ⟨place, misses, sought⟩
  · rw [sought, MatchResult.matched.injEq]
    constructor
    · rintro rfl
      exact ⟨place, sights, rfl⟩
    · rintro ⟨other, again, rfl⟩
      rw [sights.first.unique again.first]
  · rw [sought]
    refine ⟨nofun, ?_⟩
    rintro ⟨other, sights, -⟩
    exact absurd misses sights.not_misses

private theorem seek_eq_failed_iff : seek needle limit cursor = .failed failure stopped ↔
    failure = .notFound ∧ ∃ place, Misses (needle · = true) (limit · = true) cursor place ∧
      stopped = cursor.moveTo place := by
  rcases seek_cases needle limit cursor with ⟨place, sights, sought⟩ | ⟨place, misses, sought⟩
  · rw [sought]
    refine ⟨nofun, ?_⟩
    rintro ⟨-, other, misses, -⟩
    exact absurd misses sights.not_misses
  · rw [sought, MatchResult.failed.injEq]
    constructor
    · rintro ⟨rfl, rfl⟩
      exact ⟨rfl, place, misses, rfl⟩
    · rintro ⟨rfl, other, again, rfl⟩
      exact ⟨rfl, by rw [misses.first.unique again.first]⟩

end Seeking

variable {M : Type} [Matcher U M]

def SomeMatch (matchers : List M) (here : Cursor U) : Prop :=
  ∃ matcher ∈ matchers, matchesAt matcher here = true

private theorem any_eq_someMatch (matchers : List M) :
    (fun here : Cursor U => matchers.any (matchesAt · here) = true) = SomeMatch matchers :=
  funext fun _ => propext List.any_eq_true

theorem find_eq_matched_iff (needles limits : List M) :
    find needles limits cursor = .matched after ↔
      ∃ place, Sights (SomeMatch needles) (SomeMatch limits) cursor place ∧
        after = cursor.moveTo place := by
  rw [find, seek_eq_matched_iff, any_eq_someMatch, any_eq_someMatch]

private theorem find_eq_failed_iff (needles limits : List M) :
    find needles limits cursor = .failed failure stopped ↔
      failure = .notFound ∧ ∃ place, Misses (SomeMatch needles) (SomeMatch limits) cursor place ∧
        stopped = cursor.moveTo place := by
  rw [find, seek_eq_failed_iff, any_eq_someMatch, any_eq_someMatch]

section Needles

variable (needle limit : M) (orEnd : Bool)

/-- A scan up to a needle ends behind its first match; it takes the rest only if there is none. -/
theorem upTo_cases (cursor : Cursor U) :
    (∃ place after, FirstPlace (matchesAt needle · = true) cursor place ∧
      run needle (cursor.moveTo place) = .matched after ∧
      upTo needle orEnd cursor = .matched after) ∨
    (Nowhere (matchesAt needle · = true) cursor ∧ upTo needle orEnd cursor =
      if orEnd then .matched cursor.toEnd else .failed .unexpectedEnd cursor.toEnd) := by
  have matching : (fun here : Cursor U => (run needle here).after?.isSome = true) =
      (matchesAt needle · = true) := by
    funext here
    unfold matchesAt
    cases run needle here <;> rfl
  rw [upTo]
  cases found : cursor.search fun here => (run needle here).after? with
  | none =>
    rw [search_eq_none_iff, matching] at found
    exact .inr ⟨found, rfl⟩
  | some after =>
    rw [search_eq_some_iff, matching] at found
    obtain ⟨place, first, visited⟩ := found
    refine .inl ⟨place, after, first, ?_, rfl⟩
    cases ran : run needle (cursor.moveTo place) with
    | matched other => simpa [ran, MatchResult.after?] using visited
    | failed failure stopped => simp [ran, MatchResult.after?] at visited

private theorem upTo_eq_matched_iff : upTo needle orEnd cursor = .matched after ↔
    (∃ place, FirstPlace (matchesAt needle · = true) cursor place ∧
      run needle (cursor.moveTo place) = .matched after) ∨
    (orEnd = true ∧ Nowhere (matchesAt needle · = true) cursor ∧ after = cursor.toEnd) := by
  rcases upTo_cases needle orEnd cursor with ⟨place, last, first, matched, ran⟩ | ⟨nowhere, ran⟩
  · rw [ran]
    constructor
    · intro same
      exact .inl ⟨place, first, matched.trans same⟩
    · rintro (⟨other, again, same⟩ | ⟨-, nowhere, -⟩)
      · rw [← matched, first.unique again, same]
      · exact absurd nowhere first.not_nowhere
  · rw [ran]
    constructor
    · intro same
      cases orEnd with
      | true => exact .inr ⟨rfl, nowhere, (MatchResult.matched.inj same).symm⟩
      | false => cases same
    · rintro (⟨place, first, -⟩ | ⟨rfl, -, rfl⟩)
      · exact absurd nowhere first.not_nowhere
      · rfl

private theorem upTo_eq_failed_iff : upTo needle orEnd cursor = .failed failure stopped ↔
    orEnd = false ∧ Nowhere (matchesAt needle · = true) cursor ∧ failure = .unexpectedEnd ∧
      stopped = cursor.toEnd := by
  rcases upTo_cases needle orEnd cursor with ⟨place, last, first, matched, ran⟩ | ⟨nowhere, ran⟩
  · rw [ran]
    refine ⟨nofun, ?_⟩
    rintro ⟨-, nowhere, -⟩
    exact absurd nowhere first.not_nowhere
  · rw [ran]
    constructor
    · intro same
      cases orEnd with
      | true => cases same
      | false =>
        obtain ⟨rfl, rfl⟩ := MatchResult.failed.inj same
        exact ⟨rfl, nowhere, rfl, rfl⟩
    · rintro ⟨rfl, -, rfl, rfl⟩
      rfl

/-- A look ahead for a needle is a scan for it of which only the answer is kept. -/
theorem lookahead_eq (cursor : Cursor U) : lookahead needle limit cursor =
    if (find [needle] [limit] cursor).isMatched then .matched cursor
    else .failed .notFound cursor := by
  have alone (matcher : M) :
      (fun here : Cursor U => [matcher].any (matchesAt · here)) = matchesAt matcher := by
    simp
  rw [lookahead, find, alone, alone]

end Needles

end Matcher

namespace Pattern

variable {U : Type} [CodeUnit U]

private theorem anyMatches_eq_any (patterns : List (Pattern U)) (here : Cursor U) :
    anyMatches patterns here = patterns.any (Matcher.matchesAt · here) := by
  induction patterns with
  | nil => rfl
  | cons pattern rest ih =>
    rw [anyMatches, ih, List.any_cons]
    rfl

/-- The patterns that scan are scans for patterns. -/
theorem run_upTo (needle : Pattern U) (orEnd : Bool) (cursor : Cursor U) :
    (upTo needle orEnd).run cursor = Matcher.upTo needle orEnd cursor := by
  rw [run]
  rfl

theorem run_find (needles limits : List (Pattern U)) (cursor : Cursor U) :
    (find needles limits).run cursor = Matcher.find needles limits cursor := by
  rw [run, Matcher.find, funext (anyMatches_eq_any needles), funext (anyMatches_eq_any limits)]

private theorem run_lookahead (needle limit : Pattern U) (cursor : Cursor U) :
    (lookahead needle limit).run cursor = Matcher.lookahead needle limit cursor := by
  rw [run]
  rfl

end Pattern

namespace Matcher

open Cursor

/-- Scans stop at the leftmost place, whatever they look for. Up to a needle, that is where its
first match ends, or the end of the view if there is none and the end will do. A target is found at
the first place where a needle matches, if no limit matches before, and else the scan fails at the
first limit or at the end. To look ahead is to find without moving. And these are the scans that
patterns are made of. -/
theorem scans_stop_at_the_leftmost_place {U M : Type} [Matcher U M] (cursor : Cursor U) :
    (∀ (needle : M) (orEnd : Bool),
      (∀ after, upTo needle orEnd cursor = .matched after ↔
        (∃ place, FirstPlace (matchesAt needle · = true) cursor place ∧
          run needle (cursor.moveTo place) = .matched after) ∨
        (orEnd = true ∧ Nowhere (matchesAt needle · = true) cursor ∧ after = cursor.toEnd)) ∧
      (∀ failure stopped, upTo needle orEnd cursor = .failed failure stopped ↔
        orEnd = false ∧ Nowhere (matchesAt needle · = true) cursor ∧ failure = .unexpectedEnd ∧
          stopped = cursor.toEnd)) ∧
    (∀ needles limits : List M,
      (∀ after, find needles limits cursor = .matched after ↔
        ∃ place, Sights (SomeMatch needles) (SomeMatch limits) cursor place ∧
          after = cursor.moveTo place) ∧
      (∀ failure stopped, find needles limits cursor = .failed failure stopped ↔
        failure = .notFound ∧ ∃ place,
          Misses (SomeMatch needles) (SomeMatch limits) cursor place ∧
          stopped = cursor.moveTo place)) ∧
    (∀ needle limit : M, lookahead needle limit cursor =
      if (find [needle] [limit] cursor).isMatched then .matched cursor
      else .failed .notFound cursor) ∧
    ∀ [CodeUnit U],
      (∀ (needle : Pattern U) (orEnd : Bool),
        (Pattern.upTo needle orEnd).run cursor = upTo needle orEnd cursor) ∧
      (∀ needles limits : List (Pattern U),
        (Pattern.find needles limits).run cursor = find needles limits cursor) ∧
      ∀ needle limit : Pattern U,
        (Pattern.lookahead needle limit).run cursor = lookahead needle limit cursor := by
  refine ⟨fun needle orEnd => ⟨fun _ => ?_, fun _ _ => ?_⟩,
    fun needles limits => ⟨fun _ => ?_, fun _ _ => ?_⟩, fun needle limit => ?_,
    fun needle orEnd => ?_, fun needles limits => ?_, fun needle limit => ?_⟩
  · exact upTo_eq_matched_iff needle orEnd
  · exact upTo_eq_failed_iff needle orEnd
  · exact find_eq_matched_iff needles limits
  · exact find_eq_failed_iff needles limits
  · exact lookahead_eq needle limit cursor
  · exact Pattern.run_upTo needle orEnd cursor
  · exact Pattern.run_find needles limits cursor
  · exact Pattern.run_lookahead needle limit cursor

end Matcher
end Descent
