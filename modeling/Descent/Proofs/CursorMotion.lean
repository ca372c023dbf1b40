import Descent.Rule.Build

/-! Nothing that reads input leaves the view that it was given, and nothing goes back in
it: matching, skipping and searching reach later places of the same view only. -/

namespace Descent

namespace Cursor

variable {U : Type}

structure Reaches (before after : Cursor U) : Prop where
  source : after.source = before.source
  stop : after.stop = before.stop
  position : before.position ≤ after.position

namespace Reaches

protected theorem refl (cursor : Cursor U) : cursor.Reaches cursor :=
  ⟨rfl, rfl, Nat.le_refl _⟩

protected theorem trans {before middle after : Cursor U} (first : before.Reaches middle)
    (second : middle.Reaches after) : before.Reaches after :=
  ⟨second.source.trans first.source, second.stop.trans first.stop,
    Nat.le_trans first.position second.position⟩

theorem stop_spanTo {before after : Cursor U} (reaches : before.Reaches after) :
    (before.spanTo after).stop = after.position :=
  Nat.max_eq_right reaches.position

end Reaches

theorem reaches_next (cursor : Cursor U) : cursor.Reaches cursor.next := by
  unfold next
  split
  · exact ⟨rfl, rfl, Nat.le_succ _⟩
  · exact .refl cursor

theorem next_of_left {cursor : Cursor U} {left : Nat} (room : cursor.left = left + 1) :
    cursor.position < cursor.stop ∧ cursor.next.position = cursor.position + 1 ∧
      cursor.next.stop = cursor.stop ∧ cursor.next.left = left := by
  have inside : cursor.position < cursor.stop := by
    unfold Cursor.left at room
    omega
  have position : cursor.next.position = cursor.position + 1 := by rw [next, dif_pos inside]
  have stop : cursor.next.stop = cursor.stop := by rw [next, dif_pos inside]
  refine ⟨inside, position, stop, ?_⟩
  rw [Cursor.left, position, stop]
  unfold Cursor.left at room
  omega

private theorem reaches_toEnd (cursor : Cursor U) : cursor.Reaches cursor.toEnd :=
  ⟨rfl, rfl, cursor.position_le_stop⟩

/-- A search answers with what it has found at a place that it came to. -/
theorem search_reaches {α : Type} {visit : Cursor U → Option α} {cursor : Cursor U} {answer : α}
    (found : cursor.search visit = some answer) :
    ∃ here, cursor.Reaches here ∧ visit here = some answer := by
  suffices general : ∀ left cursor, search.go visit left cursor = some answer →
      ∃ here, Cursor.Reaches cursor here ∧ visit here = some answer from general _ _ found
  intro left
  induction left with
  | zero => exact fun cursor found => ⟨cursor, .refl cursor, found⟩
  | succ left ih =>
    intro cursor found
    rw [search.go] at found
    split at found
    next other visited =>
      cases found
      exact ⟨cursor, .refl cursor, visited⟩
    next =>
      obtain ⟨here, reaches, visited⟩ := ih cursor.next found
      exact ⟨here, cursor.reaches_next.trans reaches, visited⟩

private theorem reaches_advanceWhile {move : Cursor U → Option (Cursor U)}
    (moves : ∀ here after, move here = some after → here.Reaches after) (cursor : Cursor U) :
    cursor.Reaches (cursor.advanceWhile move) := by
  suffices general : ∀ left cursor, Cursor.Reaches cursor (advanceWhile.go move left cursor) from
    general _ _
  intro left
  induction left with
  | zero => exact fun cursor => .refl cursor
  | succ left ih =>
    intro cursor
    rw [advanceWhile.go]
    split
    · exact .refl cursor
    next after moved =>
      split
      · exact moves cursor after moved
      · exact (moves cursor after moved).trans (ih after)

private theorem reaches_skip (test : U → Bool) (cursor : Cursor U) :
    cursor.Reaches (cursor.skip test) := by
  refine reaches_advanceWhile ?_ cursor
  intro here after moved
  split at moved
  · cases moved
    exact here.reaches_next
  · cases moved

end Cursor

namespace MatchResult

variable {U : Type}

/-- A match ends further on, and a failure shows further on. -/
def Forward (cursor : Cursor U) (result : MatchResult U) : Prop :=
  cursor.Reaches result.cursor

theorem Forward.trans {before after : Cursor U} {result : MatchResult U}
    (forward : result.Forward after) (reaches : before.Reaches after) : result.Forward before :=
  reaches.trans forward

theorem Forward.matched {cursor after : Cursor U} {result : MatchResult U}
    (forward : result.Forward cursor) (found : result = .matched after) :
    cursor.Reaches after := by
  rw [found] at forward
  exact forward

theorem Forward.failed {cursor stopped : Cursor U} {result : MatchResult U}
    {failure : MatchFailure} (forward : result.Forward cursor)
    (found : result = .failed failure stopped) : cursor.Reaches stopped := by
  rw [found] at forward
  exact forward

theorem Forward.after? {cursor after : Cursor U} {result : MatchResult U}
    (forward : result.Forward cursor) (found : result.after? = some after) :
    cursor.Reaches after := by
  cases result with
  | matched reached =>
    cases found
    exact forward
  | failed failure stopped => cases found

end MatchResult

open Cursor MatchResult

variable {U : Type}

private theorem Matcher.forward_seek (needle limit : Cursor U → Bool) (cursor : Cursor U) :
    (seek needle limit cursor).Forward cursor := by
  simp only [seek]
  cases found : cursor.search _ with
  | none => exact cursor.reaches_toEnd
  | some result =>
    obtain ⟨here, reaches, visited⟩ := search_reaches found
    split at visited
    · cases visited
      exact reaches
    · split at visited
      · cases visited
        exact reaches
      · cases visited

section Matchers

variable {M : Type} [Matcher U M]

private theorem Matcher.forward_upTo (needle : M) (orEnd : Bool)
    (forward : ∀ here : Cursor U, (run needle here).Forward here) (cursor : Cursor U) :
    (upTo needle orEnd cursor).Forward cursor := by
  unfold upTo
  split
  next after found =>
    obtain ⟨here, reaches, visited⟩ := search_reaches found
    exact reaches.trans ((forward here).after? visited)
  next => split <;> exact cursor.reaches_toEnd

private theorem Matcher.forward_lookahead (needle limit : M) (cursor : Cursor U) :
    (lookahead needle limit cursor).Forward cursor := by
  unfold lookahead
  split <;> exact .refl cursor

end Matchers

variable [CodeUnit U]

theorem Literal.forward_run (literal : Literal U) (cursor : Cursor U) :
    (literal.run cursor).Forward cursor := by
  suffices general : ∀ (units : List U) (index : Nat) (cursor : Cursor U),
      (runFrom literal.foldCase index cursor units).Forward cursor from general _ _ _
  intro units
  induction units with
  | nil => exact fun _ cursor => .refl cursor
  | cons unit rest ih =>
    intro index cursor
    rw [runFrom]
    split
    · exact (ih _ _).trans cursor.reaches_next
    · exact .refl cursor

namespace IdentifierShape

theorem forward_run (shape : IdentifierShape) (cursor : Cursor U) :
    (shape.run cursor).Forward cursor := by
  rw [run]
  split
  · exact cursor.reaches_next.trans (reaches_skip _ _)
  · exact .refl cursor

private theorem forward_runKeyword (shape : IdentifierShape) (keyword : Literal U)
    (cursor : Cursor U) : (shape.runKeyword keyword cursor).Forward cursor := by
  have forward := shape.forward_run cursor
  rw [runKeyword]
  split
  next failure stopped failed => exact forward.failed failed
  next after matched => split <;> exact forward.matched matched

end IdentifierShape

namespace DigitRun

private theorem forward_runRest (digits : DigitRun) (cursor : Cursor U) :
    (digits.runRest cursor).Forward cursor := by
  suffices general : ∀ left (cursor : Cursor U),
      (runRest.go digits left cursor).Forward cursor from general _ _
  intro left
  induction left with
  | zero => exact fun cursor => .refl cursor
  | succ left ih =>
    intro cursor
    rw [runRest.go]
    split
    · split
      · exact (ih _).trans (cursor.reaches_next.trans cursor.next.reaches_next)
      · exact cursor.reaches_next
    · split
      · exact (ih _).trans cursor.reaches_next
      · exact .refl cursor

theorem forward_run (digits : DigitRun) (cursor : Cursor U) :
    (digits.run cursor).Forward cursor := by
  rw [run]
  split
  · exact .refl cursor
  · split
    · split <;> exact cursor.reaches_next
    · exact (digits.forward_runRest _).trans cursor.reaches_next

end DigitRun

namespace DigitCount

theorem forward_run (digits : DigitCount) (cursor : Cursor U) :
    (digits.run cursor).Forward cursor := by
  suffices general : ∀ count (cursor : Cursor U),
      (run.go digits count cursor).Forward cursor from general _ _
  intro count
  induction count with
  | zero => exact fun cursor => .refl cursor
  | succ count ih =>
    intro cursor
    rw [run.go]
    split
    · exact .refl cursor
    · split
      · exact (ih _).trans cursor.reaches_next
      · exact .refl cursor

theorem reaches_readCodePoint (digits : DigitCount) (cursor : Cursor U) :
    cursor.Reaches (digits.readCodePoint cursor).2 := by
  have forward := digits.forward_run cursor
  rw [readCodePoint]
  split
  next failure stopped failed => exact forward.failed failed
  next after matched => split <;> exact forward.matched matched

end DigitCount

/-- The best match so far is one of a place that was come to. -/
theorem Trie.longest_reaches {trie : Trie U} {cursor after : Cursor U} {number : Nat}
    (found : trie.longest cursor = some (number, after)) : cursor.Reaches after := by
  suffices general : ∀ left (index : Nat) (here : Cursor U) (best : Option (Nat × Cursor U)),
      cursor.Reaches here → (∀ entry, best = some entry → cursor.Reaches entry.2) →
        ∀ entry, longest.go trie left index here best = some entry → cursor.Reaches entry.2 from
    general _ _ _ _ (.refl cursor) (by simp) _ found
  intro left
  induction left with
  | zero =>
    intro index here best reached sound entry
    rw [longest.go]
    cases stored trie.nodes index with
    | none => exact sound entry
    | some number =>
      rintro ⟨⟩
      exact reached
  | succ left ih =>
    intro index here best reached sound entry
    rw [longest.go]
    cases stored trie.nodes index with
    | none =>
      cases here.peek.bind (child trie.nodes index) with
      | none => exact sound entry
      | some next => exact ih next here.next best (reached.trans here.reaches_next) sound entry
    | some number =>
      have kept : ∀ entry, some (number, here) = some entry → cursor.Reaches entry.2 := by
        rintro _ ⟨⟩
        exact reached
      cases here.peek.bind (child trie.nodes index) with
      | none => exact kept entry
      | some next => exact ih next here.next _ (reached.trans here.reaches_next) kept entry

theorem SymbolTable.longest_reaches {table : SymbolTable U} {cursor after : Cursor U}
    {value : Value} (found : table.longest cursor = some (value, after)) :
    cursor.Reaches after := by
  simp only [longest, Option.bind_eq_some_iff, Option.map_eq_some_iff, Prod.mk.injEq] at found
  obtain ⟨⟨index, reached⟩, found, value, -, -, rfl⟩ := found
  exact Trie.longest_reaches found

namespace Pattern

private theorem forward_runOneOf (members : UnitClass) (cursor : Cursor U) :
    (runOneOf members cursor).Forward cursor := by
  rw [runOneOf]
  split
  · exact .refl cursor
  · split
    · exact cursor.reaches_next
    · exact .refl cursor

private theorem forward_runStrings (keys : Trie U) (cursor : Cursor U) :
    (runStrings keys cursor).Forward cursor := by
  rw [runStrings]
  split
  next found => exact Trie.longest_reaches found
  next => exact .refl cursor

private theorem bestString_reaches {keys : Trie U} {order : List Nat} {cursor after : Cursor U}
    {index : Nat} (found : bestString keys order cursor = some (index, after)) :
    cursor.Reaches after := by
  simp only [bestString, Option.bind_eq_some_iff, Option.map_eq_some_iff, Prod.mk.injEq] at found
  obtain ⟨⟨number, reached⟩, found, index, -, -, rfl⟩ := found
  exact Trie.longest_reaches found

private theorem forward_runNewline (cursor : Cursor U) : (runNewline cursor).Forward cursor := by
  have far := cursor.reaches_next.trans cursor.next.reaches_next
  rw [runNewline]
  split
  · exact .refl cursor
  · split
    · exact cursor.reaches_next
    · split
      · split
        · exact far
        · exact cursor.reaches_next
      · exact .refl cursor

mutual

theorem forward_run (pattern : Pattern U) (cursor : Cursor U) :
    (pattern.run cursor).Forward cursor := by
  match pattern with
  | oneOf members => exact forward_runOneOf members cursor
  | literal content => exact content.forward_run cursor
  | keyword content shape => exact shape.forward_runKeyword content cursor
  | identifier shape => exact shape.forward_run cursor
  | digits content => exact content.forward_run cursor
  | digitCount content => exact content.forward_run cursor
  | strings keys => exact forward_runStrings keys cursor
  | longest keys order others =>
    rw [run]
    split
    next found => exact bestOf_reaches others (fun _ _ => bestString_reaches) found
    next => exact .refl cursor
  | anything => exact cursor.reaches_toEnd
  | endOfInput =>
    rw [run]
    split <;> exact .refl cursor
  | newline => exact forward_runNewline cursor
  | endOfLine =>
    rw [run]
    split
    · exact .refl cursor
    · exact forward_runNewline cursor
  | repeated body =>
    exact reaches_advanceWhile (fun here _ => (forward_run body here).after?) cursor
  | repeatedOnce body =>
    have forward := forward_run body cursor
    rw [run]
    split
    next after matched =>
      exact (forward.matched matched).trans
        (reaches_advanceWhile (fun here _ => (forward_run body here).after?) after)
    next failure stopped failed => exact forward.failed failed
  | upTo needle orEnd =>
    rw [run]
    exact Matcher.forward_upTo _ orEnd (fun here => forward_run needle here) cursor
  | find needles limits => exact Matcher.forward_seek _ _ cursor
  | minus content excluded =>
    have forward := forward_run content cursor
    rw [run]
    split
    next failure stopped failed => exact forward.failed failed
    next after matched =>
      split
      · exact forward.matched matched
      · split <;> exact forward.matched matched
  | lookahead needle limit =>
    rw [run]
    exact Matcher.forward_lookahead _ _ cursor
termination_by structural pattern

private theorem bestOf_reaches (others : List (Nat × Pattern U)) {cursor after : Cursor U}
    {best : Option (Nat × Cursor U)} {index : Nat}
    (sound : ∀ index after, best = some (index, after) → cursor.Reaches after)
    (found : bestOf others cursor best = some (index, after)) : cursor.Reaches after := by
  match others with
  | [] => exact sound index after found
  | (number, pattern) :: rest =>
    have forward := forward_run pattern cursor
    rw [bestOf] at found
    split at found
    · exact bestOf_reaches rest sound found
    next reached matched =>
      refine bestOf_reaches rest ?_ found
      intro index after chosen
      cases best with
      | none =>
        cases chosen
        exact forward.matched matched
      | some old =>
        simp only [better, Option.some.injEq] at chosen
        split at chosen
        · cases chosen
          exact forward.matched matched
        · cases chosen
          exact sound _ _ rfl
termination_by structural others

end

theorem reaches_skipMalformed (pattern : Pattern U) (cursor : Cursor U) :
    cursor.Reaches (pattern.skipMalformed cursor).2 := by
  fun_induction skipMalformed pattern cursor with
  | case1 => exact reaches_next _
  | case2 => exact reaches_skip _ _
  | case3 _ _ _ ih => exact ih
  | case4 _ _ ih => exact ih
  | case5 => exact .refl _

end Pattern

theorem Rule.reaches_skipMalformed (rule : Rule U) (cursor : Cursor U) :
    cursor.Reaches (rule.skipMalformed cursor).2 := by
  unfold skipMalformed
  split
  · exact Pattern.reaches_skipMalformed _ _
  · exact .refl cursor

end Descent
