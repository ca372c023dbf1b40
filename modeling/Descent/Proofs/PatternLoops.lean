import Descent.Proofs.CursorMotion

/-! The loops of patterns, with no bound on their rounds. Each of them comes to an end, whatever it
matches on the way, and the bound that they are run with never cuts one short. -/

namespace Descent

namespace Cursor

variable {U α : Type} {move : Cursor U → Option (Cursor U)} {visit : Cursor U → Option α}

/-- A loop that takes steps and goes on as long as it moves. -/
inductive Loops (move : Cursor U → Option (Cursor U)) : Cursor U → Cursor U → Prop
  | declined {cursor : Cursor U} (declines : move cursor = none) : Loops move cursor cursor
  | still {cursor after : Cursor U} (moved : move cursor = some after)
    (same : after.position = cursor.position) : Loops move cursor after
  | again {cursor after last : Cursor U} (moved : move cursor = some after)
    (further : after.position ≠ cursor.position) (loops : Loops move after last) :
    Loops move cursor last

/-- A search that goes from place to place until it has an answer or comes to the end. -/
inductive Searches (visit : Cursor U → Option α) : Cursor U → Option α → Prop
  | found {cursor : Cursor U} {answer : α} (visited : visit cursor = some answer) :
    Searches visit cursor (some answer)
  | ended {cursor : Cursor U} (visited : visit cursor = none) (atEnd : cursor.atEnd = true) :
    Searches visit cursor none
  | further {cursor : Cursor U} {answer : Option α} (visited : visit cursor = none)
    (inside : cursor.atEnd = false) (searches : Searches visit cursor.next answer) :
    Searches visit cursor answer

theorem Reaches.eq_of_left {before after : Cursor U} (reaches : before.Reaches after)
    (ended : before.left = 0) : after = before := by
  have last := after.position_le_stop
  rw [reaches.stop] at last
  have here : after.position = before.position := by
    have forward := reaches.position
    unfold left at ended
    omega
  exact Cursor.ext reaches.source here reaches.stop

private theorem loops_advanceWhile
    (forward : ∀ here after, move here = some after → here.Reaches after)
    (cursor : Cursor U) : Loops move cursor (cursor.advanceWhile move) := by
  suffices general : ∀ left (cursor : Cursor U), cursor.left ≤ left →
      Loops move cursor (advanceWhile.go move left cursor) from general _ cursor (Nat.le_refl _)
  intro left
  induction left with
  | zero =>
    intro cursor room
    rw [advanceWhile.go]
    cases moved : move cursor with
    | none => exact .declined moved
    | some after =>
      have same := (forward cursor after moved).eq_of_left (Nat.le_zero.mp room)
      exact .still (same ▸ moved) rfl
  | succ left ih =>
    intro cursor room
    rw [advanceWhile.go]
    cases moved : move cursor with
    | none => exact .declined moved
    | some after =>
      have reaches := forward cursor after moved
      dsimp only
      split
      next same => exact .still moved same
      next further =>
        apply Loops.again moved further
        apply ih
        have stop := reaches.stop
        have onward := reaches.position
        have inside := after.position_le_stop
        unfold Cursor.left at room ⊢
        omega

theorem searches_search (cursor : Cursor U) : Searches visit cursor (cursor.search visit) := by
  suffices general : ∀ left (cursor : Cursor U), cursor.left = left →
      Searches visit cursor (search.go visit left cursor) from general _ cursor rfl
  intro left
  induction left with
  | zero =>
    intro cursor room
    have atEnd : cursor.atEnd = true := by
      unfold Cursor.left at room
      exact decide_eq_true (by omega)
    rw [search.go]
    cases visited : visit cursor with
    | some answer => exact .found visited
    | none => exact .ended visited atEnd
  | succ left ih =>
    intro cursor room
    obtain ⟨inside, -, -, fewer⟩ := Cursor.next_of_left room
    rw [search.go]
    cases visited : visit cursor with
    | some answer => exact .found visited
    | none => exact .further visited (decide_eq_false (Nat.not_le.mpr inside)) (ih _ fewer)

end Cursor

namespace Pattern

variable {U : Type} [CodeUnit U]

/-- What a scan for a needle before a limit answers at a place. -/
def sighting (needle limit : Cursor U → Bool) (here : Cursor U) : Option (MatchResult U) :=
  if needle here then some (.matched here)
  else if limit here then some (.failed .notFound here)
  else none

/-- What the patterns that repeat or scan do at a place is what their loops come to, though what is
matched in a round may be empty. -/
structure LoopsEnd (cursor : Cursor U) : Prop where
  repeated (body : Pattern U) : ∃ after,
    Cursor.Loops (fun here => (body.run here).after?) cursor after ∧
      (Pattern.repeated body).run cursor = .matched after
  upTo (needle : Pattern U) (orEnd : Bool) : ∃ found,
    Cursor.Searches (fun here => (needle.run here).after?) cursor found ∧
      (Pattern.upTo needle orEnd).run cursor = match found with
        | some after => .matched after
        | none => if orEnd then .matched cursor.toEnd else .failed .unexpectedEnd cursor.toEnd
  find (needles limits : List (Pattern U)) : ∃ found,
    Cursor.Searches (sighting (anyMatches needles) (anyMatches limits)) cursor found ∧
      (Pattern.find needles limits).run cursor = found.getD (.failed .notFound cursor.toEnd)
  lookahead (needle limit : Pattern U) : ∃ found,
    Cursor.Searches (sighting needle.matchesAt limit.matchesAt) cursor found ∧
      (Pattern.lookahead needle limit).run cursor =
        if (found.getD (.failed .notFound cursor.toEnd)).isMatched then .matched cursor
        else .failed .notFound cursor

theorem loopsEnd (cursor : Cursor U) : LoopsEnd cursor where
  repeated body := by
    have forward (here after : Cursor U) (moved : (body.run here).after? = some after) :
        here.Reaches after := (forward_run body here).after? moved
    exact ⟨_, Cursor.loops_advanceWhile forward cursor, by rw [run]⟩
  upTo needle orEnd := ⟨_, Cursor.searches_search cursor, run.eq_def ..⟩
  find needles limits := ⟨_, Cursor.searches_search cursor, run.eq_def ..⟩
  lookahead needle limit := ⟨_, Cursor.searches_search cursor, run.eq_def ..⟩

end Pattern
end Descent
