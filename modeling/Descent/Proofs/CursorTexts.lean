import Descent.Pattern.Basic
import Descent.Value.Basic

/-! Cursors given by the text before them and the text to come, and how matching goes on with the
text to come. -/

namespace Descent

variable {U : Type}

namespace Cursor

/-- The place between two texts that make up the source. -/
def between (before rest : List U) : Cursor U where
  source := (before ++ rest).toArray
  position := before.length
  stop := (before ++ rest).length
  position_le_stop := by rw [List.length_append]; omega
  stop_le_size := Nat.le_of_eq List.size_toArray.symm

@[simp] theorem position_between (before rest : List U) :
    (between before rest).position = before.length := rfl

theorem start_eq_between (units : List U) : start units.toArray = between [] units := rfl

@[simp] theorem left_between (before rest : List U) : (between before rest).left = rest.length := by
  simp [left, between]

@[simp] theorem peek_between (before rest : List U) : (between before rest).peek = rest.head? := by
  cases rest with
  | nil => simp [peek, between]
  | cons unit rest => simp [peek, between]

@[simp] theorem next_between (before rest : List U) (unit : U) :
    (between before (unit :: rest)).next = between (before ++ [unit]) rest := by
  apply Cursor.ext <;> simp [next, between]

private theorem spanTo_between (before middle rest : List U) :
    (between before (middle ++ rest)).spanTo (between (before ++ middle) rest) =
      ⟨before.length, (before ++ middle).length, by rw [List.length_append]; omega⟩ := by
  simp [spanTo, Span.between]

/-- What was read is the text in between. -/
theorem slice_spanTo_between (before middle rest : List U) :
    (between (before ++ middle) rest).slice
      ((between before (middle ++ rest)).spanTo (between (before ++ middle) rest)) = middle := by
  rw [spanTo_between]
  simp [slice, between]

@[simp] theorem length_remaining (cursor : Cursor U) : cursor.remaining.length = cursor.left := by
  have inside := cursor.stop_le_size
  simp only [remaining, left, Array.length_toList, Array.size_extract]
  omega

/-- What is left to read is the next unit and what is left after it. -/
theorem remaining_of_peek {cursor : Cursor U} {unit : U} (found : cursor.peek = some unit) :
    cursor.remaining = unit :: cursor.next.remaining := by
  unfold peek at found
  split at found
  next inside =>
    cases found
    have within : cursor.position < cursor.source.toList.length := by
      have bound := cursor.stop_le_size
      rw [Array.length_toList]
      omega
    have one : cursor.stop - cursor.position = cursor.stop - (cursor.position + 1) + 1 := by omega
    simp [remaining, next, inside, List.drop_eq_getElem_cons within, one]
  · cases found

theorem remaining_of_end {cursor : Cursor U} (ended : cursor.peek = none) :
    cursor.remaining = [] := by
  unfold peek at ended
  split at ended
  · cases ended
  next outside =>
    have none : cursor.stop - cursor.position = 0 := by omega
    simp [remaining, none]

theorem left_next {cursor : Cursor U} {unit : U} (found : cursor.peek = some unit) :
    cursor.left = cursor.next.left + 1 := by
  unfold peek at found
  split at found
  next inside =>
    simp only [left, next, dif_pos inside]
    omega
  · cases found

theorem moveTo_position (cursor : Cursor U) : cursor.moveTo cursor.position = cursor :=
  Cursor.ext rfl (Nat.min_eq_left cursor.position_le_stop) rfl

theorem next_moveTo {cursor : Cursor U} {unit : U} (found : cursor.peek = some unit) (more : Nat) :
    cursor.next.moveTo (cursor.next.position + more) =
      cursor.moveTo (cursor.position + (more + 1)) := by
  unfold peek at found
  split at found
  next inside =>
    have far : cursor.position + 1 + more = cursor.position + (more + 1) := by omega
    simp only [moveTo, next, dif_pos inside, far]
  · cases found

variable {before middle after : Cursor U} {word more : List U}

/-- From one place of a view to a later one, with the units in between. -/
structure Passes (before : Cursor U) (word : List U) (after : Cursor U) : Prop where
  source : after.source = before.source
  stop : after.stop = before.stop
  position : after.position = before.position + word.length
  remaining : before.remaining = word ++ after.remaining

theorem peek_eq_head? (cursor : Cursor U) : cursor.peek = cursor.remaining.head? := by
  cases found : cursor.peek with
  | none => rw [remaining_of_end found, List.head?_nil]
  | some unit => rw [remaining_of_peek found, List.head?_cons]

namespace Passes

protected theorem nil (cursor : Cursor U) : cursor.Passes [] cursor :=
  ⟨rfl, rfl, rfl, rfl⟩

theorem next {unit : U} {rest : List U} (text : before.remaining = unit :: rest) :
    before.Passes [unit] before.next := by
  have found : before.peek = some unit := by rw [peek_eq_head?, text, List.head?_cons]
  have inside : before.position < before.stop := by
    unfold peek at found
    split at found
    · assumption
    · cases found
  refine ⟨?_, ?_, ?_, remaining_of_peek found⟩ <;> rw [Cursor.next, dif_pos inside]
  rfl

protected theorem trans (first : before.Passes word middle) (second : middle.Passes more after) :
    before.Passes (word ++ more) after where
  source := second.source.trans first.source
  stop := second.stop.trans first.stop
  position := by rw [second.position, first.position, List.length_append, Nat.add_assoc]
  remaining := by rw [first.remaining, second.remaining, List.append_assoc]

/-- A word ends at one place. -/
theorem unique (first : before.Passes word middle) (second : before.Passes word after) :
    middle = after :=
  Cursor.ext (first.source.trans second.source.symm) (first.position.trans second.position.symm)
    (first.stop.trans second.stop.symm)

theorem left (passes : before.Passes word after) : before.left = word.length + after.left := by
  have length := congrArg List.length passes.remaining
  rwa [List.length_append, length_remaining, length_remaining] at length

/-- The units of a word are passed one by one. -/
theorem of_remaining {rest : List U} (text : before.remaining = word ++ rest) :
    ∃ after, before.Passes word after ∧ after.remaining = rest := by
  induction word generalizing before with
  | nil => exact ⟨before, .nil before, text⟩
  | cons unit word ih =>
    have first : before.Passes [unit] before.next := next text
    have same : before.next.remaining = word ++ rest := by
      rw [first.remaining] at text
      exact (List.cons.inj text).2
    obtain ⟨after, passes, ends⟩ := ih same
    exact ⟨after, first.trans passes, ends⟩

theorem tail {unit : U} (passes : before.Passes (unit :: word) after) :
    before.next.Passes word after := by
  have first : before.Passes [unit] before.next := next passes.remaining
  have same : before.next.remaining = word ++ after.remaining := by
    have text := passes.remaining
    rw [first.remaining] at text
    exact (List.cons.inj text).2
  obtain ⟨other, rest, -⟩ := of_remaining same
  rwa [← unique (first.trans rest) passes]

theorem spanTo (passes : before.Passes word after) :
    before.spanTo after = .between before.position (before.position + word.length) := by
  rw [Cursor.spanTo, passes.position]

/-- What was read is the word. -/
theorem slice (passes : before.Passes word after) :
    after.slice (before.spanTo after) = word := by
  have length : word.length = after.position - before.position := by
    rw [passes.position, Nat.add_sub_cancel_left]
  have order : before.position ≤ after.position := passes.position ▸ Nat.le_add_right ..
  have inside : after.position ≤ before.stop := passes.stop ▸ after.position_le_stop
  have text : word = before.remaining.take (after.position - before.position) := by
    rw [passes.remaining, ← length, List.take_left]
  rw [text]
  simp only [Cursor.slice, Cursor.spanTo, Span.between, Cursor.remaining, passes.source,
    Nat.max_eq_right order, Array.toList_extract, List.extract_eq_take_drop, List.take_take]
  rw [Nat.min_eq_left (by omega)]

end Passes

end Cursor

open Cursor

variable [CodeUnit U]

namespace Literal

theorem run_between {literal : Literal U} (before rest : List U) :
    literal.run (between before (literal.units ++ rest)) =
      .matched (between (before ++ literal.units) rest) := by
  suffices general : ∀ (units before : List U) (index : Nat),
      runFrom literal.foldCase index (between before (units ++ rest)) units =
        .matched (between (before ++ units) rest) from general _ _ _
  intro units
  induction units with
  | nil => intro before index; simp [runFrom]
  | cons unit units ih =>
    intro before index
    simpa [runFrom, sameUnit] using ih (before ++ [unit]) (index + 1)

/-- A literal that begins with another unit fails at once. -/
theorem run_between_of_head {literal : Literal U} (exact : literal.foldCase = false)
    (nonempty : literal.units ≠ []) (before : List U) {rest : List U}
    (other : rest.head? ≠ literal.units.head?) :
    literal.run (between before rest) = .failed (.literalMismatch 0) (between before rest) := by
  obtain ⟨units, text, foldCase⟩ := literal
  cases units with
  | nil => exact absurd rfl nonempty
  | cons unit units =>
    cases exact
    have differs : rest.head?.any (sameUnit false unit) = false := by
      cases rest with
      | nil => rfl
      | cons next rest =>
        have unequal : unit ≠ next := fun same => other (congrArg some same.symm)
        simp [sameUnit, unequal]
    simp [run, runFrom, differs]

end Literal

namespace DigitRun

variable (radix : Radix)

/-- A run of digits goes as far as there are digits. -/
theorem run_between {units rest : List U} (some_digits : units ≠ [])
    (digits : ∀ unit ∈ units, radix.isDigit (CodeUnit.value unit) = true)
    (ends : rest.head?.any (fun unit => radix.isDigit (CodeUnit.value unit)) = false)
    (before : List U) :
    (ofRadix radix).run (between before (units ++ rest)) =
      .matched (between (before ++ units) rest) := by
  obtain ⟨first, units, rfl⟩ := List.exists_cons_of_ne_nil some_digits
  have here : radix.isDigit (CodeUnit.value first) = true := digits first List.mem_cons_self
  have later : ∀ unit ∈ units, radix.isDigit (CodeUnit.value unit) = true :=
    fun unit member => digits unit (.tail _ member)
  suffices general : ∀ (units before : List U),
      (∀ unit ∈ units, radix.isDigit (CodeUnit.value unit) = true) →
      runRest.go (ofRadix radix) (units ++ rest).length (between before (units ++ rest)) =
        .matched (between (before ++ units) rest) by
    simpa [run, runRest, digitAt, ofRadix, here] using general units (before ++ [first]) later
  intro units
  induction units with
  | nil =>
    intro before _
    cases rest with
    | nil => simp [runRest.go]
    | cons unit rest =>
      have ends : radix.isDigit (CodeUnit.value unit) = false := by simpa using ends
      simp [runRest.go, separatorAt, isSeparator, digitAt, ofRadix, ends]
  | cons unit units ih =>
    intro before digits
    have here : radix.isDigit (CodeUnit.value unit) = true := digits unit List.mem_cons_self
    have go := ih (before ++ [unit]) fun other member => digits other (.tail _ member)
    simpa [runRest.go, separatorAt, isSeparator, digitAt, ofRadix, here] using go

theorem run_between_of_head {rest : List U}
    (other : rest.head?.any (fun unit => radix.isDigit (CodeUnit.value unit)) = false)
    (before : List U) :
    (ofRadix radix).run (between before rest) = .failed .expectedDigit (between before rest) := by
  simp [run, digitAt, ofRadix, other]

end DigitRun

namespace Pattern

theorem runOneOf_between {members : UnitClass} {unit : U} (accepted : members.accepts unit = true)
    (before rest : List U) :
    runOneOf members (between before (unit :: rest)) =
      .matched (between (before ++ [unit]) rest) := by
  simp [runOneOf, accepted]

theorem runOneOf_between_of_head {members : UnitClass} {rest : List U}
    (other : rest.head?.any members.accepts = false) (before : List U) :
    ∃ failure, runOneOf members (between before rest) = .failed failure (between before rest) := by
  cases rest with
  | nil => exact ⟨.unexpectedEnd, by simp [runOneOf]⟩
  | cons unit rest =>
    have rejected : members.accepts unit = false := by simpa using other
    exact ⟨.mismatch, by simp [runOneOf, rejected]⟩

end Pattern
end Descent
