import Descent.Proofs.CursorMotion
import Mathlib.Data.List.Forall2
import Mathlib.Data.Option.Basic

/-! Two sources side by side. Where they have the same units at places that correspond, matching,
skipping and searching answer alike, and end at places that correspond. -/

namespace Descent

/-- Two sources that have the same units at the places that correspond: those that become the same
number when each is shifted. -/
structure Alignment (U : Type) where
  source : Array U
  other : Array U
  shift : Nat
  otherShift : Nat
  same {place place' : Nat} : place + shift = place' + otherShift → place < source.size →
    place' < other.size → source[place]? = other[place']?

namespace Alignment

variable {U : Type} (alignment : Alignment U)

def whole (source : Array U) : Alignment U where
  source := source
  other := source
  shift := 0
  otherShift := 0
  same same _ _ := by rw [Nat.add_right_cancel same]

def part (source : Array U) (first stop : Nat) : Alignment U where
  source := source
  other := source.extract first stop
  shift := 0
  otherShift := first
  same {place place'} same _ inside := by
    rw [Array.size_extract] at inside
    rw [Array.getElem?_extract, if_pos (by omega), ← show place = first + place' by omega]

def symm : Alignment U where
  source := alignment.other
  other := alignment.source
  shift := alignment.otherShift
  otherShift := alignment.shift
  same same inside inside' := (alignment.same same.symm inside' inside).symm

/-- There is nothing between a source and itself. -/
structure IsWhole : Prop where
  source : alignment.other = alignment.source
  shift : alignment.otherShift = alignment.shift

theorem isWhole_whole (source : Array U) : (whole source).IsWhole := ⟨rfl, rfl⟩

abbrev Places (position position' : Nat) : Prop :=
  position + alignment.shift = position' + alignment.otherShift

structure Spans (span span' : Span) : Prop where
  first : alignment.Places span.first span'.first
  stop : alignment.Places span.stop span'.stop

structure Cursors (cursor cursor' : Cursor U) : Prop where
  source : cursor.source = alignment.source
  other : cursor'.source = alignment.other
  position : alignment.Places cursor.position cursor'.position
  stop : alignment.Places cursor.stop cursor'.stop

/-- Matches that end alike, and failures for the same reason. -/
inductive Results : MatchResult U → MatchResult U → Prop
  | matched {after after' : Cursor U} (ends : alignment.Cursors after after') :
    Results (.matched after) (.matched after')
  | failed (failure : MatchFailure) {stopped stopped' : Cursor U}
      (ends : alignment.Cursors stopped stopped') :
    Results (.failed failure stopped) (.failed failure stopped')

def Found {α : Type} (entry entry' : α × Cursor U) : Prop :=
  entry.1 = entry'.1 ∧ alignment.Cursors entry.2 entry'.2

variable {alignment} {cursor cursor' after after' : Cursor U} {span span' : Span}

theorem spans_empty {position position' : Nat} (here : alignment.Places position position') :
    alignment.Spans (.empty position) (.empty position') :=
  ⟨here, here⟩

theorem spans_between {first first' stop stop' : Nat} (begins : alignment.Places first first')
    (ends : alignment.Places stop stop') :
    alignment.Spans (.between first stop) (.between first' stop') := by
  refine ⟨begins, ?_⟩
  rw [Span.stop_between, Span.stop_between]
  omega

namespace IsWhole

variable (isWhole : alignment.IsWhole)
include isWhole

theorem places {position position' : Nat} (here : alignment.Places position position') :
    position' = position := by
  rw [Places, isWhole.shift] at here
  exact (Nat.add_right_cancel here).symm

theorem spans (spans : alignment.Spans span span') : span' = span := by
  obtain ⟨first, stop, ordered⟩ := span
  obtain ⟨first', stop', ordered'⟩ := span'
  cases isWhole.places spans.first
  cases isWhole.places spans.stop
  rfl

theorem cursors (here : alignment.Cursors cursor cursor') : cursor' = cursor := by
  apply Cursor.ext
  · rw [here.other, here.source, isWhole.source]
  · exact isWhole.places here.position
  · exact isWhole.places here.stop

end IsWhole

theorem cursors_whole (cursor : Cursor U) : (whole cursor.source).Cursors cursor cursor :=
  ⟨rfl, rfl, rfl, rfl⟩

theorem cursors_of_eq (same : cursor' = cursor) : (whole cursor.source).Cursors cursor cursor' :=
  same ▸ cursors_whole cursor

namespace Cursors

theorem symm (here : alignment.Cursors cursor cursor') : alignment.symm.Cursors cursor' cursor :=
  ⟨here.other, here.source, here.position.symm, here.stop.symm⟩

variable (here : alignment.Cursors cursor cursor')
include here

theorem left : cursor.left = cursor'.left := by
  have position := here.position
  have stop := here.stop
  unfold Cursor.left
  omega

theorem atEnd : cursor.atEnd = cursor'.atEnd := by
  have position := here.position
  have stop := here.stop
  unfold Cursor.atEnd
  congr 1
  rw [eq_iff_iff]
  omega

theorem peek : cursor.peek = cursor'.peek := by
  have position := here.position
  have stop := here.stop
  have inside := cursor.stop_le_size
  have inside' := cursor'.stop_le_size
  unfold Cursor.peek
  split
  next more =>
    rw [dif_pos (by omega), ← Array.getElem?_eq_getElem, ← Array.getElem?_eq_getElem]
    rw [here.source] at inside ⊢
    rw [here.other] at inside' ⊢
    exact alignment.same position (by omega) (by omega)
  next finished => rw [dif_neg (by omega)]

theorem next : alignment.Cursors cursor.next cursor'.next := by
  have position := here.position
  have stop := here.stop
  unfold Cursor.next
  split
  next more =>
    rw [dif_pos (by omega)]
    exact ⟨here.source, here.other, by dsimp only; omega, stop⟩
  next finished =>
    rw [dif_neg (by omega)]
    exact here

theorem toEnd : alignment.Cursors cursor.toEnd cursor'.toEnd :=
  ⟨here.source, here.other, here.stop, here.stop⟩

theorem position_beq (ends : alignment.Cursors after after') :
    (after.position == cursor.position) = (after'.position == cursor'.position) := by
  have position := here.position
  have position' := ends.position
  rw [Bool.eq_iff_iff, beq_iff_eq, beq_iff_eq]
  omega

theorem spanTo (ends : alignment.Cursors after after') :
    alignment.Spans (cursor.spanTo after) (cursor'.spanTo after') :=
  spans_between here.position ends.position

theorem stop_spanTo_le (ends : alignment.Cursors after after') :
    (cursor.spanTo after).stop ≤ alignment.source.size := by
  have before := Nat.le_trans cursor.position_le_stop cursor.stop_le_size
  have read := Nat.le_trans after.position_le_stop after.stop_le_size
  rw [here.source] at before
  rw [ends.source] at read
  exact Nat.max_le.mpr ⟨before, read⟩

/-- What was read is the same on both sides. -/
theorem extract_spanTo (ends : alignment.Cursors after after') :
    alignment.source.extract (cursor.spanTo after).first (cursor.spanTo after).stop =
      alignment.other.extract (cursor'.spanTo after').first (cursor'.spanTo after').stop := by
  have spans := here.spanTo ends
  have first := spans.first
  have stop := spans.stop
  have inside := here.stop_spanTo_le ends
  have inside' : (cursor'.spanTo after').stop ≤ alignment.other.size :=
    here.symm.stop_spanTo_le ends.symm
  apply Array.ext_getElem?
  intro index
  rw [Array.getElem?_extract, Array.getElem?_extract]
  by_cases covered : index < (cursor.spanTo after).stop - (cursor.spanTo after).first
  · rw [if_pos (by omega), if_pos (by omega)]
    exact alignment.same (by omega) (by omega) (by omega)
  · rw [if_neg (by omega), if_neg (by omega)]

theorem slice_spanTo (ends : alignment.Cursors after after') :
    after.slice (cursor.spanTo after) = after'.slice (cursor'.spanTo after') := by
  rw [Cursor.slice, Cursor.slice, ends.source, ends.other, here.extract_spanTo ends]

end Cursors

end Alignment
end Descent
