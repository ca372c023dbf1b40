import Descent.Proofs.Halting
import Descent.Proofs.ListConduct
import Descent.Proofs.LiteralReading
import Mathlib.Data.List.Basic
import Mathlib.Data.Set.Basic
import Mathlib.Order.Bounds.Basic

/-! Lists of a literal, with another literal between the items, where no whitespace is skipped. Such
a list takes as many items as the input begins with, also if an item begins with a separator or the
separators are empty. -/

namespace Descent

open Descent.Parser

variable {U σ : Type}

/-- A literal, again and again, with another one between any two. -/
def separated (item separator : List U) (count : Nat) : List (List U) :=
  (List.replicate count item).intersperse separator

/-- More of the literals of a list, after at least one of them. -/
def further (item separator : List U) (count : Nat) : List (List U) :=
  (List.replicate count [separator, item]).flatten

private theorem separated_succ (item separator : List U) (count : Nat) :
    separated item separator (count + 1) = item :: further item separator count := by
  induction count with
  | zero => rfl
  | succ count ih =>
    rw [separated, List.replicate_succ, List.replicate_succ, List.intersperse_cons_cons,
      ← List.replicate_succ]
    change item :: separator :: separated item separator (count + 1) = _
    rw [ih]
    rfl

private theorem further_add (item separator : List U) (count more : Nat) :
    further item separator (count + more) =
      further item separator count ++ further item separator more := by
  rw [further, List.replicate_add, List.flatten_append]
  rfl

private theorem further_succ (item separator : List U) (count : Nat) :
    further item separator (count + 1) = separator :: item :: further item separator count := rfl

private theorem le_length_further {item : List U} (nonempty : item ≠ []) (separator : List U)
    (count : Nat) : count ≤ (further item separator count).flatten.length := by
  have length := List.length_pos_iff.mpr nonempty
  induction count with
  | zero => exact Nat.zero_le _
  | succ count ih =>
    rw [further_succ, List.flatten_cons, List.flatten_cons, List.length_append, List.length_append]
    omega

/-- A text begins with some separated items, and what is left does not begin with one more. -/
theorem exists_further {item : List U} (nonempty : item ≠ []) (separator text : List U) :
    ∃ count rest, text = (further item separator count).flatten ++ rest ∧
      ¬separator ++ item <+: rest := by
  by_cases begins : separator ++ item <+: text
  · obtain ⟨rest, rfl⟩ := begins
    have shorter : rest.length < (separator ++ item ++ rest).length := by
      have length := List.length_pos_iff.mpr nonempty
      simp only [List.length_append]
      omega
    obtain ⟨count, last, same, ends⟩ := exists_further nonempty separator rest
    refine ⟨count + 1, last, ?_, ends⟩
    rw [further_succ, List.flatten_cons, List.flatten_cons, same]
    simp only [List.append_assoc]
  · exact ⟨0, text, rfl, begins⟩
termination_by text.length

/-- No more items can be taken than such a text begins with. -/
theorem isGreatest_of_further {item separator rest : List U} {count : Nat}
    (ends : ¬separator ++ item <+: rest) :
    IsGreatest {many | separator.intercalate (List.replicate many item) <+:
      item ++ ((further item separator count).flatten ++ rest)} (count + 1) := by
  have text (many : Nat) : separator.intercalate (List.replicate (many + 1) item) =
      item ++ (further item separator many).flatten := by
    rw [List.intercalate, ← separated, separated_succ, List.flatten_cons]
  constructor
  · rw [Set.mem_ofPred_eq, text, List.prefix_append_right_inj]
    exact List.prefix_append ..
  · intro many begins
    by_contra exceeds
    obtain ⟨more, rfl⟩ := Nat.exists_eq_add_of_lt (Nat.lt_of_not_le exceeds)
    rw [Set.mem_ofPred_eq, text, List.prefix_append_right_inj, Nat.add_assoc, Nat.add_comm 1,
      further_add, List.flatten_append, List.prefix_append_right_inj, further_succ,
      List.flatten_cons, List.flatten_cons, ← List.append_assoc] at begins
    exact ends ((List.prefix_append ..).trans begins)

private theorem isGreatest_of_not_prefix {item separator text : List U} (other : ¬item <+: text) :
    IsGreatest {many | separator.intercalate (List.replicate many item) <+: text} 0 := by
  constructor
  · exact List.nil_prefix
  · intro many begins
    cases many with
    | zero => exact Nat.le_refl 0
    | succ many =>
      rw [Set.mem_ofPred_eq, List.intercalate, ← separated, separated_succ, List.flatten_cons]
        at begins
      exact absurd ((List.prefix_append ..).trans begins) other

def lexemeOf (first width : Nat) : Value :=
  .lexeme (.between first (first + width))

def itemLexemes (first width gap count : Nat) : List Value :=
  (List.range count).map fun index => lexemeOf (first + index * (width + gap)) width

private theorem itemLexemes_succ (first width gap count : Nat) :
    itemLexemes first width gap (count + 1) =
      lexemeOf first width :: itemLexemes (first + width + gap) width gap count := by
  rw [itemLexemes, List.range_succ_eq_map, List.map_cons, List.map_map, itemLexemes]
  congr 1
  · simp
  · apply List.map_congr_left
    intro index _
    have place : first + (index + 1) * (width + gap) =
        first + width + gap + index * (width + gap) := by
      rw [Nat.succ_mul]
      omega
    simp only [Function.comp_apply, Nat.succ_eq_add_one, place]

variable [CodeUnit U]

def Rule.ofItems (item separator : String) (trailing : Bool) : Rule U :=
  .list (.capture (.literal item)) (some ⟨.literal separator, trailing⟩)

namespace Runner

variable {environment : Environment U σ} {state : State U σ}

section Items

variable (alone : state.scope.whitespace? = none) (item : String)
include alone

/-- A captured literal has one value, its lexeme. -/
theorem gives_acceptCapture_reading {run : Runner U σ}
    (begins : CodeUnit.ofText item <+: state.cursor.remaining)
    (post : Unit → List Value → State U σ → Prop) :
    (run.acceptCapture state.cursor []).Gives environment
        (state.reading environment.observer (CodeUnit.ofText item)) post ↔
      post () [lexemeOf state.cursor.position (CodeUnit.ofText item : List U).length]
        (state.reading environment.observer (CodeUnit.ofText item)) := by
  have still : (state.reading environment.observer (CodeUnit.ofText item)).scope.whitespace? =
    none := alone
  have span := (state.passes_reading_of_begins environment.observer begins).spanTo
  simp only [acceptCapture, gives_bind, gives_cursor, gives_emit, gives_emitAll]
  rw [gives_skipWhitespace_alone still, span]
  rfl

/-- An item that is there is read, and one that is not is declined. -/
theorem gives_attempt_item (fuel : Nat) (post : Attempt → List Value → State U σ → Prop) :
    ((withFuel (fuel + 2)).attempt (.capture (.literal item))).Gives environment state post ↔
      if CodeUnit.ofText item <+: state.cursor.remaining then
        post .accepted [lexemeOf state.cursor.position (CodeUnit.ofText item : List U).length]
          (state.reading environment.observer (CodeUnit.ofText item))
      else post .backtracked [] state := by
  have literal : ∀ post, ((withFuel fuel).attemptToken (.literal item)).Gives environment
      state.withoutWhitespace post ↔ _ :=
    gives_attemptToken_literal state.whitespace?_withoutWhitespace item
  change ((withFuel (fuel + 1)).attemptCapture _).Gives environment state post ↔ _
  simp only [attemptCapture, gives_bind, gives_cursor, gives_collect, gives_withoutWhitespace]
  refine (literal _).trans ?_
  change (if CodeUnit.ofText item <+: state.cursor.remaining then _ else _) ↔ _
  split
  next begins =>
    simp only [Attempt.isAccepted, if_true, gives_bind, gives_pure,
      State.againWithWhitespace_reading]
    exact gives_acceptCapture_reading alone item begins _
  next other =>
    simp [Attempt.isAccepted]
    rfl

private theorem gives_parse_item (fuel : Nat) (post : Bool → List Value → State U σ → Prop)
    (begins : CodeUnit.ofText item <+: state.cursor.remaining) :
    ((withFuel (fuel + 2)).parse (.capture (.literal item))).Gives environment state post ↔
      post true [lexemeOf state.cursor.position (CodeUnit.ofText item : List U).length]
        (state.reading environment.observer (CodeUnit.ofText item)) := by
  have literal : ∀ post, ((withFuel fuel).parseToken (.literal item)).Gives environment
      state.withoutWhitespace post ↔ _ :=
    (gives_literal_of_begins state.whitespace?_withoutWhitespace begins).2
  change ((withFuel (fuel + 1)).parseCapture _).Gives environment state post ↔ _
  simp only [parseCapture, gives_bind, gives_cursor, gives_collect, gives_withoutWhitespace]
  refine (literal _).trans ?_
  simp only [if_true, gives_bind, gives_pure, State.againWithWhitespace_reading]
  exact gives_acceptCapture_reading alone item begins _

omit alone in
private theorem gives_parse_item_of_not_prefix (environment : Environment U σ) (item : String)
    (fuel : Nat) (other : ¬CodeUnit.ofText item <+: state.cursor.remaining) :
    ∃ index, Literal.AgreesUpTo (CodeUnit.ofText item) state.cursor.remaining index ∧
      ∀ post, ((withFuel (fuel + 2)).parse (.capture (.literal item))).Gives environment state
        post ↔ post false [] (stoppedIn environment state item index) := by
  have other : ¬CodeUnit.ofText item <+: state.withoutWhitespace.cursor.remaining := other
  obtain ⟨index, agrees, literal⟩ :=
    gives_parseToken_literal_of_not_prefix (withFuel fuel) environment other
  refine ⟨index, agrees, fun post => ?_⟩
  change ((withFuel (fuel + 1)).parseCapture _).Gives environment state post ↔ _
  simp only [parseCapture, gives_bind, gives_cursor, gives_collect, gives_withoutWhitespace]
  refine (literal _).trans ?_
  simp
  rfl

end Items

omit [CodeUnit U] in
/-- A list makes one value of its items, if the sink makes any. -/
theorem gives_finishList {answer : List (List Value)} {first : List Value} {sink : Sink}
    {run : Runner U σ} {separated : Option (Separator (Rule U))} {rule : Rule U}
    {last : State U σ}
    (gives : (run.restOfList rule separated [first]).Gives environment state
      fun items values after => items = some answer ∧ values = [] ∧ after = last) :
    (run.finishList rule separated sink first).Gives environment state
      fun parsed values after => parsed = true ∧ after = last ∧
        values = if (sink answer).isNothing then [] else [sink answer] := by
  rw [finishList, gives_bind]
  refine gives.mono ?_
  intro items values after ended
  obtain ⟨rfl, rfl, rfl⟩ := ended
  simp only [emitUnlessNothing]
  split <;> simp

section Lists

def afterItems (environment : Environment U σ) (separator : String) (trailing : Bool)
    (state : State U σ) : State U σ :=
  if CodeUnit.ofText separator <+: state.cursor.remaining then
    let after := state.reading environment.observer (CodeUnit.ofText separator)
    if trailing then after
    else
      after.withError environment .unexpectedTrailingSeparator state.cursor.position
        (.between state.cursor.position
          (state.cursor.position + (CodeUnit.ofText separator : List U).length))
  else state

variable (alone : state.scope.whitespace? = none) {item : String}
  (nonempty : (CodeUnit.ofText item : List U) ≠ [])
  (separator : String) (trailing : Bool) (fuel : Nat) (items : List (List Value))
include alone nonempty

omit nonempty in
/-- A round begins with a separator and ends without one. -/
theorem gives_listRound_separator (post : Round (List (List Value)) (Option (List (List Value))) →
      List Value → State U σ → Prop) :
    ((withFuel (fuel + 2)).listRound (.capture (.literal item))
        (some ⟨.literal separator, trailing⟩) items).Gives environment state post ↔
      let middle := state.reading environment.observer (CodeUnit.ofText separator)
      if CodeUnit.ofText separator <+: state.cursor.remaining then
        ((withFuel (fuel + 2)).nextItem (.capture (.literal item)) items state.cursor
          (checkTrailing ⟨.literal separator, trailing⟩
            (state.cursor.spanTo middle.cursor))).Gives environment middle post
      else post (.done (some items)) [] state := by
  simp only [listRound, gives_bind, gives_cursor, gives_quietly]
  rw [gives_attempt_literal_alone alone]
  split <;> simp

/-- A round that finds a separator and an item takes both. -/
theorem gives_listRound_item
    (both : CodeUnit.ofText separator ++ CodeUnit.ofText item <+: state.cursor.remaining) :
    ((withFuel (fuel + 2)).listRound (.capture (.literal item))
        (some ⟨.literal separator, trailing⟩) items).Gives environment state
      fun answer values after => values = [] ∧
        after = state.readingAll environment.observer
          [CodeUnit.ofText separator, CodeUnit.ofText item] ∧
        answer = .again (items ++ [[lexemeOf
          (state.cursor.position + (CodeUnit.ofText separator : List U).length)
          (CodeUnit.ofText item : List U).length]]) := by
  obtain ⟨begins, follows⟩ := (state.append_prefix_iff environment.observer _ _).mp both
  have passes := state.passes_reading_of_begins environment.observer begins
  have more := State.passes_reading_of_begins environment.observer follows
  rw [gives_listRound_separator alone, if_pos begins]
  rw [nextItem, gives_bind, gives_collect, gives_attempt_item (by exact alone), if_pos follows]
  have length := List.length_pos_iff.mpr nonempty
  have moved : ((state.reading environment.observer (CodeUnit.ofText separator)).reading
      environment.observer (CodeUnit.ofText item)).cursor.position ≠ state.cursor.position := by
    rw [more.position, passes.position]
    omega
  simp only [gives_bind, gives_cursor]
  simp [moved, passes.position]
  rfl

omit nonempty in
/-- A round that does not is the last one. -/
theorem gives_listRound_last
    (other : ¬CodeUnit.ofText separator ++ CodeUnit.ofText item <+: state.cursor.remaining) :
    ((withFuel (fuel + 2)).listRound (.capture (.literal item))
        (some ⟨.literal separator, trailing⟩) items).Gives environment state
      fun answer values after => values = [] ∧
        after = afterItems environment separator trailing state ∧ answer = .done (some items) := by
  rw [gives_listRound_separator alone, afterItems]
  by_cases begins : CodeUnit.ofText separator <+: state.cursor.remaining
  · have missing : ¬CodeUnit.ofText item <+: (state.reading environment.observer
        (CodeUnit.ofText separator)).cursor.remaining :=
      fun follows =>
        other ((state.append_prefix_iff environment.observer _ _).mpr ⟨begins, follows⟩)
    have span := (state.passes_reading_of_begins environment.observer begins).spanTo
    rw [if_pos begins, if_pos begins, span]
    rw [nextItem, gives_bind, gives_collect, gives_attempt_item (by exact alone), if_neg missing]
    cases trailing <;> simp [checkTrailing, Span.between]
  · rw [if_neg begins, if_neg begins]
    simp

/-- One round for each item, and then one more. -/
theorem gives_listRounds {count rounds : Nat} {rest : List U}
    (text : state.cursor.remaining =
      (further (CodeUnit.ofText item) (CodeUnit.ofText separator) count).flatten ++ rest)
    (ends : ¬CodeUnit.ofText separator ++ CodeUnit.ofText item <+: rest)
    (enough : count < rounds) :
    (iterate ((withFuel (fuel + 2)).listRound (.capture (.literal item))
        (some ⟨.literal separator, trailing⟩)) rounds items).Gives environment state
      fun answer values after =>
        answer = some (items ++ (itemLexemes
          (state.cursor.position + (CodeUnit.ofText separator : List U).length)
          (CodeUnit.ofText item : List U).length (CodeUnit.ofText separator : List U).length
          count).map fun lexeme => [lexeme]) ∧ values = [] ∧
        after = afterItems environment separator trailing (state.readingAll environment.observer
          (further (CodeUnit.ofText item) (CodeUnit.ofText separator) count)) := by
  induction count generalizing state items rounds with
  | zero =>
    obtain ⟨rounds, rfl⟩ := Nat.exists_eq_succ_of_ne_zero (Nat.ne_zero_of_lt enough)
    rw [gives_iterate_succ]
    have other : ¬CodeUnit.ofText separator ++ CodeUnit.ofText item <+: state.cursor.remaining :=
      text ▸ ends
    refine (gives_listRound_last alone separator trailing fuel items other).mono ?_
    intro answer values after ended
    obtain ⟨rfl, rfl, rfl⟩ := ended
    exact ⟨by simp [itemLexemes], rfl, rfl⟩
  | succ count ih =>
    obtain ⟨rounds, rfl⟩ := Nat.exists_eq_succ_of_ne_zero (Nat.ne_zero_of_lt enough)
    rw [gives_iterate_succ]
    let words : List (List U) := [CodeUnit.ofText separator, CodeUnit.ofText item]
    have here : state.cursor.remaining = words.flatten ++ ((further (CodeUnit.ofText item)
        (CodeUnit.ofText separator) count).flatten ++ rest) := by
      rw [text, further_succ]
      simp [words]
    have both : CodeUnit.ofText separator ++ CodeUnit.ofText item <+: state.cursor.remaining := by
      rw [here]
      simp [words]
    obtain ⟨passes, later⟩ := state.passes_readingAll environment.observer here
    refine (gives_listRound_item alone nonempty separator trailing fuel items both).mono ?_
    intro answer values after taken
    obtain ⟨rfl, rfl, rfl⟩ := taken
    have still : (state.readingAll environment.observer words).scope.whitespace? = none := alone
    refine (ih still _ later (Nat.lt_of_succ_lt_succ enough)).mono ?_
    intro answer values last ended
    obtain ⟨rfl, rfl, rfl⟩ := ended
    refine ⟨?_, rfl, ?_⟩
    · have place : state.cursor.position + words.flatten.length +
          (CodeUnit.ofText separator : List U).length =
            state.cursor.position + (CodeUnit.ofText separator : List U).length +
              (CodeUnit.ofText item : List U).length +
                (CodeUnit.ofText separator : List U).length := by
        simp [words]
        omega
      rw [itemLexemes_succ, passes.position, place]
      simp
    · rw [← State.readingAll_append]
      rfl

private theorem gives_restOfList_literals {count : Nat} {rest : List U}
    (text : state.cursor.remaining =
      (further (CodeUnit.ofText item) (CodeUnit.ofText separator) count).flatten ++ rest)
    (ends : ¬CodeUnit.ofText separator ++ CodeUnit.ofText item <+: rest)
    (enough : state.cursor.left ≤ fuel) :
    ((withFuel (fuel + 2)).restOfList (.capture (.literal item))
        (some ⟨.literal separator, trailing⟩) items).Gives environment state
      fun answer values after =>
        answer = some (items ++ (itemLexemes
          (state.cursor.position + (CodeUnit.ofText separator : List U).length)
          (CodeUnit.ofText item : List U).length (CodeUnit.ofText separator : List U).length
          count).map fun lexeme => [lexeme]) ∧ values = [] ∧
        after = afterItems environment separator trailing (state.readingAll environment.observer
          (further (CodeUnit.ofText item) (CodeUnit.ofText separator) count)) := by
  have room : count < fuel + 2 := by
    have length := congrArg List.length text
    have least := le_length_further nonempty (CodeUnit.ofText separator) count
    rw [List.length_append, Cursor.length_remaining] at length
    omega
  exact gives_listRounds alone nonempty separator trailing fuel items text ends room

end Lists

def TakesItems (environment : Environment U σ) (state : State U σ) (item separator : String)
    (trailing : Bool) (count : Nat) (parsed : Bool) (values : List Value) (last : State U σ) :
    Prop :=
  let units : List U := CodeUnit.ofText item
  let gap : List U := CodeUnit.ofText separator
  if count = 0 then
    parsed = false ∧ values = [] ∧ ∃ index, Literal.AgreesUpTo units state.cursor.remaining index ∧
      last = stoppedIn environment state item index
  else
    let lexemes := itemLexemes state.cursor.position units.length gap.length count
    let value := environment.observer.sink state.scope.profile (lexemes.map fun lexeme => [lexeme])
    parsed = true ∧ values = (if value.isNothing then [] else [value]) ∧
      last = afterItems environment separator trailing
        (state.readingAll environment.observer (separated units gap count))

/-- A list of a literal takes as many items as the input begins with. -/
theorem lists_take_the_maximal_run (alone : state.scope.whitespace? = none) {item : String}
    (nonempty : (CodeUnit.ofText item : List U) ≠ []) (separator : String) (trailing : Bool)
    {fuel : Nat} (enough : state.cursor.left + 3 ≤ fuel) :
    ∃ count, IsGreatest {many | (CodeUnit.ofText separator).intercalate
        (List.replicate many (CodeUnit.ofText item)) <+: state.cursor.remaining} count ∧
      ((withFuel fuel).parse (.ofItems item separator trailing)).Gives environment state
        (TakesItems environment state item separator trailing count) := by
  obtain ⟨spare, rfl⟩ := Nat.exists_eq_add_of_le' enough
  by_cases begins : CodeUnit.ofText item <+: state.cursor.remaining
  · obtain ⟨text, begins⟩ := begins
    obtain ⟨count, rest, rfl, ends⟩ := exists_further nonempty (CodeUnit.ofText separator) text
    refine ⟨count + 1, ?_, ?_⟩
    · rw [← begins]
      exact isGreatest_of_further ends
    · change ((withFuel (spare + state.cursor.left + 2)).parseList _ _).Gives environment state _
      have here : CodeUnit.ofText item <+: state.cursor.remaining := ⟨_, begins⟩
      obtain ⟨passes, later⟩ := state.passes_reading environment.observer begins.symm
      have still : (state.reading environment.observer (CodeUnit.ofText item)).scope.whitespace? =
        none := alone
      have fits : (state.reading environment.observer (CodeUnit.ofText item)).cursor.left ≤
          spare + state.cursor.left := by
        have left := passes.left
        omega
      simp only [parseList, gives_bind, gives_currentSink, gives_collect]
      rw [gives_parse_item alone item _ _ here]
      refine (gives_finishList (gives_restOfList_literals still nonempty separator trailing
        (spare + state.cursor.left) _ later ends fits)).mono ?_
      intro parsed values last finished
      obtain ⟨rfl, rfl, rfl⟩ := finished
      rw [TakesItems, if_neg (Nat.succ_ne_zero count), separated_succ, itemLexemes_succ,
        passes.position]
      exact ⟨rfl, rfl, rfl⟩
  · refine ⟨0, isGreatest_of_not_prefix begins, ?_⟩
    obtain ⟨index, agrees, fails⟩ :=
      gives_parse_item_of_not_prefix environment item (spare + state.cursor.left) begins
    change ((withFuel (spare + state.cursor.left + 2)).parseList _ _).Gives environment state _
    simp only [parseList, gives_bind, gives_currentSink, gives_collect]
    rw [fails]
    rw [gives_pure, TakesItems, if_pos rfl]
    exact ⟨rfl, rfl, index, agrees, rfl⟩

section Examples

def commaItems : Rule Char := .ofItems "a" "," false

def commaItemsState : State Char Unit :=
  soleState commaItems #['a', ',', 'a', ',', 'b']

/-- Two items and a comma after them, which is an error. -/
theorem two_items_before_stray_comma :
    ((withFuel 8).parse commaItems).Gives (soleEnvironment commaItems) commaItemsState
      fun parsed values last => parsed = true ∧
        values = [.list [.lexeme (.between 0 1), .lexeme (.between 2 3)]] ∧
        last.cursor.position = 4 ∧ last.report.statistics.errors = 1 := by
  have alone : commaItemsState.scope.whitespace? = none := rfl
  have nonempty : (CodeUnit.ofText "a" : List Char) ≠ [] := by decide
  have enough : commaItemsState.cursor.left + 3 ≤ 8 := by decide
  obtain ⟨count, greatest, takes⟩ := lists_take_the_maximal_run alone nonempty "," false enough
  have ends : ¬[','] ++ ['a'] <+: [',', 'b'] := by decide
  have two : IsGreatest _ 2 := isGreatest_of_further ends
  have same : count = 2 := greatest.unique two
  subst same
  refine takes.mono ?_
  intro parsed values last taken
  obtain ⟨accepted, produced, rfl⟩ := taken
  exact ⟨accepted, produced, by decide, by decide⟩

end Examples

end Runner
end Descent
