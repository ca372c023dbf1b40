import Descent.Proofs.Alignment

/-! Matching in two sources side by side. Whatever looks at the units from a place on, and at
nothing else, answers alike at places that correspond. -/

namespace Descent

open Cursor MatchResult

namespace Alignment

variable {U : Type} {alignment : Alignment U} {cursor cursor' after after' : Cursor U}

namespace Cursors

theorem search {α α' : Type} {answers : α → α' → Prop} {visit : Cursor U → Option α}
    {visit' : Cursor U → Option α'} (here : alignment.Cursors cursor cursor')
    (visits : ∀ {cursor cursor'}, alignment.Cursors cursor cursor' →
      Option.Rel answers (visit cursor) (visit' cursor')) :
    Option.Rel answers (cursor.search visit) (cursor'.search visit') := by
  unfold Cursor.search
  rw [← here.left]
  generalize cursor.left = left
  induction left generalizing cursor cursor' with
  | zero => exact visits here
  | succ left ih =>
    have visited := visits here
    rw [search.go, search.go]
    generalize visit cursor = answer, visit' cursor' = answer' at visited ⊢
    cases visited with
    | some same => exact .some same
    | none => exact ih here.next

theorem advanceWhile {move move' : Cursor U → Option (Cursor U)}
    (here : alignment.Cursors cursor cursor')
    (moves : ∀ {cursor cursor'}, alignment.Cursors cursor cursor' →
      Option.Rel alignment.Cursors (move cursor) (move' cursor')) :
    alignment.Cursors (cursor.advanceWhile move) (cursor'.advanceWhile move') := by
  unfold Cursor.advanceWhile
  rw [← here.left]
  generalize cursor.left = left
  induction left generalizing cursor cursor' with
  | zero => exact here
  | succ left ih =>
    have moved := moves here
    rw [advanceWhile.go, advanceWhile.go]
    generalize move cursor = found, move' cursor' = found' at moved ⊢
    cases moved with
    | none => exact here
    | some ends =>
      have position := here.position
      have position' := ends.position
      dsimp only
      split
      · rw [if_pos (by omega)]
        exact ends
      · rw [if_neg (by omega)]
        exact ih ends

theorem skip (here : alignment.Cursors cursor cursor') (test : U → Bool) :
    alignment.Cursors (cursor.skip test) (cursor'.skip test) := by
  refine here.advanceWhile fun here => ?_
  rw [← here.peek]
  split
  · exact .some here.next
  · exact .none

/-- What was read, as a view of its own. -/
theorem window (here : alignment.Cursors cursor cursor') (ends : alignment.Cursors after after') :
    alignment.Cursors (after.window (cursor.spanTo after))
      (after'.window (cursor'.spanTo after')) := by
  have spans := here.spanTo ends
  have first := spans.first
  have stop := spans.stop
  have inside : (cursor.spanTo after).stop ≤ after.source.size := by
    rw [ends.source]
    exact here.stop_spanTo_le ends
  have inside' : (cursor'.spanTo after').stop ≤ after'.source.size := by
    rw [ends.other]
    exact here.symm.stop_spanTo_le ends.symm
  have ordered := (cursor.spanTo after).first_le_stop
  have ordered' := (cursor'.spanTo after').first_le_stop
  refine ⟨ends.source, ends.other, ?_, ?_⟩
  · simp only [Cursor.window]
    omega
  · simp only [Cursor.window]
    omega

end Cursors

namespace Results

variable {result result' : MatchResult U}

theorem isMatched (results : alignment.Results result result') :
    result.isMatched = result'.isMatched := by
  cases results <;> rfl

theorem after? (results : alignment.Results result result') :
    Option.Rel alignment.Cursors result.after? result'.after? := by
  cases results with
  | matched ends => exact .some ends
  | failed failure ends => exact .none

end Results

private theorem results_seek {needle limit needle' limit' : Cursor U → Bool}
    (needles : ∀ {cursor cursor'}, alignment.Cursors cursor cursor' →
      needle cursor = needle' cursor')
    (limits : ∀ {cursor cursor'}, alignment.Cursors cursor cursor' →
      limit cursor = limit' cursor') (here : alignment.Cursors cursor cursor') :
    alignment.Results (Matcher.seek needle limit cursor) (Matcher.seek needle' limit' cursor') := by
  have found : Option.Rel alignment.Results
      (cursor.search fun here => if needle here then some (.matched here)
        else if limit here then some (.failed .notFound here) else none)
      (cursor'.search fun here => if needle' here then some (.matched here)
        else if limit' here then some (.failed .notFound here) else none) := by
    refine here.search fun here => ?_
    rw [← needles here, ← limits here]
    split
    · exact .some (.matched here)
    · split
      · exact .some (.failed _ here)
      · exact .none
  unfold Matcher.seek
  dsimp only
  generalize cursor.search _ = answer, cursor'.search _ = answer' at found ⊢
  cases found with
  | some results => exact results
  | none => exact .failed _ here.toEnd

variable [CodeUnit U]

private theorem results_literal (literal : Literal U) (here : alignment.Cursors cursor cursor') :
    alignment.Results (literal.run cursor) (literal.run cursor') := by
  suffices general : ∀ (units : List U) (index : Nat) {cursor cursor' : Cursor U},
      alignment.Cursors cursor cursor' →
        alignment.Results (Literal.runFrom literal.foldCase index cursor units)
          (Literal.runFrom literal.foldCase index cursor' units) from general _ _ here
  intro units
  induction units with
  | nil => exact fun _ _ _ here => .matched here
  | cons unit rest ih =>
    intro index cursor cursor' here
    rw [Literal.runFrom, Literal.runFrom, ← here.peek]
    split
    · exact ih _ here.next
    · exact .failed _ here

theorem results_identifier (shape : IdentifierShape) (here : alignment.Cursors cursor cursor') :
    alignment.Results (shape.run cursor) (shape.run cursor') := by
  rw [IdentifierShape.run, IdentifierShape.run, ← here.peek]
  split
  · exact .matched (here.next.skip _)
  · exact .failed _ here

private theorem results_keyword (shape : IdentifierShape) (keyword : Literal U)
    (here : alignment.Cursors cursor cursor') :
    alignment.Results (shape.runKeyword keyword cursor) (shape.runKeyword keyword cursor') := by
  have results := results_identifier shape here
  rw [IdentifierShape.runKeyword, IdentifierShape.runKeyword]
  generalize shape.run cursor = result, shape.run cursor' = result' at results ⊢
  cases results with
  | failed failure ends => exact .failed _ ends
  | matched ends =>
    dsimp only
    rw [here.slice_spanTo ends]
    split
    · exact .matched ends
    · exact .failed _ ends

section Digits

variable (digits : DigitRun)

theorem digitAt_eq (here : alignment.Cursors cursor cursor') :
    digits.digitAt cursor = digits.digitAt cursor' := by
  rw [DigitRun.digitAt, DigitRun.digitAt, here.peek]

theorem separatorAt_eq (here : alignment.Cursors cursor cursor') :
    digits.separatorAt cursor = digits.separatorAt cursor' := by
  rw [DigitRun.separatorAt, DigitRun.separatorAt, here.peek]

private theorem results_digitsRest (here : alignment.Cursors cursor cursor') :
    alignment.Results (digits.runRest cursor) (digits.runRest cursor') := by
  unfold DigitRun.runRest
  rw [← here.left]
  generalize cursor.left = left
  induction left generalizing cursor cursor' with
  | zero => exact .matched here
  | succ left ih =>
    rw [DigitRun.runRest.go, DigitRun.runRest.go, ← separatorAt_eq digits here,
      ← digitAt_eq digits here, ← digitAt_eq digits here.next]
    split
    · split
      · exact ih here.next.next
      · exact .failed _ here.next
    · split
      · exact ih here.next
      · exact .matched here

theorem results_digits (here : alignment.Cursors cursor cursor') :
    alignment.Results (digits.run cursor) (digits.run cursor') := by
  rw [DigitRun.run, DigitRun.run, ← digitAt_eq digits here, ← digitAt_eq digits here.next,
    ← separatorAt_eq digits here.next, ← here.peek]
  split
  · exact .failed _ here
  · split
    · split
      · exact .failed _ here.next
      · exact .matched here.next
    · exact results_digitsRest digits here.next

theorem convert_eq (type : IntegerType) (negative : Bool)
    (here : alignment.Cursors cursor cursor') (ends : alignment.Cursors after after') :
    digits.convert type negative after (cursor.spanTo after) =
      digits.convert type negative after' (cursor'.spanTo after') := by
  rw [DigitRun.convert, DigitRun.convert, here.slice_spanTo ends]

private theorem results_digitCount (digits : DigitCount) (here : alignment.Cursors cursor cursor') :
    alignment.Results (digits.run cursor) (digits.run cursor') := by
  unfold DigitCount.run
  generalize digits.count = count
  induction count generalizing cursor cursor' with
  | zero => exact .matched here
  | succ count ih =>
    rw [DigitCount.run.go, DigitCount.run.go, ← here.peek]
    split
    · exact .failed _ here
    · split
      · exact ih here.next
      · exact .failed _ here

theorem found_codePoint (digits : DigitCount) (here : alignment.Cursors cursor cursor') :
    alignment.Found (digits.readCodePoint cursor) (digits.readCodePoint cursor') := by
  have results := results_digitCount digits here
  rw [DigitCount.readCodePoint, DigitCount.readCodePoint]
  generalize digits.run cursor = result, digits.run cursor' = result' at results ⊢
  cases results with
  | failed failure ends => exact ⟨rfl, ends⟩
  | matched ends =>
    dsimp only
    rw [here.slice_spanTo ends]
    split
    · exact ⟨rfl, ends⟩
    · exact ⟨rfl, ends⟩

end Digits

private theorem found_trie (trie : Trie U) (here : alignment.Cursors cursor cursor') :
    Option.Rel alignment.Found (trie.longest cursor) (trie.longest cursor') := by
  suffices general : ∀ (left index : Nat) {cursor cursor' : Cursor U}
      {best best' : Option (Nat × Cursor U)}, alignment.Cursors cursor cursor' →
        Option.Rel alignment.Found best best' →
          Option.Rel alignment.Found (Trie.longest.go trie left index cursor best)
            (Trie.longest.go trie left index cursor' best') by
    unfold Trie.longest
    rw [← here.left]
    exact general _ _ here .none
  intro left
  induction left with
  | zero =>
    intro index cursor cursor' best best' here found
    rw [Trie.longest.go, Trie.longest.go]
    cases Trie.stored trie.nodes index with
    | none => exact found
    | some number => exact .some ⟨rfl, here⟩
  | succ left ih =>
    intro index cursor cursor' best best' here found
    have stored (number : Nat) : Option.Rel alignment.Found (some (number, cursor))
        (some (number, cursor')) := .some ⟨rfl, here⟩
    rw [Trie.longest.go, Trie.longest.go, ← here.peek]
    cases Trie.stored trie.nodes index with
    | none =>
      cases cursor.peek.bind (Trie.child trie.nodes index) with
      | none => exact found
      | some next => exact ih next here.next found
    | some number =>
      cases cursor.peek.bind (Trie.child trie.nodes index) with
      | none => exact stored number
      | some next => exact ih next here.next (stored number)

omit [CodeUnit U] in
/-- What is looked up by the number of a match is found at the same place. -/
theorem found_value {α : Type} (valueOf : Nat → Option α)
    {entry entry' : Option (Nat × Cursor U)} (found : Option.Rel alignment.Found entry entry') :
    Option.Rel alignment.Found
      (entry.bind fun (index, after) => (valueOf index).map fun value => (value, after))
      (entry'.bind fun (index, after) => (valueOf index).map fun value => (value, after)) := by
  cases found with
  | none => exact .none
  | @some entry entry' same =>
    obtain ⟨index, after⟩ := entry
    obtain ⟨index', after'⟩ := entry'
    obtain ⟨rfl, ends⟩ := same
    simp only [Option.bind_some]
    cases valueOf index with
    | none => exact .none
    | some value => exact .some ⟨rfl, ends⟩

theorem found_symbol (table : SymbolTable U) (here : alignment.Cursors cursor cursor') :
    Option.Rel alignment.Found (table.longest cursor) (table.longest cursor') :=
  found_value (fun index => table.values[index]?) (found_trie table.keys here)

section Patterns

private theorem results_oneOf (members : UnitClass) (here : alignment.Cursors cursor cursor') :
    alignment.Results (Pattern.runOneOf members cursor) (Pattern.runOneOf members cursor') := by
  rw [Pattern.runOneOf, Pattern.runOneOf, ← here.peek]
  split
  · exact .failed _ here
  · split
    · exact .matched here.next
    · exact .failed _ here

private theorem results_strings (keys : Trie U) (here : alignment.Cursors cursor cursor') :
    alignment.Results (Pattern.runStrings keys cursor) (Pattern.runStrings keys cursor') := by
  have found := found_trie keys here
  rw [Pattern.runStrings, Pattern.runStrings]
  generalize keys.longest cursor = entry, keys.longest cursor' = entry' at found ⊢
  cases found with
  | none => exact .failed _ here
  | some same => exact .matched same.2

private theorem found_string (keys : Trie U) (order : List Nat)
    (here : alignment.Cursors cursor cursor') :
    Option.Rel alignment.Found (Pattern.bestString keys order cursor)
      (Pattern.bestString keys order cursor') :=
  found_value (fun number => order[number]?) (found_trie keys here)

private theorem results_newline (here : alignment.Cursors cursor cursor') :
    alignment.Results (Pattern.runNewline cursor) (Pattern.runNewline cursor') := by
  rw [Pattern.runNewline, Pattern.runNewline, ← here.peek, ← here.next.peek]
  split
  · exact .failed _ here
  · split
    · exact .matched here.next
    · split
      · split
        · exact .matched here.next.next
        · exact .failed _ here.next
      · exact .failed _ here

omit [CodeUnit U] in
private theorem found_better {best best' : Option (Nat × Cursor U)}
    (found : Option.Rel alignment.Found best best') (index : Nat)
    (ends : alignment.Cursors after after') :
    alignment.Found (Pattern.better best index after) (Pattern.better best' index after') := by
  cases found with
  | none => exact ⟨rfl, ends⟩
  | @some entry entry' same =>
    obtain ⟨older, before⟩ := entry
    obtain ⟨older', before'⟩ := entry'
    obtain ⟨rfl, begins⟩ := same
    have position := ends.position
    have position' := begins.position
    dsimp only at position'
    unfold Pattern.better
    dsimp only
    split
    · rw [if_pos (by omega)]
      exact ⟨rfl, ends⟩
    · rw [if_neg (by omega)]
      exact ⟨rfl, begins⟩

private theorem results_endOfInput (here : alignment.Cursors cursor cursor') :
    alignment.Results ((Pattern.endOfInput : Pattern U).run cursor)
      (Pattern.endOfInput.run cursor') := by
  rw [Pattern.run, Pattern.run, ← here.atEnd]
  split
  · exact .matched here
  · exact .failed _ here

private theorem results_endOfLine (here : alignment.Cursors cursor cursor') :
    alignment.Results ((Pattern.endOfLine : Pattern U).run cursor)
      (Pattern.endOfLine.run cursor') := by
  rw [Pattern.run, Pattern.run, ← here.atEnd]
  split
  · exact .matched here
  · exact results_newline here

section Parts

variable {body excluded : Pattern U}
  (alike : ∀ {cursor cursor' : Cursor U}, alignment.Cursors cursor cursor' →
    alignment.Results (body.run cursor) (body.run cursor'))
  (here : alignment.Cursors cursor cursor')
include alike here

private theorem results_repeated :
    alignment.Results ((Pattern.repeated body).run cursor) ((Pattern.repeated body).run cursor') :=
  .matched (here.advanceWhile fun here => (alike here).after?)

private theorem results_repeatedOnce : alignment.Results ((Pattern.repeatedOnce body).run cursor)
    ((Pattern.repeatedOnce body).run cursor') := by
  have results := alike here
  rw [Pattern.run, Pattern.run]
  generalize body.run cursor = result, body.run cursor' = result' at results ⊢
  cases results with
  | matched ends => exact .matched (ends.advanceWhile fun here => (alike here).after?)
  | failed failure ends => exact .failed _ ends

private theorem results_upTo (orEnd : Bool) :
    alignment.Results ((Pattern.upTo body orEnd).run cursor)
    ((Pattern.upTo body orEnd).run cursor') := by
  have found : Option.Rel alignment.Cursors (cursor.search fun here => (body.run here).after?)
      (cursor'.search fun here => (body.run here).after?) :=
    here.search fun here => (alike here).after?
  rw [Pattern.run, Pattern.run, Matcher.upTo, Matcher.upTo]
  simp only [Matcher.run_answers]
  generalize cursor.search _ = answer, cursor'.search _ = answer' at found ⊢
  cases found with
  | some ends => exact .matched ends
  | none =>
    cases orEnd with
    | true => exact .matched here.toEnd
    | false => exact .failed _ here.toEnd

/-- What is excluded is matched against the window that the content takes. -/
theorem results_minus
    (excludes : ∀ {cursor cursor' : Cursor U}, alignment.Cursors cursor cursor' →
      alignment.Results (excluded.run cursor) (excluded.run cursor')) :
    alignment.Results ((Pattern.minus body excluded).run cursor)
      ((Pattern.minus body excluded).run cursor') := by
  have results := alike here
  rw [Pattern.run, Pattern.run]
  generalize body.run cursor = result, body.run cursor' = result' at results ⊢
  cases results with
  | failed failure ends => exact .failed _ ends
  | @matched after after' ends =>
    have inner := excludes (here.window ends)
    dsimp only
    generalize excluded.run (after.window _) = found,
      excluded.run (after'.window _) = found' at inner ⊢
    cases inner with
    | failed failure _ => exact .matched ends
    | matched last =>
      dsimp only
      rw [← last.atEnd]
      split
      · exact .failed _ ends
      · exact .matched ends

private theorem results_lookahead {limit : Pattern U}
    (limits : ∀ {cursor cursor' : Cursor U}, alignment.Cursors cursor cursor' →
      alignment.Results (limit.run cursor) (limit.run cursor')) :
    alignment.Results ((Pattern.lookahead body limit).run cursor)
      ((Pattern.lookahead body limit).run cursor') := by
  have found := results_seek (fun here => (alike here).isMatched)
    (fun here => (limits here).isMatched) here
  rw [Pattern.run, Pattern.run]
  unfold Matcher.lookahead Matcher.matchesAt
  simp only [Matcher.run_answers, ← found.isMatched]
  split
  · exact .matched here
  · exact .failed _ here

end Parts

mutual

/-- A pattern matches the same units on both sides. -/
theorem results_run (pattern : Pattern U) {cursor cursor' : Cursor U}
    (here : alignment.Cursors cursor cursor') :
    alignment.Results (pattern.run cursor) (pattern.run cursor') := by
  match pattern with
  | .oneOf members => exact results_oneOf members here
  | .literal content => exact results_literal content here
  | .keyword content shape => exact results_keyword shape content here
  | .identifier shape => exact results_identifier shape here
  | .digits content => exact results_digits content here
  | .digitCount content => exact results_digitCount content here
  | .strings keys => exact results_strings keys here
  | .longest keys order others =>
    have found := found_bestOf others here (found_string keys order here)
    rw [Pattern.run, Pattern.run]
    generalize Pattern.bestOf others cursor _ = entry,
      Pattern.bestOf others cursor' _ = entry' at found ⊢
    cases found with
    | none => exact .failed _ here
    | some same => exact .matched same.2
  | .anything => exact .matched here.toEnd
  | .endOfInput => exact results_endOfInput here
  | .newline => exact results_newline here
  | .endOfLine => exact results_endOfLine here
  | .repeated body => exact results_repeated (fun here => results_run body here) here
  | .repeatedOnce body => exact results_repeatedOnce (fun here => results_run body here) here
  | .upTo needle orEnd => exact results_upTo (fun here => results_run needle here) here orEnd
  | .find needles limits =>
    exact results_seek (anyMatches_eq needles) (anyMatches_eq limits) here
  | .minus content excluded =>
    exact results_minus (fun here => results_run content here) here
      fun here => results_run excluded here
  | .lookahead needle limit =>
    exact results_lookahead (fun here => results_run needle here) here
      fun here => results_run limit here
termination_by structural pattern

private theorem found_bestOf (others : List (Nat × Pattern U)) {cursor cursor' : Cursor U}
    {best best' : Option (Nat × Cursor U)} (here : alignment.Cursors cursor cursor')
    (found : Option.Rel alignment.Found best best') :
    Option.Rel alignment.Found (Pattern.bestOf others cursor best)
      (Pattern.bestOf others cursor' best') := by
  match others with
  | [] => exact found
  | (index, pattern) :: rest =>
    have results := results_run pattern here
    rw [Pattern.bestOf, Pattern.bestOf]
    generalize pattern.run cursor = result, pattern.run cursor' = result' at results ⊢
    cases results with
    | failed failure ends => exact found_bestOf rest here found
    | matched ends => exact found_bestOf rest here (.some (found_better found index ends))
termination_by structural others

private theorem anyMatches_eq (patterns : List (Pattern U)) {cursor cursor' : Cursor U}
    (here : alignment.Cursors cursor cursor') :
    Pattern.anyMatches patterns cursor = Pattern.anyMatches patterns cursor' := by
  match patterns with
  | [] => rfl
  | pattern :: rest =>
    rw [Pattern.anyMatches, Pattern.anyMatches, (results_run pattern here).isMatched,
      anyMatches_eq rest here]
termination_by structural patterns

end

theorem matchesAt_eq (pattern : Pattern U) (here : alignment.Cursors cursor cursor') :
    pattern.matchesAt cursor = pattern.matchesAt cursor' :=
  (results_run pattern here).isMatched

private theorem found_skipMalformed (pattern : Pattern U)
    (here : alignment.Cursors cursor cursor') :
    alignment.Found (pattern.skipMalformed cursor) (pattern.skipMalformed cursor') := by
  match pattern with
  | .oneOf _ => exact ⟨by rw [Pattern.skipMalformed, Pattern.skipMalformed, here.atEnd], here.next⟩
  | .digits content =>
    have ends : alignment.Cursors (content.skipMalformed cursor) (content.skipMalformed cursor') :=
      here.skip _
    have position := here.position
    have position' := ends.position
    refine ⟨?_, ends⟩
    simp only [Pattern.skipMalformed, decide_eq_decide]
    omega
  | .minus content _ => exact found_skipMalformed content here
  | .repeatedOnce body => exact found_skipMalformed body here
  | .literal _ | .keyword .. | .identifier _ | .digitCount _ | .strings _ | .longest ..
  | .anything | .endOfInput | .newline | .endOfLine | .repeated _ | .upTo .. | .find ..
  | .lookahead .. => exact ⟨rfl, here⟩
termination_by structural pattern

end Patterns

theorem found_skipMalformedRule (rule : Rule U) (here : alignment.Cursors cursor cursor') :
    alignment.Found (rule.skipMalformed cursor) (rule.skipMalformed cursor') := by
  unfold Rule.skipMalformed
  split
  · exact found_skipMalformed _ here
  · exact ⟨rfl, here⟩

end Alignment
end Descent
