import Descent.Proofs.CursorTexts
import Mathlib.Computability.Language

/-! Runs of digits. What is read is a word of a language, and it is read as far as it goes: a run
that stops elsewhere has met a zero or a separator that must not stand there. -/

namespace Descent

open scoped Computability

namespace DigitRun

variable {U : Type} [CodeUnit U] (digits : DigitRun)

def isDigit (unit : U) : Bool :=
  digits.radix.isDigit (CodeUnit.value unit)

def digitWords : Language U :=
  {word | ∃ unit, digits.isDigit unit = true ∧ word = [unit]}

def separatorWords : Language U :=
  {word | ∃ unit, digits.isSeparator unit = true ∧ word = [unit]}

/-- What a run goes on with: a separated digit or a digit. A unit that is both is a separator. -/
def steps : Language U :=
  digits.separatorWords * digits.digitWords + digits.digitWords \ digits.separatorWords

/-- A digit, and then as many steps as there are. -/
def language : Language U :=
  digits.digitWords * digits.steps∗

/-- Where leading zeroes are forbidden, a word is a lone zero or begins with another digit. -/
def IsTrim (word : List U) : Prop :=
  digits.trimmed = true →
    (∃ zero, CodeUnit.isChar zero '0' = true ∧ word = [zero]) ∨
      word.head?.any (CodeUnit.isChar · '0') = false

/-- A run cannot go on with a text that begins with neither a digit nor a separator. -/
def Ends (rest : List U) : Prop :=
  rest.head?.any (fun unit => digits.isDigit unit || digits.isSeparator unit) = false

inductive Continues : List U → Prop
  | nil : Continues []
  | separated {separator digit : U} {rest : List U}
    (separates : digits.isSeparator separator = true) (isDigit : digits.isDigit digit = true)
    (continues : Continues rest) : Continues (separator :: digit :: rest)
  | plain {digit : U} {rest : List U} (isDigit : digits.isDigit digit = true)
    (plain : digits.isSeparator digit = false) (continues : Continues rest) :
    Continues (digit :: rest)

section Language

variable {digits} {word : List U}

private theorem continues_flatten {parts : List (List U)}
    (all : ∀ part ∈ parts, part ∈ digits.steps) : digits.Continues parts.flatten := by
  induction parts with
  | nil => exact .nil
  | cons part parts ih =>
    have rest := ih fun other inside => all other (.tail _ inside)
    rcases all part List.mem_cons_self with separated | plain
    · obtain ⟨_, ⟨separator, separates, rfl⟩, _, ⟨digit, isDigit, rfl⟩, rfl⟩ := separated
      exact .separated separates isDigit rest
    · obtain ⟨⟨digit, isDigit, rfl⟩, other⟩ := plain
      apply Continues.plain isDigit ?_ rest
      exact Bool.eq_false_iff.mpr fun separates => other ⟨digit, separates, rfl⟩

private theorem Continues.mem_kstar (continues : digits.Continues word) :
    word ∈ (digits.steps : Language U)∗ := by
  have closed : (digits.steps : Language U) * digits.steps∗ ≤ digits.steps∗ := mul_kstar_le_kstar
  induction continues with
  | nil => exact Language.nil_mem_kstar _
  | @separated separator digit rest separates isDigit _ ih =>
    have step : [separator, digit] ∈ digits.steps :=
      .inl ⟨[separator], ⟨separator, separates, rfl⟩, [digit], ⟨digit, isDigit, rfl⟩, rfl⟩
    exact closed (Language.append_mem_mul step ih)
  | @plain digit rest isDigit plain _ ih =>
    have step : [digit] ∈ digits.steps := by
      refine .inr ⟨⟨digit, isDigit, rfl⟩, ?_⟩
      rintro ⟨other, separates, same⟩
      cases same
      rw [plain] at separates
      cases separates
    exact closed (Language.append_mem_mul step ih)

theorem mem_language_iff :
    word ∈ (digits.language : Language U) ↔
      ∃ first rest, digits.isDigit first = true ∧ digits.Continues rest ∧ word = first :: rest := by
  constructor
  · rintro ⟨_, ⟨first, isDigit, rfl⟩, _, member, rfl⟩
    obtain ⟨parts, rfl, all⟩ := Language.mem_kstar.mp member
    exact ⟨first, parts.flatten, isDigit, continues_flatten all, rfl⟩
  · rintro ⟨first, rest, isDigit, continues, rfl⟩
    exact ⟨[first], ⟨first, isDigit, rfl⟩, rest, continues.mem_kstar, rfl⟩

/-- A text in which a run cannot go on: its end, or a separator that no digit follows. -/
theorem exists_continuation (digits : DigitRun) (units : List U) :
    ∃ word rest, units = word ++ rest ∧ digits.Continues word ∧ (digits.Ends rest ∨
      ∃ separator after, rest = separator :: after ∧ digits.isSeparator separator = true ∧
        after.head?.any digits.isDigit = false) := by
  match units with
  | [] => exact ⟨[], [], rfl, .nil, .inl rfl⟩
  | unit :: rest =>
    by_cases separates : digits.isSeparator unit = true
    · match rest with
      | [] => exact ⟨[], [unit], rfl, .nil, .inr ⟨unit, [], rfl, separates, rfl⟩⟩
      | digit :: rest =>
        by_cases isDigit : digits.isDigit digit = true
        · obtain ⟨word, rest, rfl, continues, final⟩ := exists_continuation digits rest
          exact ⟨unit :: digit :: word, rest, rfl, .separated separates isDigit continues, final⟩
        · have other : (digit :: rest).head?.any digits.isDigit = false :=
            Bool.eq_false_iff.mpr isDigit
          exact ⟨[], unit :: digit :: rest, rfl, .nil, .inr ⟨unit, _, rfl, separates, other⟩⟩
    · by_cases isDigit : digits.isDigit unit = true
      · obtain ⟨word, rest, rfl, continues, final⟩ := exists_continuation digits rest
        exact ⟨unit :: word, rest, rfl,
          .plain isDigit (Bool.eq_false_iff.mpr separates) continues, final⟩
      · have ends : digits.Ends (unit :: rest) := by simp [Ends, separates, isDigit]
        exact ⟨[], unit :: rest, rfl, .nil, .inl ends⟩

end Language

section Runs

variable {digits} {word : List U} {before after : Cursor U}

theorem digitAt_eq (digits : DigitRun) (cursor : Cursor U) :
    digits.digitAt cursor = cursor.remaining.head?.any digits.isDigit := by
  rw [← Cursor.peek_eq_head?]
  rfl

theorem separatorAt_eq (digits : DigitRun) (cursor : Cursor U) :
    digits.separatorAt cursor = cursor.remaining.head?.any digits.isSeparator := by
  rw [separatorAt, Cursor.peek_eq_head?]

/-- Nothing in a word that a run goes on with stops it. A separated digit takes one round, so there
may be rounds to spare. -/
theorem Continues.exists_rounds (continues : digits.Continues word)
    (passes : before.Passes word after) {rounds : Nat} (enough : before.left ≤ rounds) :
    ∃ fewer, after.left ≤ fewer ∧
      runRest.go digits rounds before = runRest.go digits fewer after := by
  induction continues generalizing before rounds with
  | nil =>
    rw [Cursor.Passes.unique passes (.nil before)]
    exact ⟨rounds, enough, rfl⟩
  | @separated separator digit rest separates isDigit _ ih =>
    have length := passes.left
    simp only [List.length_cons] at length
    obtain ⟨rounds, rfl⟩ := Nat.exists_eq_succ_of_ne_zero (n := rounds) (by omega)
    have text := passes.remaining
    have more := passes.tail.remaining
    have later := passes.tail.tail.left
    have fits : before.next.next.left ≤ rounds := by omega
    obtain ⟨fewer, room, same⟩ := ih passes.tail.tail fits
    refine ⟨fewer, room, ?_⟩
    rw [runRest.go, separatorAt_eq, digitAt_eq digits before.next, text, more]
    simpa [separates, isDigit] using same
  | @plain digit rest isDigit plain _ ih =>
    have length := passes.left
    simp only [List.length_cons] at length
    obtain ⟨rounds, rfl⟩ := Nat.exists_eq_succ_of_ne_zero (n := rounds) (by omega)
    have text := passes.remaining
    have later := passes.tail.left
    have fits : before.next.left ≤ rounds := by omega
    obtain ⟨fewer, room, same⟩ := ih passes.tail fits
    refine ⟨fewer, room, ?_⟩
    rw [runRest.go, separatorAt_eq, digitAt_eq digits before, text]
    simpa [plain, isDigit] using same

private theorem runRest_of_ends (continues : digits.Continues word)
    (passes : before.Passes word after)
    (ends : digits.Ends after.remaining) : digits.runRest before = .matched after := by
  obtain ⟨rounds, -, same⟩ := continues.exists_rounds passes (Nat.le_refl _)
  rw [runRest, same]
  cases rounds with
  | zero => rfl
  | succ rounds =>
    rw [runRest.go, separatorAt_eq, digitAt_eq digits after]
    unfold Ends at ends
    cases text : after.remaining with
    | nil => simp
    | cons unit rest =>
      rw [text, List.head?_cons, Option.any_some, Bool.or_eq_false_iff] at ends
      simp [ends]

private theorem runRest_of_separator {separator : U} (continues : digits.Continues word)
    (passes : before.Passes (word ++ [separator]) after)
    (separates : digits.isSeparator separator = true)
    (other : after.remaining.head?.any digits.isDigit = false) :
    digits.runRest before = .failed .missingSeparatorDigit after := by
  have text := passes.remaining
  rw [List.append_assoc, List.singleton_append] at text
  obtain ⟨middle, first, ends⟩ := Cursor.Passes.of_remaining text
  have last := Cursor.Passes.next ends
  have same : middle.next = after := (first.trans last).unique passes
  obtain ⟨rounds, room, skipped⟩ := continues.exists_rounds first (Nat.le_refl _)
  have length := last.left
  rw [List.length_singleton] at length
  obtain ⟨rounds, rfl⟩ := Nat.exists_eq_succ_of_ne_zero (n := rounds) (by omega)
  rw [runRest, skipped, runRest.go, separatorAt_eq, digitAt_eq digits middle.next, same, ends]
  simp [separates, other]

/-- A text that begins with no digit. -/
theorem run_of_other (other : before.remaining.head?.any digits.isDigit = false) :
    digits.run before = .failed .expectedDigit before := by
  simp [run, digitAt_eq, other]

private theorem isDigit_of_zero (digits : DigitRun) {zero : U}
    (isZero : CodeUnit.isChar zero '0' = true) : digits.isDigit zero = true := by
  have value : CodeUnit.value zero = 48 := by simpa [CodeUnit.isChar] using isZero
  rw [isDigit, value]
  cases digits.radix <;> rfl

/-- Where leading zeroes are forbidden, nothing of a run may follow a zero in front. -/
theorem run_of_zero {zero : U} (trimmed : digits.trimmed = true)
    (isZero : CodeUnit.isChar zero '0' = true) (passes : before.Passes [zero] after) :
    digits.run before =
      if after.remaining.head?.any (fun unit => digits.isDigit unit || digits.isSeparator unit) then
        .failed .leadingZero after
      else .matched after := by
  have text := passes.remaining
  have same : before.next = after := (Cursor.Passes.next text).unique passes
  rw [run, digitAt_eq digits before, digitAt_eq digits before.next, separatorAt_eq,
    Cursor.peek_eq_head?, same, text]
  cases after.remaining <;> simp [trimmed, isZero, isDigit_of_zero digits isZero]

/-- In all other cases a run goes on from its first digit. -/
theorem run_of_digit {first : U} {rest : List U} (isDigit : digits.isDigit first = true)
    (text : before.remaining = first :: rest)
    (other : digits.trimmed = true → CodeUnit.isChar first '0' = false) :
    digits.run before = digits.runRest before.next := by
  rw [run, digitAt_eq digits before, Cursor.peek_eq_head?, text]
  cases trimmed : digits.trimmed with
  | false => simp [isDigit]
  | true => simp [isDigit, other trimmed]

/-- A word that nothing of a run follows is read. -/
theorem run_of_word (passes : before.Passes word after) (member : word ∈ digits.language)
    (trim : digits.IsTrim word) (ends : digits.Ends after.remaining) :
    digits.run before = .matched after := by
  obtain ⟨first, rest, isDigit, continues, rfl⟩ := mem_language_iff.mp member
  by_cases zero : digits.trimmed = true ∧ CodeUnit.isChar first '0' = true
  · obtain ⟨trimmed, isZero⟩ := zero
    rcases trim trimmed with ⟨zero, -, same⟩ | other
    · cases same
      rw [run_of_zero trimmed isZero passes, ends]
      rfl
    · simp [isZero] at other
  · have other : digits.trimmed = true → CodeUnit.isChar first '0' = false :=
      fun trimmed => Bool.eq_false_iff.mpr fun isZero => zero ⟨trimmed, isZero⟩
    rw [run_of_digit isDigit passes.remaining other]
    exact runRest_of_ends continues passes.tail ends

/-- A separator that no digit follows is where a run fails. -/
theorem run_of_separator {separator : U} (passes : before.Passes (word ++ [separator]) after)
    (member : word ∈ digits.language)
    (nonzero : digits.trimmed = true → word.head?.any (CodeUnit.isChar · '0') = false)
    (separates : digits.isSeparator separator = true)
    (other : after.remaining.head?.any digits.isDigit = false) :
    digits.run before = .failed .missingSeparatorDigit after := by
  obtain ⟨first, rest, isDigit, continues, rfl⟩ := mem_language_iff.mp member
  rw [run_of_digit isDigit passes.remaining (by simpa using nonzero)]
  exact runRest_of_separator continues passes.tail separates other

inductive Reads (digits : DigitRun) (cursor : Cursor U) : MatchResult U → Prop
  | matched {word : List U} {after : Cursor U} (passes : cursor.Passes word after)
    (member : word ∈ digits.language) (trim : digits.IsTrim word)
    (ends : digits.Ends after.remaining) : Reads digits cursor (.matched after)
  | expectedDigit (other : cursor.remaining.head?.any digits.isDigit = false) :
    Reads digits cursor (.failed .expectedDigit cursor)
  | leadingZero {zero : U} {after : Cursor U} (trimmed : digits.trimmed = true)
    (isZero : CodeUnit.isChar zero '0' = true) (passes : cursor.Passes [zero] after)
    (more : ¬digits.Ends after.remaining) : Reads digits cursor (.failed .leadingZero after)
  | missingSeparatorDigit {word : List U} {separator : U} {after : Cursor U}
    (passes : cursor.Passes (word ++ [separator]) after) (member : word ∈ digits.language)
    (nonzero : digits.trimmed = true → word.head?.any (CodeUnit.isChar · '0') = false)
    (separates : digits.isSeparator separator = true)
    (other : after.remaining.head?.any digits.isDigit = false) :
    Reads digits cursor (.failed .missingSeparatorDigit after)

private theorem Reads.run_eq {cursor : Cursor U} {result : MatchResult U}
    (reads : digits.Reads cursor result) : digits.run cursor = result := by
  cases reads with
  | matched passes member trim ends => exact run_of_word passes member trim ends
  | expectedDigit other => exact run_of_other other
  | leadingZero trimmed isZero passes more =>
    rw [run_of_zero trimmed isZero passes, if_pos (eq_true_of_ne_false more)]
  | missingSeparatorDigit passes member nonzero separates other =>
    exact run_of_separator passes member nonzero separates other

/-- A run that begins with a digit, told by whether a leading zero stops it. -/
theorem exists_reads_of_digit {cursor : Cursor U} {first : U} {rest : List U}
    (text : cursor.remaining = first :: rest) (isDigit : digits.isDigit first = true) :
    ∃ result, digits.Reads cursor result := by
  by_cases zero : digits.trimmed = true ∧ CodeUnit.isChar first '0' = true
  · obtain ⟨trimmed, isZero⟩ := zero
    have passes : cursor.Passes [first] cursor.next := .next text
    by_cases ends : digits.Ends cursor.next.remaining
    · have member : [first] ∈ digits.language :=
        mem_language_iff.mpr ⟨first, [], isDigit, .nil, rfl⟩
      exact ⟨_, .matched passes member (fun _ => .inl ⟨first, isZero, rfl⟩) ends⟩
    · exact ⟨_, .leadingZero trimmed isZero passes ends⟩
  · obtain ⟨word, final, rfl, continues, stops⟩ := exists_continuation digits rest
    have member : first :: word ∈ digits.language :=
      mem_language_iff.mpr ⟨first, word, isDigit, continues, rfl⟩
    have nonzero : digits.trimmed = true →
        (first :: word).head?.any (CodeUnit.isChar · '0') = false :=
      fun trimmed => Bool.eq_false_iff.mpr fun isZero => zero ⟨trimmed, isZero⟩
    rcases stops with ends | ⟨separator, more, rfl, separates, other⟩
    · have text : cursor.remaining = (first :: word) ++ final := text
      obtain ⟨after, passes, rfl⟩ := Cursor.Passes.of_remaining text
      exact ⟨_, .matched passes member (fun trimmed => .inr (nonzero trimmed)) ends⟩
    · have text : cursor.remaining = (first :: word ++ [separator]) ++ more := by simp [text]
      obtain ⟨after, passes, rfl⟩ := Cursor.Passes.of_remaining text
      exact ⟨_, .missingSeparatorDigit passes member nonzero separates other⟩

private theorem exists_reads (digits : DigitRun) (cursor : Cursor U) :
    ∃ result, digits.Reads cursor result := by
  cases text : cursor.remaining with
  | nil => exact ⟨_, .expectedDigit (by rw [text]; rfl)⟩
  | cons first rest =>
    by_cases isDigit : digits.isDigit first = true
    · exact exists_reads_of_digit text isDigit
    · exact ⟨_, .expectedDigit (by rw [text]; exact Bool.eq_false_iff.mpr isDigit)⟩

private theorem run_eq_iff {cursor : Cursor U} {result : MatchResult U} :
    digits.run cursor = result ↔ digits.Reads cursor result := by
  constructor
  · intro same
    obtain ⟨other, reads⟩ := exists_reads digits cursor
    rwa [← same, reads.run_eq]
  · exact Reads.run_eq

private theorem run_matched_iff :
    digits.run before = .matched after ↔
      ∃ word ∈ digits.language, before.Passes word after ∧ digits.IsTrim word ∧
        digits.Ends after.remaining := by
  rw [run_eq_iff]
  constructor
  · intro reads
    cases reads with
    | matched passes member trim ends => exact ⟨_, member, passes, trim, ends⟩
  · rintro ⟨word, member, passes, trim, ends⟩
    exact .matched passes member trim ends

private theorem run_expectedDigit_iff :
    digits.run before = .failed .expectedDigit after ↔
      after = before ∧ before.remaining.head?.any digits.isDigit = false := by
  rw [run_eq_iff]
  constructor
  · intro reads
    cases reads with
    | expectedDigit other => exact ⟨rfl, other⟩
  · rintro ⟨rfl, other⟩
    exact .expectedDigit other

private theorem run_leadingZero_iff :
    digits.run before = .failed .leadingZero after ↔
      digits.trimmed = true ∧ ¬digits.Ends after.remaining ∧
        ∃ zero, CodeUnit.isChar zero '0' = true ∧ before.Passes [zero] after := by
  rw [run_eq_iff]
  constructor
  · intro reads
    cases reads with
    | leadingZero trimmed isZero passes more => exact ⟨trimmed, more, _, isZero, passes⟩
  · rintro ⟨trimmed, more, zero, isZero, passes⟩
    exact .leadingZero trimmed isZero passes more

private theorem run_missingSeparatorDigit_iff :
    digits.run before = .failed .missingSeparatorDigit after ↔
      ∃ word ∈ digits.language, ∃ separator, digits.isSeparator separator = true ∧
        before.Passes (word ++ [separator]) after ∧
        after.remaining.head?.any digits.isDigit = false ∧
        (digits.trimmed = true → word.head?.any (CodeUnit.isChar · '0') = false) := by
  rw [run_eq_iff]
  constructor
  · intro reads
    cases reads with
    | missingSeparatorDigit passes member nonzero separates other =>
      exact ⟨_, member, _, separates, passes, other, nonzero⟩
  · rintro ⟨word, member, separator, separates, passes, other, nonzero⟩
    exact .missingSeparatorDigit passes member nonzero separates other

private theorem failure_of_run {failure : MatchFailure}
    (failed : digits.run before = .failed failure after) :
    failure = .expectedDigit ∨ failure = .leadingZero ∨ failure = .missingSeparatorDigit := by
  cases run_eq_iff.mp failed with
  | expectedDigit => exact .inl rfl
  | leadingZero => exact .inr (.inl rfl)
  | missingSeparatorDigit => exact .inr (.inr rfl)

end Runs

/-- Exactly the words of the language are read, up to where a run can go no further. A run that
fails has met no digit, or a zero in front of more, or else the first separator without a digit. -/
theorem words_are_read_to_their_end (digits : DigitRun) (cursor : Cursor U) :
    (∀ after, digits.run cursor = .matched after ↔
      ∃ word ∈ digits.language, cursor.Passes word after ∧ digits.IsTrim word ∧
        digits.Ends after.remaining) ∧
    (∀ stopped, digits.run cursor = .failed .expectedDigit stopped ↔
      stopped = cursor ∧ cursor.remaining.head?.any digits.isDigit = false) ∧
    (∀ stopped, digits.run cursor = .failed .leadingZero stopped ↔
      digits.trimmed = true ∧ ¬digits.Ends stopped.remaining ∧
        ∃ zero, CodeUnit.isChar zero '0' = true ∧ cursor.Passes [zero] stopped) ∧
    (∀ stopped, digits.run cursor = .failed .missingSeparatorDigit stopped ↔
      ∃ word ∈ digits.language, ∃ separator, digits.isSeparator separator = true ∧
        cursor.Passes (word ++ [separator]) stopped ∧
        stopped.remaining.head?.any digits.isDigit = false ∧
        (digits.trimmed = true → word.head?.any (CodeUnit.isChar · '0') = false)) ∧
    ∀ failure stopped, digits.run cursor = .failed failure stopped →
      failure = .expectedDigit ∨ failure = .leadingZero ∨ failure = .missingSeparatorDigit :=
  ⟨fun _ => run_matched_iff, fun _ => run_expectedDigit_iff, fun _ => run_leadingZero_iff,
    fun _ => run_missingSeparatorDigit_iff, fun _ _ => failure_of_run⟩

end DigitRun
end Descent
