import Descent.Proofs.Halting
import Descent.Proofs.LiteralReading
import Mathlib.Data.List.Basic
import Mathlib.Data.List.Infix
import Mathlib.Data.List.Pairwise
import Mathlib.Logic.ExistsUnique

/-! Members in any order, where the members are literals and no whitespace is skipped. All of them
are read in whatever order they come; a member that comes twice, or that never comes, is an
error. -/

namespace Descent

open Descent.Parser

variable {U σ : Type}

/-- Words none of which is empty or begins with another one. -/
structure PrefixFree (words : List (List U)) : Prop where
  nonempty : ∀ word ∈ words, word ≠ []
  apart : words.Pairwise fun word other => ¬word <+: other ∧ ¬other <+: word

/-- The longest sequence of words that an input begins with. -/
structure LongestRun (words : List (List U)) (input : List U) (run : List (List U)) : Prop where
  members : ∀ word ∈ run, word ∈ words
  begins : run.flatten <+: input
  longest : ∀ other : List (List U), (∀ word ∈ other, word ∈ words) → other.flatten <+: input →
    other.length ≤ run.length

def Repeats (run : List (List U)) (index : Nat) : Prop :=
  ∃ word ∈ run[index]?, word ∈ run.take index

instance [DecidableEq U] (run : List (List U)) (index : Nat) : Decidable (Repeats run index) :=
  inferInstanceAs (Decidable (∃ word ∈ run[index]?, word ∈ run.take index))

private theorem nodup_take_of_not_repeats {run : List (List U)} {count : Nat}
    (fresh : ∀ index < count, ¬Repeats run index) : (run.take count).Nodup := by
  induction count with
  | zero => exact List.nodup_nil
  | succ count ih =>
    have before := ih fun index less => fresh index (less.trans (Nat.lt_succ_self count))
    rw [List.take_add_one]
    cases found : run[count]? with
    | none => simpa using before
    | some word =>
      have other : word ∉ run.take count :=
        fun again => fresh count (Nat.lt_succ_self count) ⟨word, found, again⟩
      rw [Option.toList_some, List.nodup_append]
      refine ⟨before, by simp, ?_⟩
      intro earlier member later last same
      rw [List.mem_singleton] at last
      exact other (last ▸ same ▸ member)

namespace PrefixFree

variable {words : List (List U)} (free : PrefixFree words) {word other input rest : List U}
include free

/-- An input begins with one word at most. -/
theorem index_unique {i j : Nat} (inside : i < words.length) (within : j < words.length)
    (begins : words[i] <+: input) (also : words[j] <+: input) : i = j := by
  have apart := List.pairwise_iff_getElem.mp free.apart
  have order := List.prefix_or_prefix_of_prefix begins also
  rcases Nat.lt_trichotomy i j with less | same | greater
  · have distinct := apart i j inside within less
    exact absurd order (not_or.mpr distinct)
  · exact same
  · have distinct := apart j i within inside greater
    exact absurd order.symm (not_or.mpr distinct)

theorem unique (member : word ∈ words) (begins : word <+: input) (other_member : other ∈ words)
    (also : other <+: input) : word = other := by
  obtain ⟨i, inside, rfl⟩ := List.getElem_of_mem member
  obtain ⟨j, within, rfl⟩ := List.getElem_of_mem other_member
  have same := free.index_unique inside within begins also
  subst same
  rfl

theorem sequence_cons {sequence : List (List U)} (member : word ∈ words)
    (members : ∀ other ∈ sequence, other ∈ words) (begins : sequence.flatten <+: word ++ rest)
    (some_word : sequence ≠ []) :
    ∃ more, sequence = word :: more ∧ (∀ other ∈ more, other ∈ words) ∧ more.flatten <+: rest := by
  obtain ⟨first, more, rfl⟩ := List.exists_cons_of_ne_nil some_word
  rw [List.flatten_cons] at begins
  have same : first = word := free.unique (members first List.mem_cons_self)
    ((List.prefix_append ..).trans begins) member (List.prefix_append ..)
  subst same
  rw [List.prefix_append_right_inj] at begins
  exact ⟨more, rfl, fun other inside => members other (.tail _ inside), begins⟩

private theorem longestRun_cons (member : word ∈ words) {run : List (List U)} :
    LongestRun words (word ++ rest) run ↔
      ∃ more, run = word :: more ∧ LongestRun words rest more := by
  constructor
  · intro longest
    have some_word : run ≠ [] := by
      have one := longest.longest [word] (by simpa using member) (by simp)
      exact List.ne_nil_of_length_pos one
    obtain ⟨more, rfl, members, begins⟩ :=
      free.sequence_cons member longest.members longest.begins some_word
    refine ⟨more, rfl, members, begins, ?_⟩
    intro other inside ahead
    have all : ∀ each ∈ word :: other, each ∈ words := by
      intro each found
      rcases List.mem_cons.mp found with rfl | found
      · exact member
      · exact inside each found
    have ahead : (word :: other).flatten <+: word ++ rest := by
      rwa [List.flatten_cons, List.prefix_append_right_inj]
    exact Nat.le_of_succ_le_succ (longest.longest (word :: other) all ahead)
  · intro found
    obtain ⟨more, rfl, longest⟩ := found
    refine ⟨?_, ?_, ?_⟩
    · intro each found
      rcases List.mem_cons.mp found with rfl | found
      · exact member
      · exact longest.members each found
    · rw [List.flatten_cons, List.prefix_append_right_inj]
      exact longest.begins
    · intro other inside ahead
      by_cases none : other = []
      · rw [none]
        exact Nat.zero_le _
      · obtain ⟨others, rfl, members, ahead⟩ := free.sequence_cons member inside ahead none
        exact Nat.succ_le_succ (longest.longest others members ahead)

omit free in
private theorem longestRun_nil (none : ∀ word ∈ words, ¬word <+: input) {run : List (List U)} :
    LongestRun words input run ↔ run = [] := by
  have empty : ∀ sequence : List (List U), (∀ word ∈ sequence, word ∈ words) →
      sequence.flatten <+: input → sequence = [] := by
    intro sequence members begins
    cases sequence with
    | nil => rfl
    | cons word more =>
      have ahead := (List.prefix_append ..).trans begins
      exact absurd ahead (none word (members word List.mem_cons_self))
  constructor
  · exact fun longest => empty run longest.members longest.begins
  · intro same
    subst same
    refine ⟨by simp, List.nil_prefix, ?_⟩
    intro other members begins
    rw [empty other members begins]

/-- There is one longest sequence of words that an input begins with. -/
theorem existsUnique_longestRun (input : List U) : ∃! run, LongestRun words input run := by
  by_cases found : ∃ word ∈ words, word <+: input
  · obtain ⟨word, member, rest, rfl⟩ := found
    have shorter : rest.length < (word ++ rest).length := by
      have length := List.length_pos_iff.mpr (free.nonempty word member)
      rw [List.length_append]
      omega
    obtain ⟨more, longest, unique⟩ := existsUnique_longestRun rest
    refine ⟨word :: more, (free.longestRun_cons member).mpr ⟨more, rfl, longest⟩, ?_⟩
    intro run also
    obtain ⟨others, rfl, later⟩ := (free.longestRun_cons member).mp also
    rw [unique others later]
  · have none : ∀ word ∈ words, ¬word <+: input :=
      fun word member begins => found ⟨word, member, begins⟩
    exact ⟨[], (longestRun_nil none).mpr rfl, fun run other => (longestRun_nil none).mp other⟩
termination_by input.length

end PrefixFree

namespace Runner

variable [CodeUnit U] {environment : Environment U σ} {state : State U σ}

section Members

variable (alone : state.scope.whitespace? = none) {members : List String} (fuel : Nat)
  (index : Nat)
include alone

private theorem gives_attemptMember_none
    (none : ∀ text ∈ members, ¬CodeUnit.ofText text <+: state.cursor.remaining)
    (post : Option (Nat × Attempt) → List Value → State U σ → Prop) :
    ((withFuel (fuel + 1)).attemptMember index (members.map .literal)).Gives environment state
      post ↔ post .none [] state := by
  induction members generalizing index with
  | nil => exact gives_pure ..
  | cons text members ih =>
    have missing := none text List.mem_cons_self
    rw [List.map_cons, attemptMember, gives_bind, gives_attempt_literal_alone alone,
      if_neg missing]
    exact ih (index + 1) fun other inside => none other (.tail _ inside)

/-- The first member that is there is taken. -/
theorem gives_attemptMember_some {i : Nat} (inside : i < members.length)
    (here : CodeUnit.ofText members[i] <+: state.cursor.remaining)
    (first : ∀ j (less : j < i), ¬CodeUnit.ofText members[j] <+: state.cursor.remaining)
    (post : Option (Nat × Attempt) → List Value → State U σ → Prop) :
    ((withFuel (fuel + 1)).attemptMember index (members.map .literal)).Gives environment state
      post ↔ post (some (index + i, .accepted)) []
        (state.reading environment.observer (CodeUnit.ofText members[i])) := by
  induction members generalizing index i with
  | nil => exact absurd inside (Nat.not_lt_zero i)
  | cons text members ih =>
    rw [List.map_cons, attemptMember, gives_bind, gives_attempt_literal_alone alone]
    cases i with
    | zero =>
      have here : CodeUnit.ofText text <+: state.cursor.remaining := here
      rw [if_pos here]
      exact gives_pure ..
    | succ i =>
      have missing : ¬CodeUnit.ofText text <+: state.cursor.remaining := first 0 (Nat.succ_pos i)
      rw [if_neg missing]
      have later := ih (index + 1) (Nat.lt_of_succ_lt_succ inside) here
        fun j less => first (j + 1) (Nat.succ_lt_succ less)
      rw [Nat.add_assoc, Nat.add_comm 1 i] at later
      exact later

end Members

/-- What becomes of members in any order. So many of them are missing, the ones before have been
taken, and the input goes on with a longest sequence of members. -/
structure EndsMembers (environment : Environment U σ) (state : State U σ) (partly : Bool)
    (missing : Nat) (taken run : List (List U)) (parsed : Bool) (last : State U σ) : Prop where
  complete (enough : missing ≤ run.length) (distinct : (taken ++ run.take missing).Nodup) :
    parsed = true ∧ last = state.readingAll environment.observer (run.take missing)
  repeated (index : Nat) (inside : index < run.length) (less : index < missing)
      (distinct : (taken ++ run.take index).Nodup) (again : run[index] ∈ taken ++ run.take index) :
    let first := (state.readingAll environment.observer (run.take index)).cursor.position
    parsed = true ∧ last = (state.readingAll environment.observer
      (run.take (index + 1))).withError environment .combinationDuplicate first
        (.between first (first + run[index].length))
  exhausted (few : run.length < missing) (distinct : (taken ++ run).Nodup) :
    let after := state.readingAll environment.observer run
    parsed = partly ∧ last = if partly then after else
      after.withError environment .exhaustedChoice after.cursor.position
        (.empty after.cursor.position)

namespace EndsMembers

variable {partly parsed : Bool} {missing : Nat} {taken run more : List (List U)} {word : List U}
  {last : State U σ}

omit [CodeUnit U] in
/-- A member that is new is one less to come. -/
theorem cons (ends : EndsMembers environment (state.reading environment.observer word) partly
      missing (taken ++ [word]) more parsed last) (fresh : word ∉ taken) :
    EndsMembers environment state partly (missing + 1) taken (word :: more) parsed last where
  complete enough distinct := by
    rw [List.take_succ_cons, List.append_cons] at distinct
    exact ends.complete (Nat.le_of_succ_le_succ enough) distinct
  repeated index inside less distinct again := by
    cases index with
    | zero =>
      rw [List.take_zero, List.append_nil] at again
      exact absurd again fresh
    | succ index =>
      rw [List.take_succ_cons, List.append_cons] at distinct again
      exact ends.repeated index (Nat.lt_of_succ_lt_succ inside) (Nat.lt_of_succ_lt_succ less)
        distinct again
  exhausted few distinct := by
    rw [List.append_cons] at distinct
    exact ends.exhausted (Nat.lt_of_succ_lt_succ few) distinct

omit [CodeUnit U] in
/-- A member that comes twice ends them all. -/
theorem of_mem (again : word ∈ taken) :
    EndsMembers environment state partly (missing + 1) taken (word :: more) true
      ((state.reading environment.observer word).withError environment .combinationDuplicate
        state.cursor.position
        (.between state.cursor.position (state.cursor.position + word.length))) := by
  have twice (later : List (List U)) : ¬(taken ++ word :: later).Nodup := by
    intro distinct
    exact (List.nodup_append.mp distinct).2.2 word again word List.mem_cons_self rfl
  constructor
  case complete =>
    intro _ distinct
    exact absurd distinct (twice (more.take missing))
  case repeated =>
    intro index _ _ distinct _
    cases index with
    | zero => exact ⟨rfl, rfl⟩
    | succ index => exact absurd distinct (twice (more.take index))
  case exhausted =>
    intro _ distinct
    exact absurd distinct (twice more)

omit [CodeUnit U] in
/-- Members that do not come are missing, unless they need not come. -/
theorem of_nil : EndsMembers environment state partly (missing + 1) taken [] partly
    (if partly then state else state.withError environment .exhaustedChoice state.cursor.position
      (.empty state.cursor.position)) := by
  constructor
  case complete => exact fun enough _ => absurd enough (Nat.not_succ_le_zero missing)
  case repeated => exact fun index inside => absurd inside (Nat.not_lt_zero index)
  case exhausted => exact fun _ _ => ⟨rfl, rfl⟩

omit [CodeUnit U] in
/-- When no member is missing, there is nothing left to do. -/
theorem of_zero :
    EndsMembers environment state partly 0 taken run true state := by
  constructor
  case complete => exact fun _ _ => ⟨rfl, rfl⟩
  case repeated => exact fun index _ less => absurd less (Nat.not_lt_zero index)
  case exhausted => exact fun few => absurd few (Nat.not_lt_zero _)

end EndsMembers

/-- The members that have been seen are those that have been taken. -/
def Tracks (members : List String) (seen : List Nat) (taken : List (List U)) : Prop :=
  ∀ index (inside : index < members.length),
    index ∈ seen ↔ CodeUnit.ofText members[index] ∈ taken

section Combinations

variable {members : List String}
  (free : PrefixFree (members.map (CodeUnit.ofText : String → List U)))
include free

private theorem index_unique_of_prefixFree {input : List U} {i j : Nat}
    (inside : i < members.length)
    (within : j < members.length) (begins : CodeUnit.ofText members[i] <+: input)
    (also : CodeUnit.ofText members[j] <+: input) : i = j := by
  have place {k : Nat} (bound : k < members.length) :
      k < (members.map (CodeUnit.ofText : String → List U)).length := by
    rwa [List.length_map]
  rw [← List.getElem_map CodeUnit.ofText (h := place inside)] at begins
  rw [← List.getElem_map CodeUnit.ofText (h := place within)] at also
  exact free.index_unique (place inside) (place within) begins also

theorem Tracks.cons {seen : List Nat} {taken : List (List U)} (tracks : Tracks members seen taken)
    {index : Nat} (inside : index < members.length) :
    Tracks members (index :: seen) (taken ++ [CodeUnit.ofText members[index]]) := by
  intro other within
  have same : (CodeUnit.ofText members[other] : List U) = CodeUnit.ofText members[index] →
      other = index := by
    intro same
    apply index_unique_of_prefixFree free within inside (List.prefix_refl _)
    rw [same]
  have tracked := tracks other within
  rw [List.mem_cons, List.mem_append, List.mem_singleton, tracked]
  constructor
  · intro known
    rcases known with rfl | known
    · exact .inr rfl
    · exact .inl known
  · intro known
    rcases known with known | also
    · exact .inr known
    · exact .inl (same also)

private theorem gives_parseMembers (alone : state.scope.whitespace? = none) (partly : Bool)
    (fuel : Nat) {run taken : List (List U)} {seen : List Nat} (tracks : Tracks members seen taken)
    (longest : LongestRun (members.map CodeUnit.ofText) state.cursor.remaining run)
    (missing : Nat) :
    ((withFuel (fuel + 1)).parseMembers (members.map .literal) partly seen missing).Gives
      environment state fun parsed values last =>
        values = [] ∧ EndsMembers environment state partly missing taken run parsed last := by
  induction missing generalizing state run taken seen with
  | zero => exact (gives_pure ..).mpr ⟨rfl, .of_zero⟩
  | succ missing ih =>
    rw [parseMembers, gives_bind, gives_cursor, gives_bind]
    by_cases found : ∃ index, ∃ inside : index < members.length,
        CodeUnit.ofText members[index] <+: state.cursor.remaining
    · obtain ⟨index, inside, here⟩ := found
      have first : ∀ other (less : other < index),
          ¬CodeUnit.ofText members[other] <+: state.cursor.remaining := by
        intro other less also
        have same := index_unique_of_prefixFree free (less.trans inside) inside also here
        exact Nat.ne_of_lt less same
      rw [gives_attemptMember_some alone fuel 0 inside here first, Nat.zero_add]
      obtain ⟨rest, text⟩ := here
      have member : CodeUnit.ofText members[index] ∈
          members.map (CodeUnit.ofText : String → List U) :=
        List.mem_map_of_mem (List.getElem_mem inside)
      rw [← text] at longest
      obtain ⟨more, rfl, later⟩ := (free.longestRun_cons member).mp longest
      obtain ⟨passes, ends⟩ := state.passes_reading environment.observer text.symm
      have known := tracks index inside
      simp only [Attempt.isAccepted, Bool.not_true, Bool.false_eq_true, if_false]
      by_cases again : CodeUnit.ofText members[index] ∈ taken
      · rw [if_pos (List.contains_iff_mem.mpr (known.mpr again))]
        have ended : EndsMembers environment state partly (missing + 1) taken
            (CodeUnit.ofText members[index] :: more) true _ := .of_mem again
        simpa [passes.spanTo] using ended
      · have unseen : ¬seen.contains index = true :=
          fun contains => again (known.mp (List.contains_iff_mem.mp contains))
        rw [if_neg unseen]
        rw [← ends] at later
        have still : (state.reading environment.observer
            (CodeUnit.ofText members[index])).scope.whitespace? = .none := alone
        refine (ih still (tracks.cons free inside) later).mono ?_
        intro parsed values last ended
        exact ⟨by simp [ended.1], ended.2.cons again⟩
    · have none : ∀ text ∈ members, ¬CodeUnit.ofText text <+: state.cursor.remaining := by
        intro text member begins
        obtain ⟨index, inside, rfl⟩ := List.getElem_of_mem member
        exact found ⟨index, inside, begins⟩
      have empty : run = [] := (PrefixFree.longestRun_nil (by simpa using none)).mp longest
      subst empty
      rw [gives_attemptMember_none alone fuel 0 none]
      have ends : EndsMembers environment state partly (missing + 1) taken [] _ _ := .of_nil
      cases partly with
      | true => simpa using ends
      | false => simpa using ends

/-- All members are taken in any order: the first ones that the input has, if they are different.
A member that comes again ends them with an error, and so does one that never comes, unless some
are enough. -/
theorem combinations_accept_permutations (alone : state.scope.whitespace? = none) (partly : Bool)
    {fuel : Nat} (enough : 2 ≤ fuel) :
    (∃! run, LongestRun (members.map CodeUnit.ofText) state.cursor.remaining run) ∧
    ∀ run, LongestRun (members.map CodeUnit.ofText) state.cursor.remaining run →
      ((withFuel fuel).parse (.combination (members.map .literal) partly)).Gives environment state
        fun parsed values last => values = [] ∧
          (members.length ≤ run.length → (run.take members.length).Nodup → parsed = true ∧
            last = state.readingAll environment.observer (run.take members.length)) ∧
          (∀ index < members.length, ∀ word, run[index]? = some word → word ∈ run.take index →
            (∀ earlier < index, ¬Repeats run earlier) →
            let first := (state.readingAll environment.observer (run.take index)).cursor.position
            parsed = true ∧ last = (state.readingAll environment.observer
              (run.take (index + 1))).withError environment .combinationDuplicate first
                (.between first (first + word.length))) ∧
          (¬(members.length ≤ run.length ∧ (run.take members.length).Nodup) →
            (∀ index < members.length, ¬Repeats run index) →
            let after := state.readingAll environment.observer run
            parsed = partly ∧ last = if partly then after else
              after.withError environment .exhaustedChoice after.cursor.position
                (.empty after.cursor.position)) := by
  refine ⟨free.existsUnique_longestRun _, fun run longest => ?_⟩
  obtain ⟨spare, rfl⟩ := Nat.exists_eq_add_of_le' enough
  change ((withFuel (spare + 1)).parseMembers (members.map .literal) partly []
    (members.map Rule.literal).length).Gives environment state _
  have unseen : Tracks members [] ([] : List (List U)) := by simp [Tracks]
  refine (gives_parseMembers free alone partly spare unseen longest _).mono ?_
  intro parsed values last outcome
  obtain ⟨produced, ends⟩ := outcome
  rw [List.length_map] at ends
  refine ⟨produced, ends.complete, ?_, ?_⟩
  · intro index less word found again fresh
    obtain ⟨inside, rfl⟩ := List.getElem?_eq_some_iff.mp found
    exact ends.repeated index inside less (nodup_take_of_not_repeats fresh) again
  · intro incomplete fresh
    have distinct := nodup_take_of_not_repeats fresh
    have few : run.length < members.length :=
      Nat.lt_of_not_le fun enough => incomplete ⟨enough, distinct⟩
    rw [List.take_of_length_le (Nat.le_of_lt few)] at distinct
    exact ends.exhausted few distinct

end Combinations

section Examples

def threeWords : List String := ["a", "b", "cd"]

def threeWordsRule : Rule Char :=
  .combination (threeWords.map .literal) false

private theorem prefixFree_threeWords :
    PrefixFree (threeWords.map (CodeUnit.ofText : String → List Char)) :=
  ⟨by decide, by decide⟩

/-- An input in which a word comes again before another one comes at all. -/
def threeWordsState : State Char Unit :=
  soleState threeWordsRule #['c', 'd', 'b', 'c', 'd', 'a']

private theorem longestRun_threeWords : LongestRun (threeWords.map CodeUnit.ofText)
    threeWordsState.cursor.remaining [['c', 'd'], ['b'], ['c', 'd'], ['a']] := by
  have free := prefixFree_threeWords
  have last : LongestRun (threeWords.map CodeUnit.ofText) ([] : List Char) [] :=
    (PrefixFree.longestRun_nil (by decide)).mpr rfl
  have fourth : LongestRun (threeWords.map CodeUnit.ofText) (['a'] ++ []) _ :=
    (free.longestRun_cons (by decide)).mpr ⟨_, rfl, last⟩
  have third : LongestRun (threeWords.map CodeUnit.ofText) (['c', 'd'] ++ _) _ :=
    (free.longestRun_cons (by decide)).mpr ⟨_, rfl, fourth⟩
  have second : LongestRun (threeWords.map CodeUnit.ofText) (['b'] ++ _) _ :=
    (free.longestRun_cons (by decide)).mpr ⟨_, rfl, third⟩
  have first : LongestRun (threeWords.map CodeUnit.ofText) (['c', 'd'] ++ _) _ :=
    (free.longestRun_cons (by decide)).mpr ⟨_, rfl, second⟩
  exact first

/-- The word that comes again is read, with an error. -/
theorem repeated_word_ends_threeWords :
    ((withFuel 2).parse threeWordsRule).Gives (soleEnvironment threeWordsRule) threeWordsState
      fun parsed values last => parsed = true ∧ values = [] ∧ last.cursor.position = 5 ∧
        last.report.statistics.errors = 1 := by
  have alone : threeWordsState.scope.whitespace? = none := rfl
  refine ((combinations_accept_permutations prefixFree_threeWords alone false (Nat.le_refl 2)).2 _
    longestRun_threeWords).mono ?_
  intro parsed values last ended
  obtain ⟨produced, -, repeated, -⟩ := ended
  obtain ⟨accepted, rfl⟩ := repeated 2 (by decide) ['c', 'd'] rfl (by decide) (by decide)
  exact ⟨accepted, produced, by decide, by decide⟩

end Examples

end Runner
end Descent
