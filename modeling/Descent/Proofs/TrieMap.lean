import Descent.Proofs.CursorTexts
import Descent.Proofs.Refusals
import Descent.Proofs.TrieNodes

/-! Tries as finite maps. Whatever is inserted, a trie has the strings whose insertion succeeded,
each with its number, and finds the longest of them that the input goes on with. -/

namespace Descent.Trie

variable {U : Type} [CodeUnit U]

section Search

/-- Of the strings that have a number, the longest one that a text begins with. -/
structure IsLongest (numberOf : List U → Option Nat) (text string : List U) (number : Nat) :
    Prop where
  stored : numberOf string = some number
  begins : string <+: text
  longest : ∀ other, numberOf other ≠ none → other <+: text → other.length ≤ string.length

omit [CodeUnit U] in
theorem IsLongest.unique {numberOf : List U → Option Nat} {text string other : List U}
    {number least : Nat} (longest : IsLongest numberOf text string number)
    (also : IsLongest numberOf text other least) : string = other := by
  have short := longest.longest other (by simp [also.stored]) also.begins
  have long := also.longest string (by simp [longest.stored]) longest.begins
  exact (List.prefix_of_prefix_length_le longest.begins also.begins long).eq_of_length
    (Nat.le_antisymm long short)

variable {nodes : Array (Node U)} {index next : Nat} {cursor : Cursor U}
  {best result : Option (Nat × Cursor U)} {unit : U}

/-- What a search for strings at a place answers with: the longest one there, or what it had found
before if there is none. -/
def Finds (nodes : Array (Node U)) (index : Nat) (cursor : Cursor U)
    (best result : Option (Nat × Cursor U)) : Prop :=
  (∃ string number, IsLongest (lookupFrom nodes index) cursor.remaining string number ∧
    result = some (number, cursor.moveTo (cursor.position + string.length))) ∨
  ((∀ string, string <+: cursor.remaining → lookupFrom nodes index string = none) ∧ result = best)

/-- What a search has found when it has come to a node. -/
def bestHere (nodes : Array (Node U)) (index : Nat) (cursor : Cursor U)
    (best : Option (Nat × Cursor U)) : Option (Nat × Cursor U) :=
  match stored nodes index with
  | some number => some (number, cursor)
  | none => best

/-- Where no longer string goes on, the search ends. -/
theorem finds_here
    (ends : ∀ key tail, key :: tail <+: cursor.remaining →
      lookupFrom nodes index (key :: tail) = none) :
    Finds nodes index cursor best (bestHere nodes index cursor best) := by
  unfold bestHere
  cases found : stored nodes index with
  | some number =>
    refine .inl ⟨[], number, ⟨found, List.nil_prefix, ?_⟩, ?_⟩
    · intro other stored begins
      cases other with
      | nil => exact Nat.le_refl 0
      | cons key tail => exact absurd (ends key tail begins) stored
    · exact congrArg (fun here => some (number, here)) cursor.moveTo_position.symm
  | none =>
    refine .inr ⟨?_, rfl⟩
    intro string begins
    cases string with
    | nil => exact found
    | cons key tail => exact ends key tail begins

/-- The strings behind an edge are longer than the one that ends in front of it. -/
theorem Finds.behind (ahead : cursor.peek = some unit) (edge : child nodes index unit = some next)
    (finds : Finds nodes next cursor.next (bestHere nodes index cursor best) result) :
    Finds nodes index cursor best result := by
  have text : cursor.remaining = unit :: cursor.next.remaining := Cursor.remaining_of_peek ahead
  have behind (tail : List U) :
      lookupFrom nodes index (unit :: tail) = lookupFrom nodes next tail := by
    rw [lookupFrom, edge]
    rfl
  cases finds with
  | inl finds =>
    obtain ⟨string, number, ⟨stored, begins, longest⟩, rfl⟩ := finds
    refine .inl ⟨unit :: string, number, ⟨(behind string).trans stored, ?_, ?_⟩, ?_⟩
    · rw [text]
      exact List.cons_prefix_cons.mpr ⟨rfl, begins⟩
    · intro other stored begins
      rw [text] at begins
      cases other with
      | nil => exact Nat.zero_le _
      | cons key tail =>
        obtain ⟨rfl, goes_on⟩ := List.cons_prefix_cons.mp begins
        rw [behind] at stored
        exact Nat.succ_le_succ (longest tail stored goes_on)
    · rw [Cursor.next_moveTo ahead, List.length_cons]
  | inr finds =>
    obtain ⟨none_behind, rfl⟩ := finds
    refine finds_here ?_
    intro key tail begins
    rw [text] at begins
    obtain ⟨rfl, goes_on⟩ := List.cons_prefix_cons.mp begins
    rw [behind]
    exact none_behind tail goes_on

private theorem finds_go {trie : Trie U} (left : Nat) (room : cursor.left = left) :
    Finds trie.nodes index cursor best (longest.go trie left index cursor best) := by
  induction left generalizing index cursor best with
  | zero =>
    have ended : cursor.remaining = [] :=
      List.eq_nil_of_length_eq_zero (cursor.length_remaining.trans room)
    rw [longest.go]
    refine finds_here ?_
    intro key tail begins
    rw [ended] at begins
    cases List.prefix_nil.mp begins
  | succ left ih =>
    rw [longest.go]
    cases ahead : cursor.peek with
    | none =>
      simp only [Option.bind_none]
      refine finds_here ?_
      intro key tail begins
      rw [Cursor.remaining_of_end ahead] at begins
      cases List.prefix_nil.mp begins
    | some unit =>
      cases edge : child trie.nodes index unit with
      | none =>
        simp only [Option.bind_some, edge]
        refine finds_here ?_
        intro key tail begins
        rw [Cursor.remaining_of_peek ahead] at begins
        obtain ⟨rfl, -⟩ := List.cons_prefix_cons.mp begins
        rw [lookupFrom, edge]
        rfl
      | some next =>
        simp only [Option.bind_some, edge]
        have room := (Cursor.left_next ahead).symm.trans room
        exact .behind ahead edge (ih (Nat.succ.inj room))

variable {trie : Trie U}

private theorem finds_longest (trie : Trie U) (cursor : Cursor U) :
    Finds trie.nodes 0 cursor none (trie.longest cursor) :=
  finds_go cursor.left rfl

/-- A search finds the longest string that the input goes on with, and ends where that ends. -/
theorem longest_eq_some_iff {number : Nat} {after : Cursor U} :
    trie.longest cursor = some (number, after) ↔
      ∃ string, IsLongest trie.lookup cursor.remaining string number ∧
        after = cursor.moveTo (cursor.position + string.length) := by
  constructor
  · intro found
    cases found ▸ trie.finds_longest cursor with
    | inl finds =>
      obtain ⟨string, number, longest, same⟩ := finds
      cases same
      exact ⟨string, longest, rfl⟩
    | inr finds => cases finds.2
  · rintro ⟨string, longest, rfl⟩
    cases trie.finds_longest cursor with
    | inl finds =>
      obtain ⟨other, least, also, found⟩ := finds
      cases longest.unique also
      cases longest.stored.symm.trans also.stored
      exact found
    | inr finds =>
      cases longest.stored.symm.trans (finds.1 string longest.begins)

theorem longest_eq_none_iff :
    trie.longest cursor = none ↔
      ∀ string, string <+: cursor.remaining → trie.lookup string = none := by
  constructor
  · intro missing
    cases missing ▸ trie.finds_longest cursor with
    | inl finds =>
      obtain ⟨_, _, -, found⟩ := finds
      cases found
    | inr finds => exact finds.1
  · intro missing
    cases trie.finds_longest cursor with
    | inl finds =>
      obtain ⟨string, number, longest, -⟩ := finds
      cases longest.stored.symm.trans (missing string longest.begins)
    | inr finds => exact finds.2

end Search

section Insertion

/-- A trie is a finite map with these entries, and finds the longest of their strings at a place. -/
structure IsMapOf (trie : Trie U) (entries : List (List U × Nat)) : Prop where
  lookup_eq_some_iff (string : List U) (number : Nat) :
    trie.lookup string = some number ↔ (string, number) ∈ entries
  lookup_eq_none_iff (string : List U) :
    trie.lookup string = none ↔ ∀ number, (string, number) ∉ entries
  size_eq : trie.size = entries.length
  longest_eq_some_iff (cursor : Cursor U) (number : Nat) (after : Cursor U) :
    trie.longest cursor = some (number, after) ↔
      ∃ string, (string, number) ∈ entries ∧ string <+: cursor.remaining ∧
        (∀ other ∈ entries, other.1 <+: cursor.remaining → other.1.length ≤ string.length) ∧
        after = cursor.moveTo (cursor.position + string.length)
  longest_eq_none_iff (cursor : Cursor U) :
    trie.longest cursor = none ↔ ∀ entry ∈ entries, ¬entry.1 <+: cursor.remaining

/-- The nodes are in order, and the strings with a number are those of the entries: what the rest
follows from. -/
structure Stores (trie : Trie U) (entries : List (List U × Nat)) : Prop where
  shape : Shape trie.nodes
  lookup (string : List U) (number : Nat) :
    trie.lookup string = some number ↔ (string, number) ∈ entries
  size : trie.size = entries.length

def insertEntry (trie : Trie U) (entry : List U × Nat) : Trie U × Except GrammarError Unit :=
  trie.tryInsert entry.1 entry.2

def insertEach (calls : List (List U × Nat)) : Trie U :=
  stateAfter insertEntry empty calls

def inserted (calls : List (List U × Nat)) : List (List U × Nat) :=
  acceptedCalls insertEntry empty calls

variable {trie : Trie U} {entries : List (List U × Nat)} {string : List U} {number : Nat}

theorem stores_empty : (empty : Trie U).Stores [] := by
  refine ⟨shape_root, ?_, rfl⟩
  intro string number
  have missing : (empty : Trie U).lookup string = none := by cases string <;> rfl
  simp [missing]

private theorem lookup_eq (trie : Trie U) (string : List U) :
    trie.lookup string = (descend trie.nodes 0 string).bind (Trie.stored trie.nodes) :=
  lookupFrom_eq ..

theorem tryInsert_of_lookup (present : trie.lookup string = some number) (given : string ≠ [])
    (other : Nat) :
    trie.tryInsert string other = (trie, .error (.duplicateString (CodeUnit.toText string))) := by
  rw [lookup_eq, Option.bind_eq_some_iff] at present
  obtain ⟨last, reached, stored⟩ := present
  rw [tryInsert, if_neg (by simpa using given), enterAll_of_descend reached]
  simp [stored]

/-- Any other string is stored with its number, and all others keep theirs. -/
theorem Stores.tryInsert_of_fresh (stores : trie.Stores entries) (given : string ≠ [])
    (fresh : trie.lookup string = none) (number : Nat) :
    ∃ larger, trie.tryInsert string number = (larger, .ok ()) ∧
      larger.Stores (entries ++ [(string, number)]) := by
  have way : descend trie.nodes 0 [] = some 0 := rfl
  have entered := stores.shape.enterAll way string
  rw [Trie.tryInsert, if_neg (by simpa using given)]
  generalize enterAll trie.nodes 0 string = entry at entered ⊢
  obtain ⟨grown, last⟩ := entry
  obtain ⟨shape, reached, same⟩ := entered
  have bare : stored grown last = none := by
    have missing := (same string).trans fresh
    rw [List.nil_append] at reached
    rwa [lookupFrom_eq, reached] at missing
  refine ⟨⟨store grown last number, trie.size + 1⟩, by simp [bare], shape.store _ _, ?_, ?_⟩
  · intro other found
    have old : lookupFrom trie.nodes 0 other = some found ↔ (other, found) ∈ entries :=
      stores.lookup other found
    rw [Trie.lookup, shape.lookupFrom_store reached, same]
    by_cases here : other = string
    · subst here
      have missing : (other, found) ∉ entries := by
        rw [← stores.lookup, fresh]
        exact nofun
      simp [missing, eq_comm]
    · simp [here, old]
  · rw [stores.size, List.length_append, List.length_singleton]

/-- What an attempt to insert a string comes to. -/
theorem Stores.tryInsert (stores : trie.Stores entries) (string : List U) (number : Nat) :
    (trie.tryInsert string number).2 =
        (if string = [] then .error .emptyLiteral
        else if string ∈ entries.map Prod.fst then
          .error (.duplicateString (CodeUnit.toText string))
        else .ok ()) ∧
      (∀ error, (trie.tryInsert string number).2 = .error error →
        (trie.tryInsert string number).1 = trie) ∧
      (trie.tryInsert string number).1.Stores
        (if (trie.tryInsert string number).2.isOk then entries ++ [(string, number)]
        else entries) := by
  have present : string ∈ entries.map Prod.fst ↔ ∃ number, trie.lookup string = some number := by
    simp only [stores.lookup, List.mem_map, Prod.exists, exists_and_right, exists_eq_right]
  by_cases given : string = []
  · subst given
    exact ⟨rfl, fun _ _ => rfl, stores⟩
  · cases found : trie.lookup string with
    | some older =>
      rw [tryInsert_of_lookup found given, if_neg given, if_pos (present.mpr ⟨older, found⟩)]
      exact ⟨rfl, fun _ _ => rfl, stores⟩
    | none =>
      obtain ⟨larger, answer, more⟩ := stores.tryInsert_of_fresh given found number
      rw [answer, if_neg given, if_neg (by simp [present, found])]
      exact ⟨rfl, nofun, more⟩

theorem Stores.isMapOf (stores : trie.Stores entries) : trie.IsMapOf entries where
  lookup_eq_some_iff := stores.lookup
  lookup_eq_none_iff string := by
    simp only [← stores.lookup, Option.eq_none_iff_forall_ne_some, ne_eq]
  size_eq := stores.size
  longest_eq_some_iff cursor number after := by
    have stored (other : List U) :
        trie.lookup other ≠ none ↔ ∃ number, (other, number) ∈ entries := by
      simp only [Option.ne_none_iff_exists', stores.lookup]
    rw [trie.longest_eq_some_iff]
    constructor
    · rintro ⟨string, longest, rfl⟩
      refine ⟨string, (stores.lookup ..).mp longest.stored, longest.begins, ?_, rfl⟩
      intro other member begins
      exact longest.longest other.1 ((stored _).mpr ⟨other.2, member⟩) begins
    · rintro ⟨string, member, begins, longest, rfl⟩
      refine ⟨string, ⟨(stores.lookup ..).mpr member, begins, ?_⟩, rfl⟩
      intro other found begins
      obtain ⟨number, member⟩ := (stored other).mp found
      exact longest (other, number) member begins
  longest_eq_none_iff cursor := by
    rw [trie.longest_eq_none_iff]
    constructor
    · intro missing entry member begins
      cases (missing entry.1 begins).symm.trans ((stores.lookup ..).mpr member)
    · intro missing string begins
      refine Option.eq_none_iff_forall_ne_some.mpr fun number found => ?_
      exact missing (string, number) ((stores.lookup ..).mp found) begins

private theorem stores_insertEach (calls : List (List U × Nat)) :
    (insertEach calls).Stores (inserted calls) :=
  stateAfter_keeps stores_empty
    (fun _ _ entry stores => (stores.tryInsert entry.1 entry.2).2.2) calls

/-- Whatever is inserted, a trie is a finite map from the strings whose insertion succeeded to
their numbers, and finds the longest of them. An insertion fails exactly if its string is empty or
was inserted before, and then it changes nothing. -/
theorem insertions_make_map (calls : List (List U × Nat)) :
    (insertEach calls).IsMapOf (inserted calls) ∧
      ∀ string number,
        ((insertEach calls).tryInsert string number).2 =
          (if string = [] then .error .emptyLiteral
          else if string ∈ (inserted calls).map Prod.fst then
            .error (.duplicateString (CodeUnit.toText string))
          else .ok ()) ∧
        ∀ error, ((insertEach calls).tryInsert string number).2 = .error error →
          ((insertEach calls).tryInsert string number).1 = insertEach calls := by
  have stores := stores_insertEach calls
  refine ⟨stores.isMapOf, fun string number => ?_⟩
  obtain ⟨answer, unchanged, -⟩ := stores.tryInsert string number
  exact ⟨answer, unchanged⟩

end Insertion

end Descent.Trie
