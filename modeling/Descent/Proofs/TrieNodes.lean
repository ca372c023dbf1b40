import Descent.Trie
import Mathlib.Data.List.Induction

/-! The nodes of a trie. The edges of a node are sorted, so halving finds them, and each node is led
to by one string. Adding edges keeps both. -/

namespace Descent.Trie

variable {U : Type} [CodeUnit U]

namespace Node

section Places

variable {edges : Array (U × Nat)} {unit : U} {low high : Nat}

def Sorted (edges : List (U × Nat)) : Prop :=
  edges.Pairwise fun edge later => CodeUnit.value edge.1 < CodeUnit.value later.1

/-- What is before a place has smaller units, and what is behind it has not. -/
structure Separates (edges : Array (U × Nat)) (unit : U) (low high : Nat) : Prop where
  inside : high ≤ edges.size
  before {index : Nat} {edge : U × Nat} (earlier : index < low)
    (found : edges[index]? = some edge) : CodeUnit.value edge.1 < CodeUnit.value unit
  behind {index : Nat} {edge : U × Nat} (later : high ≤ index)
    (found : edges[index]? = some edge) : CodeUnit.value unit ≤ CodeUnit.value edge.1

private theorem Sorted.lt {index other : Nat} {edge later : U × Nat} (sorted : Sorted edges.toList)
    (order : index < other) (found : edges[index]? = some edge)
    (behind : edges[other]? = some later) : CodeUnit.value edge.1 < CodeUnit.value later.1 := by
  rw [← Array.getElem?_toList, List.getElem?_eq_some_iff] at found behind
  obtain ⟨inside, rfl⟩ := found
  obtain ⟨within, rfl⟩ := behind
  exact List.pairwise_iff_getElem.mp sorted _ _ inside within order

/-- Halving keeps what is known on both sides, until nothing is left between them. -/
theorem Separates.place (sorted : Sorted edges.toList) (order : low ≤ high)
    (separates : Separates edges unit low high) :
    Separates edges unit (place edges unit low high) (place edges unit low high) := by
  fun_induction Node.place edges unit low high with
  | case1 low high room middle smaller ih =>
    refine ih (by omega) ⟨separates.inside, ?_, separates.behind⟩
    intro index edge earlier found
    cases here : edges[middle]? with
    | none => simp [here] at smaller
    | some pivot =>
      have smaller : CodeUnit.value pivot.1 < CodeUnit.value unit := by simpa [here] using smaller
      by_cases same : index = middle
      · cases (same ▸ found).symm.trans here
        exact smaller
      · exact Nat.lt_trans (sorted.lt (by omega) found here) smaller
  | case2 low high room middle larger ih =>
    have inside : middle < edges.size := by have := separates.inside; omega
    have here : edges[middle]? = some edges[middle] := Array.getElem?_eq_getElem inside
    have larger : CodeUnit.value unit ≤ CodeUnit.value edges[middle].1 := by
      rw [here] at larger
      simpa using larger
    refine ih (by omega) ⟨by omega, separates.before, ?_⟩
    intro index edge later found
    by_cases same : index = middle
    · cases (same ▸ found).symm.trans here
      exact larger
    · exact Nat.le_of_lt (Nat.lt_of_le_of_lt larger (sorted.lt (by omega) here found))
  | case3 low high ended =>
    have same : low = high := by omega
    exact ⟨same ▸ separates.inside, separates.before, same ▸ separates.behind⟩

/-- The place of a unit splits the edges into those of smaller units and all others. -/
theorem placeOf_splits {node : Node U} (sorted : Sorted node.edges.toList) (unit : U) :
    ∃ before behind, node.edges.toList = before ++ behind ∧
      node.placeOf unit = before.length ∧
      (∀ edge ∈ before, CodeUnit.value edge.1 < CodeUnit.value unit) ∧
      ∀ edge ∈ behind, CodeUnit.value unit ≤ CodeUnit.value edge.1 := by
  have separates : Separates node.edges unit (node.placeOf unit) (node.placeOf unit) :=
    Separates.place sorted (Nat.zero_le _) ⟨Nat.le_refl _, by omega, fun beyond found => by
      simp [Array.getElem?_eq_none beyond] at found⟩
  refine ⟨node.edges.toList.take (node.placeOf unit), node.edges.toList.drop (node.placeOf unit),
    (List.take_append_drop ..).symm, ?_, ?_, ?_⟩
  · rw [List.length_take, Array.length_toList, Nat.min_eq_left separates.inside]
  · intro edge member
    obtain ⟨index, found⟩ := List.mem_iff_getElem?.mp member
    rw [List.getElem?_take, Option.ite_none_right_eq_some, Array.getElem?_toList] at found
    exact separates.before found.1 found.2
  · intro edge member
    obtain ⟨index, found⟩ := List.mem_iff_getElem?.mp member
    rw [List.getElem?_drop, Array.getElem?_toList] at found
    exact separates.behind (Nat.le_add_right _ index) found

end Places

variable {node : Node U} {unit key : U} {next target : Nat}

/-- The place of a unit is where its edge is. -/
theorem child_eq_some_iff (sorted : Sorted node.edges.toList) :
    node.child unit = some target ↔ (unit, target) ∈ node.edges.toList := by
  obtain ⟨before, behind, split, place, smaller, larger⟩ := placeOf_splits sorted unit
  have away : (unit, target) ∉ before := fun member => Nat.lt_irrefl _ (smaller _ member)
  rw [child, ← Array.getElem?_toList, split, place, List.getElem?_append_right (Nat.le_refl _),
    Nat.sub_self, List.mem_append, or_iff_right away]
  cases behind with
  | nil => simp
  | cons edge rest =>
    obtain ⟨other, last⟩ := edge
    have sorted : Sorted ((other, last) :: rest) := (List.pairwise_append.mp (split ▸ sorted)).2.1
    have absent : (unit, target) ∉ rest := by
      intro member
      have close := larger (other, last) List.mem_cons_self
      exact Nat.not_lt.mpr close (List.rel_of_pairwise_cons sorted member)
    by_cases same : other = unit
    · simp [same, absent, eq_comm]
    · simp [same, absent, Ne.symm same]

private theorem toList_addEdge (sorted : Sorted node.edges.toList) (unit : U) (next : Nat) :
    ∃ before behind, node.edges.toList = before ++ behind ∧
      (node.addEdge unit next).edges.toList = before ++ (unit, next) :: behind ∧
      (∀ edge ∈ before, CodeUnit.value edge.1 < CodeUnit.value unit) ∧
      ∀ edge ∈ behind, CodeUnit.value unit ≤ CodeUnit.value edge.1 := by
  obtain ⟨before, behind, split, place, smaller, larger⟩ := placeOf_splits sorted unit
  have inside : before.length ≤ node.edges.size := by
    rw [← Array.length_toList, split, List.length_append]
    exact Nat.le_add_right ..
  refine ⟨before, behind, split, ?_, smaller, larger⟩
  rw [addEdge, place, Array.insertIdxIfInBounds, dif_pos inside, Array.toList_insertIdx, split]
  clear split place smaller larger inside
  induction before with
  | nil => rfl
  | cons edge before ih => exact congrArg (edge :: ·) ih

private theorem sorted_addEdge (sorted : Sorted node.edges.toList) (fresh : node.child unit = none)
    (next : Nat) : Sorted (node.addEdge unit next).edges.toList := by
  obtain ⟨before, behind, split, added, smaller, larger⟩ := toList_addEdge sorted unit next
  have parts := split ▸ sorted
  obtain ⟨first, last, across⟩ := List.pairwise_append.mp parts
  rw [added]
  refine List.pairwise_append.mpr ⟨first, List.pairwise_cons.mpr ⟨?_, last⟩, ?_⟩
  · intro edge member
    refine Nat.lt_of_le_of_ne (larger edge member) fun equal => ?_
    have same : unit = edge.1 := CodeUnit.value_injective equal
    have there : (unit, edge.2) ∈ node.edges.toList := by
      rw [split, same]
      exact List.mem_append_right before member
    cases fresh.symm.trans ((child_eq_some_iff sorted).mpr there)
  · intro edge member later behindOrNew
    cases behindOrNew with
    | head => exact smaller edge member
    | tail _ member' => exact across edge member later member'

private theorem child_addEdge (sorted : Sorted node.edges.toList) (fresh : node.child unit = none)
    (next : Nat) (key : U) :
    (node.addEdge unit next).child key = if key = unit then some next else node.child key := by
  obtain ⟨before, behind, split, added, -, -⟩ := toList_addEdge sorted unit next
  refine Option.ext fun target => ?_
  have same : (key, target) ∈ (node.addEdge unit next).edges.toList ↔
      (key, target) = (unit, next) ∨ (key, target) ∈ node.edges.toList := by
    rw [added, split]
    simp only [List.mem_append, List.mem_cons]
    exact or_left_comm
  rw [child_eq_some_iff (sorted_addEdge sorted fresh next), same, ← child_eq_some_iff sorted]
  by_cases here : key = unit
  · subst here
    simp [fresh, eq_comm]
  · simp [here]

@[simp] theorem child_bare (key : U) : (bare : Node U).child key = none := rfl

end Node

section Ways

variable {nodes : Array (Node U)} {index next : Nat} {unit : U} {string other : List U}

def descend (nodes : Array (Node U)) (index : Nat) : List U → Option Nat
  | [] => some index
  | unit :: rest => (child nodes index unit).bind fun next => descend nodes next rest

private theorem descend_concat (nodes : Array (Node U)) (index : Nat) (string : List U) (unit : U) :
    descend nodes index (string ++ [unit]) =
      (descend nodes index string).bind fun last => child nodes last unit := by
  induction string generalizing index with
  | nil => simp [descend]
  | cons first rest ih =>
    rw [List.cons_append, descend, descend]
    cases child nodes index first with
    | none => rfl
    | some next => exact ih next

theorem lookupFrom_eq (nodes : Array (Node U)) (index : Nat) (string : List U) :
    lookupFrom nodes index string = (descend nodes index string).bind (stored nodes) := by
  induction string generalizing index with
  | nil => rfl
  | cons first rest ih =>
    rw [lookupFrom, descend]
    cases child nodes index first with
    | none => rfl
    | some next => exact ih next

private theorem child_eq_none_of_size_le (outside : nodes.size ≤ index) :
    child nodes index unit = none := by
  rw [child, Array.getElem?_eq_none outside]
  rfl

/-- The edges are sorted, and each node but the root has one edge to it. -/
structure Shape (nodes : Array (Node U)) : Prop where
  root : 0 < nodes.size
  sorted {index : Nat} {node : Node U} (found : nodes[index]? = some node) :
    Node.Sorted node.edges.toList
  inside {index next : Nat} {unit : U} (edge : child nodes index unit = some next) :
    next < nodes.size
  parent {index other next : Nat} {unit key : U} (edge : child nodes index unit = some next)
    (also : child nodes other key = some next) : index = other ∧ unit = key
  rootless {index : Nat} {unit : U} : child nodes index unit ≠ some 0

theorem shape_root : Shape #[(Node.bare : Node U)] := by
  have alone (index : Nat) (unit : U) : child #[(Node.bare : Node U)] index unit = none := by
    cases index <;> rfl
  refine ⟨Nat.one_pos, ?_, ?_, ?_, ?_⟩
  · intro index node found
    cases index with
    | zero =>
      cases found
      exact .nil
    | succ index => cases found
  all_goals simp [alone]

private theorem Shape.descend_lt (shape : Shape nodes)
    (reached : descend nodes 0 string = some index) : index < nodes.size := by
  cases string using List.reverseRecOn with
  | nil =>
    cases reached
    exact shape.root
  | append_singleton string unit =>
    rw [descend_concat, Option.bind_eq_some_iff] at reached
    obtain ⟨last, -, edge⟩ := reached
    exact shape.inside edge

/-- Each node is led to by one string. -/
theorem Shape.descend_injective (shape : Shape nodes)
    (reached : descend nodes 0 string = some index) (also : descend nodes 0 other = some index) :
    string = other := by
  induction string using List.reverseRecOn generalizing other index with
  | nil =>
    cases reached
    cases other using List.reverseRecOn with
    | nil => rfl
    | append_singleton other key =>
      rw [descend_concat, Option.bind_eq_some_iff] at also
      obtain ⟨last, -, edge⟩ := also
      cases shape.rootless edge
  | append_singleton string unit ih =>
    rw [descend_concat, Option.bind_eq_some_iff] at reached
    obtain ⟨last, before, edge⟩ := reached
    cases other using List.reverseRecOn with
    | nil =>
      cases also
      cases shape.rootless edge
    | append_singleton other key =>
      rw [descend_concat, Option.bind_eq_some_iff] at also
      obtain ⟨last', before', edge'⟩ := also
      obtain ⟨rfl, rfl⟩ := shape.parent edge edge'
      rw [ih before before']

end Ways

section Entering

variable {nodes : Array (Node U)} {index last : Nat} {unit : U} {path string : List U}

def grow (nodes : Array (Node U)) (index : Nat) (unit : U) : Array (Node U) :=
  (nodes.push .bare).modify index fun node => node.addEdge unit nodes.size

private theorem enter_eq (nodes : Array (Node U)) (index : Nat) (unit : U) :
    enter nodes index unit =
      match child nodes index unit with
      | some next => (nodes, next)
      | none => (grow nodes index unit, nodes.size) := rfl

private theorem size_grow (nodes : Array (Node U)) (index : Nat) (unit : U) :
    (grow nodes index unit).size = nodes.size + 1 := by
  rw [grow, Array.size_modify, Array.size_push]

private theorem getElem?_grow (nodes : Array (Node U)) (index other : Nat) (unit : U) :
    (grow nodes index unit)[other]? =
      if index = other then
        (if other = nodes.size then some .bare else nodes[other]?).map fun node =>
          node.addEdge unit nodes.size
      else if other = nodes.size then some .bare else nodes[other]? := by
  rw [grow, Array.getElem?_modify, Array.getElem?_push]

private theorem stored_grow (nodes : Array (Node U)) (index other : Nat) (unit : U) :
    stored (grow nodes index unit) other = stored nodes other := by
  rw [stored, stored, getElem?_grow]
  by_cases last : other = nodes.size
  · subst last
    split <;> simp [Node.bare, Node.addEdge]
  · cases nodes[other]? <;> simp [last, Node.addEdge]
    split <;> rfl

/-- One more edge is all that is new. -/
theorem Shape.child_grow (shape : Shape nodes) (inside : index < nodes.size)
    (missing : child nodes index unit = none) (other : Nat) (key : U) :
    child (grow nodes index unit) other key =
      if other = index ∧ key = unit then some nodes.size else child nodes other key := by
  rw [child, getElem?_grow]
  by_cases here : index = other
  · subst here
    have found : nodes[index]? = some nodes[index] := Array.getElem?_eq_getElem inside
    have fresh : nodes[index].child unit = none := by simpa [child, found] using missing
    simp only [if_neg (Nat.ne_of_lt inside), found, Option.map_some, Option.bind_some, child,
      Node.child_addEdge (shape.sorted found) fresh, true_and, if_true]
  · have apart : ¬(other = index ∧ key = unit) := fun both => here both.1.symm
    rw [if_neg here, if_neg apart]
    by_cases last : other = nodes.size
    · rw [if_pos last, child_eq_none_of_size_le (Nat.le_of_eq last.symm)]
      rfl
    · rw [if_neg last]
      rfl

theorem Shape.grow (shape : Shape nodes) (inside : index < nodes.size)
    (missing : child nodes index unit = none) : Shape (grow nodes index unit) := by
  have edges := shape.child_grow inside missing
  refine ⟨?_, ?_, ?_, ?_, ?_⟩
  · rw [size_grow]
    exact Nat.succ_pos _
  · intro other node found
    rw [getElem?_grow] at found
    by_cases here : index = other
    · subst here
      have old : nodes[index]? = some nodes[index] := Array.getElem?_eq_getElem inside
      rw [if_pos rfl, if_neg (Nat.ne_of_lt inside), old] at found
      cases found
      exact Node.sorted_addEdge (shape.sorted old) (by simpa [child, old] using missing) _
    · rw [if_neg here] at found
      split at found
      · cases found
        exact .nil
      · exact shape.sorted found
  · intro other next key edge
    rw [edges] at edge
    rw [size_grow]
    split at edge
    · cases edge
      exact Nat.lt_succ_self _
    · exact Nat.lt_succ_of_lt (shape.inside edge)
  · intro other third next key key' edge also
    rw [edges] at edge also
    split at edge <;> split at also
    · simp [*]
    · cases edge
      cases Nat.lt_irrefl _ (shape.inside also)
    · cases also
      cases Nat.lt_irrefl _ (shape.inside edge)
    · exact shape.parent edge also
  · intro other key edge
    rw [edges] at edge
    split at edge
    · exact Nat.ne_of_gt shape.root (Option.some.inj edge)
    · exact shape.rootless edge

/-- The old ways stay. -/
theorem Shape.descend_grow (shape : Shape nodes) (inside : index < nodes.size)
    (missing : child nodes index unit = none) {first : Nat}
    (reached : descend nodes first path = some last) :
    descend (Trie.grow nodes index unit) first path = some last := by
  induction path generalizing first with
  | nil => exact reached
  | cons key rest ih =>
    rw [descend, Option.bind_eq_some_iff] at reached
    obtain ⟨next, edge, reached⟩ := reached
    have old : ¬(first = index ∧ key = unit) := by
      rintro ⟨rfl, rfl⟩
      cases missing.symm.trans edge
    rw [descend, shape.child_grow inside missing, if_neg old, edge]
    exact ih reached

/-- No number is stored at the new node, and nothing is behind it. -/
theorem Shape.lookupFrom_grow (shape : Shape nodes) (inside : index < nodes.size)
    (missing : child nodes index unit = none) (first : Nat) (string : List U) :
    lookupFrom (Trie.grow nodes index unit) first string = lookupFrom nodes first string := by
  have edges := shape.child_grow inside missing
  induction string generalizing first with
  | nil => exact stored_grow ..
  | cons key rest ih =>
    rw [lookupFrom, lookupFrom, edges]
    split
    · next here =>
      obtain ⟨rfl, rfl⟩ := here
      rw [missing, Option.bind_some, ih]
      cases rest with
      | nil => simp [lookupFrom, stored]
      | cons key rest => rw [lookupFrom, child_eq_none_of_size_le (Nat.le_refl _)]; rfl
    · cases child nodes first key with
      | none => rfl
      | some next => exact ih next

/-- The nodes after some way was entered, up to a node: the strings with a number are the same. -/
structure Entered (nodes grown : Array (Node U)) (path : List U) (last : Nat) : Prop where
  shape : Shape grown
  reached : descend grown 0 path = some last
  lookup (string : List U) : lookupFrom grown 0 string = lookupFrom nodes 0 string

theorem Shape.enter (shape : Shape nodes) (reached : descend nodes 0 path = some index)
    (unit : U) :
    Entered nodes (enter nodes index unit).1 (path ++ [unit]) (enter nodes index unit).2 := by
  rw [enter_eq]
  cases edge : child nodes index unit with
  | some next =>
    refine ⟨shape, ?_, fun _ => rfl⟩
    rw [descend_concat, reached]
    exact edge
  | none =>
    have inside := shape.descend_lt reached
    refine ⟨shape.grow inside edge, ?_, shape.lookupFrom_grow inside edge 0⟩
    rw [descend_concat, shape.descend_grow inside edge reached, Option.bind_some,
      shape.child_grow inside edge, if_pos ⟨rfl, rfl⟩]

theorem Shape.enterAll (shape : Shape nodes) (reached : descend nodes 0 path = some index)
    (string : List U) :
    Entered nodes (enterAll nodes index string).1 (path ++ string)
      (enterAll nodes index string).2 := by
  induction string generalizing nodes index path with
  | nil =>
    rw [List.append_nil]
    exact ⟨shape, reached, fun _ => rfl⟩
  | cons unit rest ih =>
    have first := shape.enter reached unit
    have others := ih first.shape first.reached
    rw [List.append_assoc, List.singleton_append] at others
    exact ⟨others.shape, others.reached, fun string =>
      (others.lookup string).trans (first.lookup string)⟩

/-- Where the whole way is there already, nothing is added. -/
theorem enterAll_of_descend (reached : descend nodes index string = some last) :
    enterAll nodes index string = (nodes, last) := by
  induction string generalizing index with
  | nil =>
    cases reached
    rfl
  | cons unit rest ih =>
    rw [descend, Option.bind_eq_some_iff] at reached
    obtain ⟨next, edge, reached⟩ := reached
    rw [Trie.enterAll, enter_eq, edge]
    exact ih reached

end Entering

section Storing

variable {nodes : Array (Node U)} {index last number : Nat} {string : List U}

private theorem child_store (nodes : Array (Node U)) (last number index : Nat) (unit : U) :
    child (store nodes last number) index unit = child nodes index unit := by
  rw [child, child, store, Array.getElem?_modify]
  split <;> cases nodes[index]? <;> rfl

private theorem descend_store (nodes : Array (Node U)) (last number index : Nat) (string : List U) :
    descend (store nodes last number) index string = descend nodes index string := by
  induction string generalizing index with
  | nil => rfl
  | cons unit rest ih => simp only [descend, child_store, ih]

omit [CodeUnit U] in
private theorem stored_store (inside : last < nodes.size) (number index : Nat) :
    stored (store nodes last number) index =
      if index = last then some number else stored nodes index := by
  rw [stored, stored, store, Array.getElem?_modify]
  by_cases here : last = index
  · subst here
    simp [Array.getElem?_eq_getElem inside]
  · simp [here, Ne.symm here]

theorem Shape.store (shape : Shape nodes) (last number : Nat) :
    Shape (store nodes last number) where
  root := by
    rw [Trie.store, Array.size_modify]
    exact shape.root
  sorted := by
    intro index node found
    rw [Trie.store, Array.getElem?_modify] at found
    split at found
    · obtain ⟨old, there, rfl⟩ := Option.map_eq_some_iff.mp found
      have sorted : Node.Sorted old.edges.toList := shape.sorted there
      exact sorted
    · exact shape.sorted found
  inside edge := by
    rw [Trie.store, Array.size_modify]
    exact shape.inside ((child_store ..).symm.trans edge)
  parent edge also :=
    shape.parent ((child_store ..).symm.trans edge) ((child_store ..).symm.trans also)
  rootless edge := shape.rootless ((child_store ..).symm.trans edge)

/-- A number is stored for the one string that leads to the node, and all others keep theirs. -/
theorem Shape.lookupFrom_store (shape : Shape nodes) (reached : descend nodes 0 string = some last)
    (number : Nat) (other : List U) :
    lookupFrom (Trie.store nodes last number) 0 other =
      if other = string then some number else lookupFrom nodes 0 other := by
  rw [lookupFrom_eq, lookupFrom_eq, descend_store]
  have stores := stored_store (shape.descend_lt reached) number
  by_cases same : other = string
  · subst same
    rw [reached, Option.bind_some, stores, if_pos rfl, if_pos rfl]
  · rw [if_neg same]
    cases found : descend nodes 0 other with
    | none => rfl
    | some index =>
      have apart : index ≠ last := by
        rintro rfl
        exact same (shape.descend_injective found reached)
      rw [Option.bind_some, Option.bind_some, stores, if_neg apart]

end Storing

end Descent.Trie
