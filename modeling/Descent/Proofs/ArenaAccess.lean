import Descent.Tree.Arena

/-! What is found in an arena after each of its operations. That the nodes are kept in slabs is
seen nowhere else. -/

namespace Descent.Tree.Arena

variable {arena : Arena}

/-- The nodes fill the slabs in order, and all others are empty. -/
structure Sound (arena : Arena) : Prop where
  room : arena.size ≤ arena.slabs.size * arena.slabCapacity
  filled : ∀ (index : Nat) (slab : Array Node), arena.slabs[index]? = some slab →
    slab.size = min arena.slabCapacity (arena.size - index * arena.slabCapacity)

theorem sound_empty (slabCapacity : Nat) : (empty slabCapacity).Sound where
  room := by simp [empty]
  filled index slab found := by simp [empty] at found

private theorem div_mul_add_mod (arena : Arena) (id : Nat) :
    id / arena.slabCapacity * arena.slabCapacity + id % arena.slabCapacity = id :=
  Nat.div_add_mod' ..

private theorem mod_lt (arena : Arena) (id : Nat) : id % arena.slabCapacity < arena.slabCapacity :=
  Nat.mod_lt _ arena.slabCapacity_pos

private theorem get?_split (arena : Arena) (id : Nat) :
    arena.get? id = (arena.slabs[id / arena.slabCapacity]?).bind
      fun slab => slab[id % arena.slabCapacity]? := rfl

theorem get?_eq_none_iff (sound : arena.Sound) (id : Nat) :
    arena.get? id = none ↔ arena.size ≤ id := by
  have split := div_mul_add_mod arena id
  have small := mod_lt arena id
  rw [get?_split]
  cases found : arena.slabs[id / arena.slabCapacity]? with
  | none =>
    have beyond := Array.getElem?_eq_none_iff.mp found
    have multiple := Nat.mul_le_mul_right arena.slabCapacity beyond
    have room := sound.room
    simp only [Option.bind_none, true_iff]
    omega
  | some slab =>
    have filled := sound.filled _ _ found
    simp only [Option.bind_some, Array.getElem?_eq_none_iff]
    omega

section Push

private def widened (arena : Arena) : Array (Array Node) :=
  if arena.size / arena.slabCapacity = arena.slabs.size then arena.slabs.push #[] else arena.slabs

private theorem widened_getElem? (sound : arena.Sound) (index : Nat) :
    (widened arena)[index]? =
      if index = arena.size / arena.slabCapacity then some ((arena.slabs[index]?).getD #[])
      else arena.slabs[index]? := by
  have split := div_mul_add_mod arena arena.size
  have small := mod_lt arena arena.size
  have room := sound.room
  have full : arena.size / arena.slabCapacity ≤ arena.slabs.size := by
    refine Nat.le_of_not_lt fun more => ?_
    have multiple := Nat.mul_le_mul_right arena.slabCapacity more
    rw [Nat.succ_mul] at multiple
    omega
  unfold widened
  split <;> rename_i last
  · rw [Array.getElem?_push]
    split <;> rename_i same
    · subst same
      simp [last]
    · rw [if_neg (by omega)]
  · split <;> rename_i same
    · subst same
      rw [Array.getElem?_eq_getElem (by omega)]
      rfl
    · rfl

private theorem widened_size (sound : arena.Sound) (index : Nat) (slab : Array Node)
    (found : (widened arena)[index]? = some slab) :
    slab.size = min arena.slabCapacity (arena.size - index * arena.slabCapacity) := by
  have split := div_mul_add_mod arena arena.size
  rw [widened_getElem? sound] at found
  split at found
  · cases older : arena.slabs[index]? with
    | some other =>
      simp only [older, Option.getD_some, Option.some.injEq] at found
      exact found ▸ sound.filled _ _ older
    | none =>
      have beyond := Array.getElem?_eq_none_iff.mp older
      have multiple := Nat.mul_le_mul_right arena.slabCapacity beyond
      have room := sound.room
      simp only [older, Option.getD_none, Option.some.injEq] at found
      subst found
      simp only [List.size_toArray, List.length_nil]
      omega
  · exact sound.filled _ _ found

private theorem push_slabs (arena : Arena) (node : Node) :
    (arena.push node).2.slabs =
      (widened arena).modify (arena.size / arena.slabCapacity) (·.push node) := rfl

@[simp] theorem push_slabCapacity (arena : Arena) (node : Node) :
    (arena.push node).2.slabCapacity = arena.slabCapacity := rfl

@[simp] theorem push_ends (arena : Arena) (node : Node) :
    (arena.push node).2.ends = arena.ends := rfl

theorem sound_push (sound : arena.Sound) (node : Node) : (arena.push node).2.Sound := by
  have split := div_mul_add_mod arena arena.size
  have small := mod_lt arena arena.size
  constructor
  · change arena.size + 1 ≤ (arena.push node).2.slabs.size * arena.slabCapacity
    have more : arena.size / arena.slabCapacity < (arena.push node).2.slabs.size := by
      rw [push_slabs, Array.size_modify]
      refine Nat.lt_of_not_le fun beyond => ?_
      have held := widened_getElem? sound (arena.size / arena.slabCapacity)
      rw [if_pos rfl, Array.getElem?_eq_none beyond] at held
      cases held
    have multiple := Nat.mul_le_mul_right arena.slabCapacity (Nat.succ_le_of_lt more)
    rw [Nat.succ_mul] at multiple
    omega
  · intro index slab found
    change (arena.push node).2.slabs[index]? = some slab at found
    rw [push_slabs, Array.getElem?_modify] at found
    change slab.size = min arena.slabCapacity (arena.size + 1 - index * arena.slabCapacity)
    split at found <;> rename_i same
    · subst same
      obtain ⟨older, held, rfl⟩ := Option.map_eq_some_iff.mp found
      have size := widened_size sound _ older held
      rw [Array.size_push, size]
      omega
    · have size := widened_size sound _ slab found
      rcases Nat.lt_or_gt_of_ne same with before | after
      · have multiple := Nat.mul_le_mul_right arena.slabCapacity (Nat.succ_le_of_lt before)
        rw [Nat.succ_mul] at multiple
        omega
      · have multiple := Nat.mul_le_mul_right arena.slabCapacity (Nat.succ_le_of_lt after)
        rw [Nat.succ_mul] at multiple
        omega

theorem get?_push (sound : arena.Sound) (node : Node) (id : Nat) :
    (arena.push node).2.get? id = if id = arena.size then some node else arena.get? id := by
  have split := div_mul_add_mod arena arena.size
  have splitId := div_mul_add_mod arena id
  have small := mod_lt arena arena.size
  rw [get?_split, get?_split, push_slabs, push_slabCapacity, Array.getElem?_modify]
  split <;> rename_i same
  · have held := widened_getElem? sound (id / arena.slabCapacity)
    rw [if_pos same.symm] at held
    have size : ((arena.slabs[id / arena.slabCapacity]?).getD #[]).size =
        arena.size % arena.slabCapacity := by
      rw [widened_size sound _ _ held, ← same]
      omega
    rw [held, Option.map_some, Option.bind_some, Array.getElem?_push, size]
    rw [same] at split
    split <;> rename_i last
    · rw [if_pos (by omega)]
    · rw [if_neg (by rintro rfl; exact last rfl)]
      cases arena.slabs[id / arena.slabCapacity]? <;> rfl
  · rw [widened_getElem? sound, if_neg (Ne.symm same), if_neg (by rintro rfl; exact same rfl)]

end Push

section Modify

private theorem modify_slabs (arena : Arena) (id : Nat) (change : Node → Node) :
    (arena.modify id change).slabs = arena.slabs.modify (id / arena.slabCapacity)
      fun slab => slab.modify (id % arena.slabCapacity) change := rfl

@[simp] theorem modify_slabCapacity (arena : Arena) (id : Nat) (change : Node → Node) :
    (arena.modify id change).slabCapacity = arena.slabCapacity := rfl

@[simp] theorem modify_ends (arena : Arena) (id : Nat) (change : Node → Node) :
    (arena.modify id change).ends = arena.ends := rfl

theorem sound_modify (sound : arena.Sound) (id : Nat) (change : Node → Node) :
    (arena.modify id change).Sound where
  room := by simpa [modify] using sound.room
  filled index slab found := by
    change slab.size = min arena.slabCapacity (arena.size - index * arena.slabCapacity)
    simp only [modify, Array.getElem?_modify] at found
    split at found
    · obtain ⟨older, held, rfl⟩ := Option.map_eq_some_iff.mp found
      rw [Array.size_modify]
      exact sound.filled _ _ held
    · exact sound.filled _ _ found

theorem get?_modify (arena : Arena) (id : Nat) (change : Node → Node) (other : Nat) :
    (arena.modify id change).get? other =
      if other = id then (arena.get? id).map change else arena.get? other := by
  have split := div_mul_add_mod arena id
  have splitOther := div_mul_add_mod arena other
  rw [get?_split, get?_split arena id, get?_split arena other, modify_slabs,
    modify_slabCapacity, Array.getElem?_modify]
  by_cases same : other = id
  · subst same
    rw [if_pos rfl, if_pos rfl]
    cases arena.slabs[other / arena.slabCapacity]? with
    | none => rfl
    | some slab => simp [Array.getElem?_modify]
  · rw [if_neg same]
    split <;> rename_i slab
    · rw [slab] at split
      cases arena.slabs[other / arena.slabCapacity]? with
      | none => rfl
      | some slab =>
        rw [Option.map_some, Option.bind_some, Option.bind_some, Array.getElem?_modify,
          if_neg (by omega)]
    · rfl

theorem end?_modify (arena : Arena) (id : Nat) (change : Node → Node)
    (first : ∀ node, (change node).first = node.first)
    (ending : ∀ node, (change node).ending = node.ending) (other : Nat) :
    (arena.modify id change).end? other = arena.end? other := by
  simp only [end?, get?_modify, modify_ends]
  split <;> rename_i same
  · subst same
    cases arena.get? other with
    | none => rfl
    | some node => simp [first, ending]
  · rfl

end Modify

section SetEnd

/-- A node that is as it was, its end with it. -/
structure Agrees (before after : Arena) (id : Nat) : Prop where
  node : after.get? id = before.get? id
  stop : after.end? id = before.end? id

theorem Agrees.refl (arena : Arena) (id : Nat) : arena.Agrees arena id := ⟨rfl, rfl⟩

theorem Agrees.trans {before middle after : Arena} {id : Nat} (first : before.Agrees middle id)
    (second : middle.Agrees after id) : before.Agrees after id :=
  ⟨second.node.trans first.node, second.stop.trans first.stop⟩

theorem agrees_push (sound : arena.Sound) (node : Node) {id : Nat} (older : id < arena.size) :
    arena.Agrees (arena.push node).2 id := by
  have same : (arena.push node).2.get? id = arena.get? id := by
    rw [get?_push sound, if_neg (Nat.ne_of_lt older)]
  exact ⟨same, by simp only [end?, same, push_ends]⟩

theorem agrees_modify (arena : Arena) (id : Nat) (change : Node → Node)
    (first : ∀ node, (change node).first = node.first)
    (ending : ∀ node, (change node).ending = node.ending) {other : Nat} (different : other ≠ id) :
    arena.Agrees (arena.modify id change) other :=
  ⟨by rw [get?_modify, if_neg different], end?_modify arena id change first ending other⟩

theorem setEnd_of_get? {id : Nat} {node : Node} (found : arena.get? id = some node)
    (stop : Nat) (compact : Bool) :
    arena.setEnd id stop compact =
      if compact && stop - node.first < UInt32.size then
        arena.modify id fun node' => { node' with ending := .extent (stop - node.first) }
      else
        { arena.modify id fun node' => { node' with ending := .tabled } with
          ends := arena.ends.insert id stop
          log := if arena.ends.contains id then arena.log else id :: arena.log } := by
  simp only [setEnd, found]

theorem setEnd_of_none {id : Nat} (missing : arena.get? id = none) (stop : Nat)
    (compact : Bool) : arena.setEnd id stop compact = arena := by
  simp only [setEnd, missing]

theorem sound_setEnd (sound : arena.Sound) (id stop : Nat) (compact : Bool) :
    (arena.setEnd id stop compact).Sound := by
  cases found : arena.get? id with
  | none => rwa [setEnd_of_none found]
  | some node =>
    rw [setEnd_of_get? found]
    split
    · exact sound_modify sound id _
    · exact ⟨(sound_modify sound id _).room, (sound_modify sound id _).filled⟩

@[simp] theorem setEnd_size (arena : Arena) (id stop : Nat) (compact : Bool) :
    (arena.setEnd id stop compact).size = arena.size := by
  cases found : arena.get? id with
  | none => rw [setEnd_of_none found]
  | some node =>
    rw [setEnd_of_get? found]
    split <;> rfl

theorem setEnd_log (arena : Arena) (id stop : Nat) (compact : Bool) :
    (arena.setEnd id stop compact).log = arena.log ∨
      (arena.setEnd id stop compact).log = id :: arena.log := by
  cases found : arena.get? id with
  | none => exact .inl (by rw [setEnd_of_none found])
  | some node =>
    rw [setEnd_of_get? found]
    split
    · exact .inl rfl
    · by_cases known : arena.ends.contains id
      · exact .inl (if_pos known)
      · exact .inr (if_neg known)

theorem agrees_setEnd (arena : Arena) (id stop : Nat) (compact : Bool) {other : Nat}
    (different : other ≠ id) : arena.Agrees (arena.setEnd id stop compact) other := by
  cases found : arena.get? id with
  | none =>
    rw [setEnd_of_none found]
    exact .refl ..
  | some node =>
    rw [setEnd_of_get? found]
    split
    · have same : (arena.modify id fun node' =>
          { node' with ending := .extent (stop - node.first) }).get? other = arena.get? other := by
        rw [get?_modify, if_neg different]
      exact ⟨same, by simp only [end?, same, modify_ends]⟩
    · have same : (arena.modify id fun node' =>
          { node' with ending := .tabled }).get? other = arena.get? other := by
        rw [get?_modify, if_neg different]
      refine ⟨same, ?_⟩
      change ((arena.modify id _).get? other).bind _ = _
      rw [same, end?]
      congr 1
      funext other'
      cases other'.ending with
      | extent length => rfl
      | tabled => simp [Std.HashMap.getElem?_insert, Ne.symm different]

/-- The end that was written is the one that is found. -/
theorem get?_setEnd {id : Nat} {node : Node} (found : arena.get? id = some node) {stop : Nat}
    {compact : Bool} (ordered : compact = true ∨ node.first ≤ stop) :
    (∃ ending, (arena.setEnd id stop compact).get? id = some { node with ending }) ∧
      (arena.setEnd id stop compact).end? id = some (max node.first stop) := by
  rw [setEnd_of_get? found]
  split <;> rename_i short
  · have held : (arena.modify id fun node' =>
        { node' with ending := .extent (stop - node.first) }).get? id =
          some { node with ending := .extent (stop - node.first) } := by
      rw [get?_modify, if_pos rfl, found]
      rfl
    refine ⟨⟨_, held⟩, ?_⟩
    simp only [end?, held, Option.bind_some, Option.some.injEq]
    omega
  · have held : (arena.modify id fun node' => { node' with ending := .tabled }).get? id =
        some { node with ending := .tabled } := by
      rw [get?_modify, if_pos rfl, found]
      rfl
    refine ⟨⟨_, held⟩, ?_⟩
    have after : node.first ≤ stop := by
      rcases ordered with rfl | ordered
      · simp only [Bool.true_and, decide_eq_true_eq] at short
        have positive : 0 < UInt32.size := by decide
        omega
      · exact ordered
    change ((arena.modify id _).get? id).bind _ = _
    rw [held]
    simp [Nat.max_eq_right after]

end SetEnd

section Unwind

theorem getElem?_foldl_erase (ids : List Nat) (ends : Std.HashMap Nat Nat) (id : Nat) :
    (ids.foldl (·.erase ·) ends)[id]? = if id ∈ ids then none else ends[id]? := by
  induction ids generalizing ends with
  | nil => rfl
  | cons first rest ih =>
    rw [List.foldl_cons, ih, Std.HashMap.getElem?_erase]
    by_cases same : id = first
    · simp [same]
    · simp [same, Ne.symm same]

theorem unwind_size {mark : Mark} (older : mark.nodes ≤ arena.size) :
    (arena.unwind mark).size = mark.nodes := by
  unfold unwind
  split
  · omega
  · rfl

theorem sound_unwind (sound : arena.Sound) (mark : Mark) : (arena.unwind mark).Sound := by
  unfold unwind
  split
  · exact sound
  · rename_i newer
    constructor
    · have room := sound.room
      simp only [Array.size_mapIdx]
      omega
    · intro index slab found
      simp only [Array.getElem?_mapIdx, Option.map_eq_some_iff] at found
      obtain ⟨older, held, rfl⟩ := found
      have filled := sound.filled _ _ held
      have split := div_mul_add_mod arena mark.nodes
      have small := mod_lt arena mark.nodes
      rcases Nat.lt_trichotomy index (mark.nodes / arena.slabCapacity) with before | same | after
      · have multiple := Nat.mul_le_mul_right arena.slabCapacity (Nat.succ_le_of_lt before)
        rw [Nat.succ_mul] at multiple
        rw [cutSlab, if_pos before, filled]
        change _ = min arena.slabCapacity (mark.nodes - index * arena.slabCapacity)
        omega
      · subst same
        rw [cutSlab, if_neg (Nat.lt_irrefl _), if_pos rfl, Array.take, Array.size_extract, filled]
        change _ = min arena.slabCapacity
          (mark.nodes - mark.nodes / arena.slabCapacity * arena.slabCapacity)
        omega
      · have multiple := Nat.mul_le_mul_right arena.slabCapacity (Nat.succ_le_of_lt after)
        rw [Nat.succ_mul] at multiple
        rw [cutSlab, if_neg (by omega), if_neg (by omega)]
        change 0 = min arena.slabCapacity (mark.nodes - index * arena.slabCapacity)
        omega

theorem get?_unwind (mark : Mark) {id : Nat}
    (kept : id < mark.nodes) : (arena.unwind mark).get? id = arena.get? id := by
  have split := div_mul_add_mod arena id
  have splitMark := div_mul_add_mod arena mark.nodes
  unfold unwind
  split
  · rfl
  · rename_i newer
    rw [get?_split, get?_split]
    simp only [Array.getElem?_mapIdx]
    cases held : arena.slabs[id / arena.slabCapacity]? with
    | none => rfl
    | some slab =>
      have order := Nat.div_le_div_right (c := arena.slabCapacity) (Nat.le_of_lt kept)
      rw [Option.map_some, Option.bind_some, Option.bind_some, cutSlab]
      rcases Nat.lt_or_eq_of_le order with before | same
      · rw [if_pos before]
      · rw [if_neg (by omega), if_pos same, Array.take, Array.getElem?_extract]
        rw [same] at split
        rw [Nat.zero_add]
        split
        · rfl
        · exact (Array.getElem?_eq_none (by omega)).symm

/-- Going back to a mark keeps the nodes before it with their ends, and the log as it was, if all
ends written since are of newer nodes. -/
theorem agrees_unwind {mark : Mark} {fresh older : List NodeId}
    (log : arena.log = fresh ++ older) (length : older.length = mark.ends)
    (newer : ∀ id ∈ fresh, mark.nodes ≤ id) {id : Nat} (kept : id < mark.nodes) :
    arena.Agrees (arena.unwind mark) id := by
  refine ⟨get?_unwind mark kept, ?_⟩
  rw [end?, get?_unwind mark kept]
  unfold unwind
  split
  · rfl
  · have taken : arena.log.take (arena.log.length - mark.ends) = fresh := by
      rw [log, List.length_append, length, Nat.add_sub_cancel, List.take_left]
    have absent : id ∉ fresh := fun member => Nat.not_le_of_lt kept (newer id member)
    simp only [taken, getElem?_foldl_erase, if_neg absent]
    rfl

theorem unwind_log {mark : Mark} {fresh older : List NodeId} (log : arena.log = fresh ++ older)
    (length : older.length = mark.ends) :
    ∃ rest ⊆ fresh, (arena.unwind mark).log = rest ++ older := by
  unfold unwind
  split
  · exact ⟨fresh, List.Subset.refl _, log⟩
  · refine ⟨[], List.nil_subset _, ?_⟩
    change arena.log.drop (arena.log.length - mark.ends) = older
    rw [log, List.length_append, length, Nat.add_sub_cancel, List.drop_left]

end Unwind

end Descent.Tree.Arena
