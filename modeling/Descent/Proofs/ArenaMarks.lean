import Descent.Proofs.NodeStacks

/-! Marks of an arena that are gone back to, the newest first. The ends written since a mark are
those of newer nodes, and they come before all others in the log: so going back drops them and
nothing else, and the arena stands again for a stack. -/

namespace Descent.Tree.Arena

variable {earlier middle arena : Arena} {entries : Array Entry} {keepsPlaces : Prop}

/-- An arena as it may be as long as a mark of `earlier` is in use. Where no step writes over a
place, all older nodes have theirs. -/
structure Since (keepsPlaces : Prop) (earlier arena : Arena) : Prop where
  size_le : earlier.size ≤ arena.size
  ends (id : NodeId) : id < earlier.size → arena.ends[id]? = earlier.ends[id]?
  log : ∃ fresh, arena.log = fresh ++ earlier.log ∧ ∀ id ∈ fresh, earlier.size ≤ id
  older : ∀ id ∈ earlier.log, id < earlier.size
  places (id : NodeId) : keepsPlaces → id < earlier.size →
    (arena.get? id).map Node.place = (earlier.get? id).map Node.place

namespace Since

theorem refl (stands : arena.StandsFor entries) : Since keepsPlaces arena arena where
  size_le := Nat.le_refl _
  ends _ _ := rfl
  log := ⟨[], rfl, nofun⟩
  older _ := stands.lt_of_mem_log
  places _ _ _ := rfl

theorem trans (first : Since keepsPlaces earlier middle) (second : Since keepsPlaces middle arena) :
    Since keepsPlaces earlier arena where
  size_le := Nat.le_trans first.size_le second.size_le
  ends id older :=
    (second.ends id (Nat.lt_of_lt_of_le older first.size_le)).trans (first.ends id older)
  log := by
    obtain ⟨newer, log, bound⟩ := first.log
    obtain ⟨newest, log', bound'⟩ := second.log
    refine ⟨newest ++ newer, by rw [log', log, List.append_assoc], ?_⟩
    intro id member
    cases List.mem_append.mp member with
    | inl last => exact Nat.le_trans first.size_le (bound' id last)
    | inr before => exact bound id before
  older := first.older
  places id keeps older := (second.places id keeps (Nat.lt_of_lt_of_le older first.size_le)).trans
    (first.places id keeps older)

theorem push (since : Since keepsPlaces earlier arena) (sound : arena.Sound) (node : Node) :
    Since keepsPlaces earlier (arena.push node).2 where
  size_le := Nat.le_succ_of_le since.size_le
  ends := since.ends
  log := since.log
  older := since.older
  places id keeps older := by
    rw [(agrees_push sound node (Nat.lt_of_lt_of_le older since.size_le)).node]
    exact since.places id keeps older

theorem modify (since : Since keepsPlaces earlier arena) (id : NodeId) {change : Node → Node}
    (keep : keepsPlaces → ∀ node, (change node).place = node.place) :
    Since keepsPlaces earlier (arena.modify id change) where
  size_le := since.size_le
  ends := since.ends
  log := since.log
  older := since.older
  places other keeps older := by
    rw [← since.places other keeps older, get?_modify]
    split <;> rename_i same
    · rw [same, Option.map_map]
      exact congrArg (Option.map · _) (funext (keep keeps))
    · rfl

theorem setEnd (since : Since keepsPlaces earlier arena) {id : NodeId} (newer : earlier.size ≤ id)
    (stop : Nat) (compact : Bool) : Since keepsPlaces earlier (arena.setEnd id stop compact) where
  size_le := by rw [setEnd_size]; exact since.size_le
  ends other older := by
    have different : other ≠ id := Nat.ne_of_lt (Nat.lt_of_lt_of_le older newer)
    rw [← since.ends other older]
    cases found : arena.get? id with
    | none => rw [setEnd_of_none found]
    | some node =>
      rw [setEnd_of_get? found]
      split
      · rfl
      · change (arena.ends.insert id stop)[other]? = _
        rw [Std.HashMap.getElem?_insert, beq_eq_false_iff_ne.mpr (Ne.symm different)]
        rfl
  log := by
    obtain ⟨fresh, log, bound⟩ := since.log
    cases arena.setEnd_log id stop compact with
    | inl same => exact ⟨fresh, same.trans log, bound⟩
    | inr longer =>
      refine ⟨id :: fresh, by rw [longer, log, List.cons_append], ?_⟩
      exact List.forall_mem_cons.mpr ⟨newer, bound⟩
  older := since.older
  places other keeps older := by
    have different : other ≠ id := Nat.ne_of_lt (Nat.lt_of_lt_of_le older newer)
    rw [(agrees_setEnd arena id stop compact different).node]
    exact since.places other keeps older

section Unwind

/-- Where no node is newer than a mark, no end is either. -/
private theorem log_of_size_le (since : Since keepsPlaces earlier arena)
    (stands : arena.StandsFor entries) (full : arena.size ≤ earlier.size) :
    arena.log = earlier.log := by
  obtain ⟨fresh, log, bound⟩ := since.log
  cases fresh with
  | nil => exact log
  | cons id fresh =>
    have newer : earlier.size ≤ id := bound id List.mem_cons_self
    have inside : id < arena.size := by
      apply stands.lt_of_mem_log
      rw [log]
      exact List.mem_cons_self
    exact absurd newer (Nat.not_le_of_lt (Nat.lt_of_lt_of_le inside full))

theorem unwind_size (since : Since keepsPlaces earlier arena) :
    (arena.unwind earlier.mark).size = earlier.size :=
  Arena.unwind_size since.size_le

theorem unwind_log (since : Since keepsPlaces earlier arena) (stands : arena.StandsFor entries) :
    (arena.unwind earlier.mark).log = earlier.log := by
  unfold unwind
  split <;> rename_i full
  · exact since.log_of_size_le stands full
  · obtain ⟨fresh, log, -⟩ := since.log
    change arena.log.drop (arena.log.length - earlier.log.length) = earlier.log
    rw [log, List.length_append, Nat.add_sub_cancel, List.drop_left]

private theorem unwind_ends (since : Since keepsPlaces earlier arena)
    (stands : arena.StandsFor entries) (id : NodeId) : (arena.unwind earlier.mark).ends[id]? =
      if id < earlier.size then arena.ends[id]? else none := by
  obtain ⟨fresh, log, bound⟩ := since.log
  have kept : id < earlier.size → id ∉ fresh := fun older member =>
    Nat.not_le_of_lt older (bound id member)
  -- An end of a newer node is in the log, and it is not among the older ones.
  have dropped : earlier.size ≤ id → id ∉ fresh → arena.ends[id]? = none := by
    intro newer absent
    refine Std.HashMap.getElem?_eq_none fun tabled => ?_
    have logged := (stands.log id).mpr tabled
    rw [log, List.mem_append] at logged
    exact logged.elim absent fun before => Nat.not_le_of_lt (since.older id before) newer
  unfold unwind
  split <;> rename_i full
  · split <;> rename_i older
    · rfl
    · exact stands.ends_of_size_le (Nat.le_trans full (Nat.le_of_not_lt older))
  · change ((arena.log.take (arena.log.length - earlier.log.length)).foldl
      (·.erase ·) arena.ends)[id]? = _
    rw [log, List.length_append, Nat.add_sub_cancel, List.take_left, getElem?_foldl_erase]
    by_cases older : id < earlier.size
    · rw [if_neg (kept older), if_pos older]
    · rw [if_neg older]
      split <;> rename_i absent
      · rfl
      · exact dropped (Nat.le_of_not_lt older) absent

theorem unwind (since : Since keepsPlaces earlier arena) (stands : arena.StandsFor entries) :
    Since keepsPlaces earlier (arena.unwind earlier.mark) where
  size_le := Nat.le_of_eq since.unwind_size.symm
  ends id older := by rw [since.unwind_ends stands, if_pos older, since.ends id older]
  log := ⟨[], since.unwind_log stands, nofun⟩
  older := since.older
  places id keeps older := by
    rw [get?_unwind earlier.mark older]
    exact since.places id keeps older

private theorem getElem?_take {size : Nat} (size_le : size ≤ entries.size) (id : Nat) :
    (entries.take size)[id]? = if id < size then entries[id]? else none := by
  rw [Array.take, Array.getElem?_extract, Nat.min_eq_left size_le, Nat.sub_zero, Nat.zero_add]

/-- The log of the ends that are left has what the table has. -/
private theorem unwind_mem_log_iff (since : Since keepsPlaces earlier arena)
    (stands : arena.StandsFor entries) (id : NodeId) :
    id ∈ (arena.unwind earlier.mark).log ↔ id ∈ (arena.unwind earlier.mark).ends := by
  obtain ⟨fresh, log, bound⟩ := since.log
  rw [since.unwind_log stands, Std.HashMap.mem_iff_isSome_getElem?, since.unwind_ends stands]
  split <;> rename_i older
  · rw [← Std.HashMap.mem_iff_isSome_getElem?, ← stands.log, log, List.mem_append]
    constructor
    · exact .inr
    · intro logged
      exact logged.resolve_left fun newer => Nat.not_le_of_lt older (bound id newer)
  · constructor
    · intro logged
      exact absurd (since.older id logged) older
    · intro tabled
      cases tabled

/-- Going back to a mark leaves the nodes from before it, with their ends. -/
theorem standsFor_unwind (since : Since keepsPlaces earlier arena)
    (stands : arena.StandsFor entries) :
    (arena.unwind earlier.mark).StandsFor (entries.take earlier.size) := by
  have size_le : earlier.size ≤ entries.size := stands.size ▸ since.size_le
  have sound := sound_unwind stands.sound earlier.mark
  refine ⟨sound, ?size, ?get?, ?filed, ?settled, since.unwind_mem_log_iff stands⟩
  case size =>
    rw [since.unwind_size, Array.take, Array.size_extract, Nat.min_eq_left size_le, Nat.sub_zero]
  case get? =>
    intro id
    rw [getElem?_take size_le]
    split <;> rename_i older
    · exact (get?_unwind earlier.mark older).trans (stands.get? id)
    · refine (get?_eq_none_iff sound id).mpr ?_
      rw [since.unwind_size]
      exact Nat.le_of_not_lt older
  case filed =>
    intro id
    rw [since.unwind_ends stands, getElem?_take size_le, stands.filed]
    split <;> rfl
  case settled =>
    intro id entry found
    rw [getElem?_take size_le] at found
    split at found
    · exact stands.settled id entry found
    · cases found

end Unwind

end Since

/-- What it comes to if a mark of `earlier` is gone back to. -/
structure Restores (earlier arena : Arena) : Prop where
  size : (arena.unwind earlier.mark).size = earlier.size
  mark : (arena.unwind earlier.mark).mark = earlier.mark
  /-- A node from before the mark stays as it is, its end with it. -/
  agrees (id : NodeId) : id < earlier.size → arena.Agrees (arena.unwind earlier.mark) id
  /-- It ends where it did at the mark, unless its place was written over since. -/
  stop (id : NodeId) : id < earlier.size →
    (arena.get? id).map Node.place = (earlier.get? id).map Node.place →
      (arena.unwind earlier.mark).end? id = earlier.end? id
  /-- The next node has no end but its own. -/
  fresh (node : Node) :
    ((arena.unwind earlier.mark).push node).2.end? earlier.size = node.stopWith none
  again : (arena.unwind earlier.mark).unwind earlier.mark = arena.unwind earlier.mark

/-- The end of a node is the same in two arenas that have the same place for it and the same entry
in the table of ends. -/
theorem end?_of_place {id : NodeId}
    (place : (arena.get? id).map Node.place = (earlier.get? id).map Node.place)
    (ends : arena.ends[id]? = earlier.ends[id]?) : arena.end? id = earlier.end? id := by
  have split (arena : Arena) :
      arena.end? id = (arena.get? id).bind (Node.stopWith arena.ends[id]?) := rfl
  rw [split, split, ends]
  cases found : arena.get? id with
  | none =>
    rw [found, Option.map_none] at place
    rw [Option.map_eq_none_iff.mp place.symm]
  | some node =>
    rw [found, Option.map_some] at place
    obtain ⟨other, held, same⟩ := Option.map_eq_some_iff.mp place.symm
    rw [held]
    exact Node.stopWith_of_place same.symm _

theorem Since.restores (since : Since keepsPlaces earlier arena)
    (stands : arena.StandsFor entries) : Restores earlier arena := by
  have restored := since.standsFor_unwind stands
  have size := since.unwind_size
  have agrees (id : Nat) (older : id < earlier.size) :
      arena.Agrees (arena.unwind earlier.mark) id := by
    obtain ⟨fresh, log, newer⟩ := since.log
    exact agrees_unwind log rfl newer older
  refine ⟨size, ?mark, agrees, ?stop, ?fresh, if_pos (Nat.le_of_eq size)⟩
  case mark =>
    rw [Arena.mark, size, since.unwind_log stands]
    rfl
  case stop =>
    intro id older place
    exact (agrees id older).stop.trans (end?_of_place place (since.ends id older))
  case fresh =>
    intro node
    have taken : (entries.take earlier.size).size = earlier.size := restored.size.symm.trans size
    rw [(restored.push node).answers.stop, Array.getElem?_push, if_pos taken.symm]
    rfl

/-- A session with an arena goes the way of a stack. -/
structure Session.Follows (keepsPlaces : Prop) (session : Session) (stack : NodeStack) : Prop where
  stands : session.arena.StandsFor stack.entries
  cuts : stack.cuts = session.marked.map Arena.size
  since : (session.arena :: session.marked).Pairwise fun later earlier =>
    Since keepsPlaces earlier later

namespace Session

variable {session : Session} {stack : NodeStack}

theorem follows_empty (slabCapacity : Nat) : (empty slabCapacity).Follows keepsPlaces .empty :=
  ⟨standsFor_empty slabCapacity, rfl, List.pairwise_singleton ..⟩

/-- A step that leaves the marks alone. -/
theorem Follows.replace (follows : session.Follows keepsPlaces stack) {after : Arena}
    {entries : Array Entry} (stands : after.StandsFor entries)
    (since : ∀ earlier ∈ session.marked,
      Since keepsPlaces earlier session.arena → Since keepsPlaces earlier after) :
    Follows keepsPlaces { session with arena := after } { stack with entries } := by
  obtain ⟨now, older⟩ := List.pairwise_cons.mp follows.since
  refine ⟨stands, follows.cuts, List.pairwise_cons.mpr ⟨?_, older⟩⟩
  exact fun earlier member => since earlier member (now earlier member)

theorem Follows.after (follows : session.Follows keepsPlaces stack) (step : Step)
    (allowed : stack.Allows step) (keeps : keepsPlaces → step.KeepsPlaces) :
    (session.after step).Follows keepsPlaces (stack.after step) := by
  cases step with
  | push node =>
    exact follows.replace (follows.stands.push node) fun _ _ since =>
      since.push follows.stands.sound node
  | modify id change =>
    exact follows.replace (follows.stands.modify id change) fun _ _ since => since.modify id keeps
  | setEnd id stop compact =>
    refine follows.replace (follows.stands.setEnd id stop compact) fun earlier marked since => ?_
    refine since.setEnd (allowed earlier.size ?_) stop compact
    rw [follows.cuts]
    exact List.mem_map_of_mem marked
  | mark =>
    refine ⟨follows.stands, ?_, List.pairwise_cons.mpr ⟨?_, follows.since⟩⟩
    · change stack.entries.size :: stack.cuts = session.arena.size :: session.marked.map Arena.size
      rw [follows.stands.size, follows.cuts]
    · refine List.forall_mem_cons.mpr ⟨.refl follows.stands, ?_⟩
      exact (List.pairwise_cons.mp follows.since).1
  | unwind =>
    obtain ⟨arena, marked⟩ := session
    obtain ⟨entries, cuts⟩ := stack
    obtain ⟨stands, rfl, since⟩ := follows
    cases marked with
    | nil => exact ⟨stands, rfl, since⟩
    | cons newest marked =>
      obtain ⟨now, older⟩ := List.pairwise_cons.mp since
      obtain ⟨last, -⟩ := List.forall_mem_cons.mp now
      refine ⟨last.standsFor_unwind stands, rfl, List.pairwise_cons.mpr ⟨?_, older⟩⟩
      -- For an older mark nothing is newer now but what came between it and the newest one.
      refine List.forall_mem_cons.mpr ⟨last.unwind stands, fun earlier member => ?_⟩
      exact ((List.pairwise_cons.mp older).1 earlier member).trans (last.unwind stands)
  | release =>
    obtain ⟨arena, marked⟩ := session
    obtain ⟨entries, cuts⟩ := stack
    obtain ⟨stands, rfl, since⟩ := follows
    exact ⟨stands, List.map_tail.symm, since.sublist ((List.tail_sublist marked).cons_cons arena)⟩

theorem Follows.afterAll (follows : session.Follows keepsPlaces stack) {steps : List Step}
    (orderly : stack.Orderly steps) (keeps : keepsPlaces → ∀ step ∈ steps, step.KeepsPlaces) :
    (session.afterAll steps).Follows keepsPlaces (stack.afterAll steps) := by
  induction steps generalizing session stack with
  | nil => exact follows
  | cons step steps ih =>
    refine ih (follows.after step orderly.1 fun given => ?_) orderly.2 fun given => ?_
    · exact (List.forall_mem_cons.mp (keeps given)).1
    · exact (List.forall_mem_cons.mp (keeps given)).2

theorem Follows.cut_le_size (follows : session.Follows keepsPlaces stack) :
    ∀ cut ∈ stack.cuts, cut ≤ session.arena.size := by
  rw [follows.cuts, List.forall_mem_map]
  exact fun earlier marked => ((List.pairwise_cons.mp follows.since).1 earlier marked).size_le

/-- Nodes from the newest mark on are newer than all marks. -/
theorem Follows.cut_le_newest (follows : session.Follows keepsPlaces stack) {newest : Arena}
    {older : List Arena} (marked : session.marked = newest :: older) :
    ∀ cut ∈ stack.cuts, cut ≤ newest.size := by
  have since := (List.pairwise_cons.mp follows.since).2
  rw [marked] at since
  rw [follows.cuts, marked, List.forall_mem_map, List.forall_mem_cons]
  exact ⟨Nat.le_refl _, fun earlier member =>
    ((List.pairwise_cons.mp since).1 earlier member).size_le⟩

theorem Follows.answers (follows : session.Follows keepsPlaces stack) :
    session.arena.Answers stack.entries :=
  follows.stands.answers

/-- Every mark in use can be gone back to, not only the newest. -/
theorem Follows.restores (follows : session.Follows keepsPlaces stack) :
    ∀ earlier ∈ session.marked, Restores earlier session.arena := by
  intro earlier marked
  exact ((List.pairwise_cons.mp follows.since).1 earlier marked).restores follows.stands

/-- Where no step writes over a place, all nodes from before a mark end where they did. -/
theorem Follows.restores_stops (follows : session.Follows keepsPlaces stack)
    (keeps : keepsPlaces) : ∀ earlier ∈ session.marked, ∀ id < earlier.size,
      (session.arena.unwind earlier.mark).end? id = earlier.end? id := by
  intro earlier marked id older
  have since := (List.pairwise_cons.mp follows.since).1 earlier marked
  exact (follows.restores earlier marked).stop id older (since.places id keeps older)

end Session

end Descent.Tree.Arena
