import Descent.Proofs.FollowingMatches

/-! Sequences, choices, loops, lists and delimited content, run side by side. Of what has been
collected only the number of items matters for how to go on, and that is the same in both runs. -/

namespace Descent

/-- The same phase, after separators at places that correspond. -/
inductive Alignment.Phases {U : Type} (alignment : Alignment U) : ListPhase → ListPhase → Prop
  | terminator : alignment.Phases .terminator .terminator
  | separator : alignment.Phases .separator .separator
  | afterSeparator {span span' : Span} (spans : alignment.Spans span span') :
    alignment.Phases (.afterSeparator span) (.afterSeparator span')
  | item : alignment.Phases .item .item
  | recovery : alignment.Phases .recovery .recovery

namespace Runner

open Descent.Parser Pairing

variable {U σ σ' : Type} {lax : Prop} {run : Runner U σ} {twin : Runner U σ'}
  {pairing : Pairing U σ σ'} {environment : Environment U σ} {other : Environment U σ'}

section Structure

variable (followed : run.FollowedBy lax twin) (kept : pairing.Kept lax environment other)
include followed kept

theorem agrees_anyAccepts {rules : List (Rule U)}
    (fits : ∀ rule ∈ rules, pairing.alignment.Fits rule) :
    pairing.Agrees environment other (run.anyAccepts rules) (twin.anyAccepts rules) := by
  induction rules with
  | nil => exact agrees_pure _
  | cons rule rest ih =>
    refine (agrees_probe followed kept (fits rule (.head _))).bind fun attempt => ?_
    cases attempt.isAccepted with
    | true => exact agrees_pure _
    | false => exact ih fun other member => fits other (.tail _ member)

theorem follows_firstTaken {rules : List (Rule U)}
    (fits : ∀ rule ∈ rules, pairing.alignment.Fits rule) :
    pairing.Follows environment other
      (Option.Rel fun taken taken' => taken = taken' ∧ pairing.alignment.Fits taken)
      (run.firstTaken rules) (twin.firstTaken rules) := by
  induction rules with
  | nil => exact follows_pure .none
  | cons rule rest ih =>
    have first := fits rule (.head _)
    refine (agrees_probe followed kept first).bind fun attempt => ?_
    cases attempt.isBacktracked with
    | true => exact ih fun other member => fits other (.tail _ member)
    | false => exact follows_pure (.some ⟨rfl, first⟩)

theorem agrees_parseAll {rules : List (Rule U)}
    (fits : ∀ rule ∈ rules, pairing.alignment.Fits rule) :
    pairing.Agrees environment other (run.parseAll rules) (twin.parseAll rules) := by
  induction rules with
  | nil => exact agrees_pure _
  | cons rule rest ih =>
    refine (followed.parse kept (fits rule (.head _))).bind fun parsed => ?_
    cases parsed with
    | true => exact ih fun other member => fits other (.tail _ member)
    | false => exact agrees_pure _

theorem agrees_attemptThen {first : Rule U} (fits : pairing.alignment.Fits first)
    {rest : Parser U σ Bool} {rest' : Parser U σ' Bool}
    (agrees : pairing.Agrees environment other rest rest') :
    pairing.Agrees environment other (run.attemptThen first rest)
      (twin.attemptThen first rest') := by
  refine (followed.attempt kept fits).bind fun attempt => ?_
  cases attempt with
  | accepted => exact agrees.bind fun _ => agrees_pure _
  | canceled => exact agrees_pure _
  | backtracked => exact agrees_pure _

theorem agrees_attemptSequence {rules : List (Rule U)}
    (fits : ∀ rule ∈ rules, pairing.alignment.Fits rule) :
    pairing.Agrees environment other (run.attemptSequence rules) (twin.attemptSequence rules) := by
  cases rules with
  | nil => exact agrees_pure _
  | cons first rest =>
    exact agrees_attemptThen followed kept (fits first (.head _))
      (agrees_parseAll followed kept fun other member => fits other (.tail _ member))

theorem agrees_attemptChoice {members : List (Rule U)}
    (fits : ∀ member ∈ members, pairing.alignment.Fits member) :
    pairing.Agrees environment other (run.attemptChoice members)
      (twin.attemptChoice members) := by
  induction members with
  | nil => exact agrees_pure _
  | cons first rest ih =>
    refine (followed.attempt kept (fits first (.head _))).bind fun attempt => ?_
    cases attempt with
    | accepted => exact agrees_pure _
    | canceled => exact agrees_pure _
    | backtracked => exact ih fun other member => fits other (.tail _ member)

theorem agrees_parseChoice {members : List (Rule U)}
    (fits : ∀ member ∈ members, pairing.alignment.Fits member) :
    pairing.Agrees environment other (run.parseChoice members) (twin.parseChoice members) := by
  refine (agrees_attemptChoice followed kept fits).bind fun attempt => ?_
  cases attempt with
  | accepted => exact agrees_pure _
  | canceled => exact agrees_pure _
  | backtracked =>
    exact follows_cursor.bind fun _ _ here => (agrees_reportErrorAt kept _ here.position).bind
      fun _ => agrees_pure _

theorem agrees_parseOptional {rule : Rule U} (fits : pairing.alignment.Fits rule) :
    pairing.Agrees environment other (run.parseOptional rule) (twin.parseOptional rule) := by
  refine (followed.attempt kept fits).bind fun attempt => ?_
  cases attempt with
  | accepted => exact agrees_pure _
  | canceled => exact agrees_pure _
  | backtracked => exact (agrees_emit fun _ => rfl).bind fun _ => agrees_pure _

private theorem agrees_peekHolds {rule : Rule U} (fits : pairing.alignment.Fits rule)
    (expected : Bool) : pairing.Agrees environment other (run.peekHolds rule expected)
      (twin.peekHolds rule expected) :=
  (agrees_probe followed kept fits).bind fun _ => agrees_pure _

theorem agrees_attemptPeek {rule : Rule U} (fits : pairing.alignment.Fits rule) (expected : Bool) :
    pairing.Agrees environment other (run.attemptPeek rule expected)
      (twin.attemptPeek rule expected) :=
  (agrees_peekHolds followed kept fits expected).bind fun _ => agrees_pure _

theorem agrees_parsePeek {rule : Rule U} (fits : pairing.alignment.Fits rule) (expected : Bool) :
    pairing.Agrees environment other (run.parsePeek rule expected)
      (twin.parsePeek rule expected) := by
  refine (agrees_peekHolds followed kept fits expected).bind fun holds => ?_
  cases holds with
  | true => exact agrees_pure _
  | false =>
    exact follows_cursor.bind fun _ _ here => (agrees_reportErrorAt kept _ here.position).bind
      fun _ => agrees_pure _

theorem agrees_parseRepeated {body : Rule U} (fits : pairing.alignment.Fits body) :
    pairing.Agrees environment other (run.parseRepeated body) (twin.parseRepeated body) := by
  refine follows_loop (fun _ => ?_) followed.fuel ()
  refine follows_cursor.bind fun before before' here =>
    (followed.attempt kept fits).bind fun attempt => ?_
  cases attempt with
  | accepted =>
    refine follows_cursor.bind fun after after' ends => ?_
    have position := here.position
    have position' := ends.position
    split
    · rw [if_pos (by omega)]
      exact follows_pure (.again rfl)
    · rw [if_neg (by omega)]
      exact follows_pure (.done rfl)
  | canceled => exact follows_pure (.done rfl)
  | backtracked => exact follows_pure (.done rfl)

theorem agrees_parseRepeatedOnce {body : Rule U} (fits : pairing.alignment.Fits body) :
    pairing.Agrees environment other (run.parseRepeatedOnce body)
      (twin.parseRepeatedOnce body) := by
  refine (followed.parse kept fits).bind fun parsed => ?_
  cases parsed with
  | true => exact agrees_parseRepeated followed kept fits
  | false => exact agrees_pure _

theorem agrees_parseTimes {body : Rule U} (fits : pairing.alignment.Fits body)
    {separator : Option (Rule U)}
    (separates : ∀ rule ∈ separator, pairing.alignment.Fits rule) (count : Nat) :
    pairing.Agrees environment other (run.parseTimes body separator count)
      (twin.parseTimes body separator count) := by
  induction count with
  | zero => exact agrees_pure _
  | succ count ih =>
    cases count with
    | zero => exact followed.parse kept fits
    | succ count =>
      refine (followed.parse kept fits).bind fun parsed => ?_
      cases parsed with
      | false => exact agrees_pure _
      | true =>
        cases separator with
        | none => exact ih
        | some separator =>
          refine (followed.parse kept (separates separator rfl)).bind fun separated => ?_
          cases separated with
          | false => exact agrees_pure _
          | true => exact ih

theorem agrees_parseLoop {body : Rule U} (fits : pairing.alignment.Fits body) :
    pairing.Agrees environment other (run.parseLoop body) (twin.parseLoop body) := by
  have round (height : Nat) : pairing.Follows environment other (Rounds Eq Eq)
      (run.loopRound body height) (twin.loopRound body height) := by
    refine follows_cursor.bind fun before before' here =>
      (followed.attempt kept fits).bind fun attempt => ?_
    cases attempt with
    | accepted =>
      refine (agrees_restoreBindings height).bind fun _ =>
        (follows_findVariable loopExit).bind fun found found' same =>
          follows_cursor.bind fun after after' ends => ?_
      rw [Alignment.flag_beq same true, here.position_beq ends]
      split
      · exact follows_pure (.done rfl)
      · exact follows_pure (.again rfl)
    | canceled => exact follows_pure (.done rfl)
    | backtracked => exact follows_pure (.done rfl)
  have rounds (height : Nat) : pairing.Agrees environment other
      (run.loop () fun _ => run.loopRound body height)
      (twin.loop () fun _ => twin.loopRound body height) :=
    follows_loop (fun _ => round height) followed.fuel ()
  exact agrees_bindingsHeight.bind fun height => (agrees_bindVariable _ (.flag false)).bind fun _ =>
    (rounds (height + 1)).bind fun _ => (agrees_restoreBindings height).bind fun _ => agrees_pure _

theorem agrees_attemptWithoutWhitespace {rule : Rule U} (fits : pairing.alignment.Fits rule) :
    pairing.Agrees environment other (run.attemptWithoutWhitespace rule)
      (twin.attemptWithoutWhitespace rule) := by
  refine Agrees.bind (follows_withoutWhitespace (followed.attempt kept.deeper fits)) ?_
  intro attempt
  cases attempt with
  | accepted => exact (agrees_skipWhitespace followed kept).bind fun _ => agrees_pure _
  | canceled => exact agrees_pure _
  | backtracked => exact agrees_pure _

theorem agrees_parseWithoutWhitespace {rule : Rule U} (fits : pairing.alignment.Fits rule) :
    pairing.Agrees environment other (run.parseWithoutWhitespace rule)
      (twin.parseWithoutWhitespace rule) := by
  refine Agrees.bind (follows_withoutWhitespace (followed.parse kept.deeper fits)) fun parsed => ?_
  cases parsed with
  | true => exact (agrees_skipWhitespace followed kept).bind fun _ => agrees_pure _
  | false => exact agrees_pure _

end Structure

theorem agrees_parseLeave (kept : pairing.Kept lax environment other) :
    pairing.Agrees environment other (parseLeave : Parser U σ Bool) parseLeave := by
  refine (agrees_assignVariable _ fun _ => .flag true).bind fun assigned => ?_
  cases assigned with
  | true => exact agrees_pure _
  | false =>
    exact follows_cursor.bind fun _ _ here => (agrees_reportErrorAt kept _ here.position).bind
      fun _ => agrees_pure _

section Lists

/-- Items of the same number, which are the same where values are. -/
def SameItems (exact : Prop) (items items' : List (List Value)) : Prop :=
  items.length = items'.length ∧ (exact → items = items')

theorem SameItems.concat {exact : Prop} {items items' : List (List Value)}
    (same : SameItems exact items items') {values values' : List Value}
    (same' : exact → values = values') :
    SameItems exact (items ++ [values]) (items' ++ [values']) :=
  ⟨by simp [same.1], fun holds => by rw [same.2 holds, same' holds]⟩

def SameResult (exact : Prop) : Option (List (List Value)) → Option (List (List Value)) → Prop
  | some items, some items' => SameItems exact items items'
  | none, none => True
  | _, _ => False

def SameClosing (exact : Prop) :
    Option (List (List Value) × List Value) → Option (List (List Value) × List Value) → Prop
  | some result, some result' =>
    SameItems exact result.1 result'.1 ∧ (exact → result.2 = result'.2)
  | none, none => True
  | _, _ => False

/-- What a list ends with is produced. -/
theorem agrees_closeList {sink sink' : Sink} (sinks : pairing.exact → sink = sink')
    (result result' : Option (List (List Value) × List Value)) :
    SameClosing pairing.exact result result' → pairing.Agrees environment other
      (match result with
        | none => pure false
        | some (items, closing) => do
          emitUnlessNothing (sink items)
          emitAll closing
          return true : Parser U σ Bool)
      (match result' with
        | none => pure false
        | some (items, closing) => do
          emitUnlessNothing (sink' items)
          emitAll closing
          return true) := by
  intro same
  match result, result', same with
  | none, none, _ => exact agrees_pure _
  | some result, some result', same =>
    have value (exact : pairing.exact) : sink result.1 = sink' result'.1 := by
      rw [sinks exact, same.1.2 exact]
    exact (agrees_emitUnlessNothing value).bind fun _ => (agrees_emitAll same.2).bind
      fun _ => agrees_pure _

section

variable (kept : pairing.Kept lax environment other)
include kept

private theorem agrees_checkTrailing (separator : Separator (Rule U)) {span span' : Span}
    (spans : pairing.alignment.Spans span span') :
    pairing.Agrees environment other (checkTrailing separator span : Parser U σ Unit)
      (checkTrailing separator span') := by
  unfold checkTrailing
  split
  · exact agrees_pure _
  · exact agrees_reportError kept _ spans.first spans

end

abbrev FitsBetween (alignment : Alignment U) (separator : Option (Separator (Rule U))) : Prop :=
  ∀ found ∈ separator, alignment.Fits found.rule

structure FitsList (alignment : Alignment U) (list : TerminatedList U) : Prop where
  terminator : alignment.Fits list.terminator
  item : alignment.Fits list.item
  separator : FitsBetween alignment list.separator
  limits : ∀ rule ∈ list.limits, alignment.Fits rule

theorem fits_separator {alignment : Alignment U} {body : Rule U} {separator : Option (Rule U)}
    (fits : ∀ rule ∈ body :: separator.toList, alignment.Fits rule) :
    ∀ rule ∈ separator, alignment.Fits rule :=
  fun rule found => fits rule (.tail _ (Option.mem_toList.mpr found))

theorem fits_between {alignment : Alignment U} {item : Rule U}
    {separator : Option (Separator (Rule U))}
    (fits : ∀ rule ∈ item :: (separator.map Separator.rule).toList, alignment.Fits rule) :
    FitsBetween alignment separator :=
  fun _ found => fits_separator fits _ (Option.mem_map_of_mem _ found)

theorem fitsList_of_fits {alignment : Alignment U} {terminator item : Rule U}
    {separator : Option (Separator (Rule U))} {limits : List (Rule U)} {mayBeEmpty : Bool}
    (fits : alignment.Fits (.terminatedList terminator item separator limits mayBeEmpty)) :
    FitsList alignment ⟨terminator, item, separator, limits⟩ where
  terminator := fits.part (.head _)
  item := fits.part (.tail _ (.head _))
  separator := fits_between fun _ member =>
    fits.part (.tail _ (List.mem_append_left limits member))
  limits _ member := fits.part (.tail _ (.tail _ (List.mem_append_right _ member)))

variable (followed : run.FollowedBy lax twin) (kept : pairing.Kept lax environment other)
include followed kept

private theorem follows_nextItem {item : Rule U} (fits : pairing.alignment.Fits item)
    {items items' : List (List Value)} (same : SameItems pairing.exact items items')
    {before before' : Cursor U} (here : pairing.alignment.Cursors before before')
    {declined : Parser U σ Unit} {declined' : Parser U σ' Unit}
    (agrees : pairing.Agrees environment other declined declined') :
    pairing.Follows environment other
      (Rounds (SameItems pairing.exact) (SameResult pairing.exact))
      (run.nextItem item items before declined) (twin.nextItem item items' before' declined') := by
  refine (follows_collect (followed.attempt kept fits)).bind ?_
  rintro ⟨attempt, values⟩ ⟨_, values'⟩ ⟨rfl, same'⟩
  cases attempt with
  | canceled => exact follows_pure (.done trivial)
  | backtracked => exact agrees.bind fun _ => follows_pure (.done same)
  | accepted =>
    refine follows_cursor.bind fun after after' ends => ?_
    rw [here.position_beq ends]
    split
    · exact follows_pure (.done (same.concat same'))
    · exact follows_pure (.again (same.concat same'))

private theorem follows_restOfList {item : Rule U} (fits : pairing.alignment.Fits item)
    {separator : Option (Separator (Rule U))}
    (separates : FitsBetween pairing.alignment separator)
    {items items' : List (List Value)} (same : SameItems pairing.exact items items') :
    pairing.Follows environment other (SameResult pairing.exact)
      (run.restOfList item separator items) (twin.restOfList item separator items') := by
  refine follows_iterate (fun items items' same => ?_) followed.fuel same
  refine follows_cursor.bind fun before before' here => ?_
  cases separator with
  | none => exact follows_nextItem followed kept fits same here (agrees_pure _)
  | some separator =>
    have separated := follows_quietly (followed.attempt kept (separates separator rfl))
    refine Agrees.bind separated fun attempt => ?_
    cases attempt with
    | backtracked => exact follows_pure (.done same)
    | canceled => exact follows_pure (.done trivial)
    | accepted =>
      exact follows_cursor.bind fun _ _ ends => follows_nextItem followed kept fits same here
        (agrees_checkTrailing kept separator (here.spanTo ends))

private theorem agrees_finishList {item : Rule U} (fits : pairing.alignment.Fits item)
    {separator : Option (Separator (Rule U))}
    (separates : FitsBetween pairing.alignment separator) {sink sink' : Sink}
    (sinks : pairing.exact → sink = sink') {first first' : List Value}
    (same : pairing.exact → first = first') :
    pairing.Agrees environment other (run.finishList item separator sink first)
      (twin.finishList item separator sink' first') := by
  have single : SameItems pairing.exact [first] [first'] :=
    ⟨rfl, fun exact => by rw [same exact]⟩
  refine (follows_restOfList followed kept fits separates single).bind fun items items' same => ?_
  match items, items', same with
  | none, none, _ => exact agrees_pure _
  | some items, some items', same =>
    exact (agrees_emitUnlessNothing fun exact => by rw [sinks exact, same.2 exact]).bind
      fun _ => agrees_pure _

theorem agrees_attemptList {item : Rule U} (fits : pairing.alignment.Fits item)
    {separator : Option (Separator (Rule U))}
    (separates : FitsBetween pairing.alignment separator) :
    pairing.Agrees environment other (run.attemptList item separator)
      (twin.attemptList item separator) := by
  refine (follows_currentSink kept).bind fun sink sink' sinks => ?_
  refine (follows_collect (followed.attempt kept fits)).bind ?_
  rintro ⟨attempt, values⟩ ⟨_, values'⟩ ⟨rfl, same⟩
  cases attempt with
  | accepted =>
    exact (agrees_finishList followed kept fits separates sinks same).bind fun _ => agrees_pure _
  | canceled => exact agrees_pure _
  | backtracked => exact agrees_pure _

theorem agrees_parseList {item : Rule U} (fits : pairing.alignment.Fits item)
    {separator : Option (Separator (Rule U))}
    (separates : FitsBetween pairing.alignment separator) :
    pairing.Agrees environment other (run.parseList item separator)
      (twin.parseList item separator) := by
  refine (follows_currentSink kept).bind fun sink sink' sinks => ?_
  refine (follows_collect (followed.parse kept fits)).bind ?_
  rintro ⟨parsed, values⟩ ⟨_, values'⟩ ⟨rfl, same⟩
  cases parsed with
  | true => exact agrees_finishList followed kept fits separates sinks same
  | false => exact agrees_pure _

private theorem follows_resumption {list : TerminatedList U}
    (fits : FitsList pairing.alignment list)
    {start start' : Cursor U} (begins : pairing.alignment.Cursors start start') :
    pairing.Follows environment other (Option.Rel pairing.alignment.Phases)
      (run.resumption list start) (twin.resumption list start') := by
  have terminator : pairing.Follows environment other (Option.Rel pairing.alignment.Phases)
      (do
        if (← run.probe list.terminator).isAccepted then return some ListPhase.terminator
        return none)
      (do
        if (← twin.probe list.terminator).isAccepted then return some ListPhase.terminator
        return none) := by
    refine (agrees_probe followed kept fits.terminator).bind fun attempt => ?_
    cases attempt.isAccepted with
    | true => exact follows_pure (.some .terminator)
    | false => exact follows_pure .none
  unfold resumption
  cases found : list.separator with
  | some separator =>
    refine (agrees_probe followed kept (fits.separator separator found)).bind fun attempt => ?_
    cases attempt.isAccepted with
    | true => exact follows_pure (.some .separator)
    | false => exact terminator
  | none =>
    refine follows_cursor.bind fun here here' ends => ?_
    have position := begins.position
    have position' := ends.position
    by_cases moved : start.position < here.position
    · have moved' : start'.position < here'.position := by omega
      simp only [moved, moved', if_true]
      refine (agrees_probe followed kept fits.item).bind fun attempt => ?_
      cases attempt.isBacktracked with
      | true => exact terminator
      | false => exact follows_pure (.some .item)
    · have stayed : ¬start'.position < here'.position := by omega
      simpa only [moved, stayed, if_false] using terminator

private theorem follows_recoveryAt {list : TerminatedList U}
    (fits : FitsList pairing.alignment list)
    {start start' : Cursor U} (begins : pairing.alignment.Cursors start start') :
    pairing.Follows environment other (Option.Rel (Option.Rel pairing.alignment.Phases))
      (run.recoveryAt list start) (twin.recoveryAt list start') := by
  apply (follows_resumption followed kept fits begins).bind
  intro found found' phases
  cases phases with
  | some same => exact follows_pure (.some (.some same))
  | none =>
    refine (agrees_anyAccepts followed kept fits.limits).bind fun limited => ?_
    cases limited with
    | true => exact follows_pure (.some .none)
    | false => exact follows_pure .none

private theorem follows_recoverList {list : TerminatedList U}
    (fits : FitsList pairing.alignment list) :
    pairing.Follows environment other (Option.Rel pairing.alignment.Phases)
      (run.recoverList list) (twin.recoverList list) := by
  refine follows_cursor.bind fun start start' here => ?_
  apply (follows_seek (follows_recoveryAt followed kept fits here) (agrees_pure false)).bind
  intro ended ended' same
  refine follows_cursor.bind fun stop stop' ends => ?_
  refine (agrees_reportSkipped kept here ends).bind fun _ => follows_pure ?_
  cases same with
  | none => exact .none
  | some phases => exact phases

def SamePhase (pairing : Pairing U σ σ')
    (current current' : ListPhase × List (List Value)) : Prop :=
  pairing.alignment.Phases current.1 current'.1 ∧ SameItems pairing.exact current.2 current'.2

section Steps

variable {list : TerminatedList U} (fits : FitsList pairing.alignment list)
  {items items' : List (List Value)} (same : SameItems pairing.exact items items')
include fits same

private theorem follows_terminatorStep :
    pairing.Follows environment other (Rounds (SamePhase pairing) (SameClosing pairing.exact))
      (run.listStep list .terminator items) (twin.listStep list .terminator items') := by
  refine (follows_collect (followed.attempt kept fits.terminator)).bind ?_
  rintro ⟨attempt, values⟩ ⟨_, values'⟩ ⟨rfl, same'⟩
  cases attempt with
  | accepted => exact follows_pure (.done ⟨same, same'⟩)
  | canceled => exact follows_pure (.done trivial)
  | backtracked =>
    have empty : items.isEmpty = items'.isEmpty := by
      rw [Bool.eq_iff_iff, List.isEmpty_iff_length_eq_zero, List.isEmpty_iff_length_eq_zero,
        same.1]
    dsimp only
    rw [empty]
    refine follows_pure (.again ⟨?_, same⟩)
    dsimp only
    split
    · exact .separator
    · exact .item

private theorem follows_separatorStep :
    pairing.Follows environment other (Rounds (SamePhase pairing) (SameClosing pairing.exact))
      (run.listStep list .separator items) (twin.listStep list .separator items') := by
  unfold listStep
  cases found : list.separator with
  | none => exact follows_pure (.done trivial)
  | some separator =>
    refine follows_cursor.bind fun before before' here => ?_
    have separated := follows_quietly (followed.parse kept (fits.separator separator found))
    refine Agrees.bind separated fun parsed => ?_
    cases parsed with
    | true =>
      exact follows_cursor.bind fun _ _ ends =>
        follows_pure (.again ⟨.afterSeparator (here.spanTo ends), same⟩)
    | false => exact follows_pure (.again ⟨.recovery, same⟩)

private theorem follows_afterSeparatorStep {span span' : Span}
    (spans : pairing.alignment.Spans span span') :
    pairing.Follows environment other (Rounds (SamePhase pairing) (SameClosing pairing.exact))
      (run.listStep list (.afterSeparator span) items)
      (twin.listStep list (.afterSeparator span') items') := by
  refine (follows_collect (followed.attempt kept fits.terminator)).bind ?_
  rintro ⟨attempt, values⟩ ⟨_, values'⟩ ⟨rfl, same'⟩
  cases attempt with
  | accepted =>
    dsimp only
    cases list.separator with
    | none => exact follows_pure (.done ⟨same, same'⟩)
    | some separator =>
      exact (agrees_checkTrailing kept separator spans).bind fun _ =>
        follows_pure (.done ⟨same, same'⟩)
  | canceled => exact follows_pure (.done trivial)
  | backtracked => exact follows_pure (.again ⟨.item, same⟩)

private theorem follows_itemStep :
    pairing.Follows environment other (Rounds (SamePhase pairing) (SameClosing pairing.exact))
      (run.listStep list .item items) (twin.listStep list .item items') := by
  refine (follows_collect (followed.parse kept fits.item)).bind ?_
  rintro ⟨parsed, values⟩ ⟨_, values'⟩ ⟨rfl, same'⟩
  cases parsed with
  | true => exact follows_pure (.again ⟨.terminator, same.concat same'⟩)
  | false => exact follows_pure (.again ⟨.recovery, same⟩)

private theorem follows_recoveryStep :
    pairing.Follows environment other (Rounds (SamePhase pairing) (SameClosing pairing.exact))
      (run.listStep list .recovery items) (twin.listStep list .recovery items') := by
  refine (follows_recoverList followed kept fits).bind fun next next' phases => ?_
  cases phases with
  | some phases => exact follows_pure (.again ⟨phases, same⟩)
  | none => exact follows_pure (.done trivial)

private theorem follows_listStep {phase phase' : ListPhase}
    (phases : pairing.alignment.Phases phase phase') :
    pairing.Follows environment other (Rounds (SamePhase pairing) (SameClosing pairing.exact))
      (run.listStep list phase items) (twin.listStep list phase' items') := by
  cases phases with
  | terminator => exact follows_terminatorStep followed kept fits same
  | separator => exact follows_separatorStep followed kept fits same
  | afterSeparator spans => exact follows_afterSeparatorStep followed kept fits same spans
  | item => exact follows_itemStep followed kept fits same
  | recovery => exact follows_recoveryStep followed kept fits same

end Steps

theorem agrees_parseTerminatedList {list : TerminatedList U}
    (fits : FitsList pairing.alignment list) (mayBeEmpty : Bool) :
    pairing.Agrees environment other (run.parseTerminatedList list mayBeEmpty)
      (twin.parseTerminatedList list mayBeEmpty) := by
  refine (follows_currentSink kept).bind fun sink sink' sinks => ?_
  have begins : pairing.alignment.Phases (if mayBeEmpty then .terminator else .item)
      (if mayBeEmpty then .terminator else .item) := by
    split
    · exact .terminator
    · exact .item
  refine (follows_iterate (fun _ _ same => follows_listStep followed kept fits same.2 same.1)
    followed.fuel ⟨begins, rfl, fun _ => rfl⟩).bind ?_
  exact agrees_closeList sinks

end Lists

end Runner
end Descent
