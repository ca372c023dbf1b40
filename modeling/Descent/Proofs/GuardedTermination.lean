import Descent.Proofs.EndingRules
import Descent.Proofs.PatternLoops

/-! Rules whose loops are guarded come to an end. They go round again only after something was read,
so no body has to read anything, and nor has the rule for whitespace, which is not skipped inside
itself. -/

namespace Descent

open Descent.Parser

namespace Rule

variable {U : Type}

/-- The rules directly inside a rule, with what it recovers with. -/
def inner : Rule U → List (Rule U)
  | recovering rule recovery => rule :: recovery.toList
  | rule => rule.parts

/-- Whether a rule neither calls a production nor skips malformed input in a loop of its own. -/
def isGuarded : Rule U → Bool
  | call _ | terminatedList .. | delimited .. => false
  | _ => true

/-- A rule all of whose loops are guarded. -/
inductive Guarded : Rule U → Prop
  | intro {rule : Rule U} (guarded : rule.isGuarded = true)
    (inner : ∀ part ∈ rule.inner, Guarded part) : Guarded rule

theorem Guarded.around {rule part : Rule U} (guarded : part.Guarded)
    (isGuarded : rule.isGuarded = true) (inner : rule.inner = [part]) : rule.Guarded := by
  apply Guarded.intro isGuarded
  rw [inner]
  exact List.forall_mem_singleton.mpr guarded

end Rule

namespace Runner

variable {U σ : Type} [CodeUnit U] {environment : Environment U σ} {rule : Rule U}

section Trees

variable {places inside : List (Frame U) → Bool → Prop}
  (enters : ∀ running quiet, places running quiet → inside running true)
  (skips : Ends environment places fun run => run.skipWhitespace)
  (alone : ∀ rule : Rule U, rule.Guarded → TerminatesAt environment places rule →
    TerminatesAt environment inside rule)
include enters skips alone

/-- By induction on the rule: where whitespace comes to an end, guarded rules do. -/
theorem terminatesAt_of_guarded (guarded : rule.Guarded) :
    TerminatesAt environment places rule := by
  induction guarded with
  | @intro rule isGuarded inner ends =>
    cases rule with
    | token token => exact terminatesAt_token skips token
    | tokenized rule kind => exact (ends rule (.head _)).tokenized skips kind
    | identifier shape reserved => exact terminatesAt_identifier skips shape reserved
    | capture rule => exact (ends rule (.head _)).capture skips
    | position => exact terminatesAt_position
    | constant value => exact terminatesAt_constant value
    | integer type digits signed => exact terminatesAt_integer skips type digits signed
    | codePoint digits => exact terminatesAt_codePoint skips digits
    | symbol table word => exact (ends word (.head _)).symbol skips table
    | symbolHere table => exact terminatesAt_symbolHere skips table
    | sequence rules => exact terminatesAt_sequence ends
    | branch condition rest =>
      exact (ends condition (.head _)).branch fun other member => ends other (.tail _ member)
    | choice members => exact terminatesAt_choice ends
    | optional rule => exact (ends rule (.head _)).optional
    | otherwise => exact terminatesAt_otherwise
    | loop body => exact (ends body (.head _)).loop
    | leave => exact terminatesAt_leave
    | repeated body => exact (ends body (.head _)).repeated
    | repeatedOnce body => exact (ends body (.head _)).repeatedOnce
    | times count body separator =>
      refine (ends body (.head _)).times (fun other found => ?_) count
      exact ends other (.tail _ (Option.mem_toList.mpr found))
    | list item separator =>
      refine (ends item (.head _)).list fun other found => ?_
      exact ends other.rule (.tail _ (Option.mem_toList.mpr (Option.mem_map_of_mem _ found)))
    | terminatedList => cases isGuarded
    | delimited => cases isGuarded
    | onVariable name operation => exact terminatesAt_onVariable skips name ends
    | recovering rule recovery =>
      refine (ends rule (.head _)).recovering fun other found => ?_
      exact ends other (.tail _ (Option.mem_toList.mpr found))
    | find targets limits => exact terminatesAt_find ends
    | recover branches limits => exact terminatesAt_recover ends
    | peek rule expected => exact (ends rule (.head _)).peek expected
    | lookahead needle limit => exact terminatesAt_lookahead needle limit
    | call => cases isGuarded
    | whitespace rule =>
      exact terminatesAt_whitespace enters (alone rule (inner rule (.head _)) (ends rule (.head _)))
    | withoutWhitespace rule =>
      exact (ends rule (.head _)).withoutWhitespace skips
    | combination members partly => exact terminatesAt_combination ends partly

end Trees

def InWhitespace (_ : List (Frame U)) (quiet : Bool) : Prop :=
  quiet = true

omit [CodeUnit U] in
private theorem enters_inWhitespace {places : List (Frame U) → Bool → Prop}
    (running : List (Frame U))
    (quiet : Bool) (_ : places running quiet) : InWhitespace running true :=
  rfl

/-- There, no rule skips any more inside itself. -/
theorem terminatesAt_inWhitespace (guarded : rule.Guarded) :
    TerminatesAt environment InWhitespace rule := by
  have skips : Ends environment InWhitespace fun run => run.skipWhitespace :=
    ends_skipWhitespace enters_inWhitespace fun _ inside => absurd inside Bool.false_ne_true
  exact terminatesAt_of_guarded enters_inWhitespace skips (fun _ _ terminates => terminates) guarded

section Productions

variable {frames : List (Frame U)}
  (whitespace : ∀ rule ∈ frames.head?.bind Frame.whitespace, rule.Guarded)
include whitespace

private theorem ends_skipWhitespace_of_guarded :
    Ends environment (Within frames) fun run => run.skipWhitespace := by
  apply ends_skipWhitespace enters_inWhitespace
  rintro _ rfl rule found
  exact (terminatesAt_inWhitespace (whitespace rule found)).attempt

private theorem terminates_of_guarded (guarded : rule.Guarded) :
    Terminates environment frames rule := by
  have terminates : TerminatesAt environment (Within frames) rule :=
    terminatesAt_of_guarded enters_inWhitespace (ends_skipWhitespace_of_guarded whitespace)
      (fun _ guarded _ => terminatesAt_inWhitespace guarded) guarded
  exact terminates.within

end Productions

/-- Guarded loops terminate. A rule without others comes to an end whatever the input, and so do the
whitespace that is skipped on the way and every loop inside a pattern. -/
theorem guarded_loops_terminate {frames : List (Frame U)} (guarded : rule.Guarded)
    (whitespace : ∀ rule ∈ frames.head?.bind Frame.whitespace, rule.Guarded) :
    Terminates environment frames rule ∧
      HaltsIn environment frames (fun run => run.skipWhitespace) ∧
      ∀ cursor : Cursor U, Pattern.LoopsEnd cursor := by
  have skips : Ends environment (Within frames) fun run => run.skipWhitespace :=
    ends_skipWhitespace_of_guarded whitespace
  exact ⟨terminates_of_guarded whitespace guarded, skips.haltsIn, Pattern.loopsEnd⟩

section Examples

def manyMissing (unit : Char) : Rule Char := .repeated (.optional (oneUnit unit))

private theorem guarded_manyMissing (unit : Char) : (manyMissing unit).Guarded := by
  have token : (oneUnit unit).Guarded := .intro rfl (by simp [oneUnit, Rule.inner, Rule.parts])
  have missing : (Rule.optional (oneUnit unit)).Guarded := token.around rfl rfl
  exact missing.around rfl rfl

theorem manyMissing_terminates :
    (manyMissing 'a').Guarded ∧ (manyMissing ' ').Guarded ∧
      Terminates (soleEnvironment (manyMissing 'a'))
        [⟨soleProduction (manyMissing 'a'), some (manyMissing ' '), 0⟩] (manyMissing 'a') := by
  have guarded := guarded_manyMissing 'a'
  have whitespace := guarded_manyMissing ' '
  exact ⟨guarded, whitespace, (guarded_loops_terminate guarded (by simpa using whitespace)).1⟩

end Examples

end Runner
end Descent
