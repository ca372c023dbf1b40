import Descent.Proofs.GrammarBuilding
import Descent.Rule.Build
import Mathlib.Data.List.SplitBy

/-! Quoted text, with content and escape sequences between two quotes. What such a text says, and
what is wrong with it, is told segment by segment, with no notion of how it is read. -/

namespace Descent.QuotedText

structure Form where
  quote : Char
  /-- What escape sequences begin with. -/
  introducer : Char
  distinct : quote ≠ introducer
  content : UnitClass
  /-- The units that stand for a value after the introducer; of two entries of one unit, the first
  one counts. -/
  mapped : List (Char × Value)
  /-- The units that stand for themselves after the introducer. -/
  kept : UnitClass

namespace Form

variable (form : Form)

def actions (mapped : List (Char × Value)) : List (EscapeAction (Rule Char)) :=
  mapped.map (fun (unit, value) => .map unit.toNat value) ++ [.capture form.kept]

def escape : Escape Char (Rule Char) :=
  ⟨.literal form.introducer.toString, form.actions form.mapped⟩

def rule : Rule Char :=
  .delimited (.literal form.quote.toString) (.literal form.quote.toString) form.content
    [form.escape]

def production (name : String) : Production Char where
  profile := ⟨0, name, false, false⟩
  rule := form.rule
  whitespace := none
  callback := none
  sink := none

def grammar (name : String) : Grammar Char :=
  ⟨#[form.production name], none, 0⟩

def builder (name : String) : GrammarBuilder Char :=
  (GrammarBuilder.empty.production name form.rule).2

theorem build_builder (name : String) : (form.builder name).build = .ok (form.grammar name) :=
  GrammarBuilder.build_production name form.rule

def isPlain (unit : Char) : Bool :=
  unit != form.quote && unit != form.introducer

def isEscape (unit : Char) : Bool :=
  (form.mapped.lookup unit).isSome || form.kept.accepts unit

/-- What a unit stands for after the introducer, where it has this position. -/
def escapeValue (position : Nat) (unit : Char) : Value :=
  (form.mapped.lookup unit).getD (.lexeme (.between position (position + 1)))

end Form

inductive Segment (form : Form) where
  | content (unit : Char) (plain : form.isPlain unit = true)
      (inside : form.content.accepts unit = true)
  /-- A unit that does not belong there. -/
  | stray (unit : Char) (plain : form.isPlain unit = true)
      (outside : form.content.accepts unit = false)
  | escape (unit : Char) (known : form.isEscape unit = true)
  /-- An introducer that comes before a unit of content. -/
  | invalid (unit : Char) (plain : form.isPlain unit = true)
      (inside : form.content.accepts unit = true) (unknown : form.isEscape unit = false)

/-- What is said at a place: a unit of content stands there, or what stands there has a value. -/
inductive Mark where
  | unit (position : Nat)
  | value (value : Value)

namespace Segment

variable {form : Form}

def text : Segment form → List Char
  | content unit .. => [unit]
  | stray unit .. => [unit]
  | escape unit _ => [form.introducer, unit]
  | invalid unit .. => [form.introducer, unit]

def marks (position : Nat) : Segment form → List Mark
  | content .. => [.unit position]
  | stray .. => []
  | escape unit _ => [.value (form.escapeValue (position + 1) unit)]
  | invalid .. => [.unit (position + 1)]

/-- What is wrong with a segment. It is the first unit that is covered, also of an escape
sequence. -/
def errors (production : String) (position : Nat) : Segment form → List ParseError
  | content .. => []
  | stray .. =>
    [⟨production, position, .between position (position + 1),
      .expectedCharClass form.content.name⟩]
  | escape .. => []
  | invalid .. =>
    [⟨production, position, .between position (position + 1), .invalidEscapeSequence⟩]

end Segment

section Segments

variable {form : Form}

def input (segments : List (Segment form)) : List Char :=
  form.quote :: (segments.flatMap Segment.text ++ [form.quote])

def marksFrom : Nat → List (Segment form) → List Mark
  | _, [] => []
  | position, segment :: rest =>
    segment.marks position ++ marksFrom (position + segment.text.length) rest

def errorsFrom (production : String) : Nat → List (Segment form) → List ParseError
  | _, [] => []
  | position, segment :: rest =>
    segment.errors production position ++
      errorsFrom production (position + segment.text.length) rest

end Segments

namespace Mark

/-- Whether two marks after one another are units next to each other. -/
def joins : Mark → Mark → Bool
  | unit first, unit second => second == first + 1
  | _, _ => false

/-- The value of marks that belong together: units are one lexeme. -/
def item : List Mark → Value
  | [] => .nothing
  | unit first :: rest => .lexeme (.between first (first + (rest.length + 1)))
  | value found :: _ => found

/-- The values of marks, where the longest runs of units next to each other are one lexeme each. -/
def items (marks : List Mark) : List Value :=
  (marks.splitBy joins).map item

def run (first length : Nat) : List Mark :=
  (List.range' first length).map unit

@[simp] theorem items_nil : items [] = [] := rfl

theorem run_succ (first length : Nat) :
    run first (length + 1) = run first length ++ [unit (first + length)] := by
  simp [run, List.range'_concat]

private theorem run_succ_eq_cons (first length : Nat) :
    run first (length + 1) = unit first :: run (first + 1) length := by
  simp [run, List.range'_succ]

private theorem isChain_run (first length : Nat) :
    (run first length).IsChain fun mark next => joins mark next = true := by
  rw [run, List.isChain_map]
  exact (List.isChain_range' first length 1).imp fun _ _ next => by simp [joins, next]

private theorem items_run (first length : Nat) :
    items (run first (length + 1)) = [.lexeme (.between first (first + (length + 1)))] := by
  have one : run first (length + 1) ≠ [] := by simp [run_succ]
  rw [items, List.splitBy_of_isChain one (isChain_run ..), run_succ_eq_cons]
  simp [item, run]

theorem items_append_value (marks : List Mark) (found : Value) :
    items (marks ++ [value found]) = items marks ++ [found] := by
  have apart : ∀ last ∈ marks.getLast?, last.joins (value found) = false :=
    fun last _ => by cases last <;> rfl
  rw [items, List.splitBy_append_cons _ apart, List.map_append]
  rfl

/-- All units lie before a place, and not next to it. -/
def Apart (marks : List Mark) (position : Nat) : Prop :=
  ∀ earlier, unit earlier ∈ marks → earlier + 1 < position

/-- A run of units that is apart from what comes before is an item of its own. -/
theorem items_append_run {marks : List Mark} {first : Nat} (apart : Apart marks first)
    (length : Nat) :
    items (marks ++ run first (length + 1)) =
      items marks ++ [.lexeme (.between first (first + (length + 1)))] := by
  have separate : ∀ last ∈ marks.getLast?, last.joins (unit first) = false := by
    intro last found
    cases last with
    | value => rfl
    | unit earlier =>
      have before := apart earlier (List.mem_of_getLast? found)
      simp [joins]
      omega
  rw [← items_run, run_succ_eq_cons, items, List.splitBy_append_cons _ separate, List.map_append]
  rfl

end Mark
end Descent.QuotedText
