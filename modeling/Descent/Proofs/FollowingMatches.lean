import Descent.Proofs.FollowingLogic

/-! Rules that match one piece of input, run side by side. What they read depends on the input only;
whitespace after it is up to the rule in effect, which is the same in both runs. -/

namespace Descent

open Descent.Parser Pairing

/-- Whatever a runner does to a rule, another one with as much fuel does as well, before any
observers and in any sources that are aligned; what they report need only compare where a pairing
does not have to be lax. -/
structure Runner.FollowedBy {U σ σ' : Type} (lax : Prop) (run : Runner U σ) (twin : Runner U σ') :
    Prop where
  fuel : run.fuel ≤ twin.fuel
  parse {pairing : Pairing U σ σ'} {environment : Environment U σ} {other : Environment U σ'}
    (kept : pairing.Kept lax environment other) {rule : Rule U}
    (fits : pairing.alignment.Fits rule) :
    pairing.Agrees environment other (run.parse rule) (twin.parse rule)
  attempt {pairing : Pairing U σ σ'} {environment : Environment U σ} {other : Environment U σ'}
    (kept : pairing.Kept lax environment other) {rule : Rule U}
    (fits : pairing.alignment.Fits rule) :
    pairing.Agrees environment other (run.attempt rule) (twin.attempt rule)

namespace Runner

variable {U σ σ' : Type} {lax : Prop} {run : Runner U σ} {twin : Runner U σ'}
  {pairing : Pairing U σ σ'} {environment : Environment U σ} {other : Environment U σ'}
  {before before' after after' : Cursor U}

theorem agrees_parsePosition (kept : pairing.Kept lax environment other) :
    pairing.Agrees environment other (parsePosition : Parser U σ Bool) parsePosition :=
  follows_cursor.bind fun _ _ here =>
    (agrees_reportToken kept _ here.position here.position).bind fun _ =>
      (agrees_emit fun exact => by rw [(kept.whole exact).places here.position]).bind
        fun _ => agrees_pure _

private theorem agrees_failure (kept : pairing.Kept lax environment other) (kind : ParseError.Kind)
    (here : pairing.alignment.Cursors before before')
    (ends : pairing.alignment.Cursors after after') :
    pairing.Agrees environment other
      (do
        setCursor after
        reportFailure before after kind
        return false : Parser U σ Bool)
      (do
        setCursor after'
        reportFailure before' after' kind
        return false) :=
  (agrees_setCursor ends).bind fun _ => (agrees_reportFailure kept kind here ends).bind
    fun _ => agrees_pure _

section

variable (followed : run.FollowedBy lax twin) (kept : pairing.Kept lax environment other)
include followed kept

theorem agrees_skipWith {whitespace : Rule U} (fits : pairing.alignment.Fits whitespace) :
    pairing.Agrees environment other (run.skipWith whitespace) (twin.skipWith whitespace) := by
  refine follows_cursor.bind fun before before' begins =>
    follows_scope.bind fun scope scope' same =>
    (agrees_setInWhitespace rfl).bind fun _ => (agrees_modifyReport kept.muting).bind fun _ => ?_
  have rounds : pairing.Agrees environment other
      (run.loop () fun _ => do
        let start ← cursor
        let attempt ← quietly (run.attempt whitespace)
        if attempt.isAccepted && (← cursor).position != start.position then return .again ()
        else return .done ())
      (twin.loop () fun _ => do
        let start ← cursor
        let attempt ← quietly (twin.attempt whitespace)
        if attempt.isAccepted && (← cursor).position != start.position then return .again ()
        else return .done ()) := by
    refine follows_loop (fun _ => ?_) followed.fuel ()
    refine follows_cursor.bind fun start start' here => ?_
    refine Agrees.bind (follows_quietly (followed.attempt kept fits)) fun attempt => ?_
    refine follows_cursor.bind fun last last' ends => ?_
    rw [bne, bne, here.position_beq ends]
    split
    · exact follows_pure (.again rfl)
    · exact follows_pure (.done rfl)
  refine rounds.bind fun _ => (agrees_modifyReport kept.unmuting).bind fun _ =>
    (agrees_setInWhitespace same.inWhitespace).bind fun _ =>
      follows_cursor.bind fun after after' ends => ?_
  have position := begins.position
  have position' := ends.position
  split
  · rw [if_pos (by omega)]
    exact agrees_reportToken kept _ position position'
  · rw [if_neg (by omega)]
    exact agrees_pure _

theorem agrees_skipWhitespace :
    pairing.Agrees environment other run.skipWhitespace twin.skipWhitespace := by
  refine follows_scope.bind fun scope scope' same => ?_
  have fits := same.fits_whitespace
  rw [same.whitespace?]
  cases found : scope.whitespace? with
  | none => exact agrees_pure _
  | some whitespace => exact agrees_skipWith followed kept (fits whitespace found)

private theorem agrees_acceptToken (kind : TokenKind)
    (here : pairing.alignment.Cursors before before')
    (ends : pairing.alignment.Cursors after after') :
    pairing.Agrees environment other (run.acceptToken kind before after)
      (twin.acceptToken kind before' after') :=
  (agrees_setCursor ends).bind fun _ =>
    (agrees_reportToken kept _ here.position ends.position).bind fun _ =>
      agrees_skipWhitespace followed kept

/-- Before any observers, a rule would be answered in the same way here. -/
theorem agrees_probe {rule : Rule U} (fits : pairing.alignment.Fits rule) :
    pairing.Agrees environment other (run.probe rule) (twin.probe rule) :=
  (follows_lookAhead (follows_speculation (followed.attempt kept.speculation fits))).bind
    fun _ _ compare => follows_pure compare.1

private theorem follows_probeWhole {rule : Rule U} (fits : pairing.alignment.Fits rule) :
    pairing.Follows environment other pairing.alignment.Found (run.probeWhole rule)
      (twin.probeWhole rule) :=
  follows_lookAhead (follows_speculation (follows_withoutWhitespace
    (followed.parse kept.speculation.deeper fits)))

theorem agrees_attemptTokenized {rule : Rule U} (fits : pairing.alignment.Fits rule)
    (kind : TokenKind) :
    pairing.Agrees environment other (run.attemptTokenized rule kind)
      (twin.attemptTokenized rule kind) := by
  refine follows_cursor.bind fun before before' here =>
    (follows_probeWhole followed kept fits).bind ?_
  rintro ⟨isMatch, after⟩ ⟨_, after'⟩ ⟨rfl, ends⟩
  cases isMatch with
  | true => exact (agrees_acceptToken followed kept kind here ends).bind fun _ => agrees_pure _
  | false => exact agrees_pure _

theorem agrees_parseTokenized {rule : Rule U} (fits : pairing.alignment.Fits rule)
    (kind : TokenKind) :
    pairing.Agrees environment other (run.parseTokenized rule kind)
      (twin.parseTokenized rule kind) := by
  refine follows_cursor.bind fun before before' here =>
    (follows_probeWhole followed kept fits).bind ?_
  rintro ⟨isMatch, after⟩ ⟨_, after'⟩ ⟨rfl, ends⟩
  cases isMatch with
  | true => exact (agrees_acceptToken followed kept kind here ends).bind fun _ => agrees_pure _
  | false =>
    exact (agrees_setCursor ends).bind fun _ => (agrees_reportSkipped kept here ends).bind fun _ =>
      (agrees_reportError kept _ here.position (here.spanTo ends)).bind fun _ => agrees_pure _

private theorem agrees_acceptCapture (here : pairing.alignment.Cursors before before')
    {values values' : List Value} (same : pairing.exact → values = values') :
    pairing.Agrees environment other (run.acceptCapture before values)
      (twin.acceptCapture before' values') :=
  follows_cursor.bind fun _ _ ends => (agrees_emitLexeme kept (here.spanTo ends)).bind fun _ =>
    (agrees_emitAll same).bind fun _ => agrees_skipWhitespace followed kept

theorem agrees_attemptCapture {rule : Rule U} (fits : pairing.alignment.Fits rule) :
    pairing.Agrees environment other (run.attemptCapture rule) (twin.attemptCapture rule) := by
  refine follows_cursor.bind fun before before' here => ?_
  refine (follows_collect (follows_withoutWhitespace (followed.attempt kept.deeper fits))).bind ?_
  rintro ⟨attempt, values⟩ ⟨_, values'⟩ ⟨rfl, same⟩
  cases attempt with
  | accepted =>
    exact (agrees_acceptCapture followed kept here same).bind fun _ => agrees_pure _
  | canceled => exact agrees_pure _
  | backtracked => exact agrees_pure _

theorem agrees_parseCapture {rule : Rule U} (fits : pairing.alignment.Fits rule) :
    pairing.Agrees environment other (run.parseCapture rule) (twin.parseCapture rule) := by
  refine follows_cursor.bind fun before before' here => ?_
  refine (follows_collect (follows_withoutWhitespace (followed.parse kept.deeper fits))).bind ?_
  rintro ⟨parsed, values⟩ ⟨_, values'⟩ ⟨rfl, same⟩
  cases parsed with
  | true => exact (agrees_acceptCapture followed kept here same).bind fun _ => agrees_pure _
  | false => exact agrees_pure _

private theorem agrees_acceptSymbol (value : Value) :
    pairing.Agrees environment other (run.acceptSymbol value) (twin.acceptSymbol value) :=
  (agrees_emit fun _ => rfl).bind fun _ => agrees_skipWhitespace followed kept

private theorem agrees_acceptSymbolHere (here : pairing.alignment.Cursors before before')
    (ends : pairing.alignment.Cursors after after') (value : Value) :
    pairing.Agrees environment other (run.acceptSymbolHere before after value)
      (twin.acceptSymbolHere before' after' value) :=
  (agrees_setCursor ends).bind fun _ =>
    (agrees_reportToken kept _ here.position ends.position).bind fun _ =>
      agrees_acceptSymbol followed kept value

end

section

variable [CodeUnit U]

private theorem found_sign (signed : Bool) (here : pairing.alignment.Cursors before before') :
    pairing.alignment.Found (readSign signed before) (readSign signed before') := by
  unfold readSign
  rw [← here.peek]
  split
  · exact ⟨rfl, here.next⟩
  · split
    · exact ⟨rfl, here.next⟩
    · exact ⟨rfl, here⟩

variable (followed : run.FollowedBy lax twin) (kept : pairing.Kept lax environment other)
include followed kept

theorem agrees_attemptToken (token : Token U) :
    pairing.Agrees environment other (run.attemptToken token) (twin.attemptToken token) := by
  refine follows_cursor.bind fun before before' here => ?_
  have results := Alignment.results_run token.pattern here
  generalize token.pattern.run before = result, token.pattern.run before' = result' at results ⊢
  cases results with
  | failed failure ends => exact agrees_pure _
  | matched ends =>
    exact (agrees_acceptToken followed kept _ here ends).bind fun _ => agrees_pure _

theorem agrees_parseToken (token : Token U) :
    pairing.Agrees environment other (run.parseToken token) (twin.parseToken token) := by
  refine follows_cursor.bind fun before before' here => ?_
  have results := Alignment.results_run token.pattern here
  generalize token.pattern.run before = result, token.pattern.run before' = result' at results ⊢
  cases results with
  | failed failure ends => exact agrees_failure kept _ here ends
  | matched ends =>
    exact (agrees_acceptToken followed kept _ here ends).bind fun _ => agrees_pure _

private theorem agrees_acceptIdentifier (reserved : Trie U)
    (here : pairing.alignment.Cursors before before')
    (ends : pairing.alignment.Cursors after after') :
    pairing.Agrees environment other (run.acceptIdentifier reserved before after)
      (twin.acceptIdentifier reserved before' after') := by
  have produces : pairing.Agrees environment other
      (do
        emit (.lexeme (before.spanTo after))
        run.skipWhitespace)
      (do
        emit (.lexeme (before'.spanTo after'))
        twin.skipWhitespace) :=
    (agrees_emitLexeme kept (here.spanTo ends)).bind fun _ => agrees_skipWhitespace followed kept
  refine (agrees_setCursor ends).bind fun _ =>
    (agrees_reportToken kept _ here.position ends.position).bind fun _ => ?_
  rw [here.slice_spanTo ends]
  split
  · exact (agrees_reportError kept _ here.position (here.spanTo ends)).bind fun _ => produces
  · exact produces

theorem agrees_attemptIdentifier (shape : IdentifierShape) (reserved : Trie U) :
    pairing.Agrees environment other (run.attemptIdentifier shape reserved)
      (twin.attemptIdentifier shape reserved) := by
  refine follows_cursor.bind fun before before' here => ?_
  have results := Alignment.results_identifier shape here
  generalize shape.run before = result, shape.run before' = result' at results ⊢
  cases results with
  | failed failure ends => exact agrees_pure _
  | matched ends =>
    exact (agrees_acceptIdentifier followed kept reserved here ends).bind fun _ => agrees_pure _

theorem agrees_parseIdentifier (shape : IdentifierShape) (reserved : Trie U) :
    pairing.Agrees environment other (run.parseIdentifier shape reserved)
      (twin.parseIdentifier shape reserved) := by
  refine follows_cursor.bind fun before before' here => ?_
  have results := Alignment.results_identifier shape here
  generalize shape.run before = result, shape.run before' = result' at results ⊢
  cases results with
  | failed failure ends => exact agrees_failure kept _ here ends
  | matched ends =>
    exact (agrees_acceptIdentifier followed kept reserved here ends).bind fun _ => agrees_pure _

private theorem agrees_acceptInteger (type : IntegerType) (digits : DigitRun) (negative : Bool)
    {first first' : Cursor U} (here : pairing.alignment.Cursors before before')
    (begins : pairing.alignment.Cursors first first')
    (ends : pairing.alignment.Cursors after after') :
    pairing.Agrees environment other (run.acceptInteger type digits negative before first after)
      (twin.acceptInteger type digits negative before' first' after') := by
  refine (agrees_setCursor ends).bind fun _ =>
    (agrees_reportToken kept _ here.position ends.position).bind fun _ => ?_
  rw [Alignment.convert_eq digits type negative begins ends]
  cases digits.convert type negative after' (first'.spanTo after') with
  | error failure =>
    exact (agrees_reportError kept _ begins.position (begins.spanTo ends)).bind
      fun _ => agrees_pure _
  | ok number =>
    exact (agrees_emit fun _ => rfl).bind fun _ =>
      (agrees_skipWhitespace followed kept).bind fun _ => agrees_pure _

theorem agrees_attemptInteger (type : IntegerType) (digits : DigitRun) (signed : Bool) :
    pairing.Agrees environment other (run.attemptInteger type digits signed)
      (twin.attemptInteger type digits signed) := by
  refine follows_cursor.bind fun before before' here => ?_
  have sign := found_sign signed here
  generalize readSign signed before = read, readSign signed before' = read' at sign ⊢
  obtain ⟨negative, first⟩ := read
  obtain ⟨_, first'⟩ := read'
  obtain ⟨rfl, begins⟩ := sign
  have results := Alignment.results_digits digits begins
  dsimp only at results ⊢
  generalize digits.run first = result, digits.run first' = result' at results ⊢
  cases results with
  | failed failure ends => exact agrees_pure _
  | matched ends =>
    exact (agrees_acceptInteger followed kept type digits negative here begins ends).bind
      fun _ => agrees_pure _

theorem agrees_parseInteger (type : IntegerType) (digits : DigitRun) (signed : Bool) :
    pairing.Agrees environment other (run.parseInteger type digits signed)
      (twin.parseInteger type digits signed) := by
  refine follows_cursor.bind fun before before' here => ?_
  have sign := found_sign signed here
  generalize readSign signed before = read, readSign signed before' = read' at sign ⊢
  obtain ⟨negative, first⟩ := read
  obtain ⟨_, first'⟩ := read'
  obtain ⟨rfl, begins⟩ := sign
  have results := Alignment.results_digits digits begins
  dsimp only at results ⊢
  generalize digits.run first = result, digits.run first' = result' at results ⊢
  cases results with
  | failed failure ends => exact agrees_failure kept _ here ends
  | matched ends => exact agrees_acceptInteger followed kept type digits negative here begins ends

theorem agrees_parseCodePoint (digits : DigitCount) :
    pairing.Agrees environment other (run.parseCodePoint digits) (twin.parseCodePoint digits) := by
  refine follows_cursor.bind fun before before' here => ?_
  have found := Alignment.found_codePoint digits here
  generalize digits.readCodePoint before = read, digits.readCodePoint before' = read' at found ⊢
  obtain ⟨answer, after⟩ := read
  obtain ⟨_, after'⟩ := read'
  obtain ⟨rfl, ends⟩ := found
  cases answer with
  | error failure => exact agrees_failure kept _ here ends
  | ok character =>
    exact (agrees_setCursor ends).bind fun _ =>
      (agrees_reportToken kept _ here.position ends.position).bind fun _ =>
        (agrees_emit fun _ => rfl).bind fun _ => (agrees_skipWhitespace followed kept).bind
          fun _ => agrees_pure _

theorem agrees_attemptSymbolHere (table : SymbolTable U) :
    pairing.Agrees environment other (run.attemptSymbolHere table)
      (twin.attemptSymbolHere table) := by
  refine follows_cursor.bind fun before before' here => ?_
  have found := Alignment.found_symbol table here
  generalize table.longest before = entry, table.longest before' = entry' at found ⊢
  cases found with
  | none => exact agrees_pure _
  | @some entry entry' found =>
    obtain ⟨value, after⟩ := entry
    obtain ⟨_, after'⟩ := entry'
    obtain ⟨rfl, ends⟩ := found
    exact (agrees_acceptSymbolHere followed kept here ends value).bind fun _ => agrees_pure _

theorem agrees_parseSymbolHere (table : SymbolTable U) :
    pairing.Agrees environment other (run.parseSymbolHere table) (twin.parseSymbolHere table) := by
  refine follows_cursor.bind fun before before' here => ?_
  have found := Alignment.found_symbol table here
  generalize table.longest before = entry, table.longest before' = entry' at found ⊢
  cases found with
  | none => exact (agrees_reportErrorAt kept _ here.position).bind fun _ => agrees_pure _
  | @some entry entry' found =>
    obtain ⟨value, after⟩ := entry
    obtain ⟨_, after'⟩ := entry'
    obtain ⟨rfl, ends⟩ := found
    exact (agrees_acceptSymbolHere followed kept here ends value).bind fun _ => agrees_pure _

theorem agrees_attemptSymbol (table : SymbolTable U) {word : Rule U}
    (fits : pairing.alignment.Fits word) :
    pairing.Agrees environment other (run.attemptSymbol table word)
      (twin.attemptSymbol table word) := by
  have inner := follows_withoutWhitespace (followed.attempt kept.speculation.deeper fits)
  refine follows_cursor.bind fun before before' here => ?_
  refine (follows_lookAhead (follows_speculation inner)).bind ?_
  rintro ⟨attempt, after⟩ ⟨_, after'⟩ ⟨rfl, ends⟩
  cases attempt with
  | accepted =>
    dsimp only [Attempt.isAccepted]
    rw [here.slice_spanTo ends]
    cases table.find (after'.slice (before'.spanTo after')) with
    | none => exact agrees_pure _
    | some value =>
      have again := follows_quietly (follows_withoutWhitespace (followed.parse kept.deeper fits))
      exact (agrees_discard again).bind fun _ =>
        (agrees_acceptSymbol followed kept value).bind fun _ => agrees_pure _
  | canceled => exact agrees_pure _
  | backtracked => exact agrees_pure _

theorem agrees_parseSymbol (table : SymbolTable U) {word : Rule U}
    (fits : pairing.alignment.Fits word) :
    pairing.Agrees environment other (run.parseSymbol table word)
      (twin.parseSymbol table word) := by
  refine follows_cursor.bind fun before before' here => ?_
  have inner := follows_withoutWhitespace (followed.parse kept.deeper fits)
  refine Agrees.bind (follows_quietly inner) fun parsed => ?_
  cases parsed with
  | false => exact agrees_pure _
  | true =>
    refine follows_cursor.bind fun after after' ends => ?_
    have spans := here.spanTo ends
    dsimp only
    rw [here.slice_spanTo ends]
    cases table.find (after'.slice (before'.spanTo after')) with
    | none => exact (agrees_reportError kept _ spans.first spans).bind fun _ => agrees_pure _
    | some value => exact (agrees_acceptSymbol followed kept value).bind fun _ => agrees_pure _

end

end Runner
end Descent
