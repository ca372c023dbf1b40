import Descent.Proofs.Utf8Sequences
import Descent.Text.CodeUnit

/-! Texts and their code units. An encoding writes one scalar value after another, and reads a
sequence as the value it stands for whatever follows it; so a text is read as it was written, and
the units that are written as they were read are those that sequences make up. -/

namespace Descent

namespace Text

variable {U : Type}

inductive Joined (Sequence : List U → Prop) : List U → Prop
  | nil : Joined Sequence []
  | cons {first rest : List U} (sequence : Sequence first) (others : Joined Sequence rest) :
      Joined Sequence (first ++ rest)

/-- An encoding that goes by scalar values: each has its sequence, which spells its number, and a
sequence in front of other units is read on its own. -/
structure Codec (encodeChar : Char → List U) (decode : List U → List Char)
    (Sequence : List U → Prop) (number : List U → Nat) : Prop where
  decode_nil : decode [] = []
  sequence_encodeChar : ∀ c, Sequence (encodeChar c)
  number_encodeChar : ∀ c, number (encodeChar c) = c.toNat
  encodeChar_number : ∀ {first}, Sequence first → encodeChar (Char.ofNat (number first)) = first
  decode_sequence : ∀ {first}, Sequence first → ∀ rest,
    decode (first ++ rest) = Char.ofNat (number first) :: decode rest

namespace Codec

variable {encodeChar : Char → List U} {decode : List U → List Char} {Sequence : List U → Prop}
  {number : List U → Nat}

private theorem decode_encodeChar (codec : Codec encodeChar decode Sequence number) (c : Char)
    (rest : List U) : decode (encodeChar c ++ rest) = c :: decode rest := by
  rw [codec.decode_sequence (codec.sequence_encodeChar c), codec.number_encodeChar,
    Char.ofNat_toNat]

private theorem decode_encode (codec : Codec encodeChar decode Sequence number) (text : List Char) :
    decode (text.flatMap encodeChar) = text := by
  induction text with
  | nil => exact codec.decode_nil
  | cons c text ih => rw [List.flatMap_cons, codec.decode_encodeChar, ih]

/-- Sequences one after another are the units of some text. -/
theorem joined_iff (codec : Codec encodeChar decode Sequence number) {units : List U} :
    Joined Sequence units ↔ ∃ text : List Char, text.flatMap encodeChar = units := by
  constructor
  · intro joined
    induction joined with
    | nil => exact ⟨[], rfl⟩
    | cons sequence _ ih =>
      obtain ⟨text, rfl⟩ := ih
      exact ⟨_ :: text, by rw [List.flatMap_cons, codec.encodeChar_number sequence]⟩
  · rintro ⟨text, rfl⟩
    induction text with
    | nil => exact .nil
    | cons c text ih =>
      rw [List.flatMap_cons]
      exact .cons (codec.sequence_encodeChar c) ih

/-- Units are written as they were read exactly when they are sequences one after another. -/
theorem encode_decode_iff (codec : Codec encodeChar decode Sequence number) (units : List U) :
    (decode units).flatMap encodeChar = units ↔ Joined Sequence units := by
  rw [codec.joined_iff]
  constructor
  · intro same
    exact ⟨_, same⟩
  · rintro ⟨text, rfl⟩
    rw [codec.decode_encode]

end Codec

private theorem Utf8.codec : Codec encodeChar decode Sequence number where
  decode_nil := rfl
  sequence_encodeChar := sequence_encodeChar
  number_encodeChar := number_encodeChar
  encodeChar_number := encodeChar_number
  decode_sequence := decode_sequence

namespace Utf16

/-- A unit that is no surrogate, or a high and a low one. -/
inductive Sequence : List UInt16 → Prop
  | unit {unit : UInt16} (not_high : ¬IsHigh unit.toNat) (not_low : ¬IsLow unit.toNat) :
      Sequence [unit]
  | pair {high low : UInt16} (is_high : IsHigh high.toNat) (is_low : IsLow low.toNat) :
      Sequence [high, low]

def number : List UInt16 → Nat
  | [unit] => unit.toNat
  | [high, low] => 0x10000 + (high.toNat - 0xD800) * 0x400 + (low.toNat - 0xDC00)
  | _ => 0

private theorem number_unit (unit : UInt16) : number [unit] = unit.toNat := rfl

private theorem number_pair (high low : UInt16) : number [high, low] =
    0x10000 + (high.toNat - 0xD800) * 0x400 + (low.toNat - 0xDC00) := rfl

theorem sequence_encodeChar (c : Char) : Sequence (encodeChar c) := by
  have scalar := toNat_scalar c
  unfold encodeChar
  generalize c.toNat = n at scalar ⊢
  dsimp only
  split
  · apply Sequence.unit <;> simp only [IsHigh, IsLow, UInt16.toNat_ofNat'] <;> omega
  · apply Sequence.pair <;> simp only [IsHigh, IsLow, UInt16.toNat_ofNat'] <;> omega

theorem number_encodeChar (c : Char) : number (encodeChar c) = c.toNat := by
  have scalar := toNat_scalar c
  unfold encodeChar
  generalize c.toNat = n at scalar ⊢
  dsimp only
  split
  · rw [number_unit, UInt16.toNat_ofNat']
    omega
  · rw [number_pair, UInt16.toNat_ofNat', UInt16.toNat_ofNat']
    omega

theorem isValidChar_number {units : List UInt16} (valid : Sequence units) :
    (number units).isValidChar := by
  unfold Nat.isValidChar
  cases valid with
  | @unit unit not_high not_low =>
    have := unit.toNat_lt
    rw [number_unit]
    unfold IsHigh at not_high
    unfold IsLow at not_low
    omega
  | pair is_high is_low =>
    rw [number_pair]
    unfold IsHigh at is_high
    unfold IsLow at is_low
    omega

/-- A sequence is what its number is encoded as. -/
theorem encodeChar_number {units : List UInt16} (valid : Sequence units) :
    encodeChar (Char.ofNat (number units)) = units := by
  unfold encodeChar
  rw [toNat_ofNat (isValidChar_number valid)]
  generalize spelt : number units = n
  cases valid with
  | @unit unit not_high not_low =>
    have := unit.toNat_lt
    rw [number_unit] at spelt
    rw [if_pos (by omega), ← spelt, UInt16.ofNat_toNat]
  | pair is_high is_low =>
    rw [number_pair] at spelt
    unfold IsHigh at is_high
    unfold IsLow at is_low
    rw [if_neg (by omega)]
    simp only [List.cons.injEq, ← UInt16.toNat_inj, UInt16.toNat_ofNat', and_true]
    omega

private theorem not_low_of_high {unit : Nat} (high : IsHigh unit) : ¬IsLow unit := by
  unfold IsHigh at high
  unfold IsLow
  omega

/-- A sequence is read as its number, and what comes after it from the start. -/
theorem decode_sequence {units : List UInt16} (valid : Sequence units) (rest : List UInt16) :
    decode (units ++ rest) = Char.ofNat (number units) :: decode rest := by
  unfold decode
  cases valid with
  | unit not_high not_low =>
    rw [number_unit]
    simp only [List.singleton_append, decodeFrom, step, start, if_neg not_high, if_neg not_low]
  | pair is_high is_low =>
    rw [number_pair]
    simp only [List.cons_append, List.nil_append, decodeFrom, step, start, if_pos is_high,
      if_pos is_low]

private theorem codec : Codec encodeChar decode Sequence number where
  decode_nil := rfl
  sequence_encodeChar := sequence_encodeChar
  number_encodeChar := number_encodeChar
  encodeChar_number := encodeChar_number
  decode_sequence := decode_sequence

/-- No surrogate is alone: a high one is right before a low one, and a low one right after a high
one. -/
def Paired (units : List UInt16) : Prop :=
  ∀ before unit after, units = before ++ unit :: after →
    (IsHigh unit.toNat → ∃ low ∈ after.head?, IsLow low.toNat) ∧
    (IsLow unit.toNat → ∃ high ∈ before.getLast?, IsHigh high.toNat)

theorem paired_append {first rest : List UInt16} (paired : Paired first) (others : Paired rest) :
    Paired (first ++ rest) := by
  intro before unit after split
  obtain ⟨middle, rfl, same⟩ | ⟨middle, same, apart⟩ := List.append_eq_append_iff.mp split
  · obtain ⟨high, low⟩ := others middle unit after same
    refine ⟨high, fun is_low => ?_⟩
    obtain ⟨partner, last, is_high⟩ := low is_low
    exact ⟨partner, by rw [List.getLast?_append, Option.mem_def.mp last]; rfl, is_high⟩
  cases middle with
  | nil =>
    obtain ⟨high, low⟩ := others [] unit after apart.symm
    exact ⟨high, fun is_low => by obtain ⟨_, none, _⟩ := low is_low; cases none⟩
  | cons inner middle =>
    rw [List.cons_append] at apart
    obtain ⟨rfl, after_eq⟩ := List.cons.inj apart
    obtain ⟨high, low⟩ := paired before unit middle same
    refine ⟨fun is_high => ?_, low⟩
    obtain ⟨partner, next, is_low⟩ := high is_high
    exact ⟨partner, by rw [after_eq, List.head?_append, Option.mem_def.mp next]; rfl, is_low⟩

/-- In a sequence no surrogate is alone. -/
theorem paired_of_sequence {units : List UInt16} (sequence : Sequence units) : Paired units := by
  intro before unit after split
  cases sequence with
  | unit not_high not_low =>
    obtain ⟨rfl, one⟩ | ⟨_, _, none⟩ := List.cons_eq_append_iff.mp split
    · obtain ⟨rfl, rfl⟩ := List.cons.inj one
      exact ⟨fun high => absurd high not_high, fun low => absurd low not_low⟩
    · cases (List.nil_eq_append_iff.mp none).2
  | @pair high low is_high is_low =>
    obtain ⟨rfl, both⟩ | ⟨rest, rfl, one⟩ := List.cons_eq_append_iff.mp split
    · obtain ⟨rfl, rfl⟩ := List.cons.inj both
      exact ⟨fun _ => ⟨low, rfl, is_low⟩, fun low => absurd low (not_low_of_high is_high)⟩
    obtain ⟨rfl, only⟩ | ⟨_, _, none⟩ := List.cons_eq_append_iff.mp one
    · obtain ⟨rfl, rfl⟩ := List.cons.inj only
      exact ⟨fun high => absurd is_low (not_low_of_high high), fun _ => ⟨high, rfl, is_high⟩⟩
    · cases (List.nil_eq_append_iff.mp none).2

/-- Paired units stay so without their front, unless it ends in a high surrogate. -/
theorem Paired.rest {first rest : List UInt16} (paired : Paired (first ++ rest))
    (whole : ∀ last ∈ first.getLast?, ¬IsHigh last.toNat) : Paired rest := by
  rintro before unit after rfl
  obtain ⟨high, low⟩ := paired (first ++ before) unit after (List.append_assoc ..).symm
  refine ⟨high, fun is_low => ?_⟩
  obtain ⟨partner, last, is_high⟩ := low is_low
  rw [List.getLast?_append, Option.mem_def, Option.or_eq_some_iff] at last
  obtain last | ⟨-, last⟩ := last
  · exact ⟨partner, last, is_high⟩
  · exact absurd is_high (whole partner last)

/-- Paired units are made up of sequences: a high surrogate takes its partner along. -/
theorem joined_of_paired {units : List UInt16} (paired : Paired units) : Joined Sequence units := by
  -- What is left is shorter by one or two.
  induction size : units.length using Nat.strongRecOn generalizing units with
  | ind length ih =>
    subst size
    cases units with
    | nil => exact .nil
    | cons unit rest =>
      obtain ⟨high, low⟩ := paired [] unit rest rfl
      by_cases is_high : IsHigh unit.toNat
      · obtain ⟨partner, next, is_low⟩ := high is_high
        obtain ⟨rest, rfl⟩ := List.head?_eq_some_iff.mp next
        have others : Paired rest := by
          apply Paired.rest (show Paired ([unit, partner] ++ rest) from paired)
          intro last same
          cases same
          exact fun high => not_low_of_high high is_low
        have shorter : rest.length < (unit :: partner :: rest).length := by
          simp only [List.length_cons]
          omega
        exact .cons (.pair is_high is_low) (ih _ shorter others rfl)
      · have not_low : ¬IsLow unit.toNat := by
          intro is_low
          obtain ⟨_, none, _⟩ := low is_low
          cases none
        have others : Paired rest := by
          apply Paired.rest (show Paired ([unit] ++ rest) from paired)
          intro last same
          cases same
          exact is_high
        exact .cons (.unit is_high not_low) (ih _ (Nat.lt_succ_self _) others rfl)

/-- Sequences make up the units in which no surrogate is alone. -/
theorem joined_iff_paired {units : List UInt16} : Joined Sequence units ↔ Paired units := by
  constructor
  · intro joined
    induction joined with
    | nil =>
      intro before unit after split
      cases (List.nil_eq_append_iff.mp split).2
    | cons sequence _ ih => exact paired_append (paired_of_sequence sequence) ih
  · exact joined_of_paired

end Utf16

private theorem scalarOf_val (c : Char) : scalarOf c.val = c := by
  rw [scalarOf, dif_pos c.valid]
  rfl

private theorem val_scalarOf_iff {unit : UInt32} :
    (scalarOf unit).val = unit ↔ unit.toNat.isValidChar := by
  constructor
  · intro same
    rw [← same]
    exact (scalarOf unit).valid
  · intro valid
    rw [scalarOf, dif_pos valid]
    rfl

/-- 32-bit units are written as they were read exactly when all are scalar values. -/
theorem map_val_scalarOf_iff (units : List UInt32) :
    (units.map scalarOf).map Char.val = units ↔ ∀ unit ∈ units, unit.toNat.isValidChar :=
  calc (units.map scalarOf).map Char.val = units
      ↔ units.map (Char.val ∘ scalarOf) = units.map id := by rw [List.map_map, List.map_id]
    _ ↔ ∀ unit ∈ units, (scalarOf unit).val = unit := List.map_inj_left
    _ ↔ ∀ unit ∈ units, unit.toNat.isValidChar :=
      forall_congr' fun _ => imp_congr_right fun _ => val_scalarOf_iff

end Text

namespace CodeUnit

variable {U : Type} [CodeUnit U]

/-- Decoding undoes encoding, and encoding undoes decoding where the units are well-formed and
nowhere else. -/
structure Transcodes (U : Type) [CodeUnit U] (WellFormed : List U → Prop) : Prop where
  toText_ofText : ∀ text, toText (ofText text : List U) = text
  ofText_toText_iff : ∀ units : List U, ofText (toText units) = units ↔ WellFormed units

private theorem Transcodes.of_lists {WellFormed : List U → Prop}
    (decode_encode : ∀ text, decode (encode text : List U) = text)
    (encode_decode_iff : ∀ units : List U, encode (decode units) = units ↔ WellFormed units) :
    Transcodes U WellFormed where
  toText_ofText text := by
    rw [toText, ofText, decode_encode, String.ofList_toList]
  ofText_toText_iff units := by
    rw [toText, ofText, String.toList_ofList, encode_decode_iff]

/-- The bytes of a text are those it is stored as. -/
theorem toByteArray_ofText (text : String) :
    (ofText text : List UInt8).toByteArray = text.toByteArray := by
  have same : (ofText text : List UInt8) = text.toList.flatMap String.utf8EncodeChar :=
    congrArg (text.toList.flatMap ·) (funext Text.Utf8.encodeChar_eq)
  rw [same]
  exact String.utf8Encode_toList

/-- Whatever the code units are, a text is read as it was written, and units are written as they
were read exactly when they are well-formed: when they follow the table of UTF-8, when no surrogate
is alone, when they are scalar values, and always. The bytes are those that texts are stored as. -/
theorem decoding_undoes_encoding :
    Transcodes UInt8 (Text.Joined Text.Utf8.Sequence) ∧ Transcodes UInt16 Text.Utf16.Paired ∧
      Transcodes UInt32 (fun units => ∀ unit ∈ units, unit.toNat.isValidChar) ∧
      Transcodes Char (fun _ => True) ∧
      ∀ text : String, (ofText text : List UInt8).toByteArray = text.toByteArray := by
  refine ⟨.of_lists ?_ ?_, .of_lists ?_ ?_, .of_lists ?_ ?_, .of_lists ?_ ?_, toByteArray_ofText⟩
  · exact Text.Utf8.codec.decode_encode
  · exact Text.Utf8.codec.encode_decode_iff
  · exact Text.Utf16.codec.decode_encode
  · intro units
    rw [← Text.Utf16.joined_iff_paired]
    exact Text.Utf16.codec.encode_decode_iff units
  · intro text
    exact (List.map_map ..).trans (List.map_id'' Text.scalarOf_val text)
  · exact Text.map_val_scalarOf_iff
  · intro text
    rfl
  · intro units
    exact iff_of_true rfl trivial

-- A sequence that breaks off and a surrogate that is alone are read as one replacement each.
example : toText ([0xE2, 0x82, 0x68, 0xC3, 0xA9] : List UInt8) = "\uFFFDh\u00E9" := by cbv

example : toText ([0xD83D, 0xD83D, 0xDE00] : List UInt16) = "\uFFFD😀" := by cbv

end CodeUnit

end Descent
