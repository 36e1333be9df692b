import Mathlib.Algebra.GroupWithZero.Nat
import Mathlib.Data.List.Induction
import Mathlib.Data.Nat.Find
import Cardroom.Proofs.Wire.Reading

/-!
# The grammar of frames

What a reader makes of some bytes can be said without following it byte by byte: it depends on where
the first start mark is, and on what stands behind that. `read_reads` says that a reader gives
exactly the outcome that the grammar gives and takes exactly as many bytes, and that nothing less
than a whole frame is taken for one.
-/

namespace Cardroom

namespace Text

theorem ofDigits_concat (letters : List Char) (letter : Char) :
    ofDigits (letters ++ [letter]) = 10 * ofDigits letters + (letter.toNat - '0'.toNat) :=
  Nat.ofDigitChars_append 0

theorem digit_bounds {letter : Char} (digit : letter.isDigit) :
    '0'.toNat ≤ letter.toNat ∧ letter.toNat - '0'.toNat < 10 := by
  have bounds := Char.isDigit_iff_toNat.1 digit
  have zero : '0'.toNat = 48 := rfl
  have nine : '9'.toNat = 57 := rfl
  omega

theorem ofDigits_lt {letters : List Char} (digits : ∀ letter ∈ letters, letter.isDigit) :
    ofDigits letters < 10 ^ letters.length := by
  induction letters using List.reverseRecOn with
  | nil =>
      exact Nat.one_pos
  | append_singleton letters letter inductionHypothesis =>
      have before := inductionHypothesis fun other member =>
        digits other (List.mem_append_left _ member)
      have last := digit_bounds (digits letter (List.mem_append_right _ (by simp)))
      rw [ofDigits_concat, List.length_append, List.length_singleton, Nat.pow_succ]
      omega

/-- So many digits write a number in one way only. -/
theorem ofDigits_inj {letters others : List Char} (digits : ∀ letter ∈ letters, letter.isDigit)
    (digits' : ∀ letter ∈ others, letter.isDigit) (length : letters.length = others.length)
    (same : ofDigits letters = ofDigits others) :
    letters = others := by
  induction letters using List.reverseRecOn generalizing others with
  | nil =>
      exact (List.length_eq_zero_iff.1 length.symm).symm
  | append_singleton letters letter inductionHypothesis =>
      rcases others.eq_nil_or_concat with rfl | ⟨others, other, rfl⟩
      · simp at length
      · rw [List.concat_eq_append] at *
        have last := digit_bounds (digits letter (List.mem_append_right _ (by simp)))
        have last' := digit_bounds (digits' other (List.mem_append_right _ (by simp)))
        rw [ofDigits_concat, ofDigits_concat] at same
        have fronts : letters = others := by
          refine inductionHypothesis
            (fun next member => digits next (List.mem_append_left _ member))
            (fun next member => digits' next (List.mem_append_left _ member)) ?_ (by omega)
          simpa using length
        have ends : letter = other := Char.toNat_inj.1 (by omega)
        rw [fronts, ends]

/-- Digits are those of the number that they write, with zeros in front. -/
theorem padded_ofDigits {letters : List Char} (some : letters ≠ [])
    (digits : ∀ letter ∈ letters, letter.isDigit) :
    padded letters.length (ofDigits letters) = letters := by
  have positive : 0 < letters.length := List.length_pos_iff.2 some
  refine ofDigits_inj (fun _ => isDigit_of_mem_padded) digits ?_ (ofDigits_padded _ _)
  exact length_padded ((Nat.length_toDigits_le_iff (by decide) positive).2 (ofDigits_lt digits))

end Text

theorem Source.Holds.take_eq_error {source : Source} {bytes : List UInt8}
    (holds : source.Holds bytes none) {count : Nat} (short : bytes.length < count) :
    ∃ rest, source.take count = (.error .disconnected, rest) ∧ rest.Holds [] none := by
  induction bytes generalizing source count with
  | nil =>
      cases count with
      | zero =>
          cases short
      | succ count =>
          refine ⟨source, ?_, holds⟩
          rw [Source.take, holds.next?_eq_none, holds.exhausted_eq]
  | cons byte bytes inductionHypothesis =>
      cases count with
      | zero =>
          cases short
      | succ count =>
          obtain ⟨next, read, after⟩ := holds.next?_eq_some
          obtain ⟨rest, taken, left⟩ := inductionHypothesis after (Nat.lt_of_succ_lt_succ short)
          refine ⟨rest, ?_, left⟩
          simp only [Source.take, read, taken]
          rfl

namespace Frame

/-! ## The grammar -/

def IsDigit (byte : UInt8) : Prop :=
  0x30 ≤ byte ∧ byte ≤ 0x39

instance (byte : UInt8) : Decidable (IsDigit byte) :=
  inferInstanceAs (Decidable (_ ∧ _))

def decimal (digits : List UInt8) : Nat :=
  digits.foldl (fun number byte => 10 * number + (byte.toNat - 0x30)) 0

/-- What the bytes behind a start mark are to a reader, and the bytes that it leaves. -/
inductive Continues (bytes : List UInt8) : Except WireError Frame → List UInt8 → Prop
  | shortHeader :
      bytes.length < 8 →
      Continues bytes (.error .disconnected) []
  | unknownType {code digits rest : List UInt8} :
      bytes = code ++ digits ++ rest → code.length = 4 → digits.length = 4 →
      (∀ type : MessageType, type.codeBytes ≠ code) →
      Continues bytes (.error (.unknownType (Text.lossy code))) rest
  | malformedLength {type : MessageType} {digits rest : List UInt8} :
      bytes = type.codeBytes ++ digits ++ rest → digits.length = 4 →
      ¬ (∀ byte ∈ digits, IsDigit byte) →
      Continues bytes (.error (.malformedLength (Text.lossy digits))) rest
  | shortPayload {type : MessageType} {digits rest : List UInt8} :
      bytes = type.codeBytes ++ digits ++ rest → digits.length = 4 →
      (∀ byte ∈ digits, IsDigit byte) → rest.length < decimal digits →
      Continues bytes (.error .disconnected) []
  | invalidUtf8 {type : MessageType} {digits payload rest : List UInt8} :
      bytes = type.codeBytes ++ digits ++ (payload ++ rest) → digits.length = 4 →
      (∀ byte ∈ digits, IsDigit byte) → payload.length = decimal digits →
      (∀ text, Text.bytes text ≠ payload) →
      Continues bytes (.error .invalidUtf8) rest
  | frame {type : MessageType} {digits rest : List UInt8} {payload : String} :
      bytes = type.codeBytes ++ digits ++ (Text.bytes payload ++ rest) → digits.length = 4 →
      (∀ byte ∈ digits, IsDigit byte) → (Text.bytes payload).length = decimal digits →
      Continues bytes (.ok { type, payload }) rest

/-- What some bytes are to a reader, and the bytes that it leaves. It passes over fewer bytes than
its budget to get to a start mark. -/
inductive Reads (budget : Nat) (bytes : List UInt8) : Except WireError Frame → List UInt8 → Prop
  | found {place : Nat} {outcome : Except WireError Frame} {left : List UInt8} :
      MarkAt place bytes → (∀ earlier < place, ¬ MarkAt earlier bytes) → place < budget →
      Continues (bytes.drop (place + 4)) outcome left →
      Reads budget bytes outcome left
  | exceeded :
      (∀ place < budget, ¬ MarkAt place bytes) → budget + 4 ≤ bytes.length →
      Reads budget bytes (.error (.noStart budget)) (bytes.drop (budget + 4))
  | ended :
      (∀ place < budget, ¬ MarkAt place bytes) → bytes.length < budget + 4 →
      Reads budget bytes (.error .disconnected) []

/-- A byte and the character of its number. -/
theorem toNat_ofNat_byte (byte : UInt8) : (Char.ofNat byte.toNat).toNat = byte.toNat := by
  have small := byte.toNat_lt
  have valid : byte.toNat.isValidChar := .inl (by omega)
  rw [Char.ofNat, dif_pos valid]
  rfl

theorem ofDigits_eq_decimal (digits : List UInt8) :
    Text.ofDigits (digits.map fun byte => Char.ofNat byte.toNat) = decimal digits := by
  rw [Text.ofDigits, Nat.ofDigitChars, List.foldl_map, decimal]
  simp only [toNat_ofNat_byte]
  rfl

theorem isDigit_ofNat_byte {byte : UInt8} (digit : IsDigit byte) :
    (Char.ofNat byte.toNat).isDigit := by
  rw [Char.isDigit_iff_toNat, toNat_ofNat_byte]
  exact ⟨UInt8.le_iff_toNat_le.1 digit.1, UInt8.le_iff_toNat_le.1 digit.2⟩

/-- Four digits are the length bytes of the number that they write. -/
theorem lengthBytes_decimal {digits : List UInt8} (four : digits.length = 4)
    (all : ∀ byte ∈ digits, IsDigit byte) :
    decimal digits ≤ maxPayload ∧ lengthBytes (decimal digits) = digits := by
  have letters : ∀ letter ∈ digits.map fun byte => Char.ofNat byte.toNat, letter.isDigit := by
    intro letter member
    obtain ⟨byte, listed, rfl⟩ := List.mem_map.1 member
    exact isDigit_ofNat_byte (all byte listed)
  have size : (digits.map fun byte => Char.ofNat byte.toNat).length = 4 := by
    rw [List.length_map, four]
  constructor
  · have small := Text.ofDigits_lt letters
    rw [size, ofDigits_eq_decimal] at small
    exact Nat.le_of_lt_succ small
  · have same := Text.padded_ofDigits (List.ne_nil_of_length_eq_add_one size) letters
    rw [size, ofDigits_eq_decimal] at same
    rw [lengthBytes_eq_map, same, List.map_map]
    conv => rhs; rw [← List.map_id digits]
    apply List.map_congr_left
    intro byte _
    rw [Function.comp_apply, toNat_ofNat_byte, UInt8.ofNat_toNat, id]

section

variable {code digits : List UInt8} {type : MessageType}

theorem splitAt_header (four : code.length = 4) (digits : List UInt8) :
    (code ++ digits).splitAt 4 = (code, digits) := by
  rw [List.splitAt_eq, ← four, List.take_left, List.drop_left]

theorem parseHeader_of_unknown (four : code.length = 4)
    (unknown : ∀ type : MessageType, type.codeBytes ≠ code) (digits : List UInt8) :
    parseHeader (code ++ digits) = .error (.unknownType (Text.lossy code)) := by
  have none : MessageType.ofCodeBytes? code = none := by
    rw [MessageType.ofCodeBytes?, List.find?_eq_none]
    intro type _
    simpa using unknown type
  simp only [parseHeader, splitAt_header four, none]

theorem all_isDigit_iff (digits : List UInt8) :
    (digits.all fun byte => 0x30 ≤ byte ∧ byte ≤ 0x39) = true ↔ ∀ byte ∈ digits, IsDigit byte := by
  simp only [List.all_eq_true, decide_eq_true_eq]
  rfl

theorem parseHeader_of_malformed (type : MessageType)
    (malformed : ¬ ∀ byte ∈ digits, IsDigit byte) :
    parseHeader (type.codeBytes ++ digits) = .error (.malformedLength (Text.lossy digits)) := by
  simp only [parseHeader, splitAt_header type.length_codeBytes,
    MessageType.ofCodeBytes?_codeBytes, all_isDigit_iff, if_neg malformed]

theorem parseHeader_of_digits (type : MessageType) (all : ∀ byte ∈ digits, IsDigit byte) :
    parseHeader (type.codeBytes ++ digits) = .ok (type, decimal digits) := by
  simp only [parseHeader, splitAt_header type.length_codeBytes,
    MessageType.ofCodeBytes?_codeBytes, all_isDigit_iff, if_pos all, ofDigits_eq_decimal]

end

theorem readBody_of_continues {bytes left : List UInt8} {outcome : Except WireError Frame}
    (continues : Continues bytes outcome left) {source : Source}
    (holds : source.Holds bytes none) :
    ∃ rest, readBody source = (outcome, rest) ∧ rest.Holds left none := by
  -- A header of eight bytes is taken whole.
  have header {front back : List UInt8} (same : bytes = front ++ back)
      (eight : front.length = headerSize) :
      ∃ rest, source.take headerSize = (.ok front, rest) ∧ rest.Holds back none := by
    rw [← eight]
    exact Source.Holds.take_eq_ok (same ▸ holds)
  have eight {type : MessageType} {digits : List UInt8} (four : digits.length = 4) :
      (type.codeBytes ++ digits).length = headerSize := by
    rw [List.length_append, type.length_codeBytes, four]
    rfl
  cases continues with
  | shortHeader short =>
      obtain ⟨rest, taken, left⟩ := holds.take_eq_error short
      exact ⟨rest, by simp only [readBody, headerSize, taken], left⟩
  | unknownType same fourCode four unknown =>
      obtain ⟨rest, taken, left⟩ := header same (by rw [List.length_append, fourCode, four]; rfl)
      refine ⟨rest, ?_, left⟩
      simp only [readBody, taken, parseHeader_of_unknown fourCode unknown]
  | malformedLength same four malformed =>
      obtain ⟨rest, taken, left⟩ := header same (eight four)
      refine ⟨rest, ?_, left⟩
      simp only [readBody, taken, parseHeader_of_malformed _ malformed]
  | shortPayload same four all short =>
      obtain ⟨behind, taken, payload⟩ := header same (eight four)
      obtain ⟨rest, failed, left⟩ := payload.take_eq_error short
      refine ⟨rest, ?_, left⟩
      simp only [readBody, taken, parseHeader_of_digits _ all, failed]
  | @invalidUtf8 type digits payload rest same four all size noText =>
      obtain ⟨behind, taken, after⟩ := header same (eight four)
      obtain ⟨rest, whole, left⟩ := after.take_eq_ok
      rw [size] at whole
      have none : Text.ofBytes? payload = none := by
        by_contra text
        obtain ⟨text, read⟩ := Option.ne_none_iff_exists'.1 text
        exact noText text (Text.bytes_of_ofBytes? read)
      refine ⟨rest, ?_, left⟩
      simp only [readBody, taken, parseHeader_of_digits _ all, whole, none]
  | frame same four all size =>
      obtain ⟨behind, taken, after⟩ := header same (eight four)
      obtain ⟨rest, whole, left⟩ := after.take_eq_ok
      rw [size] at whole
      refine ⟨rest, ?_, left⟩
      simp only [readBody, taken, parseHeader_of_digits _ all, whole, Text.ofBytes?_bytes]

theorem read_of_reads {budget : Nat} (positive : 0 < budget) {bytes left : List UInt8}
    {outcome : Except WireError Frame} (reads : Reads budget bytes outcome left) {source : Source}
    (holds : source.Holds bytes none) :
    ∃ rest, read budget source = (outcome, rest) ∧ rest.Holds left none := by
  cases reads with
  | found mark first within continues =>
      obtain ⟨behind, found, after⟩ := findStart_of_markAt holds mark first within
      obtain ⟨rest, body, left⟩ := readBody_of_continues continues after
      exact ⟨rest, by simp only [read, found, body], left⟩
  | exceeded clean enough =>
      obtain ⟨rest, found, left⟩ := findStart_of_exceeded holds positive clean enough
      exact ⟨rest, by simp only [read, found], left⟩
  | ended clean short =>
      obtain ⟨rest, found, left⟩ := findStart_of_ended holds positive clean short
      rw [left.exhausted_eq] at found
      exact ⟨rest, by simp only [read, found], left⟩

theorem exists_continues (bytes : List UInt8) : ∃ outcome left, Continues bytes outcome left := by
  by_cases short : bytes.length < 8
  · exact ⟨_, _, .shortHeader short⟩
  · -- The header is cut into its two halves, and what follows it at the length that it states.
    have same : bytes = bytes.take 4 ++ (bytes.drop 4).take 4 ++ bytes.drop 8 := by
      rw [List.append_assoc, ← List.drop_drop (i := 4) (j := 4), List.take_append_drop,
        List.take_append_drop]
    have fourCode : (bytes.take 4).length = 4 := by
      rw [List.length_take]
      omega
    have four : ((bytes.drop 4).take 4).length = 4 := by
      rw [List.length_take, List.length_drop]
      omega
    generalize bytes.take 4 = code at same fourCode
    generalize (bytes.drop 4).take 4 = digits at same four
    generalize bytes.drop 8 = rest at same
    by_cases known : ∃ type : MessageType, type.codeBytes = code
    · obtain ⟨type, rfl⟩ := known
      by_cases all : ∀ byte ∈ digits, IsDigit byte
      · by_cases lacking : rest.length < decimal digits
        · exact ⟨_, _, .shortPayload same four all lacking⟩
        · have size : (rest.take (decimal digits)).length = decimal digits :=
            List.length_take_of_le (Nat.not_lt.1 lacking)
          rw [← List.take_append_drop (decimal digits) rest] at same
          by_cases text : ∃ text, Text.bytes text = rest.take (decimal digits)
          · obtain ⟨text, read⟩ := text
            rw [← read] at same size
            exact ⟨_, _, .frame same four all size⟩
          · exact ⟨_, _, .invalidUtf8 same four all size (not_exists.1 text)⟩
      · exact ⟨_, _, .malformedLength same four all⟩
    · exact ⟨_, _, .unknownType same fourCode four (not_exists.1 known)⟩

theorem exists_reads (budget : Nat) (bytes : List UInt8) :
    ∃ outcome left, Reads budget bytes outcome left := by
  by_cases reached : ∃ place, place < budget ∧ MarkAt place bytes
  · -- The first of the marks is the one that counts.
    classical
    obtain ⟨within, mark⟩ := Nat.find_spec reached
    obtain ⟨outcome, left, continues⟩ := exists_continues (bytes.drop (Nat.find reached + 4))
    refine ⟨outcome, left, .found mark (fun earlier before there => ?_) within continues⟩
    exact Nat.find_min reached before ⟨Nat.lt_trans before within, there⟩
  · have clean : ∀ place < budget, ¬ MarkAt place bytes := fun place within mark =>
      reached ⟨place, within, mark⟩
    by_cases enough : budget + 4 ≤ bytes.length
    · exact ⟨_, _, .exceeded clean enough⟩
    · exact ⟨_, _, .ended clean (Nat.lt_of_not_le enough)⟩

/-! ## Whole frames -/

section

variable {budget : Nat} {frame : Frame} {garbage bytes left : List UInt8}

/-- What is read as a frame is the frame's encoding. -/
theorem Continues.eq_wireBytes (continues : Continues bytes (.ok frame) left) :
    frame.payload.utf8ByteSize ≤ maxPayload ∧ startMark ++ bytes = frame.wireBytes ++ left := by
  cases continues with
  | @frame type digits rest payload same four all size =>
      obtain ⟨small, stated⟩ := lengthBytes_decimal four all
      rw [← size] at small stated
      rw [Text.length_bytes] at small
      refine ⟨small, ?_⟩
      rw [wireBytes, ← lengthBytes, stated, same]
      simp only [List.append_assoc]

/-- A frame that is read comes behind garbage in which no start mark lies. -/
theorem Reads.exists_garbage (reads : Reads budget bytes (.ok frame) left) :
    ∃ garbage, bytes = garbage ++ frame.wireBytes ++ left ∧ garbage.length < budget ∧
      ¬ startMark <:+: garbage ∧ frame.payload.utf8ByteSize ≤ maxPayload := by
  cases reads with
  | @found place _ _ mark first within continues =>
      have enough := mark.enough
      have size : startMark.length = 4 := rfl
      obtain ⟨small, encoded⟩ := continues.eq_wireBytes
      refine ⟨bytes.take place, ?_, ?_, ?_, small⟩
      · have behind := List.prefix_append_drop mark
        rw [List.drop_drop, size, encoded] at behind
        rw [List.append_assoc, ← behind, List.take_append_drop]
      · rw [List.length_take_of_le (by omega)]
        exact within
      · rintro ⟨before, after, split⟩
        have lengths := congrArg List.length split
        rw [List.length_take_of_le (by omega)] at lengths
        simp only [List.length_append] at lengths
        refine first before.length (by omega) ?_
        rw [MarkAt, ← List.take_append_drop place bytes, ← split, List.append_assoc,
          List.append_assoc, List.drop_left]
        exact List.prefix_append _ _

/-- The length that a frame states is the size of its payload. -/
theorem decimal_lengthBytes (size : Nat) :
    (∀ byte ∈ lengthBytes size, IsDigit byte) ∧ decimal (lengthBytes size) = size := by
  have parsed := parseHeader_eq_ok .state size
  have all : ∀ byte ∈ lengthBytes size, IsDigit byte := by
    by_contra malformed
    rw [parseHeader_of_malformed .state malformed] at parsed
    cases parsed
  rw [parseHeader_of_digits .state all] at parsed
  exact ⟨all, (Prod.mk.inj (Except.ok.inj parsed)).2⟩

/-- A part of what stands behind a frame's start mark ends before the frame does. -/
theorem continues_of_part {part : List UInt8} (fits : frame.payload.utf8ByteSize ≤ maxPayload)
    (beginning : startMark ++ part <+: frame.wireBytes)
    (proper : startMark ++ part ≠ frame.wireBytes) :
    Continues part (.error .disconnected) [] := by
  have four := length_lengthBytes fits
  obtain ⟨all, stated⟩ := decimal_lengthBytes frame.payload.utf8ByteSize
  have encoded : frame.wireBytes = startMark ++
      ((frame.type.codeBytes ++ lengthBytes frame.payload.utf8ByteSize) ++
        Text.bytes frame.payload) := by
    simp only [wireBytes, lengthBytes, Text.length_bytes, List.append_assoc]
  rw [encoded, List.prefix_append_right_inj] at beginning
  rw [encoded, Ne, List.append_right_inj] at proper
  generalize lengthBytes frame.payload.utf8ByteSize = digits at *
  have eight : (frame.type.codeBytes ++ digits).length = 8 := by
    rw [List.length_append, frame.type.length_codeBytes, four]
  by_cases short : part.length < 8
  · exact .shortHeader short
  · have header : frame.type.codeBytes ++ digits <+: part := by
      refine List.prefix_of_prefix_length_le (List.prefix_append _ _) beginning ?_
      rw [eight]
      exact Nat.not_lt.1 short
    obtain ⟨payload, rfl⟩ := header
    rw [List.prefix_append_right_inj] at beginning
    rw [List.append_right_inj] at proper
    have lacking : payload.length < (Text.bytes frame.payload).length :=
      Nat.lt_of_le_of_ne beginning.length_le fun same => proper (beginning.eq_of_length same)
    rw [Text.length_bytes, ← stated] at lacking
    exact .shortPayload rfl four all lacking

/-- As long as a frame is not there as a whole, the reader waits for more. -/
theorem reads_of_part {part : List UInt8} (within : garbage.length < budget)
    (clean : ¬ startMark <:+: garbage) (fits : frame.payload.utf8ByteSize ≤ maxPayload)
    (beginning : part <+: garbage ++ frame.wireBytes) (proper : part ≠ garbage ++ frame.wireBytes) :
    Reads budget part (.error .disconnected) [] := by
  have size : startMark.length = 4 := rfl
  obtain ⟨later, encoded⟩ : startMark <+: frame.wireBytes := by
    simp only [wireBytes, List.append_assoc]
    exact List.prefix_append _ _
  by_cases reached : garbage ++ startMark <+: part
  · -- The mark is there, and the frame behind it is not.
    obtain ⟨behind, rfl⟩ := reached
    refine .found (markAt_length garbage behind) (fun _ => not_markAt_of_clean clean) within ?_
    rw [← size, ← List.length_append, List.drop_left]
    rw [List.append_assoc, List.prefix_append_right_inj] at beginning
    rw [Ne, List.append_assoc, List.append_right_inj] at proper
    exact continues_of_part fits beginning proper
  · have short : part.length < garbage.length + 4 := by
      by_contra long
      refine reached (List.prefix_of_prefix_length_le ?_ beginning ?_)
      · rw [← encoded, ← List.append_assoc]
        exact List.prefix_append _ _
      · rw [List.length_append, size]
        exact Nat.not_lt.1 long
    refine .ended (fun place _ mark => ?_) (Nat.lt_of_lt_of_le short (by omega))
    -- A mark in the part would stand in the garbage.
    have enough := mark.enough
    have early : place < garbage.length := by omega
    have there : MarkAt place (garbage ++ startMark ++ later) := by
      rw [List.append_assoc, encoded]
      exact mark.trans (beginning.drop place)
    exact not_markAt_of_clean clean early there

end

/-- A reader of a source that ends makes of its bytes exactly what the grammar makes of them, and
takes exactly as many. So a frame that is read was sent, behind garbage in which no start mark lies,
and as long as any of these bytes are missing the reader finds neither a frame nor an error in
them. -/
theorem read_reads {budget : Nat} (positive : 0 < budget) {source : Source}
    (ends : source.fault = none) :
    (∀ outcome left, Reads budget source.bytes outcome left ↔
      (read budget source).1 = outcome ∧ (read budget source).2.bytes = left) ∧
    ∀ frame, (read budget source).1 = .ok frame →
      ∃ garbage encoding, frame.encode = .ok encoding ∧
        source.bytes = garbage ++ encoding ++ (read budget source).2.bytes ∧
        garbage.length < budget ∧ ¬ startMark <:+: garbage ∧
        ∀ other : Source, other.fault = none → other.bytes <+: garbage ++ encoding →
          other.bytes ≠ garbage ++ encoding → (read budget other).1 = .error .disconnected := by
  have same : ∀ outcome left, Reads budget source.bytes outcome left →
      (read budget source).1 = outcome ∧ (read budget source).2.bytes = left := by
    intro outcome left reads
    obtain ⟨rest, result, holds⟩ := read_of_reads positive reads ⟨rfl, ends⟩
    rw [result]
    exact ⟨rfl, holds.bytes_eq⟩
  -- The grammar gives some outcome, and that is the reader's.
  have reads : Reads budget source.bytes (read budget source).1 (read budget source).2.bytes := by
    obtain ⟨outcome, left, reads⟩ := exists_reads budget source.bytes
    obtain ⟨outcomes, lefts⟩ := same outcome left reads
    rw [outcomes, lefts]
    exact reads
  refine ⟨fun outcome left => ⟨same outcome left, ?_⟩, fun frame framed => ?_⟩
  · rintro ⟨rfl, rfl⟩
    exact reads
  · rw [framed] at reads
    obtain ⟨garbage, split, within, clean, fits⟩ := reads.exists_garbage
    refine ⟨garbage, frame.wireBytes, if_pos fits, split, within, clean, ?_⟩
    intro other ends beginning proper
    obtain ⟨rest, result, _⟩ :=
      read_of_reads positive (reads_of_part within clean fits beginning proper) ⟨rfl, ends⟩
    rw [result]

/-- A frame behind a part of a start mark, in three pieces. The mark is the last one that a budget
of three bytes reaches. -/
theorem read_reads_behind_part_of_mark :
    let login : Frame := { type := .login, payload := "ann" }
    let source : Source :=
      { chunks := [Text.bytes "JOJ", [], Text.bytes "OKELOGI0003annJO"], fault := none }
    0 < 3 ∧ source.fault = none ∧ Reads 3 source.bytes (.ok login) (Text.bytes "JO") ∧
      (read 3 source).1 = .ok login ∧ (read 3 source).2.bytes = Text.bytes "JO" := by
  intro login source
  have bytes : source.bytes = Text.bytes "JO" ++ startMark ++ Text.bytes "LOGI0003annJO" := by
    decide
  have clean : ¬ startMark <:+: Text.bytes "JO" := by
    decide
  have mark : MarkAt 2 source.bytes := by
    rw [bytes]
    exact markAt_length (Text.bytes "JO") _
  have first : ∀ earlier < 2, ¬ MarkAt earlier source.bytes := by
    rw [bytes]
    exact fun _ early => not_markAt_of_clean clean early
  have continues : Continues (source.bytes.drop (2 + 4)) (.ok login) (Text.bytes "JO") := by
    obtain ⟨digits, size⟩ := decimal_lengthBytes 3
    rw [bytes]
    exact @Continues.frame _ .login (lengthBytes 3) (Text.bytes "JO") "ann" (by decide)
      (by decide) digits (size ▸ rfl)
  have reads : Reads 3 source.bytes (.ok login) (Text.bytes "JO") :=
    .found mark first (by decide) continues
  have ends : source.fault = none := rfl
  exact ⟨by decide, ends, reads, ((read_reads (by decide) ends).1 _ _).1 reads⟩

end Frame

end Cardroom
