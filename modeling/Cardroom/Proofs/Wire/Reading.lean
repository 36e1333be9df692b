import Mathlib.Data.List.Infix
import Cardroom.Wire.Reading

/-!
# Reading one frame

A reader sees the bytes of its source and how they end, and not the pieces in which they arrive.
`read_wireBytes` says that a frame is read from any source that holds its bytes behind some garbage,
and that the bytes after it are left. The garbage may end in a part of the start mark: no beginning
of the mark ends as the mark does, and so the mark is found at its own place and not earlier.
-/

namespace Cardroom

namespace Source

/-- A source that has these bytes left, in whatever pieces, and ends in the given way. -/
structure Holds (bytes : List UInt8) (fault : Option Fault) (source : Source) : Prop where
  bytes_eq : source.bytes = bytes
  fault_eq : source.fault = fault

namespace Holds

variable {source : Source} {bytes : List UInt8} {fault : Option Fault}

theorem next?_eq_none (holds : source.Holds [] fault) : source.next? = none := by
  cases read : source.next? with
  | none =>
      rfl
  | some taken =>
      have bytes := (bytes_eq_of_next? read).symm.trans holds.bytes_eq
      cases bytes

theorem next?_eq_some {byte : UInt8} (holds : source.Holds (byte :: bytes) fault) :
    ∃ rest, source.next? = some (byte, rest) ∧ rest.Holds bytes fault := by
  cases read : source.next? with
  | none =>
      have bytes := (bytes_eq_nil_of_next? read).symm.trans holds.bytes_eq
      cases bytes
  | some taken =>
      obtain ⟨first, rest⟩ := taken
      have bytes := (bytes_eq_of_next? read).symm.trans holds.bytes_eq
      obtain ⟨rfl, later⟩ := List.cons.inj bytes
      exact ⟨rest, rfl, later, (fault_eq_of_next? read).trans holds.fault_eq⟩

theorem take_eq_ok {front back : List UInt8} (holds : source.Holds (front ++ back) fault) :
    ∃ rest, source.take front.length = (.ok front, rest) ∧ rest.Holds back fault := by
  induction front generalizing source with
  | nil =>
      exact ⟨source, rfl, holds⟩
  | cons byte front inductionHypothesis =>
      obtain ⟨next, read, after⟩ := next?_eq_some holds
      obtain ⟨rest, taken, left⟩ := inductionHypothesis after
      refine ⟨rest, ?_, left⟩
      simp only [List.length_cons, take, read, taken]
      rfl

theorem exhausted_eq (holds : source.Holds bytes none) : source.exhausted = .disconnected := by
  rw [exhausted, holds.fault_eq]

end Holds

end Source

namespace Frame

/-- No beginning of the start mark ends as the mark itself does. -/
theorem getLast?_ne_of_prefix_startMark {part : List UInt8} (beginning : part <+: startMark)
    (proper : part ≠ startMark) :
    part.getLast? ≠ startMark.getLast? := by
  have all : ∀ part ∈ startMark.inits, part ≠ startMark → part.getLast? ≠ startMark.getLast? := by
    decide
  exact all part ((List.mem_inits part startMark).2 beginning) proper

/-- A start mark that comes up before the one behind the garbage lies within the garbage. -/
theorem infix_of_append_eq {before behind garbage : List UInt8}
    (split : (before ++ startMark) ++ behind = garbage ++ startMark) (early : behind ≠ []) :
    startMark <:+: garbage := by
  rcases List.append_eq_append_iff.1 split with ⟨part, ends, _⟩ | ⟨part, ends, starts⟩
  · exact ⟨before, part, ends.symm⟩
  · have proper : part ≠ startMark := by
      intro whole
      rw [whole] at starts
      exact early (List.append_right_eq_self.1 starts.symm)
    have none : part = [] := by
      by_contra some
      have last : part.getLast? = startMark.getLast? := by
        have same := congrArg List.getLast? ends
        rw [List.getLast?_append_of_ne_nil before (by decide),
          List.getLast?_append_of_ne_nil garbage some] at same
        exact same.symm
      exact getLast?_ne_of_prefix_startMark ⟨behind, starts.symm⟩ proper last
    rw [none, List.append_nil] at ends
    exact ⟨before, [], by rw [ends, List.append_nil]⟩

/-! ## Finding the start -/

/-- The last bytes that were read, at most as many as the start mark has. -/
def window (seen : List UInt8) : List UInt8 :=
  seen.drop (seen.length - startMark.length)

theorem length_window_eq_iff (seen : List UInt8) :
    (window seen).length = startMark.length ↔ startMark.length ≤ seen.length := by
  rw [window, List.length_drop]
  omega

theorem window_eq_startMark_iff (seen : List UInt8) :
    window seen = startMark ↔ startMark <:+ seen := by
  rw [window, List.suffix_iff_eq_drop, eq_comm]

/-- A byte that is read comes to the end of the window, and pushes out the first one if the window
is full. -/
theorem window_concat (seen : List UInt8) (byte : UInt8) :
    (if (window seen).length = startMark.length then (window seen).drop 1 else window seen) ++
        [byte] =
      window (seen ++ [byte]) := by
  have size : startMark.length = 4 := rfl
  by_cases full : startMark.length ≤ seen.length
  · have next : seen.length + 1 - startMark.length = seen.length - startMark.length + 1 := by
      omega
    rw [if_pos ((length_window_eq_iff seen).2 full), window, window, List.length_append,
      List.length_singleton, List.drop_drop, next, List.drop_append_of_le_length (by omega)]
  · have before : seen.length - startMark.length = 0 := by omega
    have after : seen.length + 1 - startMark.length = 0 := by omega
    rw [if_neg (mt (length_window_eq_iff seen).1 full), window, window, List.length_append,
      List.length_singleton, before, after]
    rfl

theorem discarded_concat (seen : List UInt8) :
    (if (window seen).length = startMark.length then seen.length - startMark.length + 1
      else seen.length - startMark.length) =
      seen.length + 1 - startMark.length := by
  have size : startMark.length = 4 := rfl
  simp only [length_window_eq_iff]
  split <;> omega

/-- One byte is read after those that were seen. -/
theorem findStart_cons (budget : Nat) (seen : List UInt8) {ahead : List UInt8} {byte : UInt8}
    {fault : Option Fault} {source : Source} (holds : source.Holds (byte :: ahead) fault) :
    ∃ rest, rest.Holds ahead fault ∧
      findStart budget (window seen) (seen.length - startMark.length) source =
        if budget ≤ seen.length + 1 - startMark.length then
          (.error (.noStart (seen.length + 1 - startMark.length)), rest)
        else if window (seen ++ [byte]) = startMark then
          (.ok (), rest)
        else
          findStart budget (window (seen ++ [byte])) (seen.length + 1 - startMark.length) rest := by
  obtain ⟨rest, read, left⟩ := Source.Holds.next?_eq_some holds
  refine ⟨rest, left, ?_⟩
  rw [findStart]
  split
  · next none =>
      rw [read] at none
      cases none
  · next other after there =>
      rw [read] at there
      cases there
      simp only [window_concat, discarded_concat]

def MarkAt (place : Nat) (bytes : List UInt8) : Prop :=
  startMark <+: bytes.drop place

theorem MarkAt.enough {place : Nat} {bytes : List UInt8} (mark : MarkAt place bytes) :
    place + startMark.length ≤ bytes.length := by
  have size : startMark.length = 4 := rfl
  have short := mark.length_le
  rw [List.length_drop] at short
  omega

/-- The mark stands at the end of what has been read if it stands so many bytes before. -/
theorem suffix_take_iff {place : Nat} {bytes : List UInt8}
    (enough : place + startMark.length ≤ bytes.length) :
    startMark <:+ bytes.take (place + startMark.length) ↔ MarkAt place bytes := by
  rw [List.suffix_iff_eq_drop, List.length_take_of_le enough, Nat.add_sub_cancel, List.drop_take,
    Nat.add_sub_cancel_left, ← List.prefix_iff_eq_take]
  rfl

/-- No mark has been read if there is none at the places read so far. -/
theorem window_take_ne {bytes : List UInt8} {count : Nat} (enough : count ≤ bytes.length)
    (clean : ∀ place, place + startMark.length ≤ count → ¬ MarkAt place bytes) :
    window (bytes.take count) ≠ startMark := by
  intro found
  have mark := (window_eq_startMark_iff _).1 found
  have short := mark.length_le
  rw [List.length_take_of_le enough] at short
  have back : count - startMark.length + startMark.length = count := Nat.sub_add_cancel short
  rw [← back, suffix_take_iff (by omega)] at mark
  exact clean _ (Nat.le_of_eq back) mark

/-- A mark behind garbage in which none lies is the first one. -/
theorem not_markAt_of_clean {garbage later : List UInt8} (clean : ¬ startMark <:+: garbage)
    {place : Nat} (early : place < garbage.length) :
    ¬ MarkAt place (garbage ++ startMark ++ later) := by
  intro mark
  have size : startMark.length = 4 := rfl
  have near : startMark <+: (garbage ++ startMark).drop place := by
    refine List.prefix_of_prefix_length_le mark ?_ ?_
    · have bound : place ≤ (garbage ++ startMark).length := by
        rw [List.length_append]
        omega
      rw [List.drop_append_of_le_length bound]
      exact List.prefix_append _ _
    · rw [List.length_drop, List.length_append]
      omega
  obtain ⟨behind, rest⟩ := near
  have split : ((garbage ++ startMark).take place ++ startMark) ++ behind =
      garbage ++ startMark := by
    rw [List.append_assoc, rest, List.take_append_drop]
  refine clean (infix_of_append_eq split ?_)
  rintro rfl
  have lengths := congrArg List.length rest
  rw [List.append_nil, List.length_drop, List.length_append] at lengths
  omega

theorem markAt_length (garbage later : List UInt8) :
    MarkAt garbage.length (garbage ++ startMark ++ later) := by
  rw [MarkAt, List.append_assoc, List.drop_left]
  exact List.prefix_append _ _

section

variable {budget : Nat} {bytes : List UInt8} {fault : Option Fault} {source : Source}

/-- As long as no mark has been read and the budget is not used up, the reader goes on. -/
theorem findStart_skips (holds : source.Holds bytes fault) (count : Nat)
    (enough : count ≤ bytes.length) (within : count - startMark.length < budget)
    (clean : ∀ place, place + startMark.length ≤ count → ¬ MarkAt place bytes) :
    ∃ rest, rest.Holds (bytes.drop count) fault ∧
      findStart budget [] 0 source =
        findStart budget (window (bytes.take count)) (count - startMark.length) rest := by
  -- The induction is on the bytes that are read.
  induction count with
  | zero =>
      exact ⟨source, holds, rfl⟩
  | succ count inductionHypothesis =>
      obtain ⟨before, left, same⟩ := inductionHypothesis (by omega) (by omega)
        fun place within => clean place (by omega)
      rw [List.drop_eq_getElem_cons (by omega)] at left
      obtain ⟨rest, left, step⟩ := findStart_cons budget (bytes.take count) left
      rw [List.length_take_of_le (by omega), List.take_append_getElem] at step
      refine ⟨rest, left, ?_⟩
      rw [same, step, if_neg (Nat.not_le.2 within), if_neg (window_take_ne enough clean)]

/-- The first mark is found if the budget lasts so far, and what is behind it is left. -/
theorem findStart_of_markAt (holds : source.Holds bytes fault) {place : Nat}
    (mark : MarkAt place bytes) (first : ∀ earlier < place, ¬ MarkAt earlier bytes)
    (within : place < budget) :
    ∃ rest, findStart budget [] 0 source = (.ok (), rest) ∧
      rest.Holds (bytes.drop (place + startMark.length)) fault := by
  have size : startMark.length = 4 := rfl
  have enough := mark.enough
  have skipped : place + 3 - startMark.length < budget := by omega
  obtain ⟨before, left, same⟩ := findStart_skips holds (place + 3) (by omega) skipped
    fun earlier bound => first earlier (by omega)
  rw [List.drop_eq_getElem_cons (by omega)] at left
  obtain ⟨rest, left, step⟩ := findStart_cons budget (bytes.take (place + 3)) left
  rw [List.length_take_of_le (by omega), List.take_append_getElem] at step
  have found : window (bytes.take (place + 3 + 1)) = startMark :=
    (window_eq_startMark_iff _).2 ((suffix_take_iff enough).2 mark)
  refine ⟨rest, ?_, left⟩
  rw [same, step, if_neg (by omega), if_pos found]

/-- Without a mark that the budget reaches, the reader gives up when it is used up. -/
theorem findStart_of_exceeded (holds : source.Holds bytes fault) (positive : 0 < budget)
    (clean : ∀ place < budget, ¬ MarkAt place bytes)
    (enough : budget + startMark.length ≤ bytes.length) :
    ∃ rest, findStart budget [] 0 source = (.error (.noStart budget), rest) ∧
      rest.Holds (bytes.drop (budget + startMark.length)) fault := by
  have size : startMark.length = 4 := rfl
  have skipped : budget + 3 - startMark.length < budget := by omega
  obtain ⟨before, left, same⟩ := findStart_skips holds (budget + 3) (by omega) skipped
    fun place bound => clean place (by omega)
  rw [List.drop_eq_getElem_cons (by omega)] at left
  obtain ⟨rest, left, step⟩ := findStart_cons budget (bytes.take (budget + 3)) left
  rw [List.length_take_of_le (by omega)] at step
  have used : budget + 3 + 1 - startMark.length = budget := Nat.add_sub_cancel budget 4
  refine ⟨rest, ?_, left⟩
  rw [same, step, used, if_pos (Nat.le_refl budget)]

/-- A source that ends before the budget is used up, and has no mark, is read to its end. -/
theorem findStart_of_ended (holds : source.Holds bytes fault) (positive : 0 < budget)
    (clean : ∀ place < budget, ¬ MarkAt place bytes)
    (short : bytes.length < budget + startMark.length) :
    ∃ rest, findStart budget [] 0 source = (.error rest.exhausted, rest) ∧
      rest.Holds [] fault := by
  have size : startMark.length = 4 := rfl
  have skipped : bytes.length - startMark.length < budget := by omega
  obtain ⟨rest, left, same⟩ := findStart_skips holds bytes.length (Nat.le_refl _) skipped
    fun place bound => clean place (by omega)
  rw [List.drop_length] at left
  refine ⟨rest, ?_, left⟩
  rw [same, findStart]
  split
  · rfl
  · next there =>
      rw [left.next?_eq_none] at there
      cases there

end

def lengthBytes (size : Nat) : List UInt8 :=
  Text.bytes (String.ofList (Text.padded 4 size))

theorem lengthBytes_eq_map (size : Nat) :
    lengthBytes size = (Text.padded 4 size).map fun letter => UInt8.ofNat letter.toNat := by
  apply Text.bytes_ofList_of_ascii
  intro letter member
  have bounds := Char.isDigit_iff_toNat.1 (Text.isDigit_of_mem_padded member)
  exact Nat.lt_of_le_of_lt bounds.2 (by decide)

theorem length_lengthBytes {size : Nat} (fits : size ≤ maxPayload) :
    (lengthBytes size).length = 4 := by
  have short : (Nat.toDigits 10 size).length ≤ 4 :=
    (Nat.length_toDigits_le_iff (by decide) (by decide)).2 (Nat.lt_succ_of_le fits)
  rw [lengthBytes_eq_map, List.length_map]
  exact Text.length_padded short

/-- A digit is the byte of its number, and that byte stands for the digit. -/
theorem toNat_digit {letter : Char} (digit : letter.isDigit) :
    (UInt8.ofNat letter.toNat).toNat = letter.toNat := by
  have bounds := Char.isDigit_iff_toNat.1 digit
  have small : letter.toNat < 256 := Nat.lt_of_le_of_lt bounds.2 (by decide)
  exact UInt8.toNat_ofNat_of_lt' small

theorem parseHeader_eq_ok (type : MessageType) (size : Nat) :
    parseHeader (type.codeBytes ++ lengthBytes size) = .ok (type, size) := by
  have code : (type.codeBytes ++ lengthBytes size).splitAt 4 =
      (type.codeBytes, lengthBytes size) := by
    rw [List.splitAt_eq, ← type.length_codeBytes, List.take_left, List.drop_left]
  have digits : (lengthBytes size).all (fun byte => 0x30 ≤ byte ∧ byte ≤ 0x39) = true := by
    rw [lengthBytes_eq_map, List.all_map, List.all_eq_true]
    intro letter member
    have digit := Text.isDigit_of_mem_padded member
    have bounds := Char.isDigit_iff_toNat.1 digit
    simp only [Function.comp_apply, decide_eq_true_eq, UInt8.le_iff_toNat_le, toNat_digit digit]
    exact bounds
  have value : (lengthBytes size).map (fun byte => Char.ofNat byte.toNat) =
      Text.padded 4 size := by
    rw [lengthBytes_eq_map, List.map_map]
    conv => rhs; rw [← List.map_id (Text.padded 4 size)]
    apply List.map_congr_left
    intro letter member
    rw [Function.comp_apply, toNat_digit (Text.isDigit_of_mem_padded member), Char.ofNat_toNat, id]
  simp only [parseHeader, code, MessageType.ofCodeBytes?_codeBytes, digits, if_true, value,
    Text.ofDigits_padded]

/-- A frame is read from behind the start mark, and what follows it is left. -/
theorem readBody_eq_ok {frame : Frame} (fits : frame.payload.utf8ByteSize ≤ maxPayload)
    {later : List UInt8} {fault : Option Fault} {source : Source}
    (holds : source.Holds
      ((frame.type.codeBytes ++ lengthBytes frame.payload.utf8ByteSize) ++
        (Text.bytes frame.payload ++ later)) fault) :
    ∃ rest, readBody source = (.ok frame, rest) ∧ rest.Holds later fault := by
  obtain ⟨behind, header, payload⟩ := holds.take_eq_ok
  obtain ⟨rest, text, left⟩ := payload.take_eq_ok
  have size : (frame.type.codeBytes ++ lengthBytes frame.payload.utf8ByteSize).length =
      headerSize := by
    rw [List.length_append, frame.type.length_codeBytes, length_lengthBytes fits]
    rfl
  rw [size] at header
  rw [Text.length_bytes] at text
  refine ⟨rest, ?_, left⟩
  simp only [readBody, header, parseHeader_eq_ok, text, Text.ofBytes?_bytes]

/-- A frame is read from behind garbage in which no start mark lies and that does not use up the
budget, and what follows the frame is left. -/
theorem read_wireBytes {budget : Nat} {garbage later : List UInt8} {frame : Frame}
    {fault : Option Fault} {source : Source} (within : garbage.length < budget)
    (clean : ¬ startMark <:+: garbage) (fits : frame.payload.utf8ByteSize ≤ maxPayload)
    (holds : source.Holds (garbage ++ frame.wireBytes ++ later) fault) :
    ∃ rest, read budget source = (.ok frame, rest) ∧ rest.Holds later fault := by
  have parts : garbage ++ frame.wireBytes ++ later =
      (garbage ++ startMark) ++
        ((frame.type.codeBytes ++ lengthBytes frame.payload.utf8ByteSize) ++
          (Text.bytes frame.payload ++ later)) := by
    simp only [wireBytes, lengthBytes, Text.length_bytes, List.append_assoc]
  rw [parts] at holds
  have mark := markAt_length garbage
    ((frame.type.codeBytes ++ lengthBytes frame.payload.utf8ByteSize) ++
      (Text.bytes frame.payload ++ later))
  obtain ⟨behind, found, after⟩ :=
    findStart_of_markAt holds mark (fun _ early => not_markAt_of_clean clean early) within
  rw [← List.length_append, List.drop_left] at after
  obtain ⟨rest, body, left⟩ := readBody_eq_ok fits after
  refine ⟨rest, ?_, left⟩
  simp only [read, found, body]

theorem read_nil (budget : Nat) {source : Source} (holds : source.Holds [] none) :
    (read budget source).1 = .error .disconnected := by
  have ended : findStart budget [] 0 source = (.error .disconnected, source) := by
    rw [findStart]
    split
    · rw [holds.exhausted_eq]
    · next byte rest there =>
        rw [holds.next?_eq_none] at there
        cases there
  simp only [read, ended]

end Frame

end Cardroom
