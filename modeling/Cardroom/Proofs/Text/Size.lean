import Mathlib.Algebra.GroupWithZero.Nat
import Cardroom.Text.Fields
import Cardroom.Text.Quoted
import Cardroom.Text.Utf8

/-!
# How long texts are

A frame holds so many bytes and no more. The texts that the server sends are put together from
digits, codes, names and quotations; the lemmas here bound the bytes of each of these.
-/

namespace Cardroom.Text

def size (letters : List Char) : Nat :=
  (letters.map Char.utf8Size).sum

@[simp]
theorem size_nil : size [] = 0 :=
  rfl

@[simp]
theorem size_cons (letter : Char) (letters : List Char) :
    size (letter :: letters) = letter.utf8Size + size letters := by
  simp [size]

@[simp]
theorem size_append (left right : List Char) : size (left ++ right) = size left + size right := by
  simp [size]

theorem utf8ByteSize_eq (text : String) : text.utf8ByteSize = size text.toList := by
  rw [← length_bytes, bytes]
  induction text.toList with
  | nil =>
      rfl
  | cons letter letters inductionHypothesis =>
      rw [List.flatMap_cons, List.length_append, String.length_utf8EncodeChar,
        inductionHypothesis, size_cons]

theorem utf8ByteSize_ofList (letters : List Char) :
    (String.ofList letters).utf8ByteSize = size letters := by
  rw [utf8ByteSize_eq, String.toList_ofList]

/-- Characters that are each replaced by few bytes. -/
theorem size_flatMap_le {most : Nat} {replace : Char → List Char}
    (each : ∀ letter, size (replace letter) ≤ most * letter.utf8Size) (letters : List Char) :
    size (letters.flatMap replace) ≤ most * size letters := by
  induction letters with
  | nil =>
      simp
  | cons letter letters inductionHypothesis =>
      rw [List.flatMap_cons, size_append, size_cons, Nat.mul_add]
      exact Nat.add_le_add (each letter) inductionHypothesis

theorem size_eq_length {letters : List Char} (narrow : ∀ letter ∈ letters, letter.utf8Size = 1) :
    size letters = letters.length := by
  induction letters with
  | nil =>
      rfl
  | cons letter letters inductionHypothesis =>
      rw [size_cons, List.length_cons, narrow letter List.mem_cons_self,
        inductionHypothesis fun other member => narrow other (List.mem_cons_of_mem letter member),
        Nat.add_comm]

theorem utf8Size_digitChar : ∀ digit < 16, (Nat.digitChar digit).utf8Size = 1 := by
  decide

/-- Digits are one byte each. -/
theorem utf8Size_of_mem_toDigits {base number : Nat} (two : 2 ≤ base) (sixteen : base ≤ 16)
    {letter : Char} (member : letter ∈ Nat.toDigits base number) :
    letter.utf8Size = 1 := by
  induction number using Nat.strongRecOn with
  | ind number inductionHypothesis =>
      by_cases last : number < base
      · rw [Nat.toDigits_of_lt_base last] at member
        rw [List.mem_singleton.1 member]
        exact utf8Size_digitChar number (by omega)
      · have reached : base ≤ number := Nat.le_of_not_lt last
        rw [Nat.toDigits_of_base_le two reached] at member
        rcases List.mem_append.1 member with higher | lowest
        · exact inductionHypothesis _ (Nat.div_lt_self (by omega) two) higher
        · rw [List.mem_singleton.1 lowest]
          have below := Nat.mod_lt number (show base > 0 by omega)
          exact utf8Size_digitChar _ (by omega)

theorem size_toDigits_le {base number most : Nat} (two : 2 ≤ base) (sixteen : base ≤ 16)
    (positive : 0 < most) (small : number < base ^ most) :
    size (Nat.toDigits base number) ≤ most := by
  rw [size_eq_length fun letter => utf8Size_of_mem_toDigits two sixteen]
  exact (Nat.length_toDigits_le_iff two positive).2 small

/-- A number takes no more bytes than the number of its digits. -/
theorem utf8ByteSize_toString_le {number most : Nat} (positive : 0 < most)
    (small : number < 10 ^ most) :
    (toString number).utf8ByteSize ≤ most := by
  show (String.ofList (Nat.toDigits 10 number)).utf8ByteSize ≤ most
  rw [utf8ByteSize_ofList]
  exact size_toDigits_le (by decide) (by decide) positive small

theorem utf8ByteSize_join_le {most : Nat} {texts : List String}
    (each : ∀ text ∈ texts, text.utf8ByteSize ≤ most) :
    (String.join texts).utf8ByteSize ≤ texts.length * most := by
  induction texts with
  | nil =>
      rw [String.join_nil]
      exact Nat.zero_le _
  | cons text texts inductionHypothesis =>
      have first := each text List.mem_cons_self
      have others := inductionHypothesis fun other member =>
        each other (List.mem_cons_of_mem text member)
      rw [String.join_cons, String.utf8ByteSize_append, List.length_cons, Nat.succ_mul]
      omega

theorem utf8ByteSize_joined_le (between : String) (texts : List String) :
    (joined between texts).utf8ByteSize ≤
      (texts.map String.utf8ByteSize).sum + texts.length * between.utf8ByteSize := by
  fun_induction joined between texts with
  | case1 =>
      exact Nat.zero_le _
  | case2 text =>
      simp
  | case3 text rest _ inductionHypothesis =>
      simp only [String.utf8ByteSize_append, List.map_cons, List.sum_cons, List.length_cons,
        Nat.succ_mul] at inductionHypothesis ⊢
      omega

/-- The most bytes that one byte of a text can become in a quotation. -/
def mostPerByte : Nat := 6

/-- A character of one byte has two digits at most, and any other has eight at most. -/
theorem toNat_lt (letter : Char) : letter.toNat < 16 ^ (mostPerByte * letter.utf8Size - 4) := by
  by_cases single : letter.utf8Size = 1
  · have small : letter.val ≤ 127 := Char.utf8Size_eq_one_iff.1 single
    rw [single]
    exact Nat.lt_of_le_of_lt (UInt32.le_iff_toNat_le.1 small) (by decide)
  · have positive := letter.utf8Size_pos
    have wide : 8 ≤ mostPerByte * letter.utf8Size - 4 := by
      simp only [mostPerByte]
      omega
    exact Nat.lt_of_lt_of_le letter.val.toNat_lt (Nat.pow_le_pow_right (Nat.succ_pos 15) wide)

theorem size_codePoint_le (letter : Char) :
    size (codePoint letter) ≤ mostPerByte * letter.utf8Size := by
  have positive := letter.utf8Size_pos
  have digits : size (Nat.toDigits 16 letter.toNat) ≤ mostPerByte * letter.utf8Size - 4 := by
    refine size_toDigits_le (by decide) (by decide) ?_ (toNat_lt letter)
    simp only [mostPerByte]
    omega
  have around : size (codePoint letter) = size (Nat.toDigits 16 letter.toNat) + 4 := by
    simp only [codePoint, size_append, size_cons, size_nil]
    rw [show Char.utf8Size '\x5c' = 1 from rfl, show Char.utf8Size 'u' = 1 from rfl,
      show Char.utf8Size '\x7b' = 1 from rfl, show Char.utf8Size '\x7d' = 1 from rfl]
    omega
  simp only [mostPerByte] at digits ⊢
  omega

theorem size_quotedChar_le (letter : Char) :
    size (quotedChar letter) ≤ mostPerByte * letter.utf8Size := by
  have positive := letter.utf8Size_pos
  have pair (second : Char) (single : second.utf8Size = 1) :
      size ['\x5c', second] ≤ mostPerByte * letter.utf8Size := by
    have both : size ['\x5c', second] = 2 := by
      rw [size_cons, size_cons, size_nil, single]
      rfl
    simp only [mostPerByte]
    omega
  unfold quotedChar
  split
  · exact pair _ rfl
  · split
    · exact pair _ rfl
    · split
      · exact pair _ rfl
      · split
        · exact pair _ rfl
        · split
          · next marked =>
              refine pair _ ?_
              rcases marked with rfl | rfl <;> rfl
          · split
            · exact size_codePoint_le letter
            · simp only [size_cons, size_nil, mostPerByte]
              omega

/-- A quotation shows at most six bytes for each byte of the text, and two quotation marks. -/
theorem utf8ByteSize_quoted_le (text : String) :
    (quoted text).utf8ByteSize ≤ mostPerByte * text.utf8ByteSize + 2 := by
  have inside := size_flatMap_le size_quotedChar_le text.toList
  rw [quoted, utf8ByteSize_ofList, utf8ByteSize_eq text]
  simp only [size_append, size_cons, size_nil]
  rw [show Char.utf8Size '\x22' = 1 from rfl]
  omega

/-- Letters that are shown as they are take no more bytes in a quotation. -/
theorem utf8ByteSize_quoted_of_plain {text : String}
    (plain : ∀ letter ∈ text.toList, quotedChar letter = [letter]) :
    (quoted text).utf8ByteSize = text.utf8ByteSize + 2 := by
  have inside : text.toList.flatMap quotedChar = text.toList := by
    generalize text.toList = letters at plain
    induction letters with
    | nil =>
        rfl
    | cons letter letters inductionHypothesis =>
        rw [List.flatMap_cons, plain letter List.mem_cons_self,
          inductionHypothesis fun other member => plain other (List.mem_cons_of_mem letter member),
          List.singleton_append]
  rw [quoted, inside, utf8ByteSize_ofList, utf8ByteSize_eq text]
  simp only [size_append, size_cons, size_nil]
  rw [show Char.utf8Size '\x22' = 1 from rfl]
  omega

end Cardroom.Text
