/-!
# Decimal numbers

A length on the wire has exactly four digits. A number that a player types may have a plus sign and
any number of leading zeros, and has to be one that a machine word holds.
-/

namespace Cardroom.Text

/-- The digits of a number, with zeros in front up to the given width. -/
def padded (width number : Nat) : List Char :=
  let digits := Nat.toDigits 10 number
  List.replicate (width - digits.length) '0' ++ digits

def ofDigits (digits : List Char) : Nat :=
  Nat.ofDigitChars 10 digits 0

theorem length_padded {width number : Nat} (short : (Nat.toDigits 10 number).length ≤ width) :
    (padded width number).length = width := by
  simp only [padded, List.length_append, List.length_replicate]
  omega

theorem isDigit_of_mem_padded {width number : Nat} {letter : Char}
    (member : letter ∈ padded width number) :
    letter.isDigit := by
  rcases List.mem_append.1 member with zero | digit
  · rw [List.eq_of_mem_replicate zero]
    rfl
  · exact Nat.isDigit_of_mem_toDigits (by decide) (by decide) digit

theorem ofDigits_padded (width number : Nat) : ofDigits (padded width number) = number := by
  rw [ofDigits, padded, Nat.ofDigitChars_append, Nat.ofDigitChars_replicate_zero, Nat.mul_zero]
  exact Nat.ofDigitChars_toDigits (by decide) (by decide)

/-- One more than the largest number of a slot or a room. -/
def wordLimit : Nat := UInt64.size

/-- The number that a typed text stands for: one or more digits, with or without a plus sign in
front, and a value below the limit of a machine word. -/
def number? (text : String) : Option Nat :=
  let digits :=
    match text.toList with
    | '+' :: rest => rest
    | letters => letters
  if digits ≠ [] ∧ digits.all Char.isDigit ∧ ofDigits digits < wordLimit then
    some (ofDigits digits)
  else
    none

end Cardroom.Text
