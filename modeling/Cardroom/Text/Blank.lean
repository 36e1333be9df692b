/-!
# Blanks

Room names, room numbers and answers to yes-or-no questions are read without the blanks around them.
-/

namespace Cardroom.Text

/-- The characters that count as blanks: those with the property `White_Space`. -/
def isBlank (letter : Char) : Bool :=
  let number := letter.toNat
  (0x9 ≤ number && number ≤ 0xd) || number == 0x20 || number == 0x85 || number == 0xa0 ||
    number == 0x1680 || (0x2000 ≤ number && number ≤ 0x200a) || number == 0x2028 ||
    number == 0x2029 || number == 0x202f || number == 0x205f || number == 0x3000

def trim (text : String) : String :=
  String.ofList ((text.toList.dropWhile isBlank).reverse.dropWhile isBlank).reverse

end Cardroom.Text
