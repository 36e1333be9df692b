/-!
# Tokens

A player who logs in is handed a token of ten letters and digits, with which the session can be
taken up again after a lost connection.
-/

namespace Cardroom

def Token.size : Nat := 10

structure Token where
  letters : List Char
  length_letters : letters.length = Token.size
  alphanumeric : ∀ letter ∈ letters, letter.isAlphanum
deriving DecidableEq, Repr

namespace Token

def text (token : Token) : String :=
  String.ofList token.letters

def isWellFormed (text : String) : Bool :=
  text.utf8ByteSize == size && text.toList.all Char.isAlphanum

/-- The sixty-two digits, capital letters and small letters. -/
def symbol (digit : Fin 62) : Char :=
  if digit < 10 then Char.ofNat (0x30 + digit)
  else if digit < 36 then Char.ofNat (0x41 + (digit - 10))
  else Char.ofNat (0x61 + (digit - 36))

theorem isAlphanum_symbol : ∀ digit, (symbol digit).isAlphanum := by
  decide

def count : Nat :=
  Nat.pow 62 size

/-- The token with the given number, whose letters are the digits in base sixty-two, the last digit
first. Different numbers below `count` have different tokens. -/
def nth (number : Nat) : Token where
  letters := (List.range size).map fun place => symbol (Fin.ofNat 62 (number / Nat.pow 62 place))
  length_letters := by simp
  alphanumeric letter member := by
    obtain ⟨place, _, rfl⟩ := List.mem_map.1 member
    exact isAlphanum_symbol _

end Token

end Cardroom
