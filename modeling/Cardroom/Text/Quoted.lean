import Cardroom.Text.Escaped

/-!
# Quoted text

An error that shows a piece of a player's input shows it in quotation marks, so that its ends and
its invisible characters can be seen. Quotation marks and backslashes get a backslash in front, the
line feed, the carriage return, the tab and the null character have letters of their own, and any
other character that cannot be shown is written as its number.
-/

namespace Cardroom.Text

def codePoint (letter : Char) : List Char :=
  ['\x5c', 'u', '\x7b'] ++ Nat.toDigits 16 letter.toNat ++ ['\x7d']

def quotedChar (letter : Char) : List Char :=
  if letter = '\x00' then ['\x5c', '0']
  else if letter = '\t' then ['\x5c', 't']
  else if letter = '\n' then ['\x5c', 'n']
  else if letter = '\r' then ['\x5c', 'r']
  else if letter = '\x22' ∨ letter = '\x5c' then ['\x5c', letter]
  else if isEscaped letter then codePoint letter
  else [letter]

def quoted (text : String) : String :=
  String.ofList (['\x22'] ++ text.toList.flatMap quotedChar ++ ['\x22'])

end Cardroom.Text
