import Cardroom.Card
import Cardroom.Text.Quoted

/-!
# Card codes

A card is written as two characters: the rank and then the suit. The ace, the ten, the jack, the
queen and the king have letters, the other ranks their digit, and a joker is written with the same
letter twice. A list of cards is written code after code, with nothing between them.
-/

namespace Cardroom

namespace Rank

def symbol (rank : Rank) : Char :=
  match rank.number with
  | 1 => 'A'
  | 10 => 'X'
  | 11 => 'J'
  | 12 => 'Q'
  | 13 => 'K'
  | number => Nat.digitChar number

def ofSymbol? (letter : Char) : Option Rank :=
  all.find? fun rank => rank.symbol == letter

/-- No two ranks share a character. -/
theorem ofSymbol?_symbol (rank : Rank) : ofSymbol? rank.symbol = some rank := by
  have all : ∀ rank ∈ Rank.all, ofSymbol? rank.symbol = some rank := by decide
  exact all rank rank.mem_all

end Rank

/-- No two suits share a letter. -/
theorem Suit.ofSymbol?_symbol (suit : Suit) : ofSymbol? suit.symbol = some suit := by
  cases suit <;> rfl

/-- Why a text is not the code of a card, or not a list of such codes. -/
inductive CodeError where
  /-- A code that is not two characters long. -/
  | badLength (code : String)
  /-- A code whose first character stands for no rank. -/
  | unknownRank (code : String)
  /-- A code with a rank, whose second character stands for no suit. -/
  | unknownSuit (code : String)
  /-- A list that does not fall into pairs of characters, or that holds a character that no code
  can hold. -/
  | oddLength (codes : String)
deriving DecidableEq, Repr

namespace CodeError

def message : CodeError → String
  | badLength code => "card code " ++ Text.quoted code ++ " is not two characters"
  | unknownRank code => "unknown rank in card code " ++ Text.quoted code
  | unknownSuit code => "unknown suit in card code " ++ Text.quoted code
  | oddLength codes => "card list " ++ Text.quoted codes ++ " has an odd length"

end CodeError

namespace Card

/-- The letter that stands, written twice, for a joker. -/
def jokerLetter : Char := 'Y'

def codeChars : Card → List Char
  | standard rank suit => [rank.symbol, suit.symbol]
  | joker => [jokerLetter, jokerLetter]

def code (card : Card) : String :=
  String.ofList card.codeChars

/-- The card that two characters stand for. The rank is looked at first. -/
def ofPair (first second : Char) : Except CodeError Card :=
  if first = jokerLetter ∧ second = jokerLetter then
    .ok .joker
  else
    match Rank.ofSymbol? first with
    | none => .error (.unknownRank (String.ofList [first, second]))
    | some rank =>
        match Suit.ofSymbol? second with
        | none => .error (.unknownSuit (String.ofList [first, second]))
        | some suit => .ok (.standard rank suit)

def ofCode (code : String) : Except CodeError Card :=
  match code.toList with
  | [first, second] => ofPair first second
  | _ => .error (.badLength code)

/-- The letter of the joker is not that of a rank. -/
theorem symbol_ne_jokerLetter (rank : Rank) : rank.symbol ≠ jokerLetter := by
  have all : ∀ rank ∈ Rank.all, rank.symbol ≠ jokerLetter := by decide
  exact all rank rank.mem_all

/-- A card is read from its own code. -/
theorem ofCode_code (card : Card) : ofCode card.code = .ok card := by
  rw [ofCode, code, String.toList_ofList]
  cases card with
  | joker =>
      rfl
  | standard rank suit =>
      simp only [codeChars, ofPair, symbol_ne_jokerLetter rank, false_and, if_false,
        rank.ofSymbol?_symbol, suit.ofSymbol?_symbol]

def listCode (cards : List Card) : String :=
  String.ofList (cards.flatMap codeChars)

/-- The cards that the characters, taken two by two, stand for. The first pair that stands for no
card decides the error. -/
def ofPairs : List Char → Except CodeError (List Card)
  | first :: second :: rest =>
      match ofPair first second with
      | .error error => .error error
      | .ok card => (ofPairs rest).map (card :: ·)
  | _ => .ok []

/-- The cards of a list of codes. Codes are ASCII, so that a list with any other character, or with
an odd number of bytes, is refused before its pairs are looked at. -/
def ofListCode (codes : String) : Except CodeError (List Card) :=
  if codes.utf8ByteSize % 2 = 0 ∧ codes.toList.all fun letter => letter.toNat < 128 then
    ofPairs codes.toList
  else
    .error (.oddLength codes)

end Card

end Cardroom
