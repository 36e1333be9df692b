/-!
# Cards

Two decks of fifty-two cards and four jokers are in play. A card is a rank and a suit, or a joker,
which stands in for any other card.
-/

namespace Cardroom

inductive Suit where
  | hearts
  | diamonds
  | clubs
  | spades
deriving DecidableEq, Repr

namespace Suit

/-- The suits in the order in which a new deck holds them. -/
def all : List Suit :=
  [.hearts, .diamonds, .clubs, .spades]

/-- The letter that stands for a suit in a card code. -/
def symbol : Suit → Char
  | .hearts => 'H'
  | .diamonds => 'D'
  | .clubs => 'C'
  | .spades => 'S'

def ofSymbol? (letter : Char) : Option Suit :=
  all.find? fun suit => suit.symbol == letter

end Suit

/-- A rank, from the ace, which counts as one, to the king, which counts as thirteen. -/
structure Rank where
  number : Nat
  one_le_number : 1 ≤ number := by omega
  number_le_king : number ≤ 13 := by omega
deriving DecidableEq, Repr

namespace Rank

def ofNat? (number : Nat) : Option Rank :=
  if bounds : 1 ≤ number ∧ number ≤ 13 then
    some { number, one_le_number := bounds.1, number_le_king := bounds.2 }
  else
    none

def all : List Rank :=
  (List.range' 1 13).filterMap ofNat?

theorem mem_all (rank : Rank) : rank ∈ all := by
  have bounds : 1 ≤ rank.number ∧ rank.number < 1 + 13 :=
    ⟨rank.one_le_number, Nat.lt_succ_of_le rank.number_le_king⟩
  have named : ofNat? rank.number = some rank := dif_pos ⟨bounds.1, rank.number_le_king⟩
  exact List.mem_filterMap.2 ⟨rank.number, List.mem_range'_1.2 bounds, named⟩

/-- The ace stands below the two, and in a run also above the king. -/
def isAce (rank : Rank) : Bool :=
  rank.number == 1

end Rank

inductive Card where
  | standard (rank : Rank) (suit : Suit)
  | joker
deriving DecidableEq, Repr

namespace Card

def ofNumber? (number : Nat) (suit : Suit) : Option Card :=
  (Rank.ofNat? number).map fun rank => .standard rank suit

/-- Jokers are wild: they stand in for any card of a combination. -/
def isWild : Card → Bool
  | .standard _ _ => false
  | .joker => true

def rank? : Card → Option Rank
  | .standard rank _ => some rank
  | .joker => none

def suit? : Card → Option Suit
  | .standard _ suit => some suit
  | .joker => none

/-- The points that a joker costs the player who is left with it. -/
def jokerValue : Nat := 50

/-- The points that a card costs the player in whose hand it is left at the end of a match. -/
def value : Card → Nat
  | .standard rank _ => rank.number
  | .joker => jokerValue

end Card

end Cardroom
