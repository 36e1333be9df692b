import Cardroom.Card.Code

/-!
# Combinations

Cards are laid on the table in combinations. A set holds three or four cards of one rank, no suit
twice. A run holds at least three cards of one suit whose ranks follow one another; the places of a
run are numbered from one, the ace below the two, to fourteen, the ace above the king. Jokers stand
in for missing cards, but a set needs a real card that names its rank.
-/

namespace Cardroom

/-- What a combination is, with the number of a set's rank or of a run's lowest place. -/
inductive Combination.Kind where
  | set (rank : Nat)
  | run (low : Nat)
deriving DecidableEq, Repr

/-- Cards that a player has laid on the table. The cards of a run are in the order of its places. -/
structure Combination where
  kind : Combination.Kind
  cards : List Card
  /-- The player who laid the first cards, named by the slot of the session. -/
  owner : Nat
deriving DecidableEq, Repr

namespace Combination

def fewestCards : Nat := 3

/-- The most cards of a set: one of each suit. -/
def mostSetCards : Nat := 4

def mostCards : Nat := 15

def lowAce : Nat := 1

def highAce : Nat := 14

/-- The codes of the cards, by which players name a combination. -/
def codes (combination : Combination) : String :=
  Card.listCode combination.cards

def setRank? (cards : List Card) : Option Nat :=
  if fewestCards ≤ cards.length ∧ cards.length ≤ mostSetCards ∧
      (cards.filterMap Card.suit?).Nodup then
    match cards.filterMap Card.rank? with
    | [] => none
    | rank :: others => if others.all (· = rank) then some rank.number else none
  else
    none

/-- The place at which a rank stands in a run, where aces are high or else low. -/
def place (acesHigh : Bool) (rank : Rank) : Nat :=
  if rank.isAce && acesHigh then highAce else rank.number

/-- The real cards of a list with the places at which they stand. -/
def placed (acesHigh : Bool) (cards : List Card) : List (Nat × Card) :=
  cards.filterMap fun card => card.rank?.map fun rank => (place acesHigh rank, card)

def inOrder (acesHigh : Bool) (cards : List Card) : List (Nat × Card) :=
  (placed acesHigh cards).mergeSort fun left right => decide (left.1 ≤ right.1)

/-- So many cards from the given place on: the real ones, which are in the order of their places,
where they belong, and jokers between them. -/
def fillPlaces : List (Nat × Card) → (place count : Nat) → List Card
  | _, _, 0 => []
  | [], place, count + 1 => .joker :: fillPlaces [] (place + 1) count
  | real :: reals, place, count + 1 =>
      if real.1 = place then real.2 :: fillPlaces reals (place + 1) count
      else .joker :: fillPlaces (real :: reals) (place + 1) count

/-- Lays out the cards as a run, with all aces high or all aces low, and gives its lowest place and
its cards in order. Jokers fill the gaps; those that are left extend the run at its top as far as
they can, and then at its bottom. -/
def layRun? (acesHigh : Bool) (cards : List Card) : Option (Nat × List Card) :=
  let reals := inOrder acesHigh cards
  let places := reals.map Prod.fst
  match places.head?, places.getLast? with
  | some lowest, some highest =>
      let span := highest - lowest + 1
      if places.Nodup ∧ span ≤ cards.length then
        let spare := cards.length - span
        let above := min spare (highAce - highest)
        let below := spare - above
        if below ≤ lowest - lowAce then
          some (lowest - below, fillPlaces reals (lowest - below) cards.length)
        else
          none
      else
        none
  | _, _ => none

def sameSuit (cards : List Card) : Bool :=
  match cards.filterMap Card.suit? with
  | [] => true
  | suit :: others => others.all (· = suit)

/-- The lowest place and the ordered cards of the run that the cards form, if they form one. Aces
are low if that gives a run. Jokers alone form the run that starts at the ace. -/
def run? (cards : List Card) : Option (Nat × List Card) :=
  if fewestCards ≤ cards.length ∧ cards.length ≤ highAce then
    if cards.all Card.isWild then
      some (lowAce, cards)
    else if sameSuit cards then
      layRun? false cards <|>
        if (cards.filterMap Card.rank?).any Rank.isAce then layRun? true cards else none
    else
      none
  else
    none

/-- The combination that the cards form, if they form one. Cards that form both a set and a run are
a set. -/
def ofCards? (owner : Nat) (cards : List Card) : Option Combination :=
  match setRank? cards with
  | some rank => some { kind := .set rank, cards, owner }
  | none =>
      (run? cards).map fun laid => { kind := .run laid.1, cards := laid.2, owner }

end Combination

end Cardroom
