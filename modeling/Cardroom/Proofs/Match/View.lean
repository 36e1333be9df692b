import Cardroom.Match.View
import Cardroom.Proofs.Card.Code

/-!
# Reading the table

A player sees the table as one text. What it tells is a `View`, and a text is that of one view only,
as long as no combination on the table is empty.
-/

namespace Cardroom

namespace Match

/-- What a player is shown of the table. -/
@[ext]
structure View where
  hand : List Card
  /-- The top card of the discard pile. -/
  top : Option Card
  /-- The cards of each combination. -/
  table : List (List Card)
  /-- Whether the player is to act. -/
  acts : Bool
  /-- How many cards the others hold. -/
  others : Nat
deriving DecidableEq, Repr

def look? (session : Nat) (game : Match) : Option View :=
  (game.seatOf? session).bind fun place =>
    game.seats[place]?.map fun seat =>
      { hand := seat.hand
        top := game.discardPile.head?
        table := game.combinations.map Combination.cards
        acts := place = game.current && game.status = .playing
        others := game.othersCardCount place }

namespace View

variable {view view' : View}

def marker (view : View) : String :=
  if view.acts then "TURN" else "WAIT"

def parts (view : View) : List String :=
  [Card.listCode view.hand, (view.top.map Card.code).getD "",
    Text.joined "," (view.table.map Card.listCode), view.marker, toString view.others]

/-- The top card is shown like a list of no more cards, and without one nothing is shown. -/
theorem code_eq_listCode (top : Option Card) :
    (top.map Card.code).getD "" = Card.listCode top.toList := by
  cases top with
  | none =>
      rfl
  | some card =>
      simp [Card.listCode, Card.code]

theorem top_inj {top top' : Option Card}
    (same : (top.map Card.code).getD "" = (top'.map Card.code).getD "") : top = top' := by
  rw [code_eq_listCode, code_eq_listCode] at same
  rw [← Option.head?_toList (o := top), Card.listCode_inj same, Option.head?_toList]

/-- The combinations have commas between them. -/
theorem table_inj {table table' : List (List Card)} (shown : ∀ cards ∈ table, cards ≠ [])
    (shown' : ∀ cards ∈ table', cards ≠ [])
    (same : Text.joined "," (table.map Card.listCode) =
      Text.joined "," (table'.map Card.listCode)) :
    table = table' := by
  have clear (table : List (List Card)) :
      ∀ text ∈ table.map Card.listCode, ',' ∉ text.toList :=
    List.forall_mem_map.2 fun cards _ => Card.not_mem_listCode rfl cards
  have visible {table : List (List Card)} (shown : ∀ cards ∈ table, cards ≠ []) :
      ∀ text ∈ table.map Card.listCode, text ≠ "" :=
    List.forall_mem_map.2 fun cards listed => Card.listCode_ne_empty (shown cards listed)
  exact List.map_injective_iff.2 (fun _ _ => Card.listCode_inj)
    (Text.joined_inj_of_visible (clear table) (clear table') (visible shown) (visible shown') same)

theorem marker_inj (same : view.marker = view'.marker) : view.acts = view'.acts := by
  revert same
  unfold marker
  cases view.acts <;> cases view'.acts <;> decide

/-- No part has a bar in it. -/
theorem not_mem_parts (view : View) : ∀ part ∈ view.parts, '|' ∉ part.toList := by
  have marker : '|' ∉ view.marker.toList := by
    unfold View.marker
    cases view.acts <;> decide
  have codes (cards : List Card) : '|' ∉ (Card.listCode cards).toList :=
    Card.not_mem_listCode rfl cards
  have table : '|' ∉ (Text.joined "," (view.table.map Card.listCode)).toList :=
    Text.not_mem_joined (by decide : '|' ≠ ',') (List.forall_mem_map.2 fun cards _ => codes cards)
  simp only [parts, List.forall_mem_cons, code_eq_listCode, Text.toList_toString]
  exact ⟨codes _, codes _, table, marker, Text.not_mem_toDigits rfl _, nofun⟩

def text (view : View) : String :=
  Text.joined "|" view.parts

/-- A text tells the view. -/
theorem text_inj (shown : ∀ cards ∈ view.table, cards ≠ [])
    (shown' : ∀ cards ∈ view'.table, cards ≠ []) (same : view.text = view'.text) :
    view = view' := by
  have parted : view.parts = view'.parts :=
    Text.joined_inj view.not_mem_parts view'.not_mem_parts (List.cons_ne_nil _ _)
      (List.cons_ne_nil _ _) same
  simp only [parts, List.cons.injEq, and_true] at parted
  obtain ⟨hand, top, table, marker, others⟩ := parted
  exact View.ext (Card.listCode_inj hand) (top_inj top) (table_inj shown shown' table)
    (marker_inj marker) (Text.toDigits_inj (by
      rw [← Text.toList_toString, others, Text.toList_toString]))

end View

/-- The text that a player is sent is that of the player's view. -/
theorem view?_eq_look? (session : Nat) (game : Match) :
    game.view? session = (game.look? session).map View.text := by
  unfold view? look?
  cases game.seatOf? session with
  | none =>
      rfl
  | some place =>
      simp only [Option.bind_some, Option.map_map]
      congr 1
      funext seat
      simp only [Function.comp_apply, View.text, View.parts, View.marker, turnMarker, List.map_map,
        Bool.and_eq_true, decide_eq_true_eq]
      rfl

end Match

end Cardroom
