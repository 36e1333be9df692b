import Mathlib.Algebra.GroupWithZero.Nat
import Mathlib.Data.List.Perm.Subperm
import Cardroom.Proofs.Combination.Cards
import Cardroom.Proofs.Match.Moves
import Cardroom.Proofs.Match.Run

/-!
# No card is lost

The cards of a match are those of the deck that it was dealt from, however it goes on.
`cards_after_perm` is the step: no event adds a card, removes one or changes one.
`cards_run_start_perm` follows for every match that was dealt, by induction on what happened to it.
-/

namespace Cardroom

theorem sum_map_set {α : Type} {items : List α} {index : Nat} {item : α}
    (found : items[index]? = some item) (new : α) (size : α → Nat) :
    ((items.set index new).map size).sum + size item = (items.map size).sum + size new := by
  induction items generalizing index with
  | nil =>
      simp at found
  | cons head tail inductionHypothesis =>
      cases index with
      | zero =>
          simp only [List.getElem?_cons_zero, Option.some.injEq] at found
          subst found
          simp only [List.set_cons_zero, List.map_cons, List.sum_cons]
          omega
      | succ index =>
          have below : tail[index]? = some item := by simpa using found
          have rest := inductionHypothesis below
          simp only [List.set_cons_succ, List.map_cons, List.sum_cons]
          omega

theorem count_flatMap_set {α : Type} {items : List α} {index : Nat} {item : α}
    (found : items[index]? = some item) (new : α) (cards : α → List Card) (card : Card) :
    ((items.set index new).flatMap cards).count card + (cards item).count card =
      (items.flatMap cards).count card + (cards new).count card := by
  simp only [List.count_flatMap]
  exact sum_map_set found new fun item => (cards item).count card

namespace Match

theorem modifySeat_seats_eq_set {game : Match} {place : Nat} {seat : Seat} (change : Seat → Seat)
    (sits : game.seats[place]? = some seat) :
    (game.modifySeat place change).seats = game.seats.set place (change seat) := by
  apply List.ext_getElem?
  intro index
  by_cases here : place = index
  · subst here
    obtain ⟨bound, rfl⟩ := List.getElem?_eq_some_iff.1 sits
    simp [modifySeat, bound]
  · simp [modifySeat, here]

/-- A change of one seat changes the cards in hands by what it changes in that hand. -/
theorem count_hands_modifySeat {game : Match} {place : Nat} {seat : Seat}
    (sits : game.seats[place]? = some seat) (change : Seat → Seat) (card : Card) :
    ((game.modifySeat place change).seats.flatMap Seat.hand).count card + seat.hand.count card =
      (game.seats.flatMap Seat.hand).count card + (change seat).hand.count card := by
  rw [modifySeat_seats_eq_set change sits]
  exact count_flatMap_set sits (change seat) Seat.hand card

theorem hands_modifySeat_of_hand_eq (game : Match) (place : Nat) {change : Seat → Seat}
    (same : ∀ seat, (change seat).hand = seat.hand) :
    (game.modifySeat place change).seats.flatMap Seat.hand = game.seats.flatMap Seat.hand := by
  rw [List.flatMap_def, List.flatMap_def, map_seats_modifySeat game place same]

/-- The hands that are dealt are the top of the pile, one after the other. -/
theorem dealHands_eq (pile : List Card) (seats : List Seat) :
    (dealHands pile seats).1.flatMap Seat.hand ++ (dealHands pile seats).2 = pile := by
  induction seats generalizing pile with
  | nil =>
      rfl
  | cons seat seats inductionHypothesis =>
      simp only [dealHands, List.flatMap_cons, List.append_assoc, inductionHypothesis]
      exact List.take_append_drop seat.handSize pile

theorem newPile_perm (shuffle : Shuffle) (shuffled : Bool) :
    (newPile shuffle shuffled).Perm Card.deck := by
  unfold newPile
  split
  · exact (List.reverse_perm _).trans (shuffle.perm Card.deck)
  · exact List.reverse_perm _

/-- Whatever match is dealt, it holds the cards of the deck. -/
theorem cards_start_perm (shuffle : Shuffle) (game : Match) :
    (game.start shuffle).cards.Perm Card.deck := by
  refine List.Perm.trans ?_ (newPile_perm shuffle game.shuffled)
  have dealt := dealHands_eq (newPile shuffle game.shuffled) game.seats
  have turned := List.take_append_drop 1 (dealHands (newPile shuffle game.shuffled) game.seats).2
  rw [List.perm_iff_count]
  intro card
  have dealtCount := congrArg (List.count card) dealt
  have turnedCount := congrArg (List.count card) turned
  simp only [List.count_append] at dealtCount turnedCount
  simp only [start, cards, List.count_append, List.flatMap_nil, List.count_nil]
  omega

theorem count_cards (game : Match) (card : Card) :
    game.cards.count card =
      game.drawPile.count card + game.discardPile.count card +
        (game.seats.flatMap Seat.hand).count card +
          (game.combinations.flatMap Combination.cards).count card := by
  simp only [cards, List.count_append]

/-- A change of a seat that leaves its hand alone leaves all cards where they are. -/
theorem cards_modifySeat_of_hand_eq (game : Match) (place : Nat) {change : Seat → Seat}
    (same : ∀ seat, (change seat).hand = seat.hand) :
    (game.modifySeat place change).cards = game.cards := by
  simp only [cards, hands_modifySeat_of_hand_eq game place same]
  rfl

theorem cards_passTurn (game : Match) : game.passTurn.cards = game.cards := by
  unfold passTurn
  split
  · next place next =>
      exact cards_modifySeat_of_hand_eq { game with current := place } place fun _ => rfl
  · rfl

theorem cards_setActive (session : Nat) (active : Bool) (game : Match) :
    (game.setActive session active).cards = game.cards := by
  unfold setActive
  split
  · exact cards_modifySeat_of_hand_eq game _ fun _ => rfl
  · rfl

theorem cards_score (game : Match) : game.score.cards = game.cards := by
  have hands : (game.seats.map fun seat => { seat with score := seat.points }).flatMap Seat.hand =
      game.seats.flatMap Seat.hand := by
    rw [List.flatMap_map]
  simp only [score, cards, hands]

theorem cards_rebuildDrawPile_perm (shuffle : Shuffle) (game : Match)
    (empty : game.drawPile = []) :
    (game.rebuildDrawPile shuffle).cards.Perm game.cards := by
  cases pile : game.discardPile with
  | nil =>
      simp only [rebuildDrawPile, pile]
      exact List.Perm.refl _
  | cons top rest =>
      have turned := drawPile_rebuildDrawPile_perm shuffle pile
      rw [List.perm_iff_count]
      intro card
      have moved := turned.count_eq card
      have bottom : (game.rebuildDrawPile shuffle).discardPile = [top] := by
        simp only [rebuildDrawPile, pile]
      have seats : (game.rebuildDrawPile shuffle).seats = game.seats := by
        simp only [rebuildDrawPile, pile]
      have table : (game.rebuildDrawPile shuffle).combinations = game.combinations := by
        simp only [rebuildDrawPile, pile]
      rw [count_cards, count_cards, bottom, seats, table, moved, empty, pile]
      simp only [List.count_cons, List.count_nil]
      omega

/-- An accepted move takes each card from one place of the match to another. -/
theorem cards_perm_of_accepted {game after : Match} {session place : Nat} {seat : Seat}
    {action : MessageType} {payload : String} (mover : game.MayMove session place seat)
    (accepted : game.Accepted place seat payload action after) :
    after.cards.Perm game.cards := by
  have hands := count_hands_modifySeat mover.sits
  rw [List.perm_iff_count]
  intro card
  cases accepted with
  | @takeFromDeck drawn pile awaiting opened top =>
      have hand := hands (fun seat =>
        { seat with hand := seat.hand ++ [drawn], phase := .awaitingDiscard }) card
      simp only [count_cards, receive, top]
      simp only [modifySeat, List.count_append, List.count_cons, List.count_nil] at hand ⊢
      omega
  | @takeFromDiscard drawn pile awaiting opened top =>
      have hand := hands (fun seat =>
        { seat with hand := seat.hand ++ [drawn], phase := .awaitingDiscard }) card
      simp only [count_cards, receive, top]
      simp only [modifySeat, List.count_append, List.count_cons, List.count_nil] at hand ⊢
      omega
  | @layDown cards combination parsed fewer held formed =>
      have hand := hands (fun seat =>
        { seat with
          hand := seat.hand.diff cards
          cardsPlayed := seat.cardsPlayed + cards.length }) card
      have laid := (Combination.ofCards?_perm formed).count_eq card
      have parted := (List.subperm_append_diff_self_of_count_le
        fun card _ => held.count_le card).count_eq card
      simp only [count_cards]
      simp only [modifySeat, List.flatMap_append, List.flatMap_cons, List.flatMap_nil,
        List.count_append, List.count_nil] at hand parted ⊢
      omega
  | @attach target code attached index combination extended cut parsed held more named found fits =>
      have hand := hands (fun seat =>
        { seat with hand := seat.hand.erase attached, cardsPlayed := seat.cardsPlayed + 1 }) card
      have table := count_flatMap_set found extended Combination.cards card
      have grown := (Combination.attach?_perm fits).count_eq card
      have left := (List.perm_cons_erase held).count_eq card
      simp only [count_cards]
      simp only [modifySeat, List.count_cons] at hand table grown left ⊢
      omega
  | @discard discarded incomplete drawn parsed held more =>
      have hand := hands (fun seat =>
        { seat with
          hand := seat.hand.erase discarded
          phase := .turnComplete
          turnsPlayed := seat.turnsPlayed + 1 }) card
      have left := (List.perm_cons_erase held).count_eq card
      rw [cards_passTurn]
      simp only [count_cards]
      simp only [modifySeat, List.count_cons] at hand left ⊢
      omega
  | @close last only named =>
      have hand := hands (fun seat => { seat with hand := [], phase := .turnComplete }) card
      simp only [count_cards]
      simp only [modifySeat, only, List.count_cons, List.count_nil] at hand ⊢
      omega

theorem cards_play_perm (shuffle : Shuffle) (session : Nat) (action : MessageType)
    (payload : String) (game : Match) :
    (game.play shuffle session action payload).2.cards.Perm game.cards := by
  have played := play_played shuffle session action payload game
  generalize game.play shuffle session action payload = answer at played
  cases played with
  | refused other =>
      exact List.Perm.refl _
  | rebuilt mover awaiting opened empty pile =>
      exact cards_rebuildDrawPile_perm shuffle game empty
  | accepted mover accepted =>
      exact cards_perm_of_accepted mover accepted

/-- Whatever happens to a match, it holds the cards that it held. -/
theorem cards_after_perm (game : Match) (event : Event) :
    (game.after event).cards.Perm game.cards := by
  cases event with
  | move shuffle session action payload =>
      exact cards_play_perm shuffle session action payload game
  | pause reason =>
      simp only [after, pause?]
      split <;> exact List.Perm.refl _
  | resume =>
      simp only [after, resume?]
      split <;> exact List.Perm.refl _
  | setActive session active =>
      rw [after, cards_setActive]
  | passTurn =>
      rw [after, cards_passTurn]
  | score =>
      rw [after, cards_score]

theorem cards_run_perm (events : List Event) (game : Match) :
    (game.run events).cards.Perm game.cards :=
  run_preserves (motive := fun other => other.cards.Perm game.cards)
    (fun other event held => (cards_after_perm other event).trans held) events (List.Perm.refl _)

/-- A match that was dealt holds the cards of the deck, whatever has happened to it since. -/
theorem cards_run_start_perm (room : Nat) (members : List Nat) (shuffled : Bool)
    (shuffle : Shuffle) (events : List Event) :
    let game := ((Match.seat room members shuffled).start shuffle).run events
    game.cards.Perm Card.deck ∧ game.cardCount = 108 := by
  intro game
  have conserved : game.cards.Perm Card.deck :=
    (cards_run_perm events _).trans (cards_start_perm shuffle _)
  exact ⟨conserved, conserved.length_eq.trans Card.length_deck⟩

end Match

end Cardroom
