import Mathlib.Algebra.Order.BigOperators.Group.List
import Mathlib.Algebra.Group.Action.Defs
import Mathlib.Algebra.Order.Ring.Nat
import Cardroom.Proofs.Match.Turns

/-!
# Somebody can always move

A match that runs is never stuck. `Orderly.three_le_piles` counts the cards: with no more than seven
players, three of them at least are on the piles. Hence no draw ever finds both piles empty, and the
player whose turn it is can draw, discard or close.
-/

namespace Cardroom

/-- Whether a draw is refused for want of a card. -/
def MoveError.isWant : MoveError → Bool
  | nothingToDraw | discardPileEmpty => true
  | _ => false

namespace Match

/-- No more than 105 cards are held or laid down. -/
theorem Orderly.three_le_piles {members : List Nat} {turns : Nat} {game : Match}
    (orderly : game.Orderly members turns) (few : members.length ≤ 7)
    (deck : game.cardCount = 108) :
    3 ≤ game.drawPile.length + game.discardPile.length := by
  -- Each seat accounts for fifteen cards at most, and what is on the table belongs to the seats.
  have each : ∀ count ∈ game.seats.map fun seat => seat.hand.length + seat.cardsPlayed,
      count ≤ 15 := by
    intro count member
    obtain ⟨seat, there, rfl⟩ := List.mem_map.1 member
    obtain ⟨place, sits⟩ := List.mem_iff_getElem?.1 there
    exact (orderly.fits sits).balanced.le_fifteen
  have seats := List.sum_le_card_nsmul _ 15 each
  rw [List.length_map, smul_eq_mul, List.sum_map_add, orderly.length_seats] at seats
  have table := orderly.table
  simp only [cardCount, cards, List.length_append, List.length_flatMap] at deck
  omega

section

variable {shuffle : Shuffle} {game after : Match} {session place : Nat} {seat : Seat}
  {payload : String} {error : MoveError}

theorem layDown_isWant (refused : game.layDown place seat payload = (.error error, after)) :
    error.isWant = false := by
  unfold layDown at refused
  grind [MoveError.isWant, takePlaces_error]

theorem attach_isWant (refused : game.attach place seat payload = (.error error, after)) :
    error.isWant = false := by
  unfold attach at refused
  grind [MoveError.isWant]

theorem discard_isWant (refused : game.discard place seat payload = (.error error, after)) :
    error.isWant = false := by
  unfold discard at refused
  grind [MoveError.isWant]

theorem close_isWant (refused : game.close place seat payload = (.error error, after)) :
    error.isWant = false := by
  unfold close at refused
  grind [MoveError.isWant]

theorem length_discardPile_of_rebuilt
    (still : (game.rebuildDrawPile shuffle).drawPile = []) : game.discardPile.length ≤ 1 := by
  cases pile : game.discardPile with
  | nil =>
      exact Nat.zero_le 1
  | cons top rest =>
      have perm := drawPile_rebuildDrawPile_perm shuffle pile
      rw [still] at perm
      rw [List.nil_perm.1 perm]
      exact Nat.le_refl 1

theorem takeFromDeck_isWant (refused : game.takeFromDeck shuffle place seat = (.error error, after))
    (want : error.isWant = true) :
    game.drawPile = [] ∧ game.discardPile.length ≤ 1 := by
  unfold takeFromDeck at refused
  split at refused
  · cases refused
    cases want
  · cases refused
    cases want
  · split at refused
    · cases refused
      cases want
    · split at refused
      · cases refused
      · next empty =>
          simp only at refused
          split at refused
          · next still =>
              exact ⟨empty, length_discardPile_of_rebuilt still⟩
          · cases refused
            cases want

theorem takeFromDiscard_isWant (refused : game.takeFromDiscard place seat = (.error error, after))
    (want : error.isWant = true) :
    seat.phase ≠ .awaitingDiscard ∧ game.discardPile = [] := by
  unfold takeFromDiscard at refused
  grind [MoveError.isWant]

end

theorem play_isWant {shuffle : Shuffle} {session : Nat} {action : MessageType} {payload : String}
    {game after : Match} {error : MoveError}
    (refused : game.play shuffle session action payload = (.error error, after))
    (want : error.isWant = true) :
    (game.drawPile = [] ∧ game.discardPile.length ≤ 1) ∨
      ∃ seat, game.seats[game.current]? = some seat ∧ seat.phase ≠ .awaitingDiscard ∧
        game.discardPile = [] := by
  unfold play at refused
  split at refused
  · cases refused
    cases want
  · split at refused
    · cases refused
      cases want
    · next place seated =>
        split at refused
        · cases refused
          cases want
        · next seat sits =>
            split at refused
            · cases refused
              cases want
            · next turn =>
                rw [Decidable.not_not] at turn
                subst turn
                split at refused
                · exact .inl (takeFromDeck_isWant refused want)
                · exact .inr ⟨seat, sits, takeFromDiscard_isWant refused want⟩
                · rw [layDown_isWant refused] at want
                  cases want
                · rw [attach_isWant refused] at want
                  cases want
                · rw [discard_isWant refused] at want
                  cases want
                · rw [close_isWant refused] at want
                  cases want
                · cases refused
                  cases want

section

variable {game : Match} {session place : Nat} {seat : Seat}

/-- Whoever need not draw, or has drawn, can discard a card or close with the last one. -/
theorem MayMove.accepts_end (mover : game.MayMove session place seat)
    (incomplete : seat.phase ≠ .turnComplete)
    (drawn : seat.phase = .awaitingDraw → seat.isOpening = true) (holding : seat.hand ≠ []) :
    ∃ action payload, ∀ shuffle, (game.play shuffle session action payload).1 = .ok () := by
  obtain ⟨card, others, hand⟩ := List.exists_cons_of_ne_nil holding
  cases others with
  | nil =>
      refine ⟨.close, card.code, fun shuffle => ?_⟩
      rw [mover.play_eq]
      simp [close, hand]
  | cons second others =>
      refine ⟨.discard, card.code, fun shuffle => ?_⟩
      have undrawn : ¬(seat.phase = .awaitingDraw ∧ !seat.isOpening) := by
        rintro ⟨awaiting, opened⟩
        simp [drawn awaiting] at opened
      rw [mover.play_eq]
      simp only [discard, if_neg incomplete, if_neg undrawn]
      simp [hand, Card.ofCode_code]

end

/-- Whoever found the draw pile empty and had it rebuilt draws from it. -/
theorem redraw {shuffle : Shuffle} {session : Nat} {action : MessageType} {payload : String}
    {game after : Match}
    (refused : game.play shuffle session action payload = (.error .deckRebuilt, after))
    (again : Shuffle) (text : String) :
    (after.play again session .takeFromDeck text).1 = .ok () := by
  have played := play_played shuffle session action payload game
  rw [refused] at played
  cases played with
  | refused other =>
      exact absurd rfl other
  | @rebuilt place seat top second rest mover awaiting opened empty pile =>
      have turned := drawPile_rebuildDrawPile_perm shuffle pile
      have mover : (game.rebuildDrawPile shuffle).MayMove session place seat := by
        simp only [rebuildDrawPile, pile]
        exact ⟨mover.running, mover.seated, mover.turn, mover.sits⟩
      rw [mover.play_eq]
      simp only [takeFromDeck, awaiting, opened, Bool.false_eq_true, if_false]
      cases drawn : (game.rebuildDrawPile shuffle).drawPile with
      | nil =>
          rw [drawn] at turned
          cases List.nil_perm.1 turned
      | cons card pile =>
          rfl

/-- Somebody can move, no draw is refused for want of a card, and after the draw pile was rebuilt
there is one to draw. -/
structure GoesOn (game : Match) : Prop where
  accepts : ∃ session action payload, game.currentSession? = some session ∧
    ∀ shuffle, (game.play shuffle session action payload).1 = .ok ()
  finds : ∀ shuffle session action payload,
    (game.play shuffle session action payload).1 ≠ .error .nothingToDraw ∧
      (game.play shuffle session action payload).1 ≠ .error .discardPileEmpty
  redraws : ∀ {shuffle session action payload after},
    game.play shuffle session action payload = (.error .deckRebuilt, after) →
      ∀ again text, (after.play again session .takeFromDeck text).1 = .ok ()

namespace Orderly

variable {members : List Nat} {turns : Nat} {game : Match}

/-- The player whose turn it is can take the top of the discard pile before anything else, and can
end the turn afterwards. -/
theorem accepts (orderly : game.Orderly members turns) (distinct : members.Nodup)
    (playing : game.status = .playing) :
    ∃ session action payload, game.currentSession? = some session ∧
      ∀ shuffle, (game.play shuffle session action payload).1 = .ok () := by
  have bound : game.current < game.seats.length := by
    rw [orderly.length_seats, orderly.current]
    exact Nat.mod_lt _ (List.length_pos_of_ne_nil orderly.seated)
  have sits := List.getElem?_eq_getElem bound
  generalize game.seats[game.current] = seat at sits
  have fits := orderly.fits sits
  have current : game.currentSession? = some seat.session := by
    rw [currentSession?, sits, Option.map_some]
  have mover : game.MayMove seat.session game.current seat :=
    mayMove_of_sits (orderly.sessions ▸ distinct) playing sits
  by_cases draws : seat.phase = .awaitingDraw ∧ seat.isOpening = false
  · obtain ⟨awaiting, opened⟩ := draws
    obtain ⟨card, pile, top⟩ := List.exists_cons_of_ne_nil (orderly.pile sits awaiting)
    refine ⟨seat.session, .takeFromDiscard, "", current, fun shuffle => ?_⟩
    rw [mover.play_eq]
    simp [takeFromDiscard, awaiting, opened, top]
  · have drawn : seat.phase = .awaitingDraw → seat.isOpening = true := by
      intro awaiting
      rw [← Bool.not_eq_false]
      exact fun opened => draws ⟨awaiting, opened⟩
    obtain ⟨action, payload, accepted⟩ :=
      mover.accepts_end (fits.moving orderly.current) drawn fits.balanced.holding
    exact ⟨seat.session, action, payload, current, accepted⟩

theorem not_isWant (orderly : game.Orderly members turns) (few : members.length ≤ 7)
    (deck : game.cardCount = 108) {shuffle : Shuffle} {session : Nat} {action : MessageType}
    {payload : String} {error : MoveError}
    (refused : (game.play shuffle session action payload).1 = .error error) :
    error.isWant = false := by
  rw [← Bool.not_eq_true]
  intro want
  have answer : game.play shuffle session action payload =
      (.error error, (game.play shuffle session action payload).2) :=
    Prod.ext refused rfl
  have three := orderly.three_le_piles few deck
  rcases play_isWant answer want with ⟨empty, short⟩ | ⟨seat, sits, waiting, none⟩
  · rw [empty, List.length_nil] at three
    omega
  · cases phase : seat.phase with
    | awaitingDraw =>
        exact orderly.pile sits phase none
    | awaitingDiscard =>
        exact waiting phase
    | turnComplete =>
        exact (orderly.fits sits).moving orderly.current phase

theorem goesOn (orderly : game.Orderly members turns) (distinct : members.Nodup)
    (few : members.length ≤ 7) (deck : game.cardCount = 108) (playing : game.status = .playing) :
    game.GoesOn where
  accepts := orderly.accepts distinct playing
  finds _ _ _ _ :=
    ⟨fun refused => Bool.noConfusion (orderly.not_isWant few deck refused),
      fun refused => Bool.noConfusion (orderly.not_isWant few deck refused)⟩
  redraws := redraw

end Orderly

/-- Whatever moves and pauses there were, a match that was dealt for no more than seven and is
running goes on. -/
theorem goesOn_run_start (shuffle : Shuffle) (room : Nat) {members : List Nat} (shuffled : Bool)
    {events : List Event} (distinct : members.Nodup) (seated : members ≠ [])
    (few : members.length ≤ 7) (ordinary : ∀ event ∈ events, event.isOrdinary) :
    let game := ((Match.seat room members shuffled).start shuffle).run events
    game.status = .playing → game.GoesOn := by
  intro game playing
  have unfinished : game.status ≠ .finished := by
    rw [playing]
    exact Status.noConfusion
  obtain ⟨turns, orderly, _⟩ :=
    (orderly_start shuffle room shuffled seated few).history_run ordinary unfinished
  have conserved : game.cards.Perm Card.deck :=
    (cards_run_perm events _).trans (cards_start_perm shuffle _)
  exact orderly.goesOn distinct few (conserved.length_eq.trans Card.length_deck) playing

/-- The second player has drawn and there was a pause. -/
theorem goesOn_after_draw :
    let events : List Event :=
      [.move .still 4 .discard "KS", .move .still 9 .takeFromDeck "", .pause "away", .resume]
    let game := ((Match.seat 0 [4, 9] false).start .still).run events
    (∀ event ∈ events, event.isOrdinary) ∧ game.status = .playing ∧ game.GoesOn := by
  intro events game
  have ordinary : ∀ event ∈ events, event.isOrdinary := by decide
  have playing : game.status = .playing := by decide +kernel
  exact ⟨ordinary, playing,
    goesOn_run_start .still 0 false (by decide) (by decide) (by decide) ordinary playing⟩

end Match

end Cardroom
