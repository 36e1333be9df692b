import Cardroom.Proofs.Match.Hand

/-!
# What a move can do

`Played` lists everything that can come of a move: it is refused and nothing has changed, it is
refused with the draw pile rebuilt, or it is accepted with one of six effects. `play_played` says
that each move is one of these, so that a property of all moves is proved by cases.
-/

namespace Cardroom.Match

/-- The player of a seat may move: the match runs and the turn is the player's. -/
structure MayMove (game : Match) (session place : Nat) (seat : Seat) : Prop where
  running : game.status = .playing
  seated : game.seatOf? session = some place
  turn : place = game.current
  sits : game.seats[place]? = some seat

section

variable {game : Match} {session place : Nat} {seat : Seat}

theorem mayMove_of_sits (distinct : (game.seats.map Seat.session).Nodup)
    (playing : game.status = .playing) (sits : game.seats[game.current]? = some seat) :
    game.MayMove seat.session game.current seat := by
  refine ⟨playing, List.findIdx?_eq_some_iff_getElem.2 ?_, rfl, sits⟩
  obtain ⟨bound, rfl⟩ := List.getElem?_eq_some_iff.1 sits
  refine ⟨bound, beq_self_eq_true _, fun earlier before same => ?_⟩
  have lower : earlier < game.seats.length := Nat.lt_trans before bound
  have twice : (game.seats.map Seat.session)[earlier]? =
      (game.seats.map Seat.session)[game.current]? := by
    simpa [lower, bound] using same
  have equal := (List.getElem?_inj (by simpa using lower) distinct).1 twice
  omega

theorem MayMove.play_eq (mover : game.MayMove session place seat) (shuffle : Shuffle)
    (action : MessageType) (payload : String) :
    game.play shuffle session action payload =
      match action with
      | .takeFromDeck => game.takeFromDeck shuffle place seat
      | .takeFromDiscard => game.takeFromDiscard place seat
      | .layDown => game.layDown place seat payload
      | .addCard => game.attach place seat payload
      | .discard => game.discard place seat payload
      | .close => game.close place seat payload
      | _ => (.error .unknownAction, game) := by
  obtain ⟨running, seated, rfl, sits⟩ := mover
  cases action <;> simp only [play, running, seated, sits, ne_eq, not_true_eq_false, if_false]

end

/-- The effect of each move that is accepted, and what it was accepted for. -/
inductive Accepted (game : Match) (place : Nat) (seat : Seat) (payload : String) :
    MessageType → Match → Prop
  | takeFromDeck {card : Card} {pile : List Card} :
      seat.phase = .awaitingDraw →
      seat.isOpening = false →
      game.drawPile = card :: pile →
      Accepted game place seat payload .takeFromDeck
        ({ game with drawPile := pile }.receive place card)
  | takeFromDiscard {card : Card} {pile : List Card} :
      seat.phase ≠ .awaitingDiscard →
      seat.isOpening = false →
      game.discardPile = card :: pile →
      Accepted game place seat payload .takeFromDiscard
        ({ game with discardPile := pile }.receive place card)
  | layDown {cards : List Card} {combination : Combination} :
      Card.ofListCode payload = .ok cards →
      cards.length < seat.hand.length →
      cards.Subperm seat.hand →
      Combination.ofCards? seat.session cards = some combination →
      Accepted game place seat payload .layDown
        { game.modifySeat place fun seat =>
            { seat with
              hand := seat.hand.diff cards
              cardsPlayed := seat.cardsPlayed + cards.length } with
          combinations := game.combinations ++ [combination] }
  | attach {target code : String} {card : Card} {index : Nat}
      {combination extended : Combination} :
      Text.cut? payload = some (target, code) →
      Card.ofCode code = .ok card →
      card ∈ seat.hand →
      1 < seat.hand.length →
      (game.combinations.findIdx? fun found => found.codes == target) = some index →
      game.combinations[index]? = some combination →
      Combination.attach? card combination = some extended →
      Accepted game place seat payload .addCard
        ({ game with combinations := game.combinations.set index extended }.modifySeat place
          fun seat =>
            { seat with hand := seat.hand.erase card, cardsPlayed := seat.cardsPlayed + 1 })
  | discard {card : Card} :
      seat.phase ≠ .turnComplete →
      (seat.phase = .awaitingDraw → seat.isOpening = true) →
      Card.ofCode payload = .ok card →
      card ∈ seat.hand →
      seat.hand.erase card ≠ [] →
      Accepted game place seat payload .discard
        ({ game.modifySeat place fun seat =>
            { seat with
              hand := seat.hand.erase card
              phase := .turnComplete
              turnsPlayed := seat.turnsPlayed + 1 } with
          discardPile := card :: game.discardPile } : Match).passTurn
  | close {card : Card} :
      seat.hand = [card] →
      card.code = payload →
      Accepted game place seat payload .close
        { game.modifySeat place fun seat =>
            { seat with hand := [], phase := .turnComplete } with
          discardPile := card :: game.discardPile
          status := .finished }

inductive Played (shuffle : Shuffle) (game : Match) (session : Nat) (payload : String) :
    MessageType → Answer → Prop
  | refused {action : MessageType} {error : MoveError} :
      error ≠ .deckRebuilt →
      Played shuffle game session payload action (.error error, game)
  | rebuilt {place : Nat} {seat : Seat} {top second : Card} {rest : List Card} :
      game.MayMove session place seat →
      seat.phase = .awaitingDraw →
      seat.isOpening = false →
      game.drawPile = [] →
      game.discardPile = top :: second :: rest →
      Played shuffle game session payload .takeFromDeck
        (.error .deckRebuilt, game.rebuildDrawPile shuffle)
  | accepted {action : MessageType} {place : Nat} {seat : Seat} {after : Match} :
      game.MayMove session place seat →
      game.Accepted place seat payload action after →
      Played shuffle game session payload action (.ok (), after)

/-- What a change does to seats other than the one at the place makes no difference. -/
theorem modifySeat_congr {game : Match} {place : Nat} {seat : Seat} {change other : Seat → Seat}
    (sits : game.seats[place]? = some seat) (same : change seat = other seat) :
    game.modifySeat place change = game.modifySeat place other := by
  unfold modifySeat
  congr 1
  apply List.ext_getElem?
  intro index
  by_cases here : place = index
  · subst here
    simp [sits, same]
  · simp [here]

/-- What the change leaves as it is, is the same at all seats. -/
theorem map_seats_modifySeat {α : Type} (game : Match) (place : Nat) {change : Seat → Seat}
    {part : Seat → α} (same : ∀ seat, part (change seat) = part seat) :
    (game.modifySeat place change).seats.map part = game.seats.map part := by
  apply List.ext_getElem?
  intro index
  simp only [modifySeat, List.getElem?_map, List.getElem?_modify]
  cases game.seats[index]? with
  | none =>
      rfl
  | some seat =>
      by_cases here : place = index <;> simp [here, same]

theorem exists_of_modifySeat {game : Match} {place index : Nat} {seat : Seat}
    {change : Seat → Seat} (sits : (game.modifySeat place change).seats[index]? = some seat) :
    ∃ before, game.seats[index]? = some before ∧
      seat = if index = place then change before else before := by
  simp only [modifySeat, List.getElem?_modify] at sits
  obtain ⟨before, found, rfl⟩ := Option.map_eq_some_iff.1 sits
  exact ⟨before, found, by simp only [eq_comm]⟩

theorem drawPile_rebuildDrawPile_perm (shuffle : Shuffle) {game : Match} {top : Card}
    {rest : List Card} (pile : game.discardPile = top :: rest) :
    (game.rebuildDrawPile shuffle).drawPile.Perm rest := by
  simp only [rebuildDrawPile, pile]
  split
  · exact (shuffle.perm rest.reverse).trans rest.reverse_perm
  · exact rest.reverse_perm

/-- Turning over a discard pile of one card at most does nothing. -/
theorem rebuildDrawPile_of_empty {shuffle : Shuffle} {game : Match}
    (empty : game.drawPile = [])
    (still : (game.rebuildDrawPile shuffle).drawPile = []) :
    game.rebuildDrawPile shuffle = game := by
  cases pile : game.discardPile with
  | nil =>
      simp only [rebuildDrawPile, pile]
  | cons top rest =>
      have none : rest = [] := by
        have perm := drawPile_rebuildDrawPile_perm shuffle pile
        rw [still] at perm
        exact List.nil_perm.1 perm
      subst none
      cases game
      simp_all [rebuildDrawPile]

/-! ## Each move -/

section

variable {shuffle : Shuffle} {game : Match} {session place : Nat} {seat : Seat} {payload : String}

theorem takeFromDeck_played (mover : game.MayMove session place seat) :
    Played shuffle game session payload .takeFromDeck
      (game.takeFromDeck shuffle place seat) := by
  unfold takeFromDeck
  split
  · exact .refused (by decide)
  · exact .refused (by decide)
  · next awaiting =>
      split
      · exact .refused (by decide)
      · next opened =>
          rw [Bool.not_eq_true] at opened
          split
          · next card pile top =>
              exact .accepted mover (.takeFromDeck awaiting opened top)
          · next empty =>
              simp only
              split
              · next still =>
                  rw [rebuildDrawPile_of_empty empty still]
                  exact .refused (by decide)
              · next filled =>
                  -- The pile was filled, so there was a card below the top one.
                  cases pile : game.discardPile with
                  | nil =>
                      simp [rebuildDrawPile, pile, empty] at filled
                  | cons top rest =>
                      have perm := drawPile_rebuildDrawPile_perm shuffle pile
                      cases rest with
                      | nil =>
                          exact absurd (List.perm_nil.1 perm) filled
                      | cons second rest =>
                          exact .rebuilt mover awaiting opened empty pile

theorem takeFromDiscard_played (mover : game.MayMove session place seat) :
    Played shuffle game session payload .takeFromDiscard
      (game.takeFromDiscard place seat) := by
  unfold takeFromDiscard
  split
  · exact .refused (by decide)
  · next awaiting =>
      split
      · exact .refused (by decide)
      · next card pile top =>
          split
          · exact .refused (by decide)
          · next opened =>
              rw [Bool.not_eq_true] at opened
              exact .accepted mover (.takeFromDiscard awaiting opened top)

theorem takePlaces_error {hand cards : List Card} {taken : List Nat} {error : MoveError}
    (refused : takePlaces hand taken cards = .error error) :
    ∃ card : Card, error = .cardNotInHand card.code := by
  induction cards generalizing taken with
  | nil =>
      cases refused
  | cons card cards inductionHypothesis =>
      unfold takePlaces at refused
      split at refused
      · cases refused
        exact ⟨card, rfl⟩
      · exact inductionHypothesis refused

theorem layDown_played (mover : game.MayMove session place seat) :
    Played shuffle game session payload .layDown (game.layDown place seat payload) := by
  unfold layDown
  split
  · exact .refused (by decide)
  · split
    · exact .refused MoveError.noConfusion
    · next cards parsed =>
        split
        · exact .refused (by decide)
        · next fewer =>
            split
            · next error missing =>
                obtain ⟨card, rfl⟩ := takePlaces_error missing
                exact .refused MoveError.noConfusion
            · next places taken =>
                split
                · exact .refused (by decide)
                · next combination formed =>
                    obtain ⟨held, left⟩ := withoutPlaces_of_takePlaces taken
                    have same : game.modifySeat place (fun seat =>
                          { seat with
                            hand := withoutPlaces seat.hand places
                            cardsPlayed := seat.cardsPlayed + cards.length }) =
                        game.modifySeat place fun seat =>
                          { seat with
                            hand := seat.hand.diff cards
                            cardsPlayed := seat.cardsPlayed + cards.length } :=
                      modifySeat_congr mover.sits (by simp only [left])
                    simp only [same]
                    exact .accepted mover
                      (.layDown parsed (Nat.lt_of_not_le fewer) held formed)

theorem attach_played (mover : game.MayMove session place seat) :
    Played shuffle game session payload .addCard (game.attach place seat payload) := by
  unfold attach
  split
  · exact .refused (by decide)
  · next target code cut =>
      split
      · exact .refused MoveError.noConfusion
      · next card parsed =>
          split
          · exact .refused MoveError.noConfusion
          · next held =>
              split
              · exact .refused (by decide)
              · next more =>
                  split
                  · exact .refused (by decide)
                  · next index named =>
                      split
                      · exact .refused (by decide)
                      · next extended fits =>
                          obtain ⟨combination, found, attached⟩ :=
                            Option.bind_eq_some_iff.1 fits
                          exact .accepted mover
                            (.attach cut parsed (Decidable.not_not.1 held)
                              (Nat.lt_of_not_le more) named found attached)

/-- A hand that a card was taken out of, and that was not of one card, is not empty. -/
theorem erase_ne_nil {hand : List Card} {card : Card} (held : card ∈ hand)
    (more : hand.length ≠ 1) :
    hand.erase card ≠ [] := by
  intro empty
  have length := List.length_erase_of_mem held
  have positive := List.length_pos_of_mem held
  rw [empty, List.length_nil] at length
  omega

theorem discard_played (mover : game.MayMove session place seat) :
    Played shuffle game session payload .discard (game.discard place seat payload) := by
  unfold discard
  split
  · exact .refused (by decide)
  · next incomplete =>
      split
      · exact .refused (by decide)
      · next drawn =>
          split
          · exact .refused (by decide)
          · next more =>
              split
              · exact .refused MoveError.noConfusion
              · next card parsed =>
                  split
                  · exact .refused MoveError.noConfusion
                  · next held =>
                      have member : card ∈ seat.hand := Decidable.not_not.1 held
                      have left : seat.hand.erase card ≠ [] := erase_ne_nil member more
                      simp only [if_neg left]
                      exact .accepted mover
                        (.discard incomplete (by simpa using drawn) parsed member left)

theorem close_played (mover : game.MayMove session place seat) :
    Played shuffle game session payload .close (game.close place seat payload) := by
  unfold close
  split
  · next card last =>
      split
      · next named =>
          exact .accepted mover (.close last named)
      · exact .refused (by decide)
  · exact .refused (by decide)

end

/-- Every move is refused, or refused with the draw pile rebuilt, or has one of six effects. -/
theorem play_played (shuffle : Shuffle) (session : Nat) (action : MessageType) (payload : String)
    (game : Match) :
    Played shuffle game session payload action (game.play shuffle session action payload) := by
  unfold play
  split
  · exact .refused (by decide)
  · next running =>
      split
      · exact .refused (by decide)
      · next place seated =>
          split
          · exact .refused (by decide)
          · next seat sits =>
              split
              · exact .refused (by decide)
              · next turn =>
                  have mover : game.MayMove session place seat :=
                    ⟨Decidable.not_not.1 running, seated, Decidable.not_not.1 turn, sits⟩
                  split
                  · exact takeFromDeck_played mover
                  · exact takeFromDiscard_played mover
                  · exact layDown_played mover
                  · exact attach_played mover
                  · exact discard_played mover
                  · exact close_played mover
                  · exact .refused (by decide)

/-- What an accepted move of the player whose turn it is has done. -/
theorem MayMove.accepted {game after : Match} {session place : Nat} {seat : Seat}
    {shuffle : Shuffle} {action : MessageType} {payload : String}
    (mover : game.MayMove session place seat)
    (moved : game.play shuffle session action payload = (.ok (), after)) :
    game.Accepted place seat payload action after := by
  have played := play_played shuffle session action payload game
  rw [moved] at played
  cases played with
  | accepted other effect =>
      obtain rfl := Option.some.inj (mover.seated.symm.trans other.seated)
      obtain rfl := Option.some.inj (mover.sits.symm.trans other.sits)
      exact effect

end Cardroom.Match
