import Mathlib.Data.List.Flatten
import Cardroom.Match.View
import Cardroom.Proofs.Card.Code
import Cardroom.Proofs.Combination.WellFormed
import Cardroom.Proofs.Match.Conservation
import Cardroom.Proofs.Match.Seats
import Cardroom.Room

/-!
# How long the texts about a match are

A match has two seats and the cards of one deck, so that a view of it, a hand and a report take a
bounded number of bytes each, however long the match goes on. `Bounded` holds what these bounds rest
on, and is preserved by whatever happens to a match.
-/

namespace Cardroom

theorem Card.value_le (card : Card) : card.value ≤ Card.jokerValue := by
  cases card with
  | joker =>
      exact Nat.le_refl _
  | standard rank suit =>
      exact Nat.le_trans rank.number_le_king (by decide)

theorem Seat.points_le (seat : Seat) : seat.points ≤ Card.jokerValue * seat.hand.length := by
  unfold points
  induction seat.hand with
  | nil =>
      exact Nat.zero_le _
  | cons card hand inductionHypothesis =>
      rw [List.foldr_cons, List.length_cons, Nat.mul_succ]
      have first := card.value_le
      omega

namespace Match

def tableCount (game : Match) : Nat :=
  (game.combinations.flatMap Combination.cards).length

def longestReason : Nat := 64

/-- What bounds the texts about a match. -/
structure Bounded (game : Match) : Prop where
  seats : game.seats.length ≤ Room.places
  cards : game.cards.length ≤ Card.deck.length
  laid : ∀ combination ∈ game.combinations, combination.WellFormed
  played : ∀ seat ∈ game.seats, seat.cardsPlayed ≤ game.tableCount
  reason : ∀ text, game.pauseReason = some text → text.utf8ByteSize ≤ longestReason

variable {game : Match}

theorem length_cards (game : Match) :
    game.cards.length = game.drawPile.length + game.discardPile.length +
      (game.seats.flatMap Seat.hand).length + game.tableCount := by
  simp only [cards, tableCount, List.length_append]

theorem length_hand_le {seat : Seat} (sits : seat ∈ game.seats) :
    seat.hand.length ≤ game.cards.length := by
  have inside : seat.hand.length ≤ (game.seats.flatMap Seat.hand).length := by
    rw [List.flatMap_def]
    exact (List.sublist_flatten_of_mem (List.mem_map_of_mem sits)).length_le
  rw [length_cards]
  omega

theorem othersCardCount_le (place : Nat) (game : Match) :
    game.othersCardCount place ≤ game.cards.length := by
  have fewer : game.othersCardCount place ≤ (game.seats.flatMap Seat.hand).length :=
    ((List.eraseIdx_sublist game.seats place).flatMap Seat.hand).length_le
  rw [length_cards]
  omega

/-! ## What events change -/

theorem length_modifySeat (place : Nat) (change : Seat → Seat) (game : Match) :
    (game.modifySeat place change).seats.length = game.seats.length :=
  List.length_modify ..

/-- A change of one seat that raises a bound. -/
theorem forall_modifySeat_le {part : Seat → Nat} {most limit : Nat} {change : Seat → Seat}
    (within : ∀ seat ∈ game.seats, part seat ≤ most) (wider : most ≤ limit)
    (changed : ∀ seat, part seat ≤ most → part (change seat) ≤ limit) (place : Nat) :
    ∀ seat ∈ game.seats.modify place change, part seat ≤ limit := by
  intro seat member
  obtain ⟨index, sits⟩ := List.mem_iff_getElem?.1 member
  obtain ⟨before, found, rfl⟩ := exists_of_modifySeat sits
  have old := within before (List.mem_of_getElem? found)
  split
  · exact changed before old
  · exact Nat.le_trans old wider

theorem length_passTurn (game : Match) : game.passTurn.seats.length = game.seats.length := by
  unfold passTurn
  split
  · exact length_modifySeat ..
  · rfl

theorem passTurn_combinations (game : Match) : game.passTurn.combinations = game.combinations := by
  unfold passTurn
  split <;> rfl

theorem forall_passTurn_le {part : Seat → Nat} {most : Nat}
    (within : ∀ seat ∈ game.seats, part seat ≤ most)
    (same : ∀ seat phase, part { seat with phase } = part seat) :
    ∀ seat ∈ game.passTurn.seats, part seat ≤ most := by
  unfold passTurn
  split
  · next place _ =>
      have passed : ∀ seat ∈ ({ game with current := place } : Match).seats, part seat ≤ most :=
        within
      exact forall_modifySeat_le passed (Nat.le_refl most)
        (fun seat old => Nat.le_trans (Nat.le_of_eq (same seat _)) old) place
  · exact within

theorem cardsPlayed_of_mem_dealHands {pile : List Card} {seats : List Seat} {seat : Seat}
    (dealt : seat ∈ (dealHands pile seats).1) : seat.cardsPlayed = 0 := by
  induction seats generalizing pile with
  | nil =>
      cases dealt
  | cons first seats inductionHypothesis =>
      rcases List.mem_cons.1 dealt with rfl | later
      · rfl
      · exact inductionHypothesis later

/-- What holds of every new combination, and of those that have grown, holds of all on the table. -/
theorem forall_combinations_of_accepted {motive : Combination → Prop} {place : Nat} {seat : Seat}
    {action : MessageType} {payload : String} {after : Match}
    (formed : ∀ {owner cards combination},
      Combination.ofCards? owner cards = some combination → motive combination)
    (grown : ∀ {card combination extended}, motive combination →
      Combination.attach? card combination = some extended → motive extended)
    (laid : ∀ combination ∈ game.combinations, motive combination)
    (accepted : game.Accepted place seat payload action after) :
    ∀ combination ∈ after.combinations, motive combination := by
  cases accepted with
  | layDown parsed fewer held new =>
      intro combination member
      rcases List.mem_append.1 member with old | added
      · exact laid combination old
      · rw [List.mem_singleton.1 added]
        exact formed new
  | attach cut parsed held more named found fits =>
      intro combination member
      rcases List.mem_or_eq_of_mem_set member with old | rfl
      · exact laid combination old
      · exact grown (laid _ (List.mem_of_getElem? found)) fits
  | discard =>
      rw [passTurn_combinations]
      exact laid
  | takeFromDeck | takeFromDiscard | close =>
      exact laid

/-- An accepted move lays down or extends combinations that are well formed. -/
theorem wellFormed_of_accepted {place : Nat} {seat : Seat} {action : MessageType}
    {payload : String} {after : Match}
    (laid : ∀ combination ∈ game.combinations, combination.WellFormed)
    (accepted : game.Accepted place seat payload action after) :
    ∀ combination ∈ after.combinations, combination.WellFormed :=
  forall_combinations_of_accepted Combination.ofCards?_wellFormed Combination.attach?_wellFormed
    laid accepted

theorem forall_combinations_play {motive : Combination → Prop}
    (formed : ∀ {owner cards combination},
      Combination.ofCards? owner cards = some combination → motive combination)
    (grown : ∀ {card combination extended}, motive combination →
      Combination.attach? card combination = some extended → motive extended)
    (laid : ∀ combination ∈ game.combinations, motive combination) (shuffle : Shuffle)
    (session : Nat) (action : MessageType) (payload : String) :
    ∀ combination ∈ (game.play shuffle session action payload).2.combinations,
      motive combination := by
  have played := play_played shuffle session action payload game
  generalize game.play shuffle session action payload = answer at played
  cases played with
  | refused other =>
      exact laid
  | rebuilt mover awaiting opened empty pile =>
      simp only [rebuildDrawPile, pile]
      exact laid
  | accepted mover accepted =>
      exact forall_combinations_of_accepted formed grown laid accepted

namespace Bounded

/-- A match that has been dealt to the members of a room. -/
theorem start (shuffle : Shuffle) (room : Nat) {members : List Nat} (shuffled : Bool)
    (few : members.length ≤ Room.places) :
    ((Match.seat room members shuffled).start shuffle).Bounded where
  seats := by
    rw [← length_players, start_players, length_players]
    simpa [Match.seat] using few
  cards := Nat.le_of_eq (cards_start_perm shuffle _).length_eq
  laid := nofun
  played := by
    intro seat member
    rw [cardsPlayed_of_mem_dealHands member]
    exact Nat.zero_le _
  reason := nofun

theorem played_modifySeat (bounded : game.Bounded) (place : Nat) {change : Seat → Seat}
    (same : ∀ seat, (change seat).cardsPlayed = seat.cardsPlayed) :
    ∀ seat ∈ game.seats.modify place change, seat.cardsPlayed ≤ game.tableCount :=
  forall_modifySeat_le bounded.played (Nat.le_refl _)
    (fun seat old => Nat.le_trans (Nat.le_of_eq (same seat)) old) place

theorem passTurn (bounded : game.Bounded) : game.passTurn.Bounded where
  seats := Nat.le_trans (Nat.le_of_eq (length_passTurn game)) bounded.seats
  cards := (cards_passTurn game).symm ▸ bounded.cards
  laid := (passTurn_combinations game).symm ▸ bounded.laid
  played := by
    rw [tableCount, passTurn_combinations]
    exact forall_passTurn_le bounded.played fun _ _ => rfl
  reason := (passTurn_pauseReason game).symm ▸ bounded.reason

variable {after : Match}

/-- An accepted move lays down the cards that it counts. -/
theorem accepted {session place : Nat} {seat : Seat} {action : MessageType} {payload : String}
    (bounded : game.Bounded) (mover : game.MayMove session place seat)
    (accepted : game.Accepted place seat payload action after) :
    after.Bounded := by
  have cards : after.cards.length ≤ Card.deck.length :=
    (cards_perm_of_accepted mover accepted).length_eq ▸ bounded.cards
  have laid := wellFormed_of_accepted bounded.laid accepted
  have seats {change : Seat → Seat} : (game.seats.modify place change).length ≤ Room.places :=
    Nat.le_trans (Nat.le_of_eq (List.length_modify ..)) bounded.seats
  cases accepted with
  | takeFromDeck awaiting opened top =>
      exact ⟨seats, cards, bounded.laid, bounded.played_modifySeat place fun _ => rfl, bounded.reason⟩
  | takeFromDiscard awaiting opened top =>
      exact ⟨seats, cards, bounded.laid, bounded.played_modifySeat place fun _ => rfl, bounded.reason⟩
  | @layDown played combination parsed fewer held formed =>
      have size := (Combination.ofCards?_perm formed).length_eq
      have wider : ((game.combinations ++ [combination]).flatMap Combination.cards).length =
          game.tableCount + played.length := by
        rw [List.flatMap_append, List.length_append, List.flatMap_singleton, size]
        rfl
      refine ⟨seats, cards, laid, ?_, bounded.reason⟩
      rw [tableCount, wider]
      exact forall_modifySeat_le bounded.played (Nat.le_add_right _ _)
        (fun seat old => Nat.add_le_add_right old _) place
  | @attach target code attached index combination extended cut parsed held more named found fits =>
      have size := (Combination.attach?_perm fits).length_eq
      have wider : ((game.combinations.set index extended).flatMap Combination.cards).length =
          game.tableCount + 1 := by
        have changed := sum_map_set found extended fun combination => combination.cards.length
        rw [tableCount, List.length_flatMap, List.length_flatMap]
        rw [size, List.length_cons] at changed
        omega
      refine ⟨seats, cards, laid, ?_, bounded.reason⟩
      show ∀ seat ∈ game.seats.modify place _, seat.cardsPlayed ≤
        ((game.combinations.set index extended).flatMap Combination.cards).length
      rw [wider]
      exact forall_modifySeat_le bounded.played (Nat.le_add_right _ _)
        (fun seat old => Nat.add_le_add_right old _) place
  | @discard discarded incomplete drawn parsed held more =>
      rw [cards_passTurn] at cards
      exact passTurn ⟨seats, cards, bounded.laid, bounded.played_modifySeat place fun _ => rfl, bounded.reason⟩
  | @close last only named =>
      exact ⟨seats, cards, bounded.laid, bounded.played_modifySeat place fun _ => rfl, bounded.reason⟩

theorem rebuildDrawPile (bounded : game.Bounded) (shuffle : Shuffle)
    (empty : game.drawPile = []) :
    (game.rebuildDrawPile shuffle).Bounded := by
  have cards := (cards_rebuildDrawPile_perm shuffle game empty).length_eq ▸ bounded.cards
  unfold Match.rebuildDrawPile at cards ⊢
  split at cards
  · exact bounded
  · exact ⟨bounded.seats, cards, bounded.laid, bounded.played, bounded.reason⟩

theorem play (bounded : game.Bounded) (shuffle : Shuffle) (session : Nat) (action : MessageType)
    (payload : String) :
    (game.play shuffle session action payload).2.Bounded := by
  have played := play_played shuffle session action payload game
  generalize game.play shuffle session action payload = answer at played
  cases played with
  | refused other =>
      exact bounded
  | rebuilt mover awaiting opened empty pile =>
      exact bounded.rebuildDrawPile shuffle empty
  | accepted mover accepted =>
      exact bounded.accepted mover accepted

theorem setActive (bounded : game.Bounded) (session : Nat) (active : Bool) :
    (game.setActive session active).Bounded := by
  have cards := (cards_setActive session active game).symm ▸ bounded.cards
  unfold Match.setActive at cards ⊢
  split at cards
  · refine ⟨?_, cards, bounded.laid, ?_, bounded.reason⟩
    · exact Nat.le_trans (Nat.le_of_eq (length_modifySeat ..)) bounded.seats
    · exact bounded.played_modifySeat _ fun _ => rfl
  · exact bounded

theorem pause? (bounded : game.Bounded) {reason : String}
    (brief : reason.utf8ByteSize ≤ longestReason) :
    ((game.pause? reason).getD game).Bounded := by
  unfold Match.pause?
  split
  · refine ⟨bounded.seats, bounded.cards, bounded.laid, bounded.played, ?_⟩
    rintro text given
    cases given
    exact brief
  · exact bounded

theorem resume? (bounded : game.Bounded) : (game.resume?.getD game).Bounded := by
  unfold Match.resume?
  split
  · exact ⟨bounded.seats, bounded.cards, bounded.laid, bounded.played, nofun⟩
  · exact bounded

/-- Counting the points moves no card. -/
theorem score (bounded : game.Bounded) : game.score.Bounded where
  seats := Nat.le_trans (Nat.le_of_eq (List.length_map _)) bounded.seats
  cards := (cards_score game).symm ▸ bounded.cards
  laid := bounded.laid
  played := by
    intro seat member
    obtain ⟨before, sits, rfl⟩ := List.mem_map.1 member
    exact bounded.played before sits
  reason := bounded.reason

end Bounded

/-- A move counts one turn at most. -/
theorem turnsPlayed_play_le {most : Nat} (shuffle : Shuffle) (session : Nat)
    (action : MessageType) (payload : String)
    (within : ∀ seat ∈ game.seats, seat.turnsPlayed ≤ most) :
    ∀ seat ∈ (game.play shuffle session action payload).2.seats, seat.turnsPlayed ≤ most + 1 := by
  have same : ∀ seat ∈ game.seats, seat.turnsPlayed ≤ most + 1 :=
    fun seat member => Nat.le_succ_of_le (within seat member)
  have changed (place : Nat) {change : Seat → Seat}
      (more : ∀ seat, (change seat).turnsPlayed ≤ seat.turnsPlayed + 1) :
      ∀ seat ∈ game.seats.modify place change, seat.turnsPlayed ≤ most + 1 :=
    forall_modifySeat_le within (Nat.le_succ most)
      (fun seat old => Nat.le_trans (more seat) (Nat.succ_le_succ old)) place
  have played := play_played shuffle session action payload game
  generalize game.play shuffle session action payload = answer at played
  cases played with
  | refused other =>
      exact same
  | rebuilt mover awaiting opened empty pile =>
      simp only [rebuildDrawPile, pile]
      exact same
  | @accepted _ place _ _ mover accepted =>
      cases accepted with
      | takeFromDeck | takeFromDiscard | layDown | attach | close =>
          exact changed place fun _ => Nat.le_succ _
      | discard =>
          exact forall_passTurn_le (changed place fun _ => Nat.le_refl _) fun _ _ => rfl

def longestText : Nat := 600

namespace Bounded

variable {session : Nat}

theorem tableCount_le (bounded : game.Bounded) : game.tableCount ≤ Card.deck.length := by
  have all := bounded.cards
  rw [length_cards] at all
  omega

theorem hand_le (bounded : game.Bounded) {seat : Seat} (sits : seat ∈ game.seats) :
    seat.hand.length ≤ Card.deck.length :=
  Nat.le_trans (length_hand_le sits) bounded.cards

theorem handCodes (bounded : game.Bounded) (session : Nat) :
    ((game.handCodes? session).getD "").utf8ByteSize ≤ longestText := by
  cases found : game.player? session with
  | none =>
      simp [handCodes?, found]
  | some seat =>
      have few := bounded.hand_le (List.mem_of_find?_eq_some found)
      have listed := Text.utf8ByteSize_joined_le "|" (seat.hand.map Card.code)
      have codes : ((seat.hand.map Card.code).map String.utf8ByteSize).sum =
          seat.hand.length * 2 := by
        simp [Function.comp_def, Card.utf8ByteSize_code]
      rw [codes, List.length_map, show "|".utf8ByteSize = 1 by decide] at listed
      rw [Card.length_deck] at few
      simp only [handCodes?, found, Option.map_some, Option.getD_some, longestText]
      omega

/-- The codes of the table, with commas between the combinations. -/
theorem table (bounded : game.Bounded) :
    (Text.joined "," (game.combinations.map Combination.codes)).utf8ByteSize ≤
      3 * Card.deck.length := by
  have listed := Text.utf8ByteSize_joined_le "," (game.combinations.map Combination.codes)
  have codes : ∀ combinations : List Combination,
      (∀ combination ∈ combinations, combination.WellFormed) →
        ((combinations.map Combination.codes).map String.utf8ByteSize).sum +
          combinations.length ≤ 3 * (combinations.flatMap Combination.cards).length := by
    intro combinations sound
    induction combinations with
    | nil =>
        exact Nat.zero_le _
    | cons combination combinations inductionHypothesis =>
        have first := (sound combination List.mem_cons_self).three_le
        have others := inductionHypothesis fun other member =>
          sound other (List.mem_cons_of_mem combination member)
        simp only [List.map_cons, List.sum_cons, List.length_cons, List.flatMap_cons,
          List.length_append, Combination.codes, Card.utf8ByteSize_listCode] at others ⊢
        omega
  have all := codes game.combinations bounded.laid
  have few := bounded.tableCount_le
  rw [List.length_map, show ",".utf8ByteSize = 1 by decide] at listed
  rw [tableCount] at few
  omega

theorem view {text : String} (bounded : game.Bounded) (seen : game.view? session = some text) :
    text.utf8ByteSize ≤ longestText := by
  unfold view? at seen
  split at seen
  · cases seen
  · next place seated =>
      obtain ⟨seat, sits, rfl⟩ := Option.map_eq_some_iff.1 seen
      refine Nat.le_trans (Text.utf8ByteSize_joined_le _ _) ?_
      have hand := bounded.hand_le (List.mem_of_getElem? sits)
      have top : ((game.discardPile.head?.map Card.code).getD "").utf8ByteSize ≤ 2 := by
        cases game.discardPile.head? with
        | none =>
            exact Nat.zero_le _
        | some card =>
            exact Nat.le_of_eq card.utf8ByteSize_code
      have table := bounded.table
      have marker : (game.turnMarker place).utf8ByteSize = 4 := by
        unfold turnMarker
        split <;> rfl
      have count : (toString (game.othersCardCount place)).utf8ByteSize ≤ 3 := by
        refine Text.utf8ByteSize_toString_le (by decide) ?_
        have few := Nat.le_trans (othersCardCount_le place game) bounded.cards
        rw [Card.length_deck] at few
        omega
      rw [Card.length_deck] at hand table
      simp only [List.map_cons, List.map_nil, List.sum_cons, List.sum_nil, List.length_cons,
        List.length_nil, Card.utf8ByteSize_listCode, marker, show "|".utf8ByteSize = 1 by decide,
        longestText]
      omega

end Bounded

end Match

end Cardroom
