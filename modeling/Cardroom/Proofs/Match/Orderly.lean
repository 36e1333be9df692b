import Cardroom.Proofs.Match.Conservation
import Cardroom.Proofs.Match.Seats

/-!
# Turns and hands

While nobody leaves the table, the seats take turns in a circle. `Orderly` counts the turns that are
over, and says from that number whose turn it is and how many turns each seat has played. It also
accounts for the cards: a seat has fourteen of them in its hand or laid down, and one more between a
draw and the discard; the seat that opens the match has one more until its first discard.
-/

namespace Cardroom

namespace Seat

def discarding (card : Card) (seat : Seat) : Seat :=
  { seat with
    hand := seat.hand.erase card
    phase := .turnComplete
    turnsPlayed := seat.turnsPlayed + 1 }

/-- The cards of a seat add up, and some of them are in its hand. -/
structure IsBalanced (seat : Seat) : Prop where
  held : seat.hand.length + seat.cardsPlayed =
    14 + (if seat.phase = .awaitingDiscard then 1 else 0) + (if seat.isOpening then 1 else 0)
  once : seat.phase = .awaitingDiscard → seat.isOpening = false
  holding : seat.hand ≠ []

namespace IsBalanced

variable {seat : Seat}

theorem receive (balanced : seat.IsBalanced) (fresh : seat.phase ≠ .awaitingDiscard)
    (opened : seat.isOpening = false) (card : Card) :
    IsBalanced { seat with hand := seat.hand ++ [card], phase := .awaitingDiscard } := by
  have held := balanced.held
  rw [if_neg fresh, opened] at held
  have still : isOpening { seat with hand := seat.hand ++ [card], phase := .awaitingDiscard } =
      false := opened
  refine ⟨?_, fun _ => still, List.append_ne_nil_of_right_ne_nil _ (List.cons_ne_nil card [])⟩
  rw [still, if_pos rfl, List.length_append, List.length_singleton]
  simp only [Bool.false_eq_true, if_false] at held ⊢
  omega

theorem play (balanced : seat.IsBalanced) {hand : List Card} {count : Nat}
    (parted : hand.length + count = seat.hand.length) (left : hand ≠ []) :
    IsBalanced { seat with hand, cardsPlayed := seat.cardsPlayed + count } := by
  refine ⟨?_, balanced.once, left⟩
  have total : hand.length + (seat.cardsPlayed + count) =
      seat.hand.length + seat.cardsPlayed := by omega
  exact total.trans balanced.held

theorem discard (balanced : seat.IsBalanced) {card : Card} (held : card ∈ seat.hand)
    (incomplete : seat.phase ≠ .turnComplete)
    (drawn : seat.phase = .awaitingDraw → seat.isOpening = true)
    (left : seat.hand.erase card ≠ []) :
    (seat.discarding card).IsBalanced := by
  have bonus : seat.hand.length + seat.cardsPlayed = 15 := by
    rw [balanced.held]
    cases phase : seat.phase with
    | awaitingDraw =>
        simp [drawn phase]
    | awaitingDiscard =>
        simp [balanced.once phase]
    | turnComplete =>
        exact absurd phase incomplete
  have erased := List.length_erase_of_mem held
  have positive := List.length_pos_of_mem held
  refine ⟨?_, fun waiting => Phase.noConfusion waiting, left⟩
  simp [discarding, isOpening]
  omega

/-- A seat that has no discard to make may be opened for drawing. -/
theorem reopen (balanced : seat.IsBalanced) (free : seat.phase ≠ .awaitingDiscard) :
    IsBalanced { seat with phase := .awaitingDraw } := by
  have held := balanced.held
  rw [if_neg free] at held
  exact ⟨held, fun waiting => Phase.noConfusion waiting, balanced.holding⟩

theorem le_fifteen (balanced : seat.IsBalanced) :
    seat.hand.length + seat.cardsPlayed ≤ 15 := by
  rw [balanced.held]
  by_cases waiting : seat.phase = .awaitingDiscard
  · simp [waiting, balanced.once waiting]
  · rw [if_neg waiting]
    split <;> omega

end IsBalanced

/-- The seat at this place of so many is as the turns that are over have left it. -/
structure IsAfter (count turns place : Nat) (seat : Seat) : Prop where
  active : seat.active = true
  starter : seat.takesFifteen = (place == 0)
  turnsPlayed : seat.turnsPlayed = turns / count + if place < turns % count then 1 else 0
  balanced : seat.IsBalanced
  waiting : place ≠ turns % count → seat.phase ≠ .awaitingDiscard
  moving : place = turns % count → seat.phase ≠ .turnComplete

/-- A seat that holds other cards or does something else, and is the same otherwise. -/
structure SameChair (before after : Seat) : Prop where
  session : after.session = before.session
  active : after.active = before.active
  takesFifteen : after.takesFifteen = before.takesFifteen
  turnsPlayed : after.turnsPlayed = before.turnsPlayed

theorem rounds_succ {count place : Nat} (turns : Nat) (bound : place < count) :
    (turns + 1) / count + (if place < (turns + 1) % count then 1 else 0) =
      turns / count + (if place < turns % count then 1 else 0) +
        (if place = turns % count then 1 else 0) := by
  have positive : 0 < count := Nat.zero_lt_of_lt bound
  have parted := Nat.div_add_mod turns count
  have below := Nat.mod_lt turns positive
  generalize turns / count = rounds at parted ⊢
  generalize turns % count = rest at parted below ⊢
  -- The last seat of the circle ends a round, any other one is followed by one of the same round.
  by_cases last : rest + 1 = count
  · have next : (turns + 1) / count = rounds + 1 ∧ (turns + 1) % count = 0 := by
      refine (Nat.div_mod_unique positive).2 ⟨?_, positive⟩
      rw [Nat.mul_add, Nat.mul_one]
      omega
    rw [next.1, next.2]
    split <;> split <;> split <;> omega
  · have next : (turns + 1) / count = rounds ∧ (turns + 1) % count = rest + 1 := by
      refine (Nat.div_mod_unique positive).2 ⟨?_, ?_⟩ <;> omega
    rw [next.1, next.2]
    split <;> split <;> split <;> omega

namespace IsAfter

variable {count turns place : Nat} {seat after : Seat}

theorem isOpening_iff (fits : seat.IsAfter count turns place) (turn : place = turns % count) :
    seat.isOpening = true ↔ turns = 0 := by
  have played := fits.turnsPlayed
  have parted := Nat.div_add_mod turns count
  rw [if_neg (Nat.not_lt.2 (Nat.le_of_eq turn.symm)), Nat.add_zero] at played
  rw [isOpening, fits.starter, played, Bool.and_eq_true, beq_iff_eq, beq_iff_eq, turn]
  constructor
  · rintro ⟨rest, rounds⟩
    rw [rest, rounds] at parted
    omega
  · rintro rfl
    exact ⟨Nat.zero_mod _, Nat.zero_div _⟩

theorem change (fits : seat.IsAfter count turns place) (turn : place = turns % count)
    (chair : seat.SameChair after) (balanced : after.IsBalanced)
    (moving : after.phase ≠ .turnComplete) :
    after.IsAfter count turns place where
  active := chair.active.trans fits.active
  starter := chair.takesFifteen.trans fits.starter
  turnsPlayed := chair.turnsPlayed.trans fits.turnsPlayed
  balanced := balanced
  waiting other := absurd turn other
  moving _ := moving

/-- Once a turn is over, the seat that comes next may draw. -/
theorem pass (fits : seat.IsAfter count turns place) (bound : place < count)
    (active : after.active = seat.active) (starter : after.takesFifteen = seat.takesFifteen)
    (turnsPlayed : after.turnsPlayed =
      seat.turnsPlayed + if place = turns % count then 1 else 0)
    (balanced : after.IsBalanced) (free : after.phase ≠ .awaitingDiscard) :
    (if place = (turns + 1) % count then { after with phase := .awaitingDraw }
      else after).IsAfter count (turns + 1) place := by
  rw [fits.turnsPlayed, ← rounds_succ turns bound] at turnsPlayed
  have same := And.intro (active.trans fits.active) (starter.trans fits.starter)
  split
  · next here =>
      exact ⟨same.1, same.2, turnsPlayed, balanced.reopen free, fun other => absurd here other,
        fun _ => Phase.noConfusion⟩
  · next elsewhere =>
      exact ⟨same.1, same.2, turnsPlayed, balanced, fun _ => free,
        fun here => absurd here elsewhere⟩

end IsAfter

end Seat

namespace Match

/-! ## Turns -/

/-- The match goes round the table of these members and so many turns are over. -/
structure Orderly (members : List Nat) (turns : Nat) (game : Match) : Prop where
  seated : members ≠ []
  sessions : game.seats.map Seat.session = members
  current : game.current = turns % members.length
  fits : ∀ {place : Nat} {seat : Seat}, game.seats[place]? = some seat →
    seat.IsAfter members.length turns place
  /-- There is a card to take for whoever has to draw. -/
  pile : ∀ {seat : Seat}, game.seats[game.current]? = some seat → seat.phase = .awaitingDraw →
    game.discardPile ≠ []
  /-- The cards on the table are those that the seats have laid down. -/
  table : (game.combinations.map fun combination => combination.cards.length).sum =
    (game.seats.map Seat.cardsPlayed).sum

theorem allActive_modifySeat (game : Match) (place : Nat) {change : Seat → Seat}
    (same : ∀ seat, (change seat).active = seat.active) :
    (game.modifySeat place change).allActive = game.allActive := by
  have flags := congrArg (List.all · id) (map_seats_modifySeat game place same)
  simpa only [List.all_map, Function.id_comp, allActive] using flags

theorem passTurn_of_allActive {game : Match} (seated : 0 < game.seats.length)
    (present : game.allActive = true) :
    let next := (game.current + 1) % game.seats.length
    game.passTurn =
      { game with current := next }.modifySeat next fun seat =>
        { seat with phase := .awaitingDraw } := by
  intro next
  have bound : next < game.seats.length := Nat.mod_lt _ seated
  have active : game.seats[next].active = true :=
    List.all_eq_true.1 present _ (List.getElem_mem bound)
  obtain ⟨others, count⟩ := Nat.exists_eq_add_of_lt seated
  have steps : List.range' 1 game.seats.length = 1 :: List.range' 2 others := by
    rw [count, Nat.zero_add, List.range'_succ]
  have first : game.nextSeat? = some next := by
    rw [nextSeat?, steps, List.map_cons, List.find?_cons]
    simp [next, List.getElem?_eq_getElem bound, active]
  rw [passTurn, first]

namespace Orderly

variable {members : List Nat} {turns : Nat} {game after : Match} {seat : Seat}

theorem length_seats (orderly : game.Orderly members turns) :
    game.seats.length = members.length := by
  rw [← orderly.sessions, List.length_map]

theorem place_lt (orderly : game.Orderly members turns) {place : Nat}
    (sits : game.seats[place]? = some seat) :
    place < members.length := by
  rw [← orderly.length_seats]
  exact (List.getElem?_eq_some_iff.1 sits).1

theorem allActive (orderly : game.Orderly members turns) : game.allActive = true := by
  refine List.all_eq_true.2 fun seat member => ?_
  obtain ⟨place, sits⟩ := List.mem_iff_getElem?.1 member
  exact (orderly.fits sits).active

theorem congr (orderly : game.Orderly members turns) (seats : after.seats = game.seats)
    (current : after.current = game.current) (combinations : after.combinations = game.combinations)
    (pile : game.discardPile ≠ [] → after.discardPile ≠ []) :
    after.Orderly members turns where
  seated := orderly.seated
  sessions := seats ▸ orderly.sessions
  current := current.trans orderly.current
  fits sits := orderly.fits (seats ▸ sits)
  pile sits awaiting := pile (orderly.pile (current ▸ seats ▸ sits) awaiting)
  table := by
    rw [seats, combinations]
    exact orderly.table

/-- The seat whose turn it is does something and keeps the turn. -/
theorem change (orderly : game.Orderly members turns)
    (sits : game.seats[game.current]? = some seat) {change : Seat → Seat}
    (seats : after.seats = (game.modifySeat game.current change).seats)
    (current : after.current = game.current) (chair : ∀ seat : Seat, seat.SameChair (change seat))
    (balanced : (change seat).IsBalanced) (moving : (change seat).phase ≠ .turnComplete)
    (pile : (change seat).phase = .awaitingDraw → after.discardPile ≠ [])
    (table : (after.combinations.map fun combination => combination.cards.length).sum +
        seat.cardsPlayed =
      (game.combinations.map fun combination => combination.cards.length).sum +
        (change seat).cardsPlayed) :
    after.Orderly members turns where
  seated := orderly.seated
  sessions := by
    rw [seats, map_seats_modifySeat game _ fun seat => (chair seat).session]
    exact orderly.sessions
  current := current.trans orderly.current
  fits found := by
    rw [seats] at found
    obtain ⟨before, there, rfl⟩ := exists_of_modifySeat found
    split
    · next here =>
        subst here
        rw [sits] at there
        cases there
        exact (orderly.fits sits).change orderly.current (chair seat) balanced moving
    · exact orderly.fits there
  pile found awaiting := by
    rw [seats, current] at found
    obtain ⟨before, there, rfl⟩ := exists_of_modifySeat found
    rw [sits] at there
    cases there
    rw [if_pos rfl] at awaiting
    exact pile awaiting
  table := by
    have laid := sum_map_set sits (change seat) Seat.cardsPlayed
    rw [← modifySeat_seats_eq_set change sits, ← seats] at laid
    have before := orderly.table
    omega

/-- The seats once the one whose turn it was has discarded and the next one may draw. -/
theorem isAfter_pass (orderly : game.Orderly members turns)
    (sits : game.seats[game.current]? = some seat) {card : Card}
    (balanced : (seat.discarding card).IsBalanced) {place : Nat} {before : Seat}
    (there : game.seats[place]? = some before) :
    let closed := if place = game.current then before.discarding card else before
    (if place = (turns + 1) % members.length then { closed with phase := .awaitingDraw }
      else closed).IsAfter members.length (turns + 1) place := by
  intro closed
  have fits := orderly.fits there
  refine fits.pass (orderly.place_lt there) ?_ ?_ ?_ ?_ ?_
  · simp only [closed]
    split <;> rfl
  · simp only [closed]
    split <;> rfl
  · rw [← orderly.current]
    simp only [closed]
    split <;> rfl
  · simp only [closed]
    split
    · next here =>
        rw [here, sits] at there
        cases there
        exact balanced
    · exact fits.balanced
  · simp only [closed]
    split
    · exact Phase.noConfusion
    · next elsewhere =>
        rw [orderly.current] at elsewhere
        exact fits.waiting elsewhere

/-- Once the seat whose turn it is has discarded, the turn is over. -/
theorem pass (orderly : game.Orderly members turns)
    (sits : game.seats[game.current]? = some seat) {card : Card}
    (balanced : (seat.discarding card).IsBalanced)
    (seats : after.seats = (game.modifySeat game.current (Seat.discarding card)).seats)
    (current : after.current = game.current) (combinations : after.combinations = game.combinations)
    (pile : after.discardPile ≠ []) :
    after.passTurn.Orderly members (turns + 1) := by
  have sessions : after.seats.map Seat.session = members := by
    rw [seats]
    refine (map_seats_modifySeat game _ ?_).trans orderly.sessions
    exact fun _ => rfl
  have laid : after.seats.map Seat.cardsPlayed = game.seats.map Seat.cardsPlayed := by
    rw [seats]
    exact map_seats_modifySeat game _ fun _ => rfl
  have present : after.allActive = true := by
    have same (seat : Seat) : (seat.discarding card).active = seat.active := rfl
    rw [Match.allActive, seats]
    exact (allActive_modifySeat game game.current same).trans orderly.allActive
  have count : after.seats.length = members.length := by
    rw [← sessions, List.length_map]
  have next : (after.current + 1) % after.seats.length = (turns + 1) % members.length := by
    rw [count, current, orderly.current, Nat.mod_add_mod]
  have positive : 0 < after.seats.length :=
    Nat.lt_of_lt_of_eq (List.length_pos_of_ne_nil orderly.seated) count.symm
  rw [passTurn_of_allActive positive present, next]
  refine ⟨orderly.seated, ?_, rfl, ?_, fun _ _ => pile, ?_⟩
  · refine (map_seats_modifySeat _ _ ?_).trans sessions
    exact fun _ => rfl
  · intro place opened found
    obtain ⟨closed, there, rfl⟩ := exists_of_modifySeat found
    rw [seats] at there
    obtain ⟨before, origin, rfl⟩ := exists_of_modifySeat there
    exact orderly.isAfter_pass sits balanced origin
  · rw [map_seats_modifySeat]
    · show (after.combinations.map _).sum = (after.seats.map _).sum
      rw [combinations, laid]
      exact orderly.table
    · exact fun _ => rfl

theorem draw (orderly : game.Orderly members turns)
    (sits : game.seats[game.current]? = some seat) (waiting : seat.phase ≠ .awaitingDiscard)
    (opened : seat.isOpening = false) {card : Card}
    (seats : after.seats = (game.receive game.current card).seats)
    (current : after.current = game.current)
    (combinations : after.combinations = game.combinations) :
    after.Orderly members turns :=
  orderly.change sits seats current (fun _ => ⟨rfl, rfl, rfl, rfl⟩)
    ((orderly.fits sits).balanced.receive waiting opened card) Phase.noConfusion
    Phase.noConfusion (by rw [combinations])

theorem play (orderly : game.Orderly members turns)
    (sits : game.seats[game.current]? = some seat) (hand : List Card → List Card) (count : Nat)
    (parted : (hand seat.hand).length + count = seat.hand.length) (left : hand seat.hand ≠ [])
    (seats : after.seats = (game.modifySeat game.current fun seat =>
      { seat with hand := hand seat.hand, cardsPlayed := seat.cardsPlayed + count }).seats)
    (current : after.current = game.current) (pile : after.discardPile = game.discardPile)
    (table : (after.combinations.map fun combination => combination.cards.length).sum =
      (game.combinations.map fun combination => combination.cards.length).sum + count) :
    after.Orderly members turns := by
  have fits := orderly.fits sits
  refine orderly.change sits seats current (fun _ => ⟨rfl, rfl, rfl, rfl⟩)
    (fits.balanced.play parted left) (fits.moving orderly.current) ?_ ?_
  · intro awaiting
    rw [pile]
    exact orderly.pile sits awaiting
  · simp only [table]
    omega

/-- A move that is accepted keeps the order. A turn more is over after a discard. -/
theorem of_accepted (orderly : game.Orderly members turns)
    (sits : game.seats[game.current]? = some seat) {action : MessageType} {payload : String}
    (accepted : game.Accepted game.current seat payload action after) :
    after.status = .finished ∨
      after.Orderly members (turns + if action = .discard then 1 else 0) := by
  cases accepted with
  | takeFromDeck awaiting opened top =>
      refine .inr (orderly.draw sits ?_ opened rfl rfl rfl)
      rw [awaiting]
      exact Phase.noConfusion
  | takeFromDiscard waiting opened top =>
      exact .inr (orderly.draw sits waiting opened rfl rfl rfl)
  | @layDown cards combination parsed fewer held formed =>
      have parted := (List.subperm_append_diff_self_of_count_le
        fun card _ => held.count_le card).length_eq
      rw [List.length_append] at parted
      refine .inr (orderly.play sits (·.diff cards) cards.length ?_ ?_ rfl rfl rfl ?_)
      · omega
      · intro none
        rw [none, List.length_nil] at parted
        omega
      · have laid := (Combination.ofCards?_perm formed).length_eq
        simp only [List.map_append, List.sum_append, List.map_singleton, List.sum_singleton, laid]
  | @attach target code card index combination extended cut parsed held more named found fits =>
      have erased := List.length_erase_of_mem held
      refine .inr (orderly.play sits (·.erase card) 1 ?_ ?_ rfl rfl rfl ?_)
      · omega
      · exact erase_ne_nil held (Nat.ne_of_gt more)
      · have table := sum_map_set found extended fun combination => combination.cards.length
        have grown := (Combination.attach?_perm fits).length_eq
        rw [List.length_cons] at grown
        simp only [modifySeat]
        omega
  | discard incomplete drawn parsed held left =>
      have balanced := (orderly.fits sits).balanced.discard held incomplete drawn left
      exact .inr (orderly.pass sits balanced rfl rfl rfl (List.cons_ne_nil _ _))
  | close only named =>
      exact .inl rfl

end Orderly

/-! ## Dealing -/

theorem exists_of_dealHands {pile : List Card} {seats : List Seat}
    (enough : (seats.map Seat.handSize).sum ≤ pile.length) {place : Nat} {seat : Seat}
    (sits : (dealHands pile seats).1[place]? = some seat) :
    ∃ before hand, seats[place]? = some before ∧ hand.length = before.handSize ∧
      seat = before.dealt hand := by
  induction seats generalizing pile place with
  | nil =>
      simp [dealHands] at sits
  | cons first others inductionHypothesis =>
      rw [List.map_cons, List.sum_cons] at enough
      cases place with
      | zero =>
          cases sits
          refine ⟨first, pile.take first.handSize, rfl, ?_, rfl⟩
          rw [List.length_take]
          omega
      | succ place =>
          refine inductionHypothesis ?_ sits
          rw [List.length_drop]
          omega

theorem length_dealHands_rest (pile : List Card) (seats : List Seat) :
    (dealHands pile seats).2.length = pile.length - (seats.map Seat.handSize).sum := by
  induction seats generalizing pile with
  | nil =>
      rfl
  | cons first others inductionHypothesis =>
      simp only [dealHands, inductionHypothesis, List.length_drop, List.map_cons, List.sum_cons]
      omega

theorem sum_handSize_later (members : List Nat) (start : Nat) :
    (((members.zipIdx (start + 1)).map fun member =>
      ({ session := member.1, takesFifteen := member.2 == 0 } : Seat)).map Seat.handSize).sum =
        14 * members.length := by
  induction members generalizing start with
  | nil =>
      rfl
  | cons member members inductionHypothesis =>
      rw [List.zipIdx_cons, List.map_cons, List.map_cons, List.sum_cons, inductionHypothesis]
      simp [Seat.handSize]
      omega

theorem sum_handSize_seat (room : Nat) {members : List Nat} (shuffled : Bool)
    (seated : members ≠ []) :
    ((Match.seat room members shuffled).seats.map Seat.handSize).sum =
      14 * members.length + 1 := by
  obtain ⟨first, others, rfl⟩ := List.exists_cons_of_ne_nil seated
  have later := sum_handSize_later others 0
  simp only [Match.seat, List.zipIdx_cons, List.map_cons, List.sum_cons, later]
  simp [Seat.handSize]
  omega

theorem exists_of_seat {room place : Nat} {members : List Nat} {shuffled : Bool} {seat : Seat}
    (sits : (Match.seat room members shuffled).seats[place]? = some seat) :
    ∃ session, seat = { session, takesFifteen := place == 0 } := by
  simp only [Match.seat, List.getElem?_map, List.getElem?_zipIdx, Option.map_map] at sits
  obtain ⟨session, _, rfl⟩ := Option.map_eq_some_iff.1 sits
  exact ⟨session, by simp⟩

theorem isAfter_dealt {count place session : Nat} {hand : List Card}
    (full : hand.length = Seat.handSize { session, takesFifteen := place == 0 }) :
    (Seat.dealt hand { session, takesFifteen := place == 0 }).IsAfter count 0 place where
  active := rfl
  starter := rfl
  turnsPlayed := by simp [Seat.dealt]
  balanced := by
    refine ⟨?_, Phase.noConfusion, ?_⟩
    · by_cases first : place = 0 <;>
        simp [Seat.dealt, Seat.isOpening, Seat.handSize, first, full]
    · intro none
      have empty : hand.length = 0 := congrArg List.length none
      rw [empty, Seat.handSize] at full
      split at full <;> cases full
  waiting _ := Phase.noConfusion
  moving _ := Phase.noConfusion

/-- A match for no more than seven begins with the first of them. -/
theorem orderly_start (shuffle : Shuffle) (room : Nat) {members : List Nat} (shuffled : Bool)
    (seated : members ≠ []) (few : members.length ≤ 7) :
    ((Match.seat room members shuffled).start shuffle).Orderly members 0 := by
  have deck : (newPile shuffle shuffled).length = 108 :=
    (newPile_perm shuffle shuffled).length_eq.trans Card.length_deck
  have sizes := sum_handSize_seat room shuffled seated
  have enough : ((Match.seat room members shuffled).seats.map Seat.handSize).sum ≤
      (newPile shuffle shuffled).length := by
    omega
  have dealt {place : Nat} {seat : Seat}
      (sits : ((Match.seat room members shuffled).start shuffle).seats[place]? = some seat) :
      ∃ session hand, seat = Seat.dealt hand { session, takesFifteen := place == 0 } ∧
        hand.length = Seat.handSize { session, takesFifteen := place == 0 } := by
    obtain ⟨before, hand, there, full, rfl⟩ := exists_of_dealHands enough sits
    obtain ⟨session, rfl⟩ := exists_of_seat there
    exact ⟨session, hand, rfl, full⟩
  refine ⟨seated, ?_, ?_, ?_, ?_, ?_⟩
  · rw [← map_fst_players, start_players, seat_players, List.map_map]
    exact List.map_id members
  · obtain ⟨first, others, rfl⟩ := List.exists_cons_of_ne_nil seated
    simp [start, Match.seat, dealHands, Seat.dealt, List.findIdx?_cons]
  · intro place seat sits
    obtain ⟨session, hand, rfl, full⟩ := dealt sits
    exact isAfter_dealt full
  · intro seat _ _ empty
    have rest := length_dealHands_rest (newPile shuffle shuffled)
      (Match.seat room members shuffled).seats
    have turned : min 1 (dealHands (newPile shuffle shuffled) _).2.length = 0 :=
      List.length_take.symm.trans (congrArg List.length empty)
    omega
  · refine (List.sum_eq_zero_iff_forall_eq_nat.2 fun count member => ?_).symm
    obtain ⟨seat, there, rfl⟩ := List.mem_map.1 member
    obtain ⟨place, sits⟩ := List.mem_iff_getElem?.1 there
    obtain ⟨session, hand, rfl, _⟩ := dealt sits
    rfl

end Match

end Cardroom
