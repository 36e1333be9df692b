import Cardroom.Match.View
import Cardroom.Proofs.Match.Seats

/-!
# What is hidden from a player

A player sees of the other seats how many cards they hold, and not which. Two matches *look alike*
to a player when they differ in nothing else. `play_looksAlike` says that what a player is shown,
how the player's moves are answered, and what the player is shown after them, are the same in
matches that look alike.

The step is `play_withHands`: giving other hands to the other seats and then making a move is the
same as making the move first. With the hands that the seats have, this says that a move leaves the
hands of the others as they are.
-/

namespace Cardroom

namespace Seat

/-- What the others see of a seat: everything but which cards are in the hand. -/
def back (seat : Seat) : Seat × Nat :=
  ({ seat with hand := [] }, seat.hand.length)

def withHand (hand : List Card) (seat : Seat) : Seat :=
  { seat with hand }

@[simp]
theorem withHand_hand (seat : Seat) : seat.withHand seat.hand = seat := rfl

@[simp]
theorem hand_withHand (hand : List Card) (seat : Seat) : (seat.withHand hand).hand = hand := rfl

/-- Seats that the others cannot tell apart differ in the hand only. -/
theorem eq_withHand_of_back {left right : Seat} (same : left.back = right.back) :
    right = left.withHand right.hand := by
  have rest : { left with hand := [] } = { right with hand := [] } := congrArg Prod.fst same
  calc right = ({ right with hand := [] } : Seat).withHand right.hand := rfl
    _ = ({ left with hand := [] } : Seat).withHand right.hand := by rw [← rest]
    _ = left.withHand right.hand := rfl

end Seat

namespace Match

/-- Two matches are the same but for which cards are in the hands of others than this player. -/
structure LooksAlike (session : Nat) (left right : Match) : Prop where
  table : { left with seats := [] } = { right with seats := [] }
  backs : left.seats.map Seat.back = right.seats.map Seat.back
  own : ∀ place, left.seatOf? session = some place → left.seats[place]? = right.seats[place]?

def KeepsOthers (session : Nat) (before after : Match) : Prop :=
  ∀ place, before.seatOf? session ≠ some place →
    (after.seats[place]?).map Seat.hand = (before.seats[place]?).map Seat.hand

def withHands (place : Nat) (hands : Nat → List Card) (game : Match) : Match :=
  { game with
    seats := game.seats.mapIdx fun index seat =>
      if index = place then seat else seat.withHand (hands index) }

def handAt (game : Match) (place : Nat) : List Card :=
  ((game.seats[place]?).map Seat.hand).getD []

section

variable {game left right : Match} {session place : Nat} {hands : Nat → List Card}

@[simp]
theorem withHands_status : (game.withHands place hands).status = game.status := rfl

@[simp]
theorem withHands_current : (game.withHands place hands).current = game.current := rfl

@[simp]
theorem withHands_drawPile : (game.withHands place hands).drawPile = game.drawPile := rfl

@[simp]
theorem withHands_discardPile : (game.withHands place hands).discardPile = game.discardPile := rfl

@[simp]
theorem withHands_combinations :
    (game.withHands place hands).combinations = game.combinations := rfl

@[simp]
theorem getElem?_withHands (index : Nat) :
    (game.withHands place hands).seats[index]? =
      (game.seats[index]?).map fun seat =>
        if index = place then seat else seat.withHand (hands index) := by
  simp [withHands]

theorem getElem?_withHands_self :
    (game.withHands place hands).seats[place]? = game.seats[place]? := by
  simp

theorem withHands_eq_of_seats (same : (game.withHands place hands).seats = right.seats)
    (table : { game with seats := [] } = { right with seats := [] }) :
    game.withHands place hands = right := by
  calc game.withHands place hands
      = { ({ game with seats := [] } : Match) with
          seats := (game.withHands place hands).seats } := rfl
    _ = { ({ right with seats := [] } : Match) with seats := right.seats } := by rw [table, same]
    _ = right := rfl

theorem withHands_handAt (game : Match) (place : Nat) :
    game.withHands place game.handAt = game := by
  apply withHands_eq_of_seats _ rfl
  apply List.ext_getElem?
  intro index
  rw [getElem?_withHands]
  cases sits : game.seats[index]? with
  | none =>
      rfl
  | some seat =>
      simp [handAt, sits]

/-- The hands make no difference to what does not look at them. -/
theorem map_seats_withHands {α : Type} {part : Seat → α}
    (blind : ∀ seat hand, part (seat.withHand hand) = part seat) :
    (game.withHands place hands).seats.map part = game.seats.map part := by
  apply List.ext_getElem?
  intro index
  rw [List.getElem?_map, List.getElem?_map, getElem?_withHands, Option.map_map]
  congr 1
  funext seat
  by_cases here : index = place <;> simp [here, blind]

theorem seatOf?_eq (game : Match) (session : Nat) :
    game.seatOf? session = (game.seats.map Seat.session).findIdx? (· == session) := by
  rw [List.findIdx?_map]
  rfl

@[simp]
theorem seatOf?_withHands :
    (game.withHands place hands).seatOf? session = game.seatOf? session := by
  rw [seatOf?_eq, map_seats_withHands fun _ _ => rfl, ← seatOf?_eq]

/-- A change of a seat comes out the same when it is a change of the seat that keeps its hand, and
when it does not touch the hand. -/
theorem modifySeat_withHands (game : Match) {change : Seat → Seat} (turn : Nat)
    (blind : turn = place ∨
      ∀ seat hand, change (seat.withHand hand) = (change seat).withHand hand) :
    (game.withHands place hands).modifySeat turn change =
      (game.modifySeat turn change).withHands place hands := by
  have same : ((game.withHands place hands).modifySeat turn change).seats =
      ((game.modifySeat turn change).withHands place hands).seats := by
    apply List.ext_getElem?
    intro index
    simp only [modifySeat, getElem?_withHands, List.getElem?_modify, Option.map_eq_map,
      Option.map_map]
    congr 1
    funext seat
    by_cases here : turn = index
    · by_cases own : index = place
      · simp [here, own]
      · have other := blind.resolve_left fun same => own (here.symm.trans same)
        simp [here, own, other]
    · simp [here]
  exact congrArg (fun seats => { game with seats }) same

theorem nextSeat?_withHands : (game.withHands place hands).nextSeat? = game.nextSeat? := by
  have active : ∀ index : Nat, (((game.withHands place hands).seats[index]?).map Seat.active) =
      (game.seats[index]?).map Seat.active := by
    intro index
    rw [← List.getElem?_map, map_seats_withHands fun _ _ => rfl, List.getElem?_map]
  have length : (game.withHands place hands).seats.length = game.seats.length := by
    simp [withHands]
  simp only [nextSeat?, active, length, withHands_current]

theorem passTurn_withHands (game : Match) :
    (game.withHands place hands).passTurn = game.passTurn.withHands place hands := by
  unfold passTurn
  rw [nextSeat?_withHands]
  cases game.nextSeat? with
  | none =>
      rfl
  | some next =>
      exact modifySeat_withHands { game with current := next } next (Or.inr fun _ _ => rfl)

theorem rebuildDrawPile_withHands (shuffle : Shuffle) :
    (game.withHands place hands).rebuildDrawPile shuffle =
      (game.rebuildDrawPile shuffle).withHands place hands := by
  unfold rebuildDrawPile
  rw [withHands_discardPile]
  cases game.discardPile <;> rfl

theorem receive_withHands (card : Card) (game : Match) :
    (game.withHands place hands).receive place card =
      (game.receive place card).withHands place hands :=
  modifySeat_withHands game place (Or.inl rfl)

theorem turnMarker_withHands (turn : Nat) :
    (game.withHands place hands).turnMarker turn = game.turnMarker turn := rfl

/-! ## Moves -/

def Answer.withHands (place : Nat) (hands : Nat → List Card) (answer : Answer) : Answer :=
  (answer.1, answer.2.withHands place hands)

variable {seat : Seat} {payload : String}

theorem takeFromDeck_withHands (shuffle : Shuffle) :
    (game.withHands place hands).takeFromDeck shuffle place seat =
      (game.takeFromDeck shuffle place seat).withHands place hands := by
  unfold takeFromDeck
  cases seat.phase with
  | awaitingDiscard =>
      rfl
  | turnComplete =>
      rfl
  | awaitingDraw =>
      by_cases opening : seat.isOpening
      · simp only [opening, if_true]
        rfl
      · simp only [opening, rebuildDrawPile_withHands, withHands_drawPile, if_false,
          Bool.false_eq_true]
        cases game.drawPile with
        | cons card pile =>
            exact congrArg (Prod.mk _) (receive_withHands card { game with drawPile := pile })
        | nil =>
            by_cases empty : (game.rebuildDrawPile shuffle).drawPile = [] <;>
              simp [empty, Answer.withHands]

theorem takeFromDiscard_withHands :
    (game.withHands place hands).takeFromDiscard place seat =
      (game.takeFromDiscard place seat).withHands place hands := by
  unfold takeFromDiscard
  by_cases drew : seat.phase = .awaitingDiscard
  · simp only [drew, if_true]
    rfl
  · simp only [drew, if_false, withHands_discardPile]
    cases game.discardPile with
    | nil =>
        rfl
    | cons card pile =>
        by_cases opening : seat.isOpening
        · simp only [opening, if_true]
          rfl
        · simp only [opening, Bool.false_eq_true, if_false]
          exact congrArg (Prod.mk _) (receive_withHands card { game with discardPile := pile })

theorem layDown_withHands :
    (game.withHands place hands).layDown place seat payload =
      (game.layDown place seat payload).withHands place hands := by
  unfold layDown
  by_cases few : payload.utf8ByteSize < 2 * Combination.fewestCards
  · simp only [few, if_true]
    rfl
  · simp only [few, if_false]
    cases Card.ofListCode payload with
    | error error =>
        rfl
    | ok cards =>
        by_cases all : seat.hand.length ≤ cards.length
        · simp only [all, if_true]
          rfl
        · simp only [all, if_false]
          cases takePlaces seat.hand [] cards with
          | error error =>
              rfl
          | ok places =>
              cases Combination.ofCards? seat.session cards with
              | none =>
                  rfl
              | some combination =>
                  simp only [modifySeat_withHands game place (Or.inl rfl)]
                  rfl

theorem attach_withHands :
    (game.withHands place hands).attach place seat payload =
      (game.attach place seat payload).withHands place hands := by
  unfold attach
  cases Text.cut? payload with
  | none =>
      rfl
  | some halves =>
      dsimp only
      cases Card.ofCode halves.2 with
      | error error =>
          rfl
      | ok card =>
          by_cases held : card ∈ seat.hand
          · by_cases last : seat.hand.length ≤ 1
            · simp only [held, last, not_true_eq_false, if_false, if_true]
              rfl
            · simp only [held, last, not_true_eq_false, if_false, withHands_combinations]
              cases game.combinations.findIdx? fun found => found.codes == halves.1 with
              | none =>
                  rfl
              | some index =>
                  dsimp only
                  cases game.combinations[index]?.bind (Combination.attach? card) with
                  | none =>
                      rfl
                  | some extended =>
                      let grown : Match :=
                        { game with combinations := game.combinations.set index extended }
                      exact congrArg (Prod.mk _)
                        (modifySeat_withHands grown place (Or.inl rfl))
          · simp only [held, not_false_eq_true, if_true]
            rfl

theorem discard_withHands :
    (game.withHands place hands).discard place seat payload =
      (game.discard place seat payload).withHands place hands := by
  unfold discard
  by_cases complete : seat.phase = .turnComplete
  · simp only [complete, if_true]
    rfl
  · by_cases early : seat.phase = .awaitingDraw ∧ !seat.isOpening
    · simp only [early, and_self, if_true]
      rfl
    · by_cases last : seat.hand.length = 1
      · simp only [complete, early, last, if_false, if_true]
        rfl
      · simp only [complete, early, last, if_false]
        cases Card.ofCode payload with
        | error error =>
            rfl
        | ok card =>
            by_cases held : card ∈ seat.hand
            · simp only [held, not_true_eq_false, if_false,
                modifySeat_withHands game place (Or.inl rfl), withHands_discardPile]
              by_cases empty : seat.hand.erase card = []
              · simp only [empty, if_true]
                rfl
              · simp only [empty, if_false]
                exact congrArg (Prod.mk _) (passTurn_withHands
                  { game.modifySeat place _ with discardPile := card :: game.discardPile })
            · simp only [held, not_false_eq_true, if_true]
              rfl

theorem close_withHands :
    (game.withHands place hands).close place seat payload =
      (game.close place seat payload).withHands place hands := by
  unfold close
  split
  · rename_i card hand
    by_cases named : card.code = payload
    · simp only [named, if_true, modifySeat_withHands game place (Or.inl rfl)]
      rfl
    · simp only [named, if_false]
      rfl
  · rfl

/-- Other hands for the other seats make no difference to a move, and are still there after it. -/
theorem play_withHands (shuffle : Shuffle) (action : MessageType) (payload : String)
    (hands : Nat → List Card) (seated : game.seatOf? session = some place) :
    (game.withHands place hands).play shuffle session action payload =
      (game.play shuffle session action payload).withHands place hands := by
  unfold play
  simp only [withHands_status, seatOf?_withHands, seated, getElem?_withHands_self,
    withHands_current]
  by_cases running : game.status = .playing
  · simp only [running, ne_eq, not_true_eq_false, if_false]
    cases game.seats[place]? with
    | none =>
        rfl
    | some seat =>
        by_cases turn : place = game.current
        · simp only [turn, not_true_eq_false, if_false]
          rw [← turn]
          cases action with
          | takeFromDeck => exact takeFromDeck_withHands shuffle
          | takeFromDiscard => exact takeFromDiscard_withHands
          | layDown => exact layDown_withHands
          | addCard => exact attach_withHands
          | discard => exact discard_withHands
          | close => exact close_withHands
          | _ => rfl
        · simp only [turn, not_false_eq_true, if_true]
          rfl
  · simp only [running, ne_eq, not_false_eq_true, if_true]
    rfl

theorem seatOf?_play (shuffle : Shuffle) (action : MessageType) (payload : String) :
    (game.play shuffle session action payload).2.seatOf? session = game.seatOf? session := by
  rw [seatOf?_eq, map_session_play, ← seatOf?_eq]

/-- Who has no seat is refused, and nothing changes. -/
theorem play_of_not_seated (shuffle : Shuffle) (action : MessageType) (payload : String)
    (absent : game.seatOf? session = none) :
    game.play shuffle session action payload =
      (.error (if game.status = .playing then .unknownPlayer else .notPlaying), game) := by
  by_cases running : game.status = .playing <;> simp [play, running, absent]

/-- A move leaves the hands of the others as they are. -/
theorem keepsOthers_play (game : Match) (shuffle : Shuffle) (session : Nat) (action : MessageType)
    (payload : String) :
    game.KeepsOthers session (game.play shuffle session action payload).2 := by
  intro index other
  cases seated : game.seatOf? session with
  | none =>
      rw [play_of_not_seated shuffle action payload seated]
  | some place =>
      have away : index ≠ place := fun same => other (seated.trans (congrArg some same.symm))
      have same := congrArg (fun answer => (answer.2.seats[index]?).map Seat.hand)
        (play_withHands shuffle action payload game.handAt seated)
      simp only [withHands_handAt, Answer.withHands, getElem?_withHands, away, if_false,
        Option.map_map, Function.comp_def, Seat.hand_withHand] at same
      have sessions := congrArg (fun sessions => sessions[index]?)
        (map_session_play shuffle session action payload game)
      simp only [List.getElem?_map] at sessions
      rw [same]
      cases sits : game.seats[index]? with
      | none =>
          rw [sits] at sessions
          simp [Option.map_eq_none_iff.1 sessions]
      | some seat =>
          rw [sits] at sessions
          obtain ⟨after, found, -⟩ := Option.map_eq_some_iff.1 sessions
          simp [found, handAt, sits]

/-! ## Matches that look alike -/

namespace LooksAlike

theorem seatOf?_eq (alike : left.LooksAlike session right) (other : Nat) :
    left.seatOf? other = right.seatOf? other := by
  have sessions : left.seats.map Seat.session = right.seats.map Seat.session := by
    simpa [Seat.back, Function.comp_def] using
      congrArg (List.map fun back => back.1.session) alike.backs
  rw [Match.seatOf?_eq, sessions, ← Match.seatOf?_eq]

theorem back_eq (alike : left.LooksAlike session right) (index : Nat) :
    (left.seats[index]?).map Seat.back = (right.seats[index]?).map Seat.back := by
  rw [← List.getElem?_map, alike.backs, List.getElem?_map]

theorem size_handAt (alike : left.LooksAlike session right) (index : Nat) :
    (left.handAt index).length = (right.handAt index).length := by
  have size (game : Match) :
      (game.handAt index).length = (((game.seats[index]?).map Seat.back).map Prod.snd).getD 0 := by
    unfold handAt
    cases game.seats[index]? <;> rfl
  rw [size, size, alike.back_eq]

/-- The other match has other hands at the other seats, and that is all. -/
theorem eq_withHands (alike : left.LooksAlike session right)
    (seated : left.seatOf? session = some place) :
    left.withHands place right.handAt = right := by
  apply withHands_eq_of_seats _ alike.table
  apply List.ext_getElem?
  intro index
  rw [getElem?_withHands]
  by_cases own : index = place
  · subst own
    simpa using alike.own index seated
  · have back := alike.back_eq index
    cases leftSits : left.seats[index]? with
    | none =>
        rw [leftSits] at back
        rw [Option.map_eq_none_iff.1 back.symm]
        rfl
    | some seat =>
        rw [leftSits] at back
        obtain ⟨other, sits, same⟩ := Option.map_eq_some_iff.1 back.symm
        simp only [own, if_false, handAt, sits, Option.map_some, Option.getD_some]
        exact congrArg some (Seat.eq_withHand_of_back same.symm).symm

theorem othersCardCount_eq (alike : left.LooksAlike session right) (place : Nat) :
    left.othersCardCount place = right.othersCardCount place := by
  have sizes (game : Match) : game.othersCardCount place =
      (((game.seats.map Seat.back).eraseIdx place).map Prod.snd).sum := by
    rw [othersCardCount, List.length_flatMap, List.eraseIdx_map, List.map_map]
    rfl
  rw [sizes, sizes, alike.backs]

/-- The player is shown the same of both. -/
theorem view?_eq (alike : left.LooksAlike session right) :
    left.view? session = right.view? session := by
  unfold view?
  cases seated : left.seatOf? session with
  | none =>
      rw [← alike.seatOf?_eq, seated]
  | some place =>
      have count := alike.othersCardCount_eq place
      rw [← alike.eq_withHands seated] at count ⊢
      simp only [seatOf?_withHands, seated, getElem?_withHands_self, withHands_discardPile,
        withHands_combinations, turnMarker_withHands, count]

theorem handCodes?_eq (alike : left.LooksAlike session right) :
    left.handCodes? session = right.handCodes? session := by
  have holds (game : Match) :
      game.player? session = (game.seatOf? session).bind fun place => game.seats[place]? :=
    List.find?_eq_bind_findIdx?_getElem?
  unfold handCodes?
  rw [holds, holds, ← alike.seatOf?_eq]
  cases seated : left.seatOf? session with
  | none =>
      rfl
  | some place =>
      simp only [Option.bind_some, alike.own place seated]

end LooksAlike

/-- Hands of the same sizes make no difference that the player could see. -/
theorem looksAlike_withHands (seated : game.seatOf? session = some place)
    (sizes : ∀ index seat, game.seats[index]? = some seat → index ≠ place →
      (hands index).length = seat.hand.length) :
    game.LooksAlike session (game.withHands place hands) := by
  refine ⟨rfl, ?_, ?_⟩
  · apply List.ext_getElem?
    intro index
    rw [List.getElem?_map, List.getElem?_map, getElem?_withHands]
    cases sits : game.seats[index]? with
    | none =>
        rfl
    | some seat =>
        by_cases own : index = place
        · simp [own]
        · simp [own, Seat.back, sizes index seat sits own, Seat.withHand]
  · intro found foundSeat
    have same : found = place := Option.some.inj (foundSeat.symm.trans seated)
    rw [same, getElem?_withHands_self]

/-- Matches that look alike before a move look alike after it. -/
theorem LooksAlike.after_play (alike : left.LooksAlike session right) (shuffle : Shuffle)
    (action : MessageType) (payload : String) :
    (left.play shuffle session action payload).1 = (right.play shuffle session action payload).1 ∧
      (left.play shuffle session action payload).2.LooksAlike session
        (right.play shuffle session action payload).2 := by
  cases seated : left.seatOf? session with
  | none =>
      have status : left.status = right.status := by
        simpa using congrArg Match.status alike.table
      rw [play_of_not_seated shuffle action payload seated,
        play_of_not_seated shuffle action payload
          ((alike.seatOf?_eq session).symm.trans seated), status]
      exact ⟨rfl, alike⟩
  | some place =>
      have moved := play_withHands shuffle action payload right.handAt seated
      rw [alike.eq_withHands seated] at moved
      rw [moved]
      refine ⟨rfl, looksAlike_withHands ((seatOf?_play shuffle action payload).trans seated) ?_⟩
      intro index seat sits away
      have other : left.seatOf? session ≠ some index := fun same =>
        away (Option.some.inj (same.symm.trans seated))
      have kept := keepsOthers_play left shuffle session action payload index other
      rw [sits] at kept
      rw [← alike.size_handAt, handAt, ← kept]
      rfl

/-- A player learns nothing of the hands of the others from what the player is shown, from how a
move is answered and from what the player is shown after it, and a move does not change them. -/
theorem play_looksAlike (alike : left.LooksAlike session right) (shuffle : Shuffle)
    (action : MessageType) (payload : String) :
    left.view? session = right.view? session ∧
      left.handCodes? session = right.handCodes? session ∧
      (left.play shuffle session action payload).1 =
        (right.play shuffle session action payload).1 ∧
      (left.play shuffle session action payload).2.LooksAlike session
        (right.play shuffle session action payload).2 ∧
      left.KeepsOthers session (left.play shuffle session action payload).2 ∧
      right.KeepsOthers session (right.play shuffle session action payload).2 ∧
      (left.play shuffle session action payload).2.view? session =
        (right.play shuffle session action payload).2.view? session := by
  obtain ⟨answer, after⟩ := alike.after_play shuffle action payload
  exact ⟨alike.view?_eq, alike.handCodes?_eq, answer, after,
    keepsOthers_play left shuffle session action payload,
    keepsOthers_play right shuffle session action payload, after.view?_eq⟩

/-- The first player discards, and the last card of the second player is one or another. -/
theorem play_looksAlike_of_two :
    let own : Seat := { session := 4, takesFifteen := true, hand := Card.deck.take 3 }
    let other (card : Card) : Seat := { session := 9, takesFifteen := false, hand := [card] }
    let game (card : Card) : Match :=
      { room := 0, status := .playing, shuffled := false, seats := [own, other card] }
    let left := game Card.deck[3]
    let right := game Card.deck[4]
    let answer (game : Match) := game.play .still 4 .discard Card.deck[1].code
    left.LooksAlike 4 right ∧ left ≠ right ∧ (answer left).1 = .ok () ∧
      (left.view? 4 = right.view? 4 ∧ left.handCodes? 4 = right.handCodes? 4 ∧
        (answer left).1 = (answer right).1 ∧ (answer left).2.LooksAlike 4 (answer right).2 ∧
        left.KeepsOthers 4 (answer left).2 ∧ right.KeepsOthers 4 (answer right).2 ∧
        (answer left).2.view? 4 = (answer right).2.view? 4) := by
  intro own other game left right answer
  have alike : left.LooksAlike 4 right := by
    refine ⟨rfl, rfl, ?_⟩
    intro place seated
    obtain rfl : 0 = place := Option.some.inj seated
    rfl
  exact ⟨alike, by decide, rfl, play_looksAlike alike .still .discard Card.deck[1].code⟩

end

end Match

end Cardroom
