import Cardroom.Proofs.Match.Hidden
import Cardroom.Proofs.Match.Refusal

/-!
# What lies face up

What the players of a match are shown depends on the hands, the top of the discard pile, the
combinations and the turn, and on whether the match is paused. Between two moves nothing of this
changes but the last.
-/

namespace Cardroom

def Seat.holding (seat : Seat) : Nat × List Card :=
  (seat.session, seat.hand)

namespace Match

/-- What the players are shown is the same, but for whether the match is paused. -/
structure SameFace (before after : Match) : Prop where
  holdings : after.seats.map Seat.holding = before.seats.map Seat.holding
  top : after.discardPile.head? = before.discardPile.head?
  combinations : after.combinations = before.combinations
  current : after.current = before.current

namespace SameFace

variable {before middle after : Match}

theorem refl (game : Match) : game.SameFace game :=
  ⟨rfl, rfl, rfl, rfl⟩

theorem trans (first : before.SameFace middle) (second : middle.SameFace after) :
    before.SameFace after where
  holdings := second.holdings.trans first.holdings
  top := second.top.trans first.top
  combinations := second.combinations.trans first.combinations
  current := second.current.trans first.current

theorem sessions (same : before.SameFace after) :
    after.seats.map Seat.session = before.seats.map Seat.session := by
  simpa [Seat.holding, Function.comp_def] using congrArg (List.map Prod.fst) same.holdings

theorem seatOf?_eq (same : before.SameFace after) (session : Nat) :
    after.seatOf? session = before.seatOf? session := by
  rw [Match.seatOf?_eq, same.sessions, ← Match.seatOf?_eq]

theorem hand_eq (same : before.SameFace after) (place : Nat) :
    after.seats[place]?.map Seat.hand = before.seats[place]?.map Seat.hand := by
  simpa [Seat.holding, Function.comp_def] using
    congrArg (fun holdings => holdings[place]?.map Prod.snd) same.holdings

theorem othersCardCount_eq (same : before.SameFace after) (place : Nat) :
    after.othersCardCount place = before.othersCardCount place := by
  have hands (game : Match) : game.othersCardCount place =
      (((game.seats.map Seat.holding).eraseIdx place).flatMap Prod.snd).length := by
    rw [List.eraseIdx_map, List.flatMap_map]
    rfl
  rw [hands, hands, same.holdings]

theorem sits (same : before.SameFace after) {session : Nat}
    (sits : session ∈ after.seats.map Seat.session) :
    session ∈ before.seats.map Seat.session :=
  same.sessions ▸ sits

/-- A player is shown the same, as far as the match is paused or not. -/
theorem view?_eq (same : before.SameFace after) (status : after.status = before.status)
    (session : Nat) :
    after.view? session = before.view? session := by
  unfold view?
  rw [same.seatOf?_eq]
  cases before.seatOf? session with
  | none =>
      rfl
  | some place =>
      have hand := same.hand_eq place
      have marker : after.turnMarker place = before.turnMarker place := by
        rw [turnMarker, turnMarker, same.current, status]
      simp only [same.top, same.combinations, same.othersCardCount_eq, marker]
      cases sits : before.seats[place]? with
      | none =>
          rw [sits] at hand
          rw [Option.map_eq_none_iff.1 hand]
      | some seat =>
          rw [sits] at hand
          obtain ⟨other, there, held⟩ := Option.map_eq_some_iff.1 hand
          simp only [there, held, Option.map_some]

theorem handCodes?_eq (same : before.SameFace after) (session : Nat) :
    after.handCodes? session = before.handCodes? session := by
  have hands (game : Match) : game.handCodes? session =
      ((game.seats.map Seat.holding).find? fun holding => holding.1 == session).map fun holding =>
        Text.joined "|" (holding.2.map Card.code) := by
    rw [handCodes?, player?, List.find?_map, Option.map_map]
    rfl
  rw [hands, hands, same.holdings]

end SameFace

section

variable {game : Match} {id : Nat}

theorem exists_seat (sits : id ∈ game.seats.map Seat.session) :
    ∃ place seat, game.seatOf? id = some place ∧ game.seats[place]? = some seat := by
  obtain ⟨seat, listed, same⟩ := List.mem_map.1 sits
  obtain ⟨place, found⟩ : ∃ place, game.seatOf? id = some place := by
    refine Option.isSome_iff_exists.1 ?_
    rw [seatOf?, List.findIdx?_isSome]
    exact List.any_eq_true.2 ⟨seat, listed, beq_iff_eq.2 same⟩
  obtain ⟨bound, -⟩ := List.findIdx?_eq_some_iff_getElem.1 found
  exact ⟨place, game.seats[place], found, List.getElem?_eq_getElem bound⟩

theorem exists_view? (sits : id ∈ game.seats.map Seat.session) :
    ∃ view, game.view? id = some view := by
  obtain ⟨place, seat, found, there⟩ := exists_seat sits
  simp only [view?, found, there]
  exact ⟨_, rfl⟩

theorem exists_handCodes? (sits : id ∈ game.seats.map Seat.session) :
    ∃ codes, game.handCodes? id = some codes := by
  obtain ⟨seat, listed, same⟩ := List.mem_map.1 sits
  refine Option.isSome_iff_exists.1 ?_
  rw [handCodes?, Option.isSome_map, player?, List.find?_isSome]
  exact ⟨seat, listed, beq_iff_eq.2 same⟩

end

/-- A refused move changes nothing that the players are shown. -/
theorem sameFace_of_play_error {shuffle : Shuffle} {session : Nat} {action : MessageType}
    {payload : String} {game after : Match} {error : MoveError}
    (refused : game.play shuffle session action payload = (.error error, after)) :
    game.SameFace after := by
  obtain ⟨unchanged, rebuilt⟩ := play_error_eq_self_or_rebuilt refused
  by_cases isRebuilt : error = .deckRebuilt
  · obtain ⟨-, top, rest, pile, -, same, -, -⟩ := rebuilt isRebuilt
    rw [same]
    exact ⟨rfl, by rw [pile]; rfl, rfl, rfl⟩
  · rw [unchanged isRebuilt]
    exact .refl game

end Match

end Cardroom
