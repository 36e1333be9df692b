import Cardroom.Proofs.Card.Code
import Cardroom.Proofs.Combination.Fit
import Cardroom.Proofs.Match.Conservation
import Cardroom.Proofs.Session.Login

/-!
# Cards that go to the table

Whoever lays down a combination or attaches a card names cards of the hand. `play_transfers` says
when the two moves are accepted, and that exactly the named cards go from the hand to the table.
-/

namespace Cardroom.Match

/-- A player lays cards on the table that form a combination, and keeps a card at least. The first
such cards of the hand are taken, and the others keep their order. -/
inductive LaysDown (game : Match) (seat : Seat) (payload : String) : Match → Prop
  | intro {cards : List Card} {combination : Combination} :
      Card.ofListCode payload = .ok cards →
      3 ≤ cards.length →
      cards.length < seat.hand.length →
      cards.Subperm seat.hand →
      Combination.ofCards? seat.session cards = some combination →
      LaysDown game seat payload
        { game with
          seats := game.seats.set game.current
            { seat with
              hand := seat.hand.diff cards
              cardsPlayed := seat.cardsPlayed + cards.length }
          combinations := game.combinations ++ [combination] }

/-- A player attaches a card to the first combination on the table that has the codes, and keeps a
card at least. -/
inductive Attaches (game : Match) (seat : Seat) (payload : String) : Match → Prop
  | intro {target code : String} {card : Card} {before behind : List Combination}
      {found extended : Combination} :
      payload = target ++ "|" ++ code →
      Text.separator ∉ target.toList →
      Card.ofCode code = .ok card →
      card ∈ seat.hand →
      2 ≤ seat.hand.length →
      game.combinations = before ++ found :: behind →
      (∀ other ∈ before, other.codes ≠ target) →
      found.codes = target →
      Combination.attach? card found = some extended →
      Combination.Extends card found extended →
      Attaches game seat payload
        { game with
          seats := game.seats.set game.current
            { seat with hand := seat.hand.erase card, cardsPlayed := seat.cardsPlayed + 1 }
          combinations := before ++ extended :: behind }

section

variable {game after : Match} {place : Nat} {seat : Seat} {payload : String} {cards : List Card}
  {combination : Combination}

theorem modifySeat_eq_set (game : Match) (change : Seat → Seat)
    (sits : game.seats[place]? = some seat) :
    game.modifySeat place change = { game with seats := game.seats.set place (change seat) } := by
  rw [← modifySeat_seats_eq_set change sits]
  rfl

/-- The codes of three cards are long enough to be looked at. -/
theorem fewestCards_le_utf8ByteSize (read : Card.ofListCode payload = .ok cards)
    (fewest : 3 ≤ cards.length) :
    2 * Combination.fewestCards ≤ payload.utf8ByteSize := by
  rw [Card.ofListCode_eq_ok_iff.1 read, Card.utf8ByteSize_listCode]
  exact Nat.mul_le_mul_left 2 fewest

theorem layDown_eq_ok (sits : game.seats[place]? = some seat)
    (read : Card.ofListCode payload = .ok cards) (fewest : 3 ≤ cards.length)
    (fewer : cards.length < seat.hand.length) (held : cards.Subperm seat.hand)
    (formed : Combination.ofCards? seat.session cards = some combination) :
    game.layDown place seat payload =
      (.ok (),
        { game with
          seats := game.seats.set place
            { seat with
              hand := seat.hand.diff cards
              cardsPlayed := seat.cardsPlayed + cards.length }
          combinations := game.combinations ++ [combination] }) := by
  have long := fewestCards_le_utf8ByteSize read fewest
  obtain ⟨places, taken⟩ := exists_takePlaces_iff.2 held
  obtain ⟨-, left⟩ := withoutPlaces_of_takePlaces taken
  simp only [layDown, if_neg (Nat.not_lt.2 long), read, if_neg (Nat.not_le.2 fewer), taken, formed]
  rw [modifySeat_eq_set game _ sits, left]

theorem play_layDown_eq_ok_iff (mover : game.MayMove seat.session game.current seat)
    (shuffle : Shuffle) :
    game.play shuffle seat.session .layDown payload = (.ok (), after) ↔
      game.LaysDown seat payload after := by
  constructor
  · intro moved
    cases mover.accepted moved with
    | layDown read fewer held formed =>
        have fewest := (Combination.ofCards?_wellFormed formed).three_le
        rw [(Combination.ofCards?_perm formed).length_eq] at fewest
        rw [modifySeat_eq_set game _ mover.sits]
        exact .intro read fewest fewer held formed
  · rintro ⟨read, fewest, fewer, held, formed⟩
    rw [mover.play_eq]
    exact layDown_eq_ok mover.sits read fewest fewer held formed

/-- The first element that a test accepts stands behind elements that it does not accept. -/
theorem findIdx?_eq_some_iff_append {α : Type} {accepts : α → Bool} {elements : List α}
    {index : Nat} :
    elements.findIdx? accepts = some index ↔
      ∃ before found behind, elements = before ++ found :: behind ∧ before.length = index ∧
        accepts found = true ∧ ∀ other ∈ before, accepts other = false := by
  constructor
  · intro first
    obtain ⟨bound, accepted, earlier⟩ := List.findIdx?_eq_some_iff_getElem.1 first
    refine ⟨elements.take index, elements[index], elements.drop (index + 1), ?_, ?_, accepted, ?_⟩
    · rw [List.getElem_cons_drop, List.take_append_drop]
    · exact List.length_take_of_le (Nat.le_of_lt bound)
    · intro other member
      obtain ⟨place, lower, rfl⟩ := List.mem_take_iff_getElem.1 member
      have before : place < index := Nat.lt_of_lt_of_le lower (Nat.min_le_left _ _)
      exact Bool.eq_false_of_not_eq_true (earlier place before)
  · rintro ⟨before, found, behind, rfl, rfl, accepted, others⟩
    rw [List.findIdx?_append, List.findIdx?_eq_none_iff.2 others, List.findIdx?_cons,
      if_pos accepted]
    simp

theorem getElem?_append_cons {α : Type} (before behind : List α) (found : α) :
    (before ++ found :: behind)[before.length]? = some found := by
  rw [List.getElem?_append_right (Nat.le_refl _), Nat.sub_self]
  rfl

theorem set_append_cons {α : Type} (before behind : List α) (found other : α) :
    (before ++ found :: behind).set before.length other = before ++ other :: behind := by
  rw [List.set_append_right _ _ (Nat.le_refl _), Nat.sub_self]
  rfl

theorem attach_eq_ok {target code : String} {card : Card} {before behind : List Combination}
    {found extended : Combination} (sits : game.seats[place]? = some seat)
    (whole : payload = target ++ "|" ++ code) (plain : Text.separator ∉ target.toList)
    (read : Card.ofCode code = .ok card) (held : card ∈ seat.hand) (more : 2 ≤ seat.hand.length)
    (table : game.combinations = before ++ found :: behind)
    (others : ∀ other ∈ before, other.codes ≠ target) (named : found.codes = target)
    (fits : Combination.attach? card found = some extended) :
    game.attach place seat payload =
      (.ok (),
        { game with
          seats := game.seats.set place
            { seat with hand := seat.hand.erase card, cardsPlayed := seat.cardsPlayed + 1 }
          combinations := before ++ extended :: behind }) := by
  have cut : Text.cut? payload = some (target, code) := Text.cut?_eq_some.2 ⟨whole, plain⟩
  have first : game.combinations.findIdx? (fun combination => combination.codes == target) =
      some before.length :=
    findIdx?_eq_some_iff_append.2
      ⟨before, found, behind, table, rfl, beq_iff_eq.2 named,
        fun other member => beq_eq_false_iff_ne.2 (others other member)⟩
  have there : game.combinations[before.length]? = some found := by
    rw [table, getElem?_append_cons]
  simp only [attach, cut, read, not_not.2 held, if_false, if_neg (Nat.not_le.2 more), first, there,
    Option.bind_some, fits]
  rw [table, set_append_cons,
    modifySeat_eq_set { game with combinations := before ++ extended :: behind } _ sits]

theorem play_addCard_eq_ok_iff (mover : game.MayMove seat.session game.current seat)
    (sound : ∀ combination ∈ game.combinations, combination.WellFormed) (shuffle : Shuffle) :
    game.play shuffle seat.session .addCard payload = (.ok (), after) ↔
      game.Attaches seat payload after := by
  constructor
  · intro moved
    cases mover.accepted moved with
    | @attach _ _ _ _ _ extended cut read held more first there fits =>
        obtain ⟨whole, plain⟩ := Text.cut?_eq_some.1 cut
        obtain ⟨before, found, behind, table, rfl, named, others⟩ :=
          findIdx?_eq_some_iff_append.1 first
        rw [table, getElem?_append_cons] at there
        obtain rfl := Option.some.inj there
        have stands : found.WellFormed := sound found (by simp [table])
        rw [table, set_append_cons,
          modifySeat_eq_set { game with combinations := before ++ extended :: behind } _ mover.sits]
        exact .intro whole plain read held more table
          (fun other member => beq_eq_false_iff_ne.1 (others other member)) (beq_iff_eq.1 named)
          fits (stands.attach?_extends fits)
  · rintro ⟨whole, plain, read, held, more, table, others, named, fits, -⟩
    rw [mover.play_eq]
    exact attach_eq_ok mover.sits whole plain read held more table others named fits

end

/-- Whoever is on turn lays down exactly what the rules allow, and attaches exactly what they allow.
The named cards go from the hand to the table, and everything else stays. -/
theorem play_transfers {game : Match} {seat : Seat} (running : game.status = .playing)
    (distinct : (game.seats.map Seat.session).Nodup) (turn : game.seats[game.current]? = some seat)
    (sound : ∀ combination ∈ game.combinations, combination.WellFormed) (shuffle : Shuffle)
    (payload : String) (after : Match) :
    (game.play shuffle seat.session .layDown payload = (.ok (), after) ↔
        game.LaysDown seat payload after) ∧
      (game.play shuffle seat.session .addCard payload = (.ok (), after) ↔
        game.Attaches seat payload after) := by
  have mover := mayMove_of_sits distinct running turn
  exact ⟨play_layDown_eq_ok_iff mover shuffle, play_addCard_eq_ok_iff mover sound shuffle⟩

/-- The hand holds two fives of hearts and two jokers, and two combinations on the table have the
same codes: the first of each is taken. -/
theorem play_transfers_of_pairs :
    let five : Card := .standard ⟨5, by decide, by decide⟩ .hearts
    let six : Card := .standard ⟨6, by decide, by decide⟩ .hearts
    let seven : Card := .standard ⟨7, by decide, by decide⟩ .hearts
    let nine : Card := .standard ⟨9, by decide, by decide⟩ .clubs
    let other : Seat := { session := 4, takesFifteen := true }
    let seat : Seat :=
      { session := 9, takesFifteen := false, hand := [five, .joker, five, six, .joker, nine] }
    let game : Match :=
      { room := 0, status := .playing, current := 1, shuffled := false, seats := [other, seat]
        combinations := [⟨.run 5, [five, six, seven], 4⟩, ⟨.run 5, [five, six, seven], 9⟩] }
    let laid : Match :=
      { game with
        seats := [other, { seat with hand := [five, .joker, nine], cardsPlayed := 3 }]
        combinations := game.combinations ++ [⟨.run 5, [five, six, .joker], 9⟩] }
    let attached : Match :=
      { game with
        seats :=
          [other, { seat with hand := [five, five, six, .joker, nine], cardsPlayed := 1 }]
        combinations :=
          [⟨.run 5, [five, six, seven, .joker], 4⟩, ⟨.run 5, [five, six, seven], 9⟩] }
    (game.seats.map Seat.session).Nodup ∧ game.seats[game.current]? = some seat ∧
      (∀ combination ∈ game.combinations, combination.WellFormed) ∧
      game.play .still 9 .layDown "YY6H5H" = (.ok (), laid) ∧
      game.LaysDown seat "YY6H5H" laid ∧
      game.play .still 9 .addCard "5H6H7H|YY" = (.ok (), attached) ∧
      game.Attaches seat "5H6H7H|YY" attached := by
  intro five six seven nine other seat game laid attached
  have distinct : (game.seats.map Seat.session).Nodup := by decide
  have turn : game.seats[game.current]? = some seat := rfl
  have formed : ∀ owner, Combination.ofCards? owner [five, six, seven] =
      some ⟨.run 5, [five, six, seven], owner⟩ := fun owner => by cbv
  have sound : ∀ combination ∈ game.combinations, combination.WellFormed := by
    intro combination member
    rcases List.mem_pair.1 member with rfl | rfl
    · exact Combination.ofCards?_wellFormed (formed 4)
    · exact Combination.ofCards?_wellFormed (formed 9)
  have down : game.play .still 9 .layDown "YY6H5H" = (.ok (), laid) := by cbv
  have added : game.play .still 9 .addCard "5H6H7H|YY" = (.ok (), attached) := by cbv
  have rules := play_transfers rfl distinct turn sound .still
  exact ⟨distinct, turn, sound, down, (rules _ _).1.1 down, added, (rules _ _).2.1 added⟩

end Cardroom.Match
