import Cardroom.Proofs.Combination.Likeness
import Cardroom.Proofs.Match.Size
import Cardroom.Proofs.Match.Transfer

/-!
# Combinations are named by their codes

A player who attaches a card names a combination by the codes of its cards, and the first one on the
table that has these codes is taken. There are two cards of each face, so that several can have
them; and the codes do not tell a set from a run. `run_start_isUnambiguous` says that the codes tell
the kind and the cards all the same, and that the first one takes what any of the others would take:
a set and a run of the same cards would need six jokers, and a match has four.
-/

namespace Cardroom.Match

/-- What a match keeps to from the deal on: its cards are those of the deck, and its combinations
are what their kinds say. -/
structure IsGenuine (game : Match) : Prop where
  cards : game.cards.Perm Card.deck
  laid : ∀ combination ∈ game.combinations, combination.WellFormed ∧ combination.IsPadded

namespace IsGenuine

theorem start (shuffle : Shuffle) (game : Match) : (game.start shuffle).IsGenuine where
  cards := cards_start_perm shuffle game
  laid := nofun

variable {game : Match}

theorem laid_play (genuine : game.IsGenuine) (shuffle : Shuffle) (session : Nat)
    (action : MessageType) (payload : String) :
    ∀ combination ∈ (game.play shuffle session action payload).2.combinations,
      combination.WellFormed ∧ combination.IsPadded := by
  refine forall_combinations_play ?_ ?_ genuine.laid shuffle session action payload
  · intro owner cards combination formed
    exact ⟨Combination.ofCards?_wellFormed formed, Combination.ofCards?_isPadded formed⟩
  · rintro card combination extended ⟨sound, padded⟩ accepted
    exact ⟨Combination.attach?_wellFormed sound accepted,
      Combination.attach?_isPadded sound padded accepted⟩

/-- Only moves put combinations on the table or change them. -/
theorem after (genuine : game.IsGenuine) (event : Event) : (game.after event).IsGenuine where
  cards := (cards_after_perm game event).trans genuine.cards
  laid := by
    cases event with
    | move shuffle session action payload =>
        exact genuine.laid_play shuffle session action payload
    | pause reason =>
        simp only [Match.after, pause?]
        split <;> exact genuine.laid
    | resume =>
        simp only [Match.after, resume?]
        split <;> exact genuine.laid
    | setActive session active =>
        simp only [Match.after, setActive]
        split <;> exact genuine.laid
    | passTurn =>
        rw [Match.after, passTurn_combinations]
        exact genuine.laid
    | score =>
        exact genuine.laid

theorem count_joker_table_le (genuine : game.IsGenuine) :
    (game.combinations.flatMap Combination.cards).count .joker ≤ 4 := by
  have all : game.cards.count .joker = 4 := (genuine.cards.count_eq .joker).trans (by decide)
  rw [count_cards] at all
  omega

/-- Two combinations on the table share the jokers of the match. -/
theorem count_joker_add_le (genuine : game.IsGenuine) {combination other : Combination}
    (member : combination ∈ game.combinations) (second : other ∈ game.combinations)
    (apart : combination ≠ other) :
    combination.cards.count .joker + other.cards.count .joker ≤ 4 := by
  let jokers (found : Combination) : Nat := found.cards.count .joker
  have few : (game.combinations.map jokers).sum ≤ 4 :=
    List.count_flatMap.symm.trans_le genuine.count_joker_table_le
  have parted : jokers combination + ((game.combinations.erase combination).map jokers).sum =
      (game.combinations.map jokers).sum := List.sum_map_erase jokers member
  have left : other ∈ game.combinations.erase combination :=
    (List.mem_erase_of_ne apart.symm).2 second
  have inside : jokers other ≤ ((game.combinations.erase combination).map jokers).sum :=
    List.single_le_sum (fun _ _ => Nat.zero_le _) _ (List.mem_map_of_mem left)
  show jokers combination + jokers other ≤ 4
  omega

/-- Combinations with the same codes are of the same kind and hold the same cards. -/
theorem alike (genuine : game.IsGenuine) {combination other : Combination}
    (member : combination ∈ game.combinations) (second : other ∈ game.combinations)
    (same : combination.codes = other.codes) :
    combination.kind = other.kind ∧ combination.cards = other.cards := by
  have cards : combination.cards = other.cards := Card.listCode_inj same
  refine ⟨?_, cards⟩
  by_cases equal : combination = other
  · rw [equal]
  · have jokers := genuine.count_joker_add_le member second equal
    rw [← cards] at jokers
    obtain ⟨sound, padded⟩ := genuine.laid combination member
    obtain ⟨otherSound, otherPadded⟩ := genuine.laid other second
    exact Combination.kind_eq_of_cards_eq sound otherSound padded otherPadded cards (by omega)

/-- The first combination that has the codes of another differs from it in its owner at most. -/
theorem exists_first (genuine : game.IsGenuine) {combination : Combination}
    (member : combination ∈ game.combinations) :
    ∃ before owner behind,
      game.combinations = before ++ { combination with owner } :: behind ∧
        ∀ other ∈ before, other.codes ≠ combination.codes := by
  have some : (game.combinations.find? fun other => other.codes == combination.codes).isSome :=
    List.find?_isSome.2 ⟨combination, member, beq_self_eq_true _⟩
  obtain ⟨found, first⟩ := Option.isSome_iff_exists.1 some
  obtain ⟨named, before, behind, table, others⟩ := List.find?_eq_some_iff_append.1 first
  have listed : found ∈ game.combinations := List.mem_of_find?_eq_some first
  obtain ⟨kind, cards⟩ := genuine.alike listed member (beq_iff_eq.1 named)
  refine ⟨before, found.owner, behind, ?_, ?_⟩
  · rw [table, ← kind, ← cards]
  · intro other earlier
    simpa using others other earlier

end IsGenuine

theorem IsGenuine.run {game : Match} (genuine : game.IsGenuine) (events : List Event) :
    (game.run events).IsGenuine :=
  run_preserves (motive := IsGenuine) (fun _ event genuine => genuine.after event) events genuine

/-- The codes of a combination are an unambiguous name for it. -/
structure IsUnambiguous (game : Match) : Prop where
  /-- Combinations with the same codes differ in their owner at most. -/
  alike : ∀ combination ∈ game.combinations, ∀ other ∈ game.combinations,
    combination.codes = other.codes →
      combination.kind = other.kind ∧ combination.cards = other.cards
  /-- Whoever is on turn attaches a card that a combination takes to the first one that has the
  same codes. -/
  takes : ∀ {session place : Nat} {seat : Seat} {card : Card} {combination extended : Combination}
    (shuffle : Shuffle), game.MayMove session place seat → card ∈ seat.hand →
      2 ≤ seat.hand.length → combination ∈ game.combinations →
        Combination.attach? card combination = some extended →
          ∃ before owner behind after,
            game.combinations = before ++ { combination with owner } :: behind ∧
              (∀ other ∈ before, other.codes ≠ combination.codes) ∧
                game.play shuffle session .addCard (combination.codes ++ "|" ++ card.code) =
                    (.ok (), after) ∧
                  after.combinations = before ++ { extended with owner } :: behind

theorem IsGenuine.isUnambiguous {game : Match} (genuine : game.IsGenuine) : game.IsUnambiguous where
  alike _ member _ second same := genuine.alike member second same
  takes := by
    intro session place seat card combination extended shuffle mover held more member fits
    obtain ⟨before, owner, behind, table, others⟩ := genuine.exists_first member
    have plain : Text.separator ∉ combination.codes.toList := Card.not_mem_listCode rfl _
    have grown : Combination.attach? card { combination with owner } =
        some { extended with owner } := by
      rw [Combination.attach?_withOwner, fits]
      rfl
    have attached := attach_eq_ok mover.sits rfl plain (Card.ofCode_code card) held more table
      others rfl grown
    exact ⟨before, owner, behind, _, table, others, (mover.play_eq shuffle _ _).trans attached, rfl⟩

/-- In a match that was dealt the codes of a combination are a good name for it, whatever has
happened to the match since. -/
theorem run_start_isUnambiguous (room : Nat) (members : List Nat) (shuffled : Bool)
    (shuffle : Shuffle) (events : List Event) :
    (((Match.seat room members shuffled).start shuffle).run events).IsUnambiguous :=
  ((IsGenuine.start shuffle _).run events).isUnambiguous

end Cardroom.Match
