import Cardroom.Proofs.Combination.Layout

/-!
# Legal combinations

The rules of the game say which cards may be laid down together, and leave it open what the jokers
among them stand for. Laying the cards out makes one choice. `ofCards?_legal` says that this finds a
combination whenever the rules allow one and never otherwise, and how the cards lie in it.
-/

namespace Cardroom.Combination

/-- The places at which the real cards of a run stand, with all aces high or all of them low. -/
def places (acesHigh : Bool) (cards : List Card) : List Nat :=
  (cards.filterMap Card.rank?).map (place acesHigh)

/-- The real cards stand at different places of a window that has a place for each card, starts at
`low` and does not reach beyond an ace. -/
structure HasWindow (acesHigh : Bool) (low : Nat) (cards : List Card) : Prop where
  lowest : 1 ≤ low
  highest : low + cards.length - 1 ≤ 14
  distinct : (places acesHigh cards).Nodup
  within : ∀ position ∈ places acesHigh cards, low ≤ position ∧ position < low + cards.length

/-- Three to fourteen cards that can be a run: jokers alone, or cards of one suit and jokers that
fill a window with them. -/
structure FormsRun (cards : List Card) : Prop where
  fewest : 3 ≤ cards.length
  most : cards.length ≤ 14
  fills : cards.all Card.isWild ∨
    (∃ suit, ∀ {rank other}, Card.standard rank other ∈ cards → other = suit) ∧
      ∃ acesHigh low, HasWindow acesHigh low cards

/-- The given cards as they lie in a run from place `low`: the real ones where they stand, and
jokers everywhere else. -/
structure LiesFrom (acesHigh : Bool) (low : Nat) (given laid : List Card) : Prop where
  perm : laid.Perm given
  real : ∀ {rank suit}, Card.standard rank suit ∈ given →
    low ≤ place acesHigh rank ∧ laid[place acesHigh rank - low]? = some (.standard rank suit)
  jokers : ∀ {position}, low ≤ position → position < low + given.length →
    position ∉ places acesHigh given → laid[position - low]? = some .joker

/-- What becomes of cards that are laid down: a set stays as it is given, and other cards that fill
a window become a run. -/
inductive Lies (owner : Nat) (cards : List Card) : Combination → Prop
  | set {rank : Nat} :
      IsSet rank cards → Lies owner cards { kind := .set rank, cards, owner }
  | run {acesHigh : Bool} {low : Nat} {laid : List Card} :
      (∀ rank, ¬ IsSet rank cards) → HasWindow acesHigh low cards →
      LiesFrom acesHigh low cards laid →
      Lies owner cards { kind := .run low, cards := laid, owner }

section

variable {acesHigh : Bool} {low : Nat} {cards laid : List Card}

theorem mem_places {position : Nat} :
    position ∈ places acesHigh cards ↔
      ∃ rank suit, Card.standard rank suit ∈ cards ∧ place acesHigh rank = position := by
  rw [places, List.mem_map]
  constructor
  · rintro ⟨rank, listed, rfl⟩
    obtain ⟨card, member, real⟩ := List.mem_filterMap.1 listed
    cases card with
    | joker =>
        cases real
    | standard number suit =>
        cases real
        exact ⟨rank, suit, member, rfl⟩
  · rintro ⟨rank, suit, member, rfl⟩
    exact ⟨rank, List.mem_filterMap.2 ⟨_, member, rfl⟩, rfl⟩

theorem map_fst_placed (acesHigh : Bool) (cards : List Card) :
    (placed acesHigh cards).map Prod.fst = places acesHigh cards := by
  rw [placed, places, List.map_filterMap, List.map_filterMap]
  congr 1
  funext card
  cases card <;> rfl

theorem perm_places (perm : laid.Perm cards) (acesHigh : Bool) :
    (places acesHigh laid).Perm (places acesHigh cards) :=
  (perm.filterMap Card.rank?).map (place acesHigh)

/-- Without an ace it makes no difference whether aces are high. -/
theorem places_of_no_ace (noAce : ¬ (cards.filterMap Card.rank?).any Rank.isAce) :
    places true cards = places false cards := by
  apply List.map_congr_left
  intro rank listed
  have other : rank.isAce = false := by
    by_contra ace
    exact noAce (List.any_eq_true.2 ⟨rank, listed, Bool.of_not_eq_false ace⟩)
  rw [place, place, other]
  rfl

theorem HasWindow.of_no_ace (window : HasWindow true low cards)
    (noAce : ¬ (cards.filterMap Card.rank?).any Rank.isAce) :
    HasWindow false low cards where
  lowest := window.lowest
  highest := window.highest
  distinct := places_of_no_ace noAce ▸ window.distinct
  within := places_of_no_ace noAce ▸ window.within

theorem HasWindow.layRun?_isSome (window : HasWindow acesHigh low cards)
    (real : ¬ cards.all Card.isWild) (most : cards.length ≤ 14) :
    (layRun? acesHigh cards).isSome := by
  apply Combination.layRun?_isSome real most
  · rw [map_fst_placed]
    exact window.distinct
  · intro real member
    apply window.within
    rw [← map_fst_placed]
    exact List.mem_map_of_mem member

theorem FormsRun.run?_isSome (forms : FormsRun cards) : (run? cards).isSome := by
  have size : fewestCards ≤ cards.length ∧ cards.length ≤ highAce := ⟨forms.fewest, forms.most⟩
  unfold run?
  rw [if_pos size]
  by_cases wild : cards.all Card.isWild
  · rw [if_pos wild]
    rfl
  · obtain ⟨suit, acesHigh, low, window⟩ := forms.fills.resolve_left wild
    rw [if_neg wild, if_pos (sameSuit_iff.2 suit), Option.orElse_eq_orElse, Option.orElse_eq_or,
      Option.isSome_or, Bool.or_eq_true]
    by_cases ace : (cards.filterMap Card.rank?).any Rank.isAce
    · rw [if_pos ace]
      have laid := window.layRun?_isSome wild forms.most
      cases acesHigh with
      | false =>
          exact .inl laid
      | true =>
          exact .inr laid
    · have low : HasWindow false low cards := by
        cases acesHigh with
        | false =>
            exact window
        | true =>
            exact window.of_no_ace ace
      exact .inl (low.layRun?_isSome wild forms.most)

theorem layRun?_standsFrom (accepted : layRun? acesHigh cards = some (low, laid)) :
    StandsFrom acesHigh low laid := by
  unfold layRun? at accepted
  simp only at accepted
  split at accepted
  · simp only [Option.ite_none_right_eq_some, Option.some.injEq, Prod.mk.injEq] at accepted
    obtain ⟨-, -, rfl, rfl⟩ := accepted
    intro index rank suit found
    obtain ⟨_, _, equal, _, stands⟩ := mem_inOrder.1 (mem_of_fillPlaces found)
    cases equal
    exact stands.symm
  · cases accepted

theorem StandsFrom.hasWindow (stands : StandsFrom acesHigh low laid) (run : IsRun low laid)
    (perm : laid.Perm cards) :
    HasWindow acesHigh low cards where
  lowest := run.lowest
  highest := perm.length_eq ▸ run.highest
  distinct := by
    rw [← (perm_places perm acesHigh).nodup_iff, ← map_fst_placed]
    exact stands.distinct
  within := by
    intro position listed
    rw [← (perm_places perm acesHigh).mem_iff, ← map_fst_placed] at listed
    obtain ⟨real, member, rfl⟩ := List.mem_map.1 listed
    rw [← perm.length_eq]
    exact stands.within real member

theorem StandsFrom.liesFrom (stands : StandsFrom acesHigh low laid) (perm : laid.Perm cards) :
    LiesFrom acesHigh low cards laid where
  perm := perm
  real := by
    intro rank suit member
    obtain ⟨index, found⟩ := List.mem_iff_getElem?.1 (perm.mem_iff.2 member)
    rw [stands found, Nat.add_sub_cancel_left]
    exact ⟨Nat.le_add_right low index, found⟩
  jokers := by
    intro position first last free
    have inside : position - low < laid.length := by
      rw [perm.length_eq]
      omega
    cases found : laid[position - low] with
    | joker =>
        rw [List.getElem?_eq_getElem inside, found]
    | standard rank suit =>
        have there : laid[position - low]? = some (.standard rank suit) := by
          rw [List.getElem?_eq_getElem inside, found]
        refine absurd (mem_places.2 ⟨rank, suit, ?_, ?_⟩) free
        · exact perm.mem_iff.1 (List.mem_of_getElem? there)
        · rw [stands there]
          omega

/-- A run that is laid out keeps to one reading of its aces. -/
theorem run?_standsFrom (accepted : run? cards = some (low, laid)) :
    ∃ acesHigh, StandsFrom acesHigh low laid := by
  unfold run? at accepted
  split at accepted
  · split at accepted
    · next wild =>
        cases accepted
        refine ⟨false, ?_⟩
        intro index rank suit found
        exact absurd wild (not_all_of_mem (List.mem_of_getElem? found))
    · split at accepted
      · rw [Option.orElse_eq_orElse, Option.orElse_eq_or, Option.or_eq_some_iff] at accepted
        rcases accepted with acesLow | ⟨_, acesHigh⟩
        · exact ⟨false, layRun?_standsFrom acesLow⟩
        · split at acesHigh
          · exact ⟨true, layRun?_standsFrom acesHigh⟩
          · cases acesHigh
      · cases accepted
  · cases accepted

theorem FormsRun.of_run? (accepted : run? cards = some (low, laid)) : FormsRun cards := by
  have run := run?_isRun accepted
  have perm := run?_perm accepted
  obtain ⟨acesHigh, stands⟩ := run?_standsFrom accepted
  obtain ⟨suit, same⟩ := run.suit
  refine ⟨perm.length_eq ▸ run.fewest, perm.length_eq ▸ run.most, .inr ⟨⟨suit, ?_⟩, ?_⟩⟩
  · exact fun member => same (perm.mem_iff.2 member)
  · exact ⟨acesHigh, low, stands.hasWindow run perm⟩

end

/-- Cards form a combination exactly if they are a set or can be a run. A set keeps its cards as
they are given. In a run each real card stands at its place, with all aces high or all of them low,
and the jokers at the other places of the window. -/
theorem ofCards?_legal (owner : Nat) (cards : List Card) :
    ((ofCards? owner cards).isSome ↔ (∃ rank, IsSet rank cards) ∨ FormsRun cards) ∧
      ∀ combination ∈ ofCards? owner cards, Lies owner cards combination := by
  unfold ofCards?
  cases set : setRank? cards with
  | some rank =>
      have isSet := setRank?_isSet set
      refine ⟨iff_of_true rfl (.inl ⟨rank, isSet⟩), ?_⟩
      rintro combination ⟨⟩
      exact .set isSet
  | none =>
      have notSet : ∀ rank, ¬ IsSet rank cards := by
        intro rank isSet
        rw [isSet.setRank?_eq] at set
        cases set
      rw [Option.isSome_map]
      refine ⟨⟨?_, ?_⟩, ?_⟩
      · intro laid
        obtain ⟨⟨low, laid⟩, accepted⟩ := Option.isSome_iff_exists.1 laid
        exact .inr (.of_run? accepted)
      · rintro (⟨rank, isSet⟩ | forms)
        · exact absurd isSet (notSet rank)
        · exact forms.run?_isSome
      · intro combination formed
        obtain ⟨⟨low, laid⟩, accepted, rfl⟩ := Option.map_eq_some_iff.1 formed
        have perm := run?_perm accepted
        obtain ⟨acesHigh, stands⟩ := run?_standsFrom accepted
        exact .run notSet (stands.hasWindow (run?_isRun accepted) perm) (stands.liesFrom perm)

/-- A king and an ace between two jokers: with the ace low they are too far from each other, and
above the ace no place is left for a joker. -/
theorem ofCards?_legal_of_king_and_ace :
    let king : Card := .standard ⟨13, by decide, by decide⟩ .hearts
    let ace : Card := .standard ⟨1, by decide, by decide⟩ .hearts
    let given : List Card := [.joker, ace, king, .joker]
    let formed : Combination := ⟨.run 11, [.joker, .joker, king, ace], 7⟩
    formed ∈ ofCards? 7 given ∧ Lies 7 given formed := by
  intro king ace given formed
  have accepted : formed ∈ ofCards? 7 given := by
    rw [Option.mem_def]
    cbv
  exact ⟨accepted, (ofCards?_legal 7 given).2 formed accepted⟩

end Cardroom.Combination
