import Cardroom.Combination.Attach

/-!
# The cards of a combination

Laying cards out and attaching a card neither lose a card nor change one. `ofCards?_perm` says that
a new combination holds the cards that it was made of, also when they were laid out as a run, and
`attach?_perm` that an extended one holds the attached card besides.
-/

namespace Cardroom.Combination

theorem placed_cards (acesHigh : Bool) (cards : List Card) :
    (placed acesHigh cards).map Prod.snd = cards.filter fun card => !card.isWild := by
  induction cards with
  | nil =>
      rfl
  | cons card cards inductionHypothesis =>
      cases card with
      | standard rank suit =>
          simpa [placed, Card.rank?, Card.isWild] using inductionHypothesis
      | joker =>
          simpa [placed, Card.rank?, Card.isWild] using inductionHypothesis

theorem filter_isWild (cards : List Card) :
    cards.filter Card.isWild =
      List.replicate (cards.filter Card.isWild).length .joker := by
  apply List.eq_replicate_of_mem
  intro card member
  have wild : card.isWild = true := (List.mem_filter.1 member).2
  cases card with
  | standard rank suit =>
      cases wild
  | joker =>
      rfl

/-- A list of cards is its real cards and some jokers. -/
theorem perm_placed_append_jokers (acesHigh : Bool) (cards : List Card) :
    ∃ jokers, cards.Perm
      ((placed acesHigh cards).map Prod.snd ++ List.replicate jokers .joker) := by
  refine ⟨(cards.filter Card.isWild).length, ?_⟩
  rw [placed_cards, ← filter_isWild]
  have parted := List.filter_append_perm Card.isWild cards
  exact parted.symm.trans List.perm_append_comm

@[simp]
theorem length_fillPlaces (reals : List (Nat × Card)) (place count : Nat) :
    (fillPlaces reals place count).length = count := by
  fun_induction fillPlaces reals place count <;> simp_all

/-- Real cards that stand in the order of their places, between the first place and the last one,
all find their place; whatever else is filled in is a joker. -/
theorem fillPlaces_perm (reals : List (Nat × Card)) (place count : Nat)
    (ascending : reals.Pairwise fun left right => left.1 < right.1)
    (within : ∀ real ∈ reals, place ≤ real.1 ∧ real.1 < place + count) :
    ∃ jokers, (fillPlaces reals place count).Perm
      (reals.map Prod.snd ++ List.replicate jokers .joker) := by
  induction count generalizing reals place with
  | zero =>
      cases reals with
      | nil =>
          exact ⟨0, List.Perm.refl _⟩
      | cons real reals =>
          have bounds := within real List.mem_cons_self
          omega
  | succ count inductionHypothesis =>
      cases reals with
      | nil =>
          obtain ⟨jokers, filled⟩ := inductionHypothesis [] (place + 1) List.Pairwise.nil (by simp)
          exact ⟨jokers + 1, filled.cons Card.joker⟩
      | cons real reals =>
          have later : ∀ other ∈ reals, real.1 < other.1 := (List.pairwise_cons.1 ascending).1
          have first := within real List.mem_cons_self
          by_cases stands : real.1 = place
          · have rest : ∀ other ∈ reals,
                place + 1 ≤ other.1 ∧ other.1 < place + 1 + count := by
              intro other member
              have bounds := within other (List.mem_cons_of_mem real member)
              have beyond := later other member
              omega
            obtain ⟨jokers, filled⟩ :=
              inductionHypothesis reals (place + 1) (List.pairwise_cons.1 ascending).2 rest
            refine ⟨jokers, ?_⟩
            rw [fillPlaces, if_pos stands]
            exact filled.cons real.2
          · have rest : ∀ other ∈ real :: reals,
                place + 1 ≤ other.1 ∧ other.1 < place + 1 + count := by
              intro other member
              have bounds := within other member
              have order : real.1 ≤ other.1 := by
                rcases List.mem_cons.1 member with rfl | member
                · exact Nat.le_refl _
                · exact Nat.le_of_lt (later other member)
              omega
            obtain ⟨jokers, filled⟩ :=
              inductionHypothesis (real :: reals) (place + 1) ascending rest
            refine ⟨jokers + 1, ?_⟩
            rw [fillPlaces, if_neg stands]
            exact (filled.cons Card.joker).trans List.perm_middle.symm

theorem inOrder_perm (acesHigh : Bool) (cards : List Card) :
    (inOrder acesHigh cards).Perm (placed acesHigh cards) :=
  List.mergeSort_perm _ _

theorem inOrder_pairwise (acesHigh : Bool) (cards : List Card) :
    (inOrder acesHigh cards).Pairwise fun left right => left.1 ≤ right.1 := by
  have sorted : (inOrder acesHigh cards).Pairwise
      fun left right => decide (left.1 ≤ right.1) = true := by
    apply List.pairwise_mergeSort
    · intro first second third
      simpa using Nat.le_trans
    · intro first second
      simpa using Nat.le_total first.1 second.1
  simpa using sorted

/-- Different places that do not descend, ascend. -/
theorem inOrder_ascending {acesHigh : Bool} {cards : List Card}
    (distinct : ((inOrder acesHigh cards).map Prod.fst).Nodup) :
    (inOrder acesHigh cards).Pairwise fun left right => left.1 < right.1 := by
  have different : (inOrder acesHigh cards).Pairwise fun left right => left.1 ≠ right.1 :=
    List.pairwise_map.1 distinct
  exact (inOrder_pairwise acesHigh cards).imp₂
    (fun left right order apart => Nat.lt_of_le_of_ne order apart) different

/-- The first and the last place bound all of them. -/
theorem inOrder_within {acesHigh : Bool} {cards : List Card} {lowest highest : Nat}
    (first : ((inOrder acesHigh cards).map Prod.fst).head? = some lowest)
    (last : ((inOrder acesHigh cards).map Prod.fst).getLast? = some highest) :
    ∀ real ∈ inOrder acesHigh cards, lowest ≤ real.1 ∧ real.1 ≤ highest := by
  have sorted : ((inOrder acesHigh cards).map Prod.fst).Pairwise (· ≤ ·) :=
    List.pairwise_map.2 (inOrder_pairwise acesHigh cards)
  intro real member
  have place : real.1 ∈ (inOrder acesHigh cards).map Prod.fst := List.mem_map_of_mem member
  generalize (inOrder acesHigh cards).map Prod.fst = places at first last sorted place
  constructor
  · obtain ⟨others, rfl⟩ := List.head?_eq_some_iff.1 first
    rcases List.mem_cons.1 place with equal | later
    · exact Nat.le_of_eq equal.symm
    · exact (List.pairwise_cons.1 sorted).1 real.1 later
  · obtain ⟨others, rfl⟩ := List.getLast?_eq_some_iff.1 last
    rcases List.mem_append.1 place with earlier | equal
    · exact (List.pairwise_append.1 sorted).2.2 real.1 earlier highest List.mem_cons_self
    · exact Nat.le_of_eq (List.mem_singleton.1 equal)

/-- Jokers apart, a list of cards is what it was before it was put in another form; so two forms of
the same length hold the same cards. -/
theorem perm_of_length_eq {cards others reals : List Card} {first second : Nat}
    (same : cards.length = others.length)
    (left : cards.Perm (reals ++ List.replicate first .joker))
    (right : others.Perm (reals ++ List.replicate second .joker)) :
    cards.Perm others := by
  have jokers : first = second := by
    have leftLength := left.length_eq
    have rightLength := right.length_eq
    simp only [List.length_append, List.length_replicate] at leftLength rightLength
    omega
  subst jokers
  exact left.trans right.symm

theorem layRun?_perm {acesHigh : Bool} {cards laid : List Card} {low : Nat}
    (accepted : layRun? acesHigh cards = some (low, laid)) :
    laid.Perm cards := by
  unfold layRun? at accepted
  simp only at accepted
  split at accepted
  · next lowest highest first last =>
      simp only [Option.ite_none_right_eq_some, Option.some.injEq, Prod.mk.injEq] at accepted
      obtain ⟨⟨distinct, span⟩, room, lowEq, rfl⟩ := accepted
      rw [lowEq]
      have within : ∀ real ∈ inOrder acesHigh cards,
          low ≤ real.1 ∧ real.1 < low + cards.length := by
        intro real member
        have bounds := inOrder_within first last real member
        have one : lowAce = 1 := rfl
        omega
      obtain ⟨jokers, filled⟩ :=
        fillPlaces_perm _ _ cards.length (inOrder_ascending distinct) within
      obtain ⟨given, parted⟩ := perm_placed_append_jokers acesHigh cards
      have reals := (inOrder_perm acesHigh cards).map Prod.snd
      exact perm_of_length_eq (by simp) (filled.trans (reals.append_right _)) parted
  · cases accepted

theorem run?_perm {cards laid : List Card} {low : Nat}
    (accepted : run? cards = some (low, laid)) :
    laid.Perm cards := by
  unfold run? at accepted
  split at accepted
  · split at accepted
    · cases accepted
      exact List.Perm.refl _
    · split at accepted
      · rw [Option.orElse_eq_orElse, Option.orElse_eq_or, Option.or_eq_some_iff] at accepted
        rcases accepted with acesLow | ⟨_, acesHigh⟩
        · exact layRun?_perm acesLow
        · split at acesHigh
          · exact layRun?_perm acesHigh
          · cases acesHigh
      · cases accepted
  · cases accepted

/-- A new combination holds the cards that it was made of. -/
theorem ofCards?_perm {owner : Nat} {cards : List Card} {combination : Combination}
    (accepted : ofCards? owner cards = some combination) :
    combination.cards.Perm cards := by
  unfold ofCards? at accepted
  split at accepted
  · cases accepted
    exact List.Perm.refl _
  · obtain ⟨laid, run, rfl⟩ := Option.map_eq_some_iff.1 accepted
    exact run?_perm run

theorem attachToSet?_perm {rank : Nat} {card : Card} {combination extended : Combination}
    (accepted : attachToSet? rank card combination = some extended) :
    extended.cards.Perm (card :: combination.cards) := by
  unfold attachToSet? at accepted
  simp only [Option.ite_none_right_eq_some, Option.some.injEq] at accepted
  obtain ⟨_, rfl⟩ := accepted
  exact List.perm_append_singleton card combination.cards

theorem attachToRun?_perm {low : Nat} {card : Card} {combination extended : Combination}
    (accepted : attachToRun? low card combination = some extended) :
    extended.cards.Perm (card :: combination.cards) := by
  unfold attachToRun? at accepted
  simp only at accepted
  split at accepted
  · -- A run of jokers alone is laid out anew.
    obtain ⟨laid, run, rfl⟩ := Option.map_eq_some_iff.1 accepted
    exact (run?_perm run).trans (List.perm_append_singleton card combination.cards)
  · split at accepted
    · cases accepted
      exact List.Perm.refl _
    · cases accepted
      exact List.perm_append_singleton card combination.cards
    · cases accepted

/-- An extended combination holds the attached card and the cards of before. -/
theorem attach?_perm {card : Card} {combination extended : Combination}
    (accepted : attach? card combination = some extended) :
    extended.cards.Perm (card :: combination.cards) := by
  unfold attach? at accepted
  split at accepted
  · split at accepted
    · exact attachToSet?_perm accepted
    · exact attachToRun?_perm accepted
  · cases accepted

end Cardroom.Combination
