import Mathlib.Data.List.Perm.Subperm
import Cardroom.Match.Move

/-!
# Cards taken out of a hand

A combination is laid down by finding a place of the hand for each of its cards, and then emptying
these places. `withoutPlaces_of_takePlaces` says that this takes out the first card that equals each
of them, and that the hand holds all of them.
-/

namespace Cardroom.Match

/-- The cards of a hand whose places, counted from the given one, are not among those taken. -/
def leftBeside (taken : List Nat) (start : Nat) (hand : List Card) : List Card :=
  ((hand.zipIdx start).filter fun entry => !taken.contains entry.2).map Prod.fst

@[simp]
theorem leftBeside_nil (taken : List Nat) (start : Nat) :
    leftBeside taken start [] = [] :=
  rfl

theorem leftBeside_cons (taken : List Nat) (start : Nat) (card : Card) (hand : List Card) :
    leftBeside taken start (card :: hand) =
      if start ∈ taken then leftBeside taken (start + 1) hand
      else card :: leftBeside taken (start + 1) hand := by
  by_cases member : start ∈ taken <;>
    simp [leftBeside, List.zipIdx_cons, member]

/-- Places below all that are counted take nothing. -/
theorem leftBeside_of_lt {taken : List Nat} {start : Nat} (hand : List Card)
    (below : ∀ place ∈ taken, place < start) :
    leftBeside taken start hand = hand := by
  induction hand generalizing start with
  | nil =>
      rfl
  | cons card hand inductionHypothesis =>
      have absent : start ∉ taken := fun member => Nat.lt_irrefl start (below start member)
      rw [leftBeside_cons, if_neg absent, inductionHypothesis]
      intro place member
      exact Nat.lt_succ_of_lt (below place member)

/-- A place that is passed already makes no difference. -/
theorem leftBeside_cons_of_lt {place start : Nat} (taken : List Nat) (hand : List Card)
    (passed : place < start) :
    leftBeside (place :: taken) start hand = leftBeside taken start hand := by
  induction hand generalizing start with
  | nil =>
      rfl
  | cons card hand inductionHypothesis =>
      have different : start ≠ place := Nat.ne_of_gt passed
      rw [leftBeside_cons, leftBeside_cons, inductionHypothesis (Nat.lt_succ_of_lt passed)]
      simp [different]

theorem leftBeside_congr {taken others : List Nat} (start : Nat) (hand : List Card)
    (same : ∀ place, place ∈ taken ↔ place ∈ others) :
    leftBeside taken start hand = leftBeside others start hand := by
  induction hand generalizing start with
  | nil =>
      rfl
  | cons card hand inductionHypothesis =>
      rw [leftBeside_cons, leftBeside_cons, inductionHypothesis]
      simp [same]

/-- Emptying the highest place leaves the others where they are. -/
theorem leftBeside_eraseIdx {place start : Nat} {others : List Nat} (hand : List Card)
    (reached : start ≤ place) (highest : ∀ other ∈ others, other < place) :
    leftBeside others start (hand.eraseIdx (place - start)) =
      leftBeside (place :: others) start hand := by
  induction hand generalizing start with
  | nil =>
      simp
  | cons card hand inductionHypothesis =>
      by_cases here : start = place
      · subst here
        rw [Nat.sub_self, List.eraseIdx_zero, List.tail_cons, leftBeside_cons,
          if_pos List.mem_cons_self, leftBeside_cons_of_lt _ _ (Nat.lt_succ_self start)]
        have below : ∀ other ∈ others, other < start + 1 :=
          fun other member => Nat.lt_succ_of_lt (highest other member)
        rw [leftBeside_of_lt hand highest, leftBeside_of_lt hand below]
      · have further : start + 1 ≤ place := by omega
        have next : place - start = place - (start + 1) + 1 := by omega
        rw [next, List.eraseIdx_cons_succ, leftBeside_cons, leftBeside_cons,
          inductionHypothesis further]
        simp [here]

theorem foldl_eraseIdx (places : List Nat) (hand : List Card)
    (descending : places.Pairwise fun left right => right < left) :
    places.foldl List.eraseIdx hand = leftBeside places 0 hand := by
  induction places generalizing hand with
  | nil =>
      rw [List.foldl_nil, leftBeside_of_lt hand (by simp)]
  | cons place places inductionHypothesis =>
      rw [List.foldl_cons, inductionHypothesis _ (List.pairwise_cons.1 descending).2]
      exact leftBeside_eraseIdx hand (Nat.zero_le place) (List.pairwise_cons.1 descending).1

theorem withoutPlaces_eq (hand : List Card) {places : List Nat} (distinct : places.Nodup) :
    withoutPlaces hand places = leftBeside places 0 hand := by
  have sorted : (places.mergeSort fun left right => decide (right ≤ left)).Pairwise
      fun left right => decide (right ≤ left) = true := by
    apply List.pairwise_mergeSort
    · intro first second third
      simpa using fun left right => Nat.le_trans right left
    · intro first second
      simpa using Nat.le_total second first
  have different : (places.mergeSort fun left right => decide (right ≤ left)).Nodup :=
    (List.mergeSort_perm places _).nodup_iff.2 distinct
  have descending : (places.mergeSort fun left right => decide (right ≤ left)).Pairwise
      fun left right => right < left :=
    sorted.imp₂ (fun left right order apart =>
      Nat.lt_of_le_of_ne (of_decide_eq_true order) (Ne.symm apart)) different
  rw [withoutPlaces, foldl_eraseIdx _ _ descending]
  exact leftBeside_congr 0 hand fun place => List.mem_mergeSort

/-- The free place that is found for a card is that of the first such card that is left. -/
theorem leftBeside_of_find {taken : List Nat} {start place : Nat} {card found : Card}
    {hand : List Card}
    (first : (hand.zipIdx start).find? (fun entry => entry.1 == card && !taken.contains entry.2) =
      some (found, place)) :
    start ≤ place ∧ place ∉ taken ∧ card ∈ leftBeside taken start hand ∧
      leftBeside (place :: taken) start hand = (leftBeside taken start hand).erase card := by
  induction hand generalizing start with
  | nil =>
      simp at first
  | cons head hand inductionHypothesis =>
      rw [List.zipIdx_cons, List.find?_cons] at first
      split at first
      · next fits =>
          simp only [Option.some.injEq, Prod.mk.injEq] at first
          obtain ⟨rfl, rfl⟩ := first
          simp only [Bool.and_eq_true, beq_iff_eq, Bool.not_eq_true', List.contains_eq_mem,
            decide_eq_false_iff_not] at fits
          obtain ⟨rfl, free⟩ := fits
          refine ⟨Nat.le_refl _, free, ?_, ?_⟩
          · rw [leftBeside_cons, if_neg free]
            exact List.mem_cons_self
          · rw [leftBeside_cons, leftBeside_cons, if_pos List.mem_cons_self, if_neg free,
              List.erase_cons_head, leftBeside_cons_of_lt _ _ (Nat.lt_succ_self _)]
      · next fails =>
          obtain ⟨reached, free, member, erased⟩ := inductionHypothesis first
          have further : start ≠ place := by omega
          refine ⟨by omega, free, ?_, ?_⟩
          · rw [leftBeside_cons]
            split
            · exact member
            · exact List.mem_cons_of_mem head member
          · rw [leftBeside_cons, leftBeside_cons, erased]
            by_cases used : start ∈ taken
            · simp [used]
            · have different : head ≠ card := by
                simpa [used] using fails
              simp [used, further, different]

theorem freePlace?_spec {hand : List Card} {taken : List Nat} {card : Card} {place : Nat}
    (found : freePlace? hand taken card = some place) :
    place ∉ taken ∧ card ∈ leftBeside taken 0 hand ∧
      leftBeside (place :: taken) 0 hand = (leftBeside taken 0 hand).erase card := by
  obtain ⟨⟨_, _⟩, first, rfl⟩ := Option.map_eq_some_iff.1 found
  exact (leftBeside_of_find first).2

theorem takePlaces_spec {hand cards : List Card} {taken places : List Nat}
    (distinct : taken.Nodup) (accepted : takePlaces hand taken cards = .ok places) :
    places.Nodup ∧ cards.Subperm (leftBeside taken 0 hand) ∧
      leftBeside places 0 hand = (leftBeside taken 0 hand).diff cards := by
  induction cards generalizing taken with
  | nil =>
      cases accepted
      exact ⟨distinct, List.nil_subperm, by simp⟩
  | cons card cards inductionHypothesis =>
      unfold takePlaces at accepted
      split at accepted
      · cases accepted
      · next place found =>
          obtain ⟨free, member, erased⟩ := freePlace?_spec found
          obtain ⟨apart, held, left⟩ :=
            inductionHypothesis (List.nodup_cons.2 ⟨free, distinct⟩) accepted
          rw [erased] at held left
          refine ⟨apart, ?_, by rw [left, List.diff_cons]⟩
          exact ((List.subperm_cons card).2 held).trans (List.perm_cons_erase member).symm.subperm

/-- Emptying the places that were found for some cards takes out the first card that equals each of
them. The hand holds them all. -/
theorem withoutPlaces_of_takePlaces {hand cards : List Card} {places : List Nat}
    (accepted : takePlaces hand [] cards = .ok places) :
    cards.Subperm hand ∧ withoutPlaces hand places = hand.diff cards := by
  obtain ⟨distinct, held, left⟩ := takePlaces_spec List.nodup_nil accepted
  have whole : leftBeside [] 0 hand = hand := leftBeside_of_lt hand (by simp)
  rw [whole] at held left
  exact ⟨held, by rw [withoutPlaces_eq hand distinct, left]⟩

theorem exists_freePlace? {hand : List Card} {taken : List Nat} {card : Card}
    (held : card ∈ leftBeside taken 0 hand) :
    ∃ place, freePlace? hand taken card = some place := by
  obtain ⟨entry, free, rfl⟩ := List.mem_map.1 held
  obtain ⟨member, untaken⟩ := List.mem_filter.1 free
  have found : ((hand.zipIdx.find? fun other =>
      other.1 == entry.1 && !taken.contains other.2).map Prod.snd).isSome := by
    rw [Option.isSome_map, List.find?_isSome]
    exact ⟨entry, member, by rw [beq_self_eq_true, Bool.true_and, untaken]⟩
  exact Option.isSome_iff_exists.1 found

/-- Whichever places were found before, those that are left serve for all cards that are left. -/
theorem exists_takePlaces {hand cards : List Card} {taken : List Nat}
    (held : cards.Subperm (leftBeside taken 0 hand)) :
    ∃ places, takePlaces hand taken cards = .ok places := by
  induction cards generalizing taken with
  | nil =>
      exact ⟨taken, rfl⟩
  | cons card cards inductionHypothesis =>
      obtain ⟨place, found⟩ := exists_freePlace? (held.subset List.mem_cons_self)
      obtain ⟨-, -, erased⟩ := freePlace?_spec found
      have later : cards.Subperm (leftBeside (place :: taken) 0 hand) := by
        rw [erased]
        simpa using held.erase card
      obtain ⟨places, accepted⟩ := inductionHypothesis later
      refine ⟨places, ?_⟩
      simp only [takePlaces, found, accepted]

/-- A place is found for each of the cards exactly if the hand holds them all. -/
theorem exists_takePlaces_iff {hand cards : List Card} :
    (∃ places, takePlaces hand [] cards = .ok places) ↔ cards.Subperm hand := by
  constructor
  · rintro ⟨places, accepted⟩
    exact (withoutPlaces_of_takePlaces accepted).1
  · intro held
    apply exists_takePlaces
    rwa [leftBeside_of_lt hand (by simp)]

end Cardroom.Match
