import Mathlib
import Cardroom.Proofs.Combination.WellFormed

/-!
# Combinations that grow

The places of a run are kept in bytes. Here the two steps that calculate with places, laying out a
run and attaching a card to one, are written in bytes, so that a number a byte does not hold gives
no result. `tryAttach?_of_grown` says that there always is one: however many cards are attached to a
combination one after another, it stays well formed, no byte overflows, a card that does not fit
changes nothing and one that fits is added.
-/

namespace Cardroom

namespace Byte

def greatest : Nat := 255

def ofNat? (number : Nat) : Option Nat :=
  if number ≤ greatest then some number else none

def add? (left right : Nat) : Option Nat :=
  ofNat? (left + right)

def sub? (left right : Nat) : Option Nat :=
  if right ≤ left then some (left - right) else none

theorem ofNat?_of_le {number : Nat} (small : number ≤ greatest) :
    ofNat? number = some number :=
  if_pos small

theorem add?_of_le {left right : Nat} (small : left + right ≤ greatest) :
    add? left right = some (left + right) :=
  if_pos small

theorem sub?_of_le {left right : Nat} (order : right ≤ left) :
    sub? left right = some (left - right) :=
  if_pos order

end Byte

namespace Combination

/-- `layRun?` in bytes: gaps are filled first, and the jokers that are left extend the run. -/
def layRunInBytes? (acesHigh : Bool) (cards : List Card) : Option (Option (Nat × List Card)) :=
  let reals := inOrder acesHigh cards
  let places := reals.map Prod.fst
  match places.head?, places.getLast? with
  | some lowest, some highest =>
      if places.Nodup then do
        let jokers ← Byte.sub? cards.length reals.length
        let between ← Byte.sub? highest lowest
        let gaps ← Byte.sub? (between + 1) reals.length
        if gaps ≤ jokers then
          let spare ← Byte.sub? jokers gaps
          let room ← Byte.sub? highAce highest
          let above := min spare room
          let below ← Byte.sub? spare above
          let depth ← Byte.sub? lowest lowAce
          if below ≤ depth then
            let low ← Byte.sub? lowest (← Byte.ofNat? below)
            let high ← Byte.add? highest (← Byte.ofNat? above)
            return some (low, fillPlaces reals low (high + 1 - low))
          else
            return none
        else
          return none
      else
        some none
  | _, _ => some none

def runInBytes? (cards : List Card) : Option (Option (Nat × List Card)) :=
  if fewestCards ≤ cards.length ∧ cards.length ≤ highAce then
    if cards.all Card.isWild then
      some (some (lowAce, cards))
    else if sameSuit cards then do
      match ← layRunInBytes? false cards with
      | some laid => return some laid
      | none =>
          if (cards.filterMap Card.rank?).any Rank.isAce then layRunInBytes? true cards
          else return none
    else
      some none
  else
    some none

def ofCardsInBytes? (owner : Nat) (cards : List Card) : Option (Option Combination) :=
  match setRank? cards with
  | some rank => some (some { kind := .set rank, cards, owner })
  | none => do
      let laid ← runInBytes? cards
      return laid.map fun laid => { kind := .run laid.1, cards := laid.2, owner }

def fittingEndInBytes? (low high : Nat) (suit : Option Suit) : Card → Option (Option End)
  | .joker => some (fittingEnd? low high suit .joker)
  | .standard rank cardSuit =>
      if suit ≠ some cardSuit then some none
      else if rank.isAce then
        if high = 13 then some (some .top)
        else if low = 2 then some (some .bottom)
        else some none
      else do
        if (← Byte.add? rank.number 1) = low then
          return some .bottom
        else if rank.number = (← Byte.add? high 1) then
          return some .top
        else
          return none

def fitsSet (rank : Nat) (cards : List Card) : Card → Bool
  | .joker => true
  | .standard cardRank suit =>
      cardRank.number == rank && !(cards.filterMap Card.suit?).contains suit

def tryAttachToSet (rank : Nat) (card : Card) (combination : Combination) : Bool × Combination :=
  if mostSetCards ≤ combination.cards.length then
    (false, combination)
  else if fitsSet rank combination.cards card then
    (true, { combination with cards := combination.cards ++ [card] })
  else
    (false, combination)

def tryAttachToRun? (low : Nat) (card : Card) (combination : Combination) :
    Option (Bool × Combination) :=
  let cards := combination.cards
  if cards.all Card.isWild then do
    match ← runInBytes? (cards ++ [card]) with
    | some laid => return (true, { combination with kind := .run laid.1, cards := laid.2 })
    | none => return (false, combination)
  else do
    let next ← Byte.add? low (← Byte.ofNat? cards.length)
    let high ← Byte.sub? next 1
    match ← fittingEndInBytes? low high (cards.findSome? Card.suit?) card with
    | some .bottom =>
        let below ← Byte.sub? low 1
        return (true, { combination with kind := .run below, cards := card :: cards })
    | some .top => return (true, { combination with cards := cards ++ [card] })
    | none => return (false, combination)

/-- Attaches a card if it fits, and tells whether it did. There is no result if a byte
overflows. -/
def tryAttach? (card : Card) (combination : Combination) : Option (Bool × Combination) :=
  if mostCards ≤ combination.cards.length then
    some (false, combination)
  else
    match combination.kind with
    | .set rank => some (tryAttachToSet rank card combination)
    | .run low => tryAttachToRun? low card combination

def tryAttachAll? (cards : List Card) (combination : Combination) : Option Combination :=
  cards.foldlM (fun combination card => (tryAttach? card combination).map Prod.snd) combination

/-! ## No byte overflows -/

/-- Ascending places from the first to the last are no more than there are between the two. -/
theorem length_le_of_ascending {places : List Nat} {lowest highest : Nat}
    (ascending : places.Pairwise (· < ·))
    (within : ∀ position ∈ places, lowest ≤ position ∧ position ≤ highest) :
    places.length ≤ highest + 1 - lowest := by
  induction places generalizing lowest with
  | nil =>
      exact Nat.zero_le _
  | cons first others inductionHypothesis =>
      obtain ⟨later, rest⟩ := List.pairwise_cons.1 ascending
      have bounds := within first List.mem_cons_self
      have fewer : others.length ≤ highest + 1 - (first + 1) := by
        apply inductionHypothesis rest
        intro position member
        exact ⟨later position member, (within position (List.mem_cons_of_mem first member)).2⟩
      rw [List.length_cons]
      omega

theorem Spans.length_le {acesHigh : Bool} {cards : List Card} {lowest highest : Nat}
    (spans : Spans acesHigh cards lowest highest)
    (distinct : ((inOrder acesHigh cards).map Prod.fst).Nodup) :
    (inOrder acesHigh cards).length ≤ highest - lowest + 1 := by
  have order := spans.bounds.2.1
  have between := length_le_of_ascending (List.pairwise_map.2 (inOrder_ascending distinct))
    spans.within
  rw [List.length_map] at between
  omega

theorem length_inOrder_le (acesHigh : Bool) (cards : List Card) :
    (inOrder acesHigh cards).length ≤ cards.length := by
  rw [(inOrder_perm acesHigh cards).length_eq]
  exact List.length_filterMap_le _ cards

theorem layRunInBytes?_eq (acesHigh : Bool) (cards : List Card) :
    layRunInBytes? acesHigh cards = some (layRun? acesHigh cards) := by
  have highAceEqual : highAce = 14 := rfl
  have lowAceEqual : lowAce = 1 := rfl
  have greatestEqual : Byte.greatest = 255 := rfl
  have fewer := length_inOrder_le acesHigh cards
  simp only [layRunInBytes?, layRun?]
  cases first : ((inOrder acesHigh cards).map Prod.fst).head? with
  | none =>
      rfl
  | some lowest =>
      cases last : ((inOrder acesHigh cards).map Prod.fst).getLast? with
      | none =>
          rfl
      | some highest =>
          have spans : Spans acesHigh cards lowest highest := ⟨first, last⟩
          obtain ⟨one, order, most⟩ := spans.bounds
          by_cases distinct : ((inOrder acesHigh cards).map Prod.fst).Nodup
          · have between := spans.length_le distinct
            generalize (inOrder acesHigh cards).length = reals at fewer between
            -- Counted without the real cards, gaps and jokers leave the same to spare.
            have spare : cards.length - reals - (highest - lowest + 1 - reals) =
                cards.length - (highest - lowest + 1) := by omega
            by_cases span : highest - lowest + 1 ≤ cards.length
            · have enough : highest - lowest + 1 - reals ≤ cards.length - reals := by omega
              simp only [Byte.sub?_of_le fewer, Byte.sub?_of_le order, Byte.sub?_of_le between,
                if_pos enough, Byte.sub?_of_le enough, spare, Option.bind_eq_bind,
                Option.bind_some, distinct, span, and_self, if_true]
              rw [Byte.sub?_of_le (by omega), Option.bind_some,
                Byte.sub?_of_le (Nat.min_le_left _ _), Option.bind_some,
                Byte.sub?_of_le (by omega), Option.bind_some]
              split
              · next below =>
                  rw [Byte.ofNat?_of_le (by omega), Option.bind_some,
                    Byte.sub?_of_le (by omega), Option.bind_some,
                    Byte.ofNat?_of_le (by omega), Option.bind_some,
                    Byte.add?_of_le (by omega), Option.bind_some, Option.pure_def]
                  congr
                  omega
              · rfl
            · have short : ¬ highest - lowest + 1 - reals ≤ cards.length - reals := by omega
              simp only [Byte.sub?_of_le fewer, Byte.sub?_of_le order, Byte.sub?_of_le between,
                if_neg short, Option.bind_eq_bind, Option.bind_some, distinct, span, and_false,
                if_true, if_false]
              rfl
          · simp only [distinct, false_and, if_false]

theorem runInBytes?_eq (cards : List Card) :
    runInBytes? cards = some (run? cards) := by
  unfold runInBytes? run?
  split
  · split
    · rfl
    · split
      · rw [layRunInBytes?_eq, layRunInBytes?_eq, Option.bind_eq_bind, Option.bind_some]
        cases layRun? false cards with
        | some laid =>
            rfl
        | none =>
            dsimp only
            split <;> rfl
      · rfl
  · rfl

theorem ofCardsInBytes?_eq (owner : Nat) (cards : List Card) :
    ofCardsInBytes? owner cards = some (ofCards? owner cards) := by
  unfold ofCardsInBytes? ofCards?
  rw [runInBytes?_eq]
  cases setRank? cards <;> rfl

theorem fittingEndInBytes?_eq {low high : Nat} (suit : Option Suit) (card : Card)
    (highest : high ≤ 14) :
    fittingEndInBytes? low high suit card = some (fittingEnd? low high suit card) := by
  have highAceEqual : highAce = 14 := rfl
  have lowAceEqual : lowAce = 1 := rfl
  have greatestEqual : Byte.greatest = 255 := rfl
  cases card with
  | joker =>
      rfl
  | standard rank cardSuit =>
      have king := rank.number_le_king
      simp only [fittingEndInBytes?, fittingEnd?]
      split
      · rfl
      · split
        · have top : high = 13 ↔ high + 1 = highAce := by omega
          have bottom : low = 2 ↔ low = lowAce + 1 := by omega
          simp only [top, bottom]
          split
          · rfl
          · split <;> rfl
        · rw [Byte.add?_of_le (by omega), Byte.add?_of_le (by omega)]
          simp only [Option.bind_eq_bind, Option.bind_some]
          split
          · rfl
          · split <;> rfl

def answered (combination : Combination) : Option Combination → Bool × Combination
  | some extended => (true, extended)
  | none => (false, combination)

theorem tryAttachToSet_eq (rank : Nat) (card : Card) (combination : Combination) :
    tryAttachToSet rank card combination =
      answered combination (attachToSet? rank card combination) := by
  have attach : attachToSet? rank card combination =
      if combination.cards.length < mostSetCards ∧ fitsSet rank combination.cards card then
        some { combination with cards := combination.cards ++ [card] }
      else none := by
    cases card <;> rfl
  rw [attach, tryAttachToSet]
  by_cases full : mostSetCards ≤ combination.cards.length
  · rw [if_pos full, if_neg fun both => Nat.not_lt.2 full both.1]
    rfl
  · have room : combination.cards.length < mostSetCards := Nat.lt_of_not_le full
    simp only [full, room, true_and, if_false]
    split <;> rfl

theorem tryAttachToRun?_eq {low : Nat} (card : Card) {combination : Combination}
    (run : IsRun low combination.cards) :
    tryAttachToRun? low card combination =
      some (answered combination (attachToRun? low card combination)) := by
  have greatestEqual : Byte.greatest = 255 := rfl
  have fewest := run.fewest
  have most := run.most
  have lowest := run.lowest
  have highest := run.highest
  simp only [tryAttachToRun?, attachToRun?]
  split
  · rw [runInBytes?_eq]
    cases run? (combination.cards ++ [card]) <;> rfl
  · simp only [Option.bind_eq_bind]
    rw [Byte.ofNat?_of_le (by omega), Option.bind_some, Byte.add?_of_le (by omega),
      Option.bind_some, Byte.sub?_of_le (by omega), Option.bind_some,
      fittingEndInBytes?_eq _ _ highest, Option.bind_some, Byte.sub?_of_le lowest]
    generalize fittingEnd? low _ _ card = fitting
    cases fitting with
    | none =>
        rfl
    | some fitting =>
        cases fitting <;> rfl

theorem tryAttach?_eq (card : Card) {combination : Combination}
    (sound : combination.WellFormed) :
    tryAttach? card combination = some (answered combination (attach? card combination)) := by
  unfold tryAttach? attach?
  by_cases full : mostCards ≤ combination.cards.length
  · rw [if_pos full, if_neg (Nat.not_lt.2 full)]
    rfl
  · rw [if_neg full, if_pos (Nat.lt_of_not_le full)]
    cases kind : combination.kind with
    | set rank =>
        exact congrArg some (tryAttachToSet_eq rank card combination)
    | run low =>
        simp only [WellFormed, kind] at sound
        exact tryAttachToRun?_eq card sound

/-- What one attempt does to a well-formed combination. -/
theorem tryAttach?_sound (card : Card) {combination : Combination}
    (sound : combination.WellFormed) :
    ∃ answer after, tryAttach? card combination = some (answer, after) ∧ after.WellFormed ∧
      (answer = false → after = combination) ∧
      (answer = true → after.cards.Perm (card :: combination.cards)) := by
  rw [tryAttach?_eq card sound]
  cases accepted : attach? card combination with
  | none =>
      exact ⟨false, combination, rfl, sound, fun _ => rfl, Bool.noConfusion⟩
  | some extended =>
      exact ⟨true, extended, rfl, attach?_wellFormed sound accepted, Bool.noConfusion,
        fun _ => attach?_perm accepted⟩

theorem tryAttachAll?_sound (attached : List Card) {combination : Combination}
    (sound : combination.WellFormed) :
    ∃ grown, tryAttachAll? attached combination = some grown ∧ grown.WellFormed := by
  induction attached generalizing combination with
  | nil =>
      exact ⟨combination, rfl, sound⟩
  | cons card attached inductionHypothesis =>
      obtain ⟨answer, after, tried, kept, _⟩ := tryAttach?_sound card sound
      obtain ⟨grown, result, well⟩ := inductionHypothesis kept
      refine ⟨grown, ?_, well⟩
      rw [tryAttachAll?, List.foldlM_cons, tried]
      exact result

/-- A new combination stays well formed however many cards one tries to attach to it. No attempt
overflows a byte, and the next one either changes nothing or adds its card. -/
theorem tryAttach?_of_grown {owner : Nat} {cards : List Card} {combination : Combination}
    (formed : ofCards? owner cards = some combination) (attached : List Card) (card : Card) :
    ofCardsInBytes? owner cards = some (some combination) ∧
    ∃ grown, tryAttachAll? attached combination = some grown ∧ grown.WellFormed ∧
      ∃ answer after, tryAttach? card grown = some (answer, after) ∧
        (answer = false → after = grown) ∧
        (answer = true → after.cards.Perm (card :: grown.cards)) := by
  refine ⟨(ofCardsInBytes?_eq owner cards).trans (congrArg some formed), ?_⟩
  obtain ⟨grown, result, sound⟩ := tryAttachAll?_sound attached (ofCards?_wellFormed formed)
  obtain ⟨answer, after, tried, _, refused, added⟩ := tryAttach?_sound card sound
  exact ⟨grown, result, sound, answer, after, tried, refused, added⟩

/-- A queen, a king and a joker above them; further cards go below. -/
theorem tryAttach?_of_queen_and_king :
    let queen : Card := .standard ⟨12, by decide, by decide⟩ .hearts
    let king : Card := .standard ⟨13, by decide, by decide⟩ .hearts
    let jack : Card := .standard ⟨11, by decide, by decide⟩ .hearts
    let formed : Combination := ⟨.run 12, [queen, king, .joker], 0⟩
    ofCardsInBytes? 0 [king, .joker, queen] = some (some formed) ∧
    ∃ grown, tryAttachAll? [jack, .joker] formed = some grown ∧ grown.WellFormed ∧
      ∃ answer after, tryAttach? jack grown = some (answer, after) ∧
        (answer = false → after = grown) ∧
        (answer = true → after.cards.Perm (jack :: grown.cards)) := by
  intro queen king jack formed
  have accepted : ofCards? 0 [king, .joker, queen] = some formed := by cbv
  exact tryAttach?_of_grown accepted [jack, .joker] jack

end Combination

end Cardroom
