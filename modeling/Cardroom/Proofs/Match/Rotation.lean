import Cardroom.Proofs.Match.Conservation
import Cardroom.Proofs.Match.Seats
import Mathlib.Data.List.Basic
import Mathlib.Logic.Function.Iterate

/-!
# The turn goes round the table

The turn is passed to the first player who is there, going round the table from the seat after the
current one, and the match is finished if nobody is there. `goingRound` puts places in the order in
which they come up. `goingRound_of_cons` is the step: the place that comes up first is the last one
from then on, and the others stay in order. `passes_isPrefix` follows by induction on what happens
to a match: while the same players are there, they come on turn in that order. So as many passes as
there are players bring each of them on turn once.
-/

namespace Cardroom

/-- Places in the order in which they come up going round the table from one of them: those beyond
it, then the others, and the place itself last. -/
def goingRound (start : Nat) (places : List Nat) : List Nat :=
  places.filter (start < ·) ++ places.filter (· ≤ start)

/-- The steps that it takes to come from one place to another, going round a table of so many seats.
It takes a whole round to come back to the same place. -/
def stepsBetween (count start place : Nat) : Nat :=
  if start < place then place - start else count - start + place

theorem goingRound_perm (start : Nat) (places : List Nat) :
    (goingRound start places).Perm places := by
  have parted := List.filter_append_perm (start < ·) places
  simp only [← decide_not, Nat.not_lt] at parted
  exact parted

theorem filter_goingRound (start : Nat) (places : List Nat) (test : Nat → Bool) :
    (goingRound start places).filter test = goingRound start (places.filter test) := by
  simp only [goingRound, List.filter_append, List.filter_comm test]

theorem goingRound_of_append {start : Nat} {lower upper : List Nat}
    (upTo : ∀ place ∈ lower, place ≤ start) (beyond : ∀ place ∈ upper, start < place) :
    goingRound start (lower ++ upper) = upper ++ lower := by
  have noneBeyond : lower.filter (start < ·) = [] := by
    simpa [List.filter_eq_nil_iff] using upTo
  have allBeyond : upper.filter (start < ·) = upper := by
    simpa [List.filter_eq_self] using beyond
  have allUpTo : lower.filter (· ≤ start) = lower := by
    simpa [List.filter_eq_self] using upTo
  have noneUpTo : upper.filter (· ≤ start) = [] := by
    simpa [List.filter_eq_nil_iff] using beyond
  rw [goingRound, List.filter_append, List.filter_append, noneBeyond, allBeyond, allUpTo, noneUpTo,
    List.nil_append, List.append_nil]

/-- Any place cuts places that are in order in two. -/
theorem exists_cut (start : Nat) {places : List Nat} (ordered : places.Pairwise (· < ·)) :
    ∃ lower upper, places = lower ++ upper ∧ (∀ place ∈ lower, place ≤ start) ∧
      ∀ place ∈ upper, start < place := by
  induction places with
  | nil =>
      exact ⟨[], [], rfl, by simp, by simp⟩
  | cons first places inductionHypothesis =>
      obtain ⟨least, ordered⟩ := List.pairwise_cons.1 ordered
      by_cases beyond : start < first
      · refine ⟨[], first :: places, rfl, by simp, ?_⟩
        rintro place (_ | ⟨_, later⟩)
        · exact beyond
        · exact Nat.lt_trans beyond (least place later)
      · obtain ⟨lower, upper, rfl, upTo, others⟩ := inductionHypothesis ordered
        refine ⟨first :: lower, upper, rfl, ?_, others⟩
        rintro place (_ | ⟨_, later⟩)
        · exact Nat.le_of_not_lt beyond
        · exact upTo place later

/-- Seen from the place that comes up first, the others come up as before and it is the last. -/
theorem goingRound_of_cons {start place : Nat} {places rest : List Nat}
    (ordered : places.Pairwise (· < ·)) (first : goingRound start places = place :: rest) :
    goingRound place places = rest ++ [place] := by
  obtain ⟨lower, upper, rfl, upTo, beyond⟩ := exists_cut start ordered
  rw [goingRound_of_append upTo beyond] at first
  obtain ⟨lowerOrdered, upperOrdered, apart⟩ := List.pairwise_append.1 ordered
  cases upper with
  | nil =>
      -- The round begins again at the lowest place.
      rw [List.nil_append] at first
      subst first
      obtain ⟨least, -⟩ := List.pairwise_cons.1 lowerOrdered
      have last : ∀ other ∈ [place], other ≤ place := by simp
      rw [List.append_nil]
      exact goingRound_of_append last least
  | cons next upper =>
      obtain ⟨rfl, rfl⟩ := List.cons.inj first
      obtain ⟨least, -⟩ := List.pairwise_cons.1 upperOrdered
      have last : ∀ other ∈ lower ++ [next], other ≤ next := by
        intro other member
        rcases List.mem_append.1 member with lower | same
        · exact Nat.le_of_lt (apart other lower next List.mem_cons_self)
        · exact Nat.le_of_eq (List.mem_singleton.1 same)
      have order := goingRound_of_append last least
      rwa [List.append_assoc, List.singleton_append, ← List.append_assoc] at order

/-- Whoever comes up earlier is fewer steps away. -/
theorem goingRound_pairwise {count start : Nat} {places : List Nat} (seated : start < count)
    (bound : ∀ place ∈ places, place < count) (ordered : places.Pairwise (· < ·)) :
    (goingRound start places).Pairwise fun place other =>
      stepsBetween count start place < stepsBetween count start other := by
  obtain ⟨lower, upper, rfl, upTo, beyond⟩ := exists_cut start ordered
  obtain ⟨lowerOrdered, upperOrdered, -⟩ := List.pairwise_append.1 ordered
  have ahead : ∀ place ∈ upper, stepsBetween count start place = place - start :=
    fun place member => if_pos (beyond place member)
  have around : ∀ place ∈ lower, stepsBetween count start place = count - start + place :=
    fun place member => if_neg (Nat.not_lt.2 (upTo place member))
  rw [goingRound_of_append upTo beyond, List.pairwise_append]
  refine ⟨?_, ?_, ?_⟩
  · refine upperOrdered.imp_of_mem fun {place other} near far less => ?_
    have first := beyond place near
    rw [ahead place near, ahead other far]
    omega
  · refine lowerOrdered.imp_of_mem fun {place other} near far less => ?_
    rw [around place near, around other far]
    omega
  · intro place near other far
    have inside := bound place (List.mem_append_right _ near)
    rw [ahead place near, around other far]
    omega

theorem map_steps_of_cut (start others : Nat) :
    let count := start + others + 1
    (List.range' 1 count).map (fun step => (start + step) % count) =
      List.range' (start + 1) others ++ List.range (start + 1) := by
  intro count
  have steps : List.range' 1 count =
      List.range' 1 others ++ List.range' (1 + others) (start + 1) := by
    rw [List.range'_append_1]
    congr 1
    omega
  rw [steps, List.map_append]
  congr 1
  · rw [← List.map_add_range']
    refine List.map_congr_left fun step member => Nat.mod_eq_of_lt ?_
    have few := List.mem_range'_1.1 member
    omega
  · rw [List.range'_eq_map_range, List.map_map]
    refine (List.map_congr_left fun place member => ?_).trans (List.map_id _)
    have bound := List.mem_range.1 member
    have round : start + (1 + others + place) = place + count := by omega
    have below : place < count := by omega
    simp only [Function.comp_apply, id_eq]
    rw [round, Nat.add_mod_right, Nat.mod_eq_of_lt below]

/-- Step after step, all places of the table come up. -/
theorem map_steps_eq_goingRound (start count : Nat) :
    (List.range' 1 count).map (fun step => (start + step) % count) =
      goingRound (start % count) (List.range count) := by
  rcases Nat.eq_zero_or_pos count with rfl | positive
  · rfl
  · have seated : start % count < count := Nat.mod_lt start positive
    simp only [← Nat.mod_add_mod start]
    generalize start % count = first at seated ⊢
    obtain ⟨others, rfl⟩ := Nat.exists_eq_add_of_lt seated
    have cut : List.range (first + others + 1) =
        List.range (first + 1) ++ List.range' (first + 1) others := by
      rw [List.range_eq_range', List.range_eq_range', Nat.add_right_comm, ← List.range'_append_1,
        Nat.zero_add]
    rw [map_steps_of_cut, cut, goingRound_of_append]
    · intro place member
      exact Nat.le_of_lt_succ (List.mem_range.1 member)
    · intro place member
      exact (List.mem_range'_1.1 member).1

namespace Match

/-! ## The next player -/

def isPresent (game : Match) (place : Nat) : Bool :=
  (game.seats[place]?.map Seat.active).getD false

def presentPlaces (game : Match) : List Nat :=
  (List.range game.seats.length).filter game.isPresent

/-- The place of the current seat. A number beyond the table counts on round it. -/
def turnPlace (game : Match) : Nat :=
  game.current % game.seats.length

def comingUp (game : Match) : List Nat :=
  goingRound game.turnPlace game.presentPlaces

/-- What becomes of a match when the turn is passed. The first player who is there may draw: all
seats that are fewer steps away are those of players who are not. With nobody there the match is
finished. -/
inductive TurnPassed (game : Match) : Match → Prop
  | next {place : Nat} {seat : Seat} :
      game.seats[place]? = some seat →
      seat.active = true →
      (∀ {other : Nat} {earlier : Seat}, game.seats[other]? = some earlier →
        stepsBetween game.seats.length game.turnPlace other <
          stepsBetween game.seats.length game.turnPlace place →
        earlier.active = false) →
      TurnPassed game
        { game with
          current := place
          seats := game.seats.set place { seat with phase := .awaitingDraw } }
  | nobody :
      (∀ seat ∈ game.seats, seat.active = false) →
      TurnPassed game { game with current := 0, status := .finished }

variable {game after : Match} {place : Nat}

theorem isPresent_eq (game : Match) (place : Nat) :
    game.isPresent place = (game.players[place]?.map Prod.snd).getD false := by
  rw [isPresent, players, List.getElem?_map, Option.map_map]
  rfl

theorem isPresent_iff :
    game.isPresent place = true ↔ ∃ seat, game.seats[place]? = some seat ∧ seat.active = true := by
  unfold isPresent
  cases game.seats[place]? <;> simp

theorem mem_presentPlaces :
    place ∈ game.presentPlaces ↔ ∃ seat, game.seats[place]? = some seat ∧ seat.active = true := by
  rw [presentPlaces, List.mem_filter, isPresent_iff, List.mem_range, and_iff_right_of_imp]
  rintro ⟨seat, sits, -⟩
  exact (List.getElem?_eq_some_iff.1 sits).1

theorem lt_of_mem_presentPlaces (member : place ∈ game.presentPlaces) :
    place < game.seats.length :=
  List.mem_range.1 (List.mem_filter.1 member).1

theorem presentPlaces_pairwise (game : Match) : game.presentPlaces.Pairwise (· < ·) :=
  List.pairwise_lt_range.filter _

theorem presentPlaces_congr (same : after.players = game.players) :
    after.presentPlaces = game.presentPlaces := by
  have present : after.isPresent = game.isPresent := by
    funext place
    rw [isPresent_eq, isPresent_eq, same]
  rw [presentPlaces, presentPlaces, present, ← length_players, ← length_players, same]

theorem turnPlace_congr (current : after.current = game.current)
    (count : after.seats.length = game.seats.length) :
    after.turnPlace = game.turnPlace := by
  rw [turnPlace, turnPlace, current, count]

theorem SameTable.turnPlace_eq (same : game.SameTable after) : after.turnPlace = game.turnPlace :=
  turnPlace_congr same.current (by rw [← length_players, same.players, length_players])

theorem SameTable.comingUp_eq (same : game.SameTable after) : after.comingUp = game.comingUp := by
  rw [comingUp, comingUp, same.turnPlace_eq, presentPlaces_congr same.players]

theorem comingUp_perm (game : Match) : game.comingUp.Perm game.presentPlaces :=
  goingRound_perm ..

theorem comingUp_pairwise (game : Match) :
    game.comingUp.Pairwise fun place other =>
      stepsBetween game.seats.length game.turnPlace place <
        stepsBetween game.seats.length game.turnPlace other := by
  rcases Nat.eq_zero_or_pos game.seats.length with empty | seated
  · have nobody : game.comingUp = [] := by
      simp [comingUp, goingRound, presentPlaces, empty]
    rw [nobody]
    exact .nil
  · exact goingRound_pairwise (Nat.mod_lt _ seated) (fun _ => lt_of_mem_presentPlaces)
      game.presentPlaces_pairwise

theorem nextSeat?_eq_head? (game : Match) : game.nextSeat? = game.comingUp.head? := by
  rw [comingUp, presentPlaces, ← filter_goingRound, turnPlace, ← map_steps_eq_goingRound,
    List.head?_filter]
  rfl

theorem passTurn_of_nil (nobody : game.comingUp = []) :
    game.passTurn = { game with current := 0, status := .finished } := by
  rw [passTurn, nextSeat?_eq_head?, nobody, List.head?_nil]

theorem passTurn_of_cons {rest : List Nat} {seat : Seat} (first : game.comingUp = place :: rest)
    (sits : game.seats[place]? = some seat) :
    game.passTurn =
      { game with
        current := place
        seats := game.seats.set place { seat with phase := .awaitingDraw } } := by
  rw [passTurn, nextSeat?_eq_head?, first, List.head?_cons,
    ← modifySeat_seats_eq_set (fun seat => { seat with phase := .awaitingDraw }) sits]
  rfl

theorem turnPassed_passTurn (game : Match) : game.TurnPassed game.passTurn := by
  have everybody := game.comingUp_perm
  cases order : game.comingUp with
  | nil =>
      rw [order] at everybody
      rw [passTurn_of_nil order]
      refine .nobody fun seat member => Bool.eq_false_iff.2 fun active => ?_
      obtain ⟨place, sits⟩ := List.mem_iff_getElem?.1 member
      have present := everybody.mem_iff.2 (mem_presentPlaces.2 ⟨seat, sits, active⟩)
      cases present
  | cons place rest =>
      have ascending := game.comingUp_pairwise
      rw [order] at everybody ascending
      obtain ⟨first, -⟩ := List.pairwise_cons.1 ascending
      obtain ⟨seat, sits, active⟩ :=
        mem_presentPlaces.1 (everybody.mem_iff.1 List.mem_cons_self)
      rw [passTurn_of_cons order sits]
      refine .next sits active fun {other earlier} there nearer => ?_
      -- A player who is there would come up, and not before the first one.
      refine Bool.eq_false_iff.2 fun here => ?_
      have present := everybody.mem_iff.2 (mem_presentPlaces.2 ⟨earlier, there, here⟩)
      rcases List.mem_cons.1 present with rfl | later
      · exact Nat.lt_irrefl _ nearer
      · exact Nat.lt_asymm nearer (first other later)

/-- The player who comes up first comes on turn. -/
theorem turnPlace_passTurn {rest : List Nat} (first : game.comingUp = place :: rest) :
    game.passTurn.current = place ∧ game.passTurn.turnPlace = place := by
  have member : place ∈ game.presentPlaces :=
    game.comingUp_perm.mem_iff.1 (first ▸ List.mem_cons_self)
  obtain ⟨seat, sits, -⟩ := mem_presentPlaces.1 member
  rw [passTurn_of_cons first sits, turnPlace, List.length_set]
  exact ⟨rfl, Nat.mod_eq_of_lt (lt_of_mem_presentPlaces member)⟩

/-! ## Passes in a run -/

/-- Whether the event passes the turn. A discard does so if it is accepted. -/
def passesTurn (game : Match) : Event → Bool
  | .passTurn => true
  | .move shuffle session action payload =>
      action == .discard && (game.play shuffle session action payload).1.isOk
  | _ => false

/-- A pass of the turn: the places of the players who were there, and the seat that is current from
then on. -/
structure Pass where
  present : List Nat
  place : Nat
deriving DecidableEq, Repr

def passes : List Event → Match → List Pass
  | [], _ => []
  | event :: events, game =>
      let after := game.after event
      if game.passesTurn event then
        ⟨game.presentPlaces, after.current⟩ :: passes events after
      else
        passes events after

/-- Whatever else comes with a pass of the turn leaves the table as it is. -/
theorem after_of_passesTurn {event : Event} (passing : game.passesTurn event = true) :
    ∃ before, game.SameTable before ∧ game.after event = before.passTurn := by
  cases event with
  | move shuffle session action payload =>
      have played := play_played shuffle session action payload game
      simp only [passesTurn, after] at passing ⊢
      generalize game.play shuffle session action payload = answer at played passing ⊢
      cases played with
      | refused other =>
          simp [Except.isOk, Except.toBool] at passing
      | rebuilt mover awaiting opened empty pile =>
          cases passing
      | accepted mover accepted =>
          cases accepted with
          | discard incomplete drawn parsed held left =>
              refine ⟨_, ?_, rfl⟩
              exact ⟨modifySeat_players _ game fun _ => ⟨rfl, rfl⟩, rfl, rfl, rfl⟩
          | takeFromDeck | takeFromDiscard | layDown | attach | close =>
              cases passing
  | passTurn =>
      exact ⟨game, ⟨rfl, rfl, rfl, rfl⟩, rfl⟩
  | pause | resume | setActive | score =>
      cases passing

/-- Without a pass the current seat stays. -/
theorem turnPlace_after {event : Event} (staying : game.passesTurn event = false) :
    (game.after event).turnPlace = game.turnPlace := by
  cases event with
  | move shuffle session action payload =>
      have played := play_played shuffle session action payload game
      simp only [passesTurn, after] at staying ⊢
      generalize game.play shuffle session action payload = answer at played staying ⊢
      cases played with
      | refused other =>
          rfl
      | rebuilt mover awaiting opened empty pile =>
          exact (rebuildDrawPile_sameTable shuffle game).turnPlace_eq
      | accepted mover accepted =>
          cases accepted with
          | discard incomplete drawn parsed held left =>
              cases staying
          | takeFromDeck | takeFromDiscard | layDown | attach | close =>
              exact turnPlace_congr rfl (List.length_modify ..)
  | passTurn =>
      cases staying
  | pause reason =>
      simp only [after, pause?]
      split <;> rfl
  | resume =>
      simp only [after, resume?]
      split <;> rfl
  | setActive session active =>
      simp only [after, setActive]
      split
      · exact turnPlace_congr rfl (List.length_modify ..)
      · rfl
  | score =>
      exact turnPlace_congr rfl (List.length_map ..)

/-- The player who comes up first comes on turn, and from then on comes up last. -/
theorem comingUp_after {event : Event} {rest : List Nat} (passing : game.passesTurn event = true)
    (first : game.comingUp = place :: rest) :
    (game.after event).current = place ∧
      goingRound (game.after event).turnPlace game.presentPlaces = rest ++ [place] := by
  obtain ⟨before, same, passed⟩ := after_of_passesTurn passing
  obtain ⟨current, turn⟩ := turnPlace_passTurn (same.comingUp_eq.trans first)
  rw [passed, turn]
  exact ⟨current, goingRound_of_cons game.presentPlaces_pairwise first⟩

/-- As long as the same players are there, they come on turn in the order in which they come up. -/
theorem passes_isPrefix {events : List Event} {block : List Pass} {present : List Nat}
    (successive : block <+: game.passes events) (fixed : ∀ pass ∈ block, pass.present = present)
    (few : block.length ≤ present.length) :
    block.map Pass.place <+: goingRound game.turnPlace present := by
  induction events generalizing game block with
  | nil =>
      rw [List.prefix_nil.1 successive]
      exact List.nil_prefix
  | cons event events inductionHypothesis =>
      rw [passes] at successive
      cases passing : game.passesTurn event with
      | false =>
          rw [passing] at successive
          rw [← turnPlace_after passing]
          exact inductionHypothesis successive fixed few
      | true =>
          rw [passing, if_pos rfl] at successive
          cases block with
          | nil =>
              exact List.nil_prefix
          | cons pass block =>
              obtain ⟨rfl, later⟩ := List.cons_prefix_cons.1 successive
              obtain rfl : game.presentPlaces = present := fixed _ List.mem_cons_self
              have others := fun pass member => fixed pass (List.mem_cons_of_mem _ member)
              have onward := inductionHypothesis later others (Nat.le_of_succ_le few)
              rw [← game.comingUp_perm.length_eq] at few
              obtain ⟨place, rest, order⟩ :=
                List.exists_cons_of_length_pos (Nat.zero_lt_of_lt few)
              obtain ⟨current, next⟩ := comingUp_after passing order
              rw [next] at onward
              rw [order] at few
              -- So few passes do not bring the first one on turn again.
              have short : block.map Pass.place <+: rest := by
                refine List.prefix_of_prefix_length_le onward (List.prefix_append rest [place]) ?_
                rw [List.length_map]
                exact Nat.le_of_succ_le_succ few
              rw [comingUp] at order
              rw [order, List.map_cons, current]
              exact List.cons_prefix_cons.2 ⟨rfl, short⟩

theorem exists_passes_isPrefix {events : List Event} {block : List Pass}
    (successive : block <:+: game.passes events) :
    ∃ (earlier : Match) (later : List Event), block <+: earlier.passes later := by
  induction events generalizing game with
  | nil =>
      rw [List.infix_nil.1 successive]
      exact ⟨game, [], List.nil_prefix⟩
  | cons event events inductionHypothesis =>
      rw [passes] at successive
      split at successive
      · next passing =>
          rcases List.infix_cons_iff.1 successive with first | later
          · refine ⟨game, event :: events, ?_⟩
            rw [passes, if_pos passing]
            exact first
          · exact inductionHypothesis later
      · exact inductionHypothesis successive

/-- While the same players are there, as many passes as there are players bring each of them on turn
once. -/
theorem passes_perm {events : List Event} {block : List Pass} {present : List Nat}
    (successive : block <:+: game.passes events) (fixed : ∀ pass ∈ block, pass.present = present)
    (round : block.length = present.length) :
    (block.map Pass.place).Perm present := by
  obtain ⟨earlier, later, first⟩ := exists_passes_isPrefix successive
  have everybody := goingRound_perm earlier.turnPlace present
  have order := passes_isPrefix first fixed (Nat.le_of_eq round)
  have whole : block.map Pass.place = goingRound earlier.turnPlace present := by
    refine order.eq_of_length ?_
    rw [List.length_map, round, everybody.length_eq]
  rw [whole]
  exact everybody

/-- With nothing in between, the same players are there at all passes. -/
theorem passes_replicate (calls : Nat) (game : Match) :
    game.passes (List.replicate calls .passTurn) =
      (List.range calls).map fun call =>
        ⟨game.presentPlaces, (passTurn^[call + 1] game).current⟩ := by
  induction calls generalizing game with
  | zero =>
      rfl
  | succ calls inductionHypothesis =>
      have same : game.passTurn.presentPlaces = game.presentPlaces :=
        presentPlaces_congr (passTurn_players game)
      have first : game.passesTurn .passTurn = true := rfl
      rw [List.replicate_succ, passes, if_pos first, after, inductionHypothesis, same,
        List.range_succ_eq_map, List.map_cons, List.map_map]
      rfl

theorem iterate_passTurn_perm (game : Match) :
    ((List.range game.presentPlaces.length).map fun call =>
      (passTurn^[call + 1] game).current).Perm game.presentPlaces := by
  have visited : ((game.passes (.replicate game.presentPlaces.length .passTurn)).map
      Pass.place).Perm game.presentPlaces := by
    refine passes_perm List.infix_rfl ?_ ?_ <;> simp [passes_replicate]
  rw [passes_replicate, List.map_map] at visited
  exact visited

structure GoesRound (game : Match) : Prop where
  /-- It is passed to the next player who is there. -/
  next : game.TurnPassed game.passTurn
  /-- As many passes as there are players bring each of them on turn once. -/
  round : ((List.range game.presentPlaces.length).map fun call =>
    (passTurn^[call + 1] game).current).Perm game.presentPlaces
  /-- So do as many successive passes in any run, if the same players are there at each of them. -/
  rounds : ∀ {events : List Event} {block : List Pass} {present : List Nat},
    block <:+: game.passes events → (∀ pass ∈ block, pass.present = present) →
      block.length = present.length → (block.map Pass.place).Perm present

/-- Whoever is there and whoever holds the turn, at a table of any size. -/
theorem passTurn_goesRound (game : Match) : game.GoesRound where
  next := game.turnPassed_passTurn
  round := game.iterate_passTurn_perm
  rounds := passes_perm

/-- Two of three players are there. The one who is not holds the turn at first, and is back for a
while between two passes. -/
theorem goesRound_past_absent :
    let away : Seat := { session := 9, takesFifteen := false, active := false }
    let other : Seat := { session := 6, takesFifteen := false, hand := [.joker, .joker] }
    let game : Match :=
      { room := 0, status := .playing, current := 1, shuffled := false
        seats := [{ session := 4, takesFifteen := true }, away, other]
        drawPile := [.joker] }
    let events : List Event :=
      [.passTurn, .setActive 9 true, .move .still 6 .takeFromDeck "", .setActive 9 false,
        .move .still 6 .discard "YY", .pause "away", .resume, .passTurn]
    let block : List Pass := [⟨[0, 2], 0⟩, ⟨[0, 2], 2⟩]
    game.TurnPassed game.passTurn ∧ game.passTurn.current = 2 ∧
      game.passes events = ⟨[0, 2], 2⟩ :: block ∧ block <:+: game.passes events ∧
      (∀ pass ∈ block, pass.present = [0, 2]) ∧ (block.map Pass.place).Perm [0, 2] := by
  intro away other game events block
  have passed : game.passes events = ⟨[0, 2], 2⟩ :: block := by decide +kernel
  have successive : block <:+: game.passes events := by
    rw [passed]
    exact (List.suffix_cons _ block).isInfix
  have fixed : ∀ pass ∈ block, pass.present = [0, 2] := by decide
  have goesRound := passTurn_goesRound game
  exact ⟨goesRound.next, rfl, passed, successive, fixed, goesRound.rounds successive fixed rfl⟩

end Match

end Cardroom
