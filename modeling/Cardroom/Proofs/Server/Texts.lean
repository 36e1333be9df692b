import Cardroom.Proofs.Match.View
import Cardroom.Proofs.Room.Listing
import Cardroom.Proofs.Server.Matches

/-!
# Texts that can be read

A player takes from a text who is in the room, how a match has ended, or what lies on the table.
Names hold no bars, codes nothing but letters and digits, and no combination is empty; so
`run_tellsApart` can say that each of these texts tells what it was made from.
-/

namespace Cardroom

/-- What the report on a match says of one seat. -/
@[ext]
structure Standing where
  nick : String
  score : Nat
  cardsPlayed : Nat
  turnsPlayed : Nat
deriving DecidableEq, Repr

namespace Standing

def part (standing : Standing) : String :=
  "P:" ++ standing.nick ++ ":" ++ toString standing.score ++ ":" ++
    toString standing.cardsPlayed ++ ":" ++ toString standing.turnsPlayed

/-- A name may have colons in it, but the numbers after it have none. -/
theorem part_inj {standing standing' : Standing} (same : standing.part = standing'.part) :
    standing = standing' := by
  have same := congrArg String.toList same
  have numeral (number : Nat) : ':' ∉ Nat.toDigits 10 number := Text.not_mem_toDigits rfl number
  have colon : ":".toList = [':'] := rfl
  simp only [part, String.toList_append, Text.toList_toString, colon, List.append_assoc _ [':'],
    List.singleton_append] at same
  obtain ⟨same, turns⟩ := Text.append_cons_inj_right (numeral _) (numeral _) same
  obtain ⟨same, cards⟩ := Text.append_cons_inj_right (numeral _) (numeral _) same
  obtain ⟨same, scores⟩ := Text.append_cons_inj_right (numeral _) (numeral _) same
  exact Standing.ext (String.toList_inj.1 (List.append_cancel_left same)) (Text.toDigits_inj scores)
    (Text.toDigits_inj cards) (Text.toDigits_inj turns)

theorem not_mem_part {standing : Standing} (plain : '|' ∉ standing.nick.toList) :
    '|' ∉ standing.part.toList := by
  have numeral (number : Nat) : '|' ∉ Nat.toDigits 10 number := Text.not_mem_toDigits rfl number
  simp [part, plain, numeral]

end Standing

def reportText (winner : String) (standings : List Standing) : String :=
  Text.joined "|" (("W:" ++ winner) :: standings.map Standing.part)

theorem reportText_inj {winner winner' : String} {standings standings' : List Standing}
    (named : '|' ∉ winner.toList) (named' : '|' ∉ winner'.toList)
    (plain : ∀ standing ∈ standings, '|' ∉ standing.nick.toList)
    (plain' : ∀ standing ∈ standings', '|' ∉ standing.nick.toList)
    (same : reportText winner standings = reportText winner' standings') :
    winner = winner' ∧ standings = standings' := by
  have clear {winner : String} {standings : List Standing} (named : '|' ∉ winner.toList)
      (plain : ∀ standing ∈ standings, '|' ∉ standing.nick.toList) :
      ∀ text ∈ ("W:" ++ winner) :: standings.map Standing.part, '|' ∉ text.toList := by
    refine List.forall_mem_cons.2 ⟨by simp [named], List.forall_mem_map.2 ?_⟩
    exact fun standing listed => Standing.not_mem_part (plain standing listed)
  have parted := Text.joined_inj (clear named plain) (clear named' plain') (List.cons_ne_nil _ _)
    (List.cons_ne_nil _ _) same
  obtain ⟨winners, parts⟩ := List.cons.inj parted
  refine ⟨?_, List.map_injective_iff.2 (fun _ _ => Standing.part_inj) parts⟩
  rw [← String.toList_inj, String.toList_append, String.toList_append] at winners
  exact String.toList_inj.1 (List.append_cancel_left winners)

def Seat.standing (sessions : SessionTable) (seat : Seat) : Standing where
  nick := Transition.nickOf seat.session sessions
  score := seat.score
  cardsPlayed := seat.cardsPlayed
  turnsPlayed := seat.turnsPlayed

def Match.standings (sessions : SessionTable) (game : Match) : List Standing :=
  game.seats.map (Seat.standing sessions)

namespace Transition

theorem seatReport_eq (sessions : SessionTable) (seat : Seat) :
    seatReport sessions seat = "|" ++ (seat.standing sessions).part := by
  rw [seatReport, Standing.part, show "|P:" = "|" ++ "P:" from rfl]
  simp only [String.append_assoc]
  rfl

theorem matchReport_eq (winner : Nat) (sessions : SessionTable) (game : Match) :
    matchReport winner sessions game =
      reportText (nickOf winner sessions) (game.standings sessions) := by
  rw [matchReport, reportText, Text.joined_cons, Match.standings, List.map_map, List.map_map]
  exact congrArg (fun parts => "W:" ++ nickOf winner sessions ++ String.join parts)
    (List.map_congr_left fun seat _ => seatReport_eq sessions seat)

end Transition

/-- No combination that a player sees is empty. -/
theorem Match.IsUnderWay.visible {game : Match} (underWay : game.IsUnderWay) {session : Nat}
    {view : Match.View} (look : game.look? session = some view) :
    ∀ cards ∈ view.table, cards ≠ [] := by
  obtain ⟨place, -, there⟩ := Option.bind_eq_some_iff.1 look
  obtain ⟨seat, -, rfl⟩ := Option.map_eq_some_iff.1 there
  refine List.forall_mem_map.2 fun combination listed empty => ?_
  have three := (underWay.laid combination listed).three_le
  rw [empty] at three
  cases three

namespace Tables

variable {tables tables' : Tables}

/-- No name has a bar in it, nor has no name. -/
theorem not_mem_nickOf (known : KnownOnce tables.occupants) (id : Nat) :
    '|' ∉ (Transition.nickOf id tables.sessions).toList := by
  unfold Transition.nickOf
  cases held : tables.sessions.get? id with
  | none =>
      exact List.not_mem_nil
  | some session =>
      cases named : session.nick with
      | none =>
          simp [Session.name, named]
      | some nick =>
          have plain : '|' ∉ nick.toList := (known.name (getElem?_occupants held) named).plain
          simpa [Session.name, named] using plain

/-- The texts of two servers, or of one at two times, come from the same facts if they are the
same: what the members of a room are told of each other, the report on a match, and what a player
sees of the table. -/
structure TellsApart (tables tables' : Tables) : Prop where
  members : ∀ room room' : Room,
    room.info tables.sessions = room'.info tables'.sessions →
      room.shown tables.sessions = room'.shown tables'.sessions
  report : ∀ (winner winner' : Nat) (game game' : Match),
    Transition.matchReport winner tables.sessions game =
        Transition.matchReport winner' tables'.sessions game' →
      Transition.nickOf winner tables.sessions = Transition.nickOf winner' tables'.sessions ∧
        game.standings tables.sessions = game'.standings tables'.sessions
  view : ∀ (place place' : Nat) (game game' : Match) (session session' : Nat) (text : String),
    (Transition.start tables).gameIn? place = some game →
      (Transition.start tables').gameIn? place' = some game' →
      game.view? session = some text → game'.view? session' = some text →
        game.look? session = game'.look? session'

theorem tellsApart (known : KnownOnce tables.occupants) (known' : KnownOnce tables'.occupants)
    (underWay : tables.AllUnderWay) (underWay' : tables'.AllUnderWay) :
    tables.TellsApart tables' where
  members room room' same := by
    refine Room.shown_eq_of_info_eq ?_ ?_ same
    · exact List.forall_mem_map.2 fun member _ => not_mem_nickOf known member.session
    · exact List.forall_mem_map.2 fun member _ => not_mem_nickOf known' member.session
  report winner winner' game game' same := by
    rw [Transition.matchReport_eq, Transition.matchReport_eq] at same
    refine reportText_inj (not_mem_nickOf known winner) (not_mem_nickOf known' winner') ?_ ?_ same
    · exact List.forall_mem_map.2 fun seat _ => not_mem_nickOf known seat.session
    · exact List.forall_mem_map.2 fun seat _ => not_mem_nickOf known' seat.session
  view place place' game game' session session' text busy busy' seen seen' := by
    rw [Match.view?_eq_look?] at seen seen'
    obtain ⟨view, look, shown⟩ := Option.map_eq_some_iff.1 seen
    obtain ⟨view', look', shown'⟩ := Option.map_eq_some_iff.1 seen'
    rw [look, look', Match.View.text_inj ?_ ?_ (shown.trans shown'.symm)]
    · exact (underWay place game busy).visible look
    · exact (underWay' place' game' busy').visible look'

/-- The texts that players are sent by any two servers that have been started, whatever has happened
to them, tell what they were made from. -/
theorem run_tellsApart (config config' : Config) (started started' : Time)
    (events events' : List Event) :
    (run config started events).TellsApart (run config' started' events') :=
  tellsApart (run_knownOnce config started events) (run_knownOnce config' started' events')
    (run_allUnderWay config started events) (run_allUnderWay config' started' events')

end Tables

end Cardroom
