import Cardroom.Match.Deal
import Cardroom.Proofs.Match.Moves
import Cardroom.Proofs.Session.Change

/-!
# Who sits at the table

What a room and the sessions of its members know of the match is who sits at the table, who of them
is there, whose turn it is, and whether the match is paused. The theorems say what dealing, moves
and pauses do to that part of a match.
-/

namespace Cardroom.Match

/-- The players in the order of their seats, each with whether the player is there. -/
def players (game : Match) : List (Nat × Bool) :=
  game.seats.map fun seat => (seat.session, seat.active)

theorem map_fst_players (game : Match) :
    game.players.map Prod.fst = game.seats.map Seat.session := by
  rw [players, List.map_map]
  rfl

theorem length_players (game : Match) : game.players.length = game.seats.length := by
  rw [players, List.length_map]

theorem allActive_iff {game : Match} : game.allActive ↔ ∀ player ∈ game.players, player.2 := by
  simp [allActive, players]

theorem currentSession?_eq (game : Match) :
    game.currentSession? = game.players[game.current]?.map Prod.fst := by
  rw [currentSession?, players, List.getElem?_map, Option.map_map]
  rfl

theorem mem_of_currentSession? {game : Match} {session : Nat}
    (turn : game.currentSession? = some session) :
    session ∈ game.seats.map Seat.session := by
  obtain ⟨seat, sits, own⟩ := Option.map_eq_some_iff.1 turn
  exact List.mem_map.2 ⟨seat, List.mem_of_getElem? sits, own⟩

def turnStatus (session : Nat) (game : Match) : Session.Status :=
  if game.isTurnOf session then .onTurn else .onWait

theorem turnStatus_ne_paused (session : Nat) (game : Match) :
    game.turnStatus session ≠ .paused := by
  unfold turnStatus
  split <;> exact Session.Status.noConfusion

/-- Whose turn it is depends on the players and the current seat. -/
theorem turnStatus_congr {game other : Match}
    (players : game.players.map Prod.fst = other.players.map Prod.fst)
    (current : game.current = other.current) (session : Nat) :
    game.turnStatus session = other.turnStatus session := by
  have same : game.currentSession? = other.currentSession? := by
    rw [currentSession?_eq, currentSession?_eq, current, ← List.getElem?_map, ← List.getElem?_map,
      players]
  rw [turnStatus, turnStatus, isTurnOf, isTurnOf, same]

/-- The match of a room with these members. It is paused while somebody is away. -/
structure IsOf (members : List Nat) (game : Match) : Prop where
  players : game.players.map Prod.fst = members
  current : game.current < members.length
  stage :
    (game.status = .playing ∧ game.pauseReason = none ∧ game.allActive = true) ∨
      (game.status = .paused ∧ game.pauseReason.isSome ∧ game.allActive = false)

/-- A session agrees with the match that its player sits in. The status from before a pause is
kept, and names the same turn as the match. -/
structure Suits (game : Match) (session : Session) : Prop where
  active : ∀ {active}, (session.id, active) ∈ game.players → active = session.isConnected
  running : game.status = .playing → session.status = game.turnStatus session.id
  paused : game.status = .paused →
    session.status = (if session.isConnected then .paused else .disconnected) ∧
      session.lastStatus = game.turnStatus session.id

/-- Two matches with the same players, of whom the same are there, the same one is on turn, and
which are both running or both paused. -/
structure SameTable (before after : Match) : Prop where
  players : after.players = before.players
  current : after.current = before.current
  status : after.status = before.status
  pauseReason : after.pauseReason = before.pauseReason

namespace SameTable

variable {before after : Match}

theorem allActive_eq (same : before.SameTable after) : after.allActive = before.allActive := by
  rw [Bool.eq_iff_iff, allActive_iff, allActive_iff, same.players]

theorem turnStatus_eq (same : before.SameTable after) (session : Nat) :
    after.turnStatus session = before.turnStatus session :=
  turnStatus_congr (by rw [same.players]) same.current session

theorem isOf (same : before.SameTable after) {members : List Nat} (sound : before.IsOf members) :
    after.IsOf members := by
  refine ⟨?_, ?_, ?_⟩
  · rw [same.players]
    exact sound.players
  · rw [same.current]
    exact sound.current
  · rw [same.status, same.pauseReason, same.allActive_eq]
    exact sound.stage

theorem suits (same : before.SameTable after) {session : Session} (suits : before.Suits session) :
    after.Suits session := by
  refine ⟨?_, ?_, ?_⟩
  · rw [same.players]
    exact suits.active
  · rw [same.status, same.turnStatus_eq]
    exact suits.running
  · rw [same.status, same.turnStatus_eq]
    exact suits.paused

end SameTable

namespace IsOf

variable {members : List Nat} {game : Match}

theorem of_playing (players : game.players.map Prod.fst = members)
    (current : game.current < members.length) (playing : game.status = .playing)
    (reason : game.pauseReason = none) (active : game.allActive) :
    game.IsOf members :=
  ⟨players, current, .inl ⟨playing, reason, active⟩⟩

theorem playing_iff (sound : game.IsOf members) : game.status = .playing ↔ game.allActive := by
  rcases sound.stage with ⟨playing, _, active⟩ | ⟨paused, _, away⟩
  · simp [playing, active]
  · simp [paused, away]

theorem paused_of_not_playing (sound : game.IsOf members) (still : game.status ≠ .playing) :
    game.status = .paused := by
  rcases sound.stage with ⟨playing, _⟩ | ⟨paused, _⟩
  · exact absurd playing still
  · exact paused

/-- Nobody sits at two places. -/
theorem distinct (sound : game.IsOf members) (distinct : members.Nodup) :
    (game.players.map Prod.fst).Nodup := by
  rw [sound.players]
  exact distinct

/-- A match that goes on after the turn was passed is of the same room. -/
theorem pass {after : Match} (sound : game.IsOf members) (running : game.status = .playing)
    (players : after.players = game.players) (status : after.status = game.status)
    (reason : after.pauseReason = game.pauseReason)
    (current : after.current < game.players.length) :
    after.IsOf members := by
  refine .of_playing ?_ ?_ (status.trans running) ?_ ?_
  · rw [players]
    exact sound.players
  · rw [← sound.players, List.length_map]
    exact current
  · rcases sound.stage with ⟨_, none, _⟩ | ⟨paused, _⟩
    · exact reason.trans none
    · rw [running] at paused
      cases paused
  · rw [allActive_iff, players]
    exact allActive_iff.1 (sound.playing_iff.1 running)

theorem pauseReason_isSome_iff (sound : game.IsOf members) :
    game.pauseReason.isSome ↔ game.status = .paused := by
  rcases sound.stage with ⟨playing, reason, _⟩ | ⟨paused, reason, _⟩
  · simp [playing, reason]
  · simp [paused, reason]

end IsOf

namespace Suits

variable {game : Match} {session : Session}

theorem of_playing (playing : game.status = .playing)
    (active : ∀ {active}, (session.id, active) ∈ game.players → active = session.isConnected)
    (status : session.status = game.turnStatus session.id) :
    game.Suits session where
  active := active
  running _ := status
  paused := by
    intro paused
    rw [playing] at paused
    cases paused

theorem of_paused (paused : game.status = .paused)
    (active : ∀ {active}, (session.id, active) ∈ game.players → active = session.isConnected)
    (status : session.status = if session.isConnected then .paused else .disconnected)
    (last : session.lastStatus = game.turnStatus session.id) :
    game.Suits session where
  active := active
  running := by
    intro playing
    rw [paused] at playing
    cases playing
  paused _ := ⟨status, last⟩

end Suits

/-- Somebody who sits at the table is connected if everybody is there. -/
theorem isConnected_of_allActive {game : Match} {session : Session}
    (shown : ∀ {active}, (session.id, active) ∈ game.players → active = session.isConnected)
    (member : session.id ∈ game.players.map Prod.fst) (active : game.allActive) :
    session.isConnected := by
  obtain ⟨⟨id, present⟩, there, same⟩ := List.mem_map.1 member
  subst same
  rw [← shown there]
  exact allActive_iff.1 active _ there

/-- Everybody is connected while a match runs. -/
theorem IsOf.isConnected {members : List Nat} {game : Match} {session : Session}
    (sound : game.IsOf members) (playing : game.status = .playing)
    (shown : ∀ {active}, (session.id, active) ∈ game.players → active = session.isConnected)
    (member : session.id ∈ members) :
    session.isConnected :=
  isConnected_of_allActive shown (sound.players ▸ member) (sound.playing_iff.1 playing)

/-! ## Dealing -/

theorem dealHands_players (pile : List Card) (seats : List Seat) :
    (dealHands pile seats).1.map (fun seat => (seat.session, seat.active)) =
      seats.map fun seat => (seat.session, seat.active) := by
  induction seats generalizing pile with
  | nil =>
      rfl
  | cons seat seats inductionHypothesis =>
      simp only [dealHands, List.map_cons, inductionHypothesis]
      rfl

theorem start_players (shuffle : Shuffle) (game : Match) :
    (game.start shuffle).players = game.players :=
  dealHands_players _ game.seats

theorem seat_players (room : Nat) (members : List Nat) (shuffled : Bool) :
    (Match.seat room members shuffled).players = members.map fun member => (member, true) := by
  apply List.ext_getElem?
  intro index
  simp only [players, seat, List.getElem?_map, List.getElem?_zipIdx, Option.map_map]
  rfl

/-- The seat that opens the match is one of the seats. -/
theorem start_current_lt (shuffle : Shuffle) (game : Match) (seated : 0 < game.players.length) :
    (game.start shuffle).current < game.players.length := by
  rw [← start_players shuffle game, length_players] at *
  simp only [start] at *
  cases first : (dealHands (newPile shuffle game.shuffled) game.seats).1.findIdx?
      Seat.takesFifteen with
  | none =>
      exact seated
  | some place =>
      exact (List.findIdx?_eq_some_iff_getElem.1 first).1

/-- A match that was just dealt is the match of those for whom it was dealt. -/
theorem isOf_start (shuffle : Shuffle) (room : Nat) {members : List Nat} (shuffled : Bool)
    (several : 0 < members.length) :
    ((Match.seat room members shuffled).start shuffle).IsOf members := by
  have players := (start_players shuffle _).trans (seat_players room members shuffled)
  refine .of_playing ?_ ?_ rfl rfl ?_
  · rw [players, List.map_map]
    exact List.map_id members
  · have lower := start_current_lt shuffle (Match.seat room members shuffled)
    rw [seat_players, List.length_map] at lower
    exact lower several
  · rw [allActive_iff, players]
    simp

/-! ## Moves -/

theorem modifySeat_players (place : Nat) {change : Seat → Seat} (game : Match)
    (same : ∀ seat, (change seat).session = seat.session ∧ (change seat).active = seat.active) :
    (game.modifySeat place change).players = game.players :=
  map_seats_modifySeat game place fun seat => Prod.ext (same seat).1 (same seat).2

theorem passTurn_players (game : Match) : game.passTurn.players = game.players := by
  unfold passTurn
  split
  · next place _ =>
      exact modifySeat_players place { game with current := place } fun _ => ⟨rfl, rfl⟩
  · rfl

theorem passTurn_pauseReason (game : Match) :
    game.passTurn.pauseReason = game.pauseReason := by
  unfold passTurn
  split <;> rfl

/-- The turn passes to a seat of the table, or the match is finished. -/
theorem passTurn_status (game : Match) :
    game.passTurn.status = .finished ∨
      game.passTurn.status = game.status ∧ game.passTurn.current < game.players.length := by
  unfold passTurn
  split
  · next place next =>
      have active := List.find?_some next
      refine .inr ⟨rfl, ?_⟩
      rw [length_players]
      show place < game.seats.length
      by_contra beyond
      rw [List.getElem?_eq_none (Nat.le_of_not_lt beyond)] at active
      cases active
  · exact .inl rfl

/-- What a move does to the table: it ends the match, or passes the turn on, or does neither. -/
inductive Follows (game : Match) (action : MessageType) (after : Match) : Prop
  | finished : after.status = .finished → Follows game action after
  | passed :
      action = .discard →
      after.players = game.players →
      after.status = game.status →
      after.pauseReason = game.pauseReason →
      after.current < game.players.length →
      Follows game action after
  | same : action ≠ .discard → game.SameTable after → Follows game action after

theorem rebuildDrawPile_sameTable (shuffle : Shuffle) (game : Match) :
    game.SameTable (game.rebuildDrawPile shuffle) := by
  unfold rebuildDrawPile
  split <;> exact ⟨rfl, rfl, rfl, rfl⟩

theorem accepted_follows {game after : Match} {place : Nat} {seat : Seat} {action : MessageType}
    {payload : String} (accepted : game.Accepted place seat payload action after) :
    game.Follows action after := by
  cases accepted with
  | takeFromDeck awaiting opened top =>
      exact .same (by decide) ⟨modifySeat_players place _ fun _ => ⟨rfl, rfl⟩, rfl, rfl, rfl⟩
  | takeFromDiscard awaiting opened top =>
      exact .same (by decide) ⟨modifySeat_players place _ fun _ => ⟨rfl, rfl⟩, rfl, rfl, rfl⟩
  | layDown parsed fewer held formed =>
      exact .same (by decide) ⟨modifySeat_players place game fun _ => ⟨rfl, rfl⟩, rfl, rfl, rfl⟩
  | attach cut parsed held more named found fits =>
      exact .same (by decide) ⟨modifySeat_players place _ fun _ => ⟨rfl, rfl⟩, rfl, rfl, rfl⟩
  | @discard card incomplete drawn parsed held more =>
      have players : (game.modifySeat place fun seat =>
          { seat with
            hand := seat.hand.erase card
            phase := .turnComplete
            turnsPlayed := seat.turnsPlayed + 1 }).players = game.players :=
        modifySeat_players place game fun _ => ⟨rfl, rfl⟩
      rcases passTurn_status _ with finished | ⟨status, current⟩
      · exact .finished finished
      · exact .passed rfl ((passTurn_players _).trans players) status
          (passTurn_pauseReason _) (Nat.lt_of_lt_of_eq current (congrArg List.length players))
  | close only named =>
      exact .finished rfl

/-- Nobody changes seats in a move. -/
theorem map_session_play (shuffle : Shuffle) (session : Nat) (action : MessageType)
    (payload : String) (game : Match) :
    (game.play shuffle session action payload).2.seats.map Seat.session =
      game.seats.map Seat.session := by
  have played := play_played shuffle session action payload game
  generalize game.play shuffle session action payload = answer at played
  cases played with
  | refused other =>
      rfl
  | rebuilt mover awaiting opened empty pile =>
      simp only [← map_fst_players, (rebuildDrawPile_sameTable shuffle game).players]
  | accepted mover accepted =>
      cases accepted with
      | takeFromDeck awaiting opened top =>
          exact map_seats_modifySeat _ _ fun _ => rfl
      | takeFromDiscard awaiting opened top =>
          exact map_seats_modifySeat _ _ fun _ => rfl
      | layDown parsed fewer held formed =>
          exact map_seats_modifySeat _ _ fun _ => rfl
      | attach cut parsed held more named found fits =>
          exact map_seats_modifySeat _ _ fun _ => rfl
      | discard incomplete drawn parsed held more =>
          rw [← map_fst_players, passTurn_players, map_fst_players]
          exact map_seats_modifySeat _ _ fun _ => rfl
      | close only named =>
          exact map_seats_modifySeat _ _ fun _ => rfl

/-- A move that is refused leaves the table as it is. -/
theorem sameTable_of_play_error {shuffle : Shuffle} {session : Nat} {action : MessageType}
    {payload : String} {game after : Match} {error : MoveError}
    (refused : game.play shuffle session action payload = (.error error, after)) :
    game.SameTable after := by
  have played := play_played shuffle session action payload game
  rw [refused] at played
  cases played with
  | refused other =>
      exact ⟨rfl, rfl, rfl, rfl⟩
  | rebuilt mover awaiting opened empty pile =>
      exact rebuildDrawPile_sameTable shuffle game

/-- A move is made in a running match only. -/
theorem follows_of_play_ok {shuffle : Shuffle} {session : Nat} {action : MessageType}
    {payload : String} {game after : Match}
    (made : game.play shuffle session action payload = (.ok (), after)) :
    game.status = .playing ∧ game.Follows action after := by
  have played := play_played shuffle session action payload game
  rw [made] at played
  cases played with
  | accepted mover accepted =>
      exact ⟨mover.running, accepted_follows accepted⟩

theorem setActive_stage (session : Nat) (active : Bool) (game : Match) :
    (game.setActive session active).status = game.status ∧
      (game.setActive session active).current = game.current ∧
      (game.setActive session active).pauseReason = game.pauseReason := by
  unfold setActive
  split <;> exact ⟨rfl, rfl, rfl⟩

/-- Nobody sits at two seats, and so only the seat of the player changes. -/
theorem setActive_players {session : Nat} {active : Bool} {game : Match}
    (distinct : (game.players.map Prod.fst).Nodup) :
    (game.setActive session active).players =
      game.players.map fun player => if player.1 = session then (player.1, active) else player := by
  rw [map_fst_players] at distinct
  apply List.ext_getElem?
  intro index
  unfold setActive seatOf?
  split
  · next place first =>
      obtain ⟨bound, sits, _⟩ := List.findIdx?_eq_some_iff_getElem.1 first
      have here : game.seats[place].session = session := by simpa using sits
      simp only [players, modifySeat, List.getElem?_map, List.getElem?_modify]
      cases other : game.seats[index]? with
      | none =>
          rfl
      | some seat =>
          by_cases same : place = index
          · subst same
            rw [List.getElem?_eq_getElem bound] at other
            cases other
            simp [here]
          · have different : seat.session ≠ session := by
              intro equal
              apply same
              apply (List.getElem?_inj (by simpa using bound) distinct).1
              rw [List.getElem?_map, List.getElem?_map, other, List.getElem?_eq_getElem bound,
                Option.map_some, Option.map_some, here, equal]
            simp [same, different]
  · next nobody =>
      have absent := List.findIdx?_eq_none_iff.1 nobody
      simp only [players, List.getElem?_map]
      cases other : game.seats[index]? with
      | none =>
          rfl
      | some seat =>
          have different : seat.session ≠ session := by
            simpa using absent seat (List.mem_of_getElem? other)
          simp [different]

theorem map_fst_setActive (session : Nat) (active : Bool) {game : Match}
    (distinct : (game.players.map Prod.fst).Nodup) :
    (game.setActive session active).players.map Prod.fst = game.players.map Prod.fst := by
  rw [setActive_players distinct, List.map_map]
  apply List.map_congr_left
  intro player _
  simp only [Function.comp_apply]
  split <;> rfl

/-- The seat of a player who came or went tells so. The other seats and the turn are as before. -/
structure Marks (before : Match) (session : Nat) (active : Bool) (after : Match) : Prop where
  own : ∀ {present}, (session, present) ∈ after.players → present = active
  others : ∀ {other present}, other ≠ session → (other, present) ∈ after.players →
    (other, present) ∈ before.players
  turn : ∀ other, after.turnStatus other = before.turnStatus other

theorem marks_of_players {session : Nat} {active : Bool} {game after : Match}
    (distinct : (game.players.map Prod.fst).Nodup)
    (players : after.players = (game.setActive session active).players)
    (current : after.current = game.current) :
    game.Marks session active after := by
  have names := (congrArg _ players).trans (map_fst_setActive session active distinct)
  rw [setActive_players distinct] at players
  refine ⟨?_, ?_, turnStatus_congr names current⟩
  · intro present there
    rw [players] at there
    obtain ⟨earlier, _, equal⟩ := List.mem_map.1 there
    split at equal
    · exact (congrArg Prod.snd equal).symm
    · next other =>
        exact absurd (congrArg Prod.fst equal) other
  · intro other present different there
    rw [players] at there
    obtain ⟨earlier, before, equal⟩ := List.mem_map.1 there
    split at equal
    · next same =>
        exact absurd ((congrArg Prod.fst equal).symm.trans same) different
    · exact equal ▸ before

namespace Marks

variable {game after : Match} {id : Nat} {active : Bool} {session changed : Session}

/-- The seat suits the player who came or went. -/
theorem shown_own (marks : game.Marks id active after) (same : session.id = id)
    (connected : session.isConnected = active) :
    ∀ {present}, (session.id, present) ∈ after.players → present = session.isConnected := by
  intro present there
  rw [connected]
  exact marks.own (same ▸ there)

/-- The other seats suit the other players, whatever becomes of their statuses. -/
theorem shown_others (marks : game.Marks id active after) (suits : game.Suits session)
    (different : session.id ≠ id) (same : session.SameButStatus changed) :
    ∀ {present}, (changed.id, present) ∈ after.players → present = changed.isConnected := by
  intro present there
  rw [same.id_eq] at there
  rw [same.isConnected_eq]
  exact suits.active (marks.others different there)

end Marks

section

variable {members : List Nat} {game : Match} {session : Nat}

/-- The match of a room from which a member was dropped is paused, whether or not it was before. -/
theorem pause_setActive (sound : game.IsOf members) (distinct : members.Nodup)
    (member : session ∈ members) (reason : String) :
    ∃ paused, ((game.setActive session false).pause? reason).getD (game.setActive session false) =
        paused ∧
      paused.status = .paused ∧ game.Marks session false paused ∧ paused.IsOf members := by
  have distinct := sound.distinct distinct
  obtain ⟨status, current, pauseReason⟩ := setActive_stage session false game
  have players := (map_fst_setActive session false distinct).trans sound.players
  have lower : (game.setActive session false).current < members.length := by
    rw [current]
    exact sound.current
  have marks : game.Marks session false (game.setActive session false) :=
    marks_of_players distinct rfl current
  have away : (game.setActive session false).allActive = false := by
    rw [Bool.eq_false_iff, ne_eq, allActive_iff]
    intro everybody
    rw [← players] at member
    obtain ⟨⟨_, present⟩, there, rfl⟩ := List.mem_map.1 member
    have absent : present = false := marks.own there
    exact Bool.noConfusion (absent.symm.trans (everybody _ there))
  refine ⟨_, rfl, ?_⟩
  unfold pause?
  split
  · exact ⟨rfl, marks_of_players distinct rfl current, players, lower, .inr ⟨rfl, rfl, away⟩⟩
  · next still =>
      have paused := sound.paused_of_not_playing fun playing => still (status.trans playing)
      refine ⟨status.trans paused, marks, players, lower, .inr ⟨status.trans paused, ?_, away⟩⟩
      rw [Option.getD_none, pauseReason]
      exact sound.pauseReason_isSome_iff.2 paused

/-- A paused match to which a player has come back goes on if everybody is there again. -/
theorem resume_setActive (session : Nat) (sound : game.IsOf members) (distinct : members.Nodup)
    (paused : game.status = .paused) :
    ((game.setActive session true).allActive = true ∧
      ∃ resumed, (game.setActive session true).resume? = some resumed ∧
        resumed.status = .playing ∧ game.Marks session true resumed ∧ resumed.IsOf members) ∨
    ((game.setActive session true).allActive = false ∧
      (game.setActive session true).status = .paused ∧
      game.Marks session true (game.setActive session true) ∧
      (game.setActive session true).IsOf members) := by
  have distinct := sound.distinct distinct
  obtain ⟨status, current, pauseReason⟩ := setActive_stage session true game
  have players := (map_fst_setActive session true distinct).trans sound.players
  have lower : (game.setActive session true).current < members.length := by
    rw [current]
    exact sound.current
  cases active : (game.setActive session true).allActive with
  | true =>
      refine .inl ⟨rfl,
        { game.setActive session true with status := .playing, pauseReason := none },
        by rw [resume?, if_pos (status.trans paused)], rfl,
        marks_of_players distinct rfl current, players, lower, .inl ⟨rfl, rfl, active⟩⟩
  | false =>
      refine .inr ⟨rfl, status.trans paused, marks_of_players distinct rfl current, players, lower,
        .inr ⟨status.trans paused, ?_, active⟩⟩
      rw [pauseReason]
      exact sound.pauseReason_isSome_iff.2 paused

end

end Cardroom.Match
