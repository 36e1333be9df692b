import Cardroom.Proofs.Match.Orderly
import Cardroom.Proofs.Match.Run

/-!
# Turn after turn

Every turn is a draw and a discard, the very first a discard only, and the turns go round the table.
`Orderly.history_after` is the step: an event adds to the draws and discards that were accepted, and
the match stays in order. `takesTurns_run_start` follows for every match that was dealt, by
induction on what happened to it.
-/

namespace Cardroom

inductive TurnPart where
  | draw
  | discard
deriving DecidableEq, Repr

def MessageType.turnPart? : MessageType → Option TurnPart
  | .takeFromDeck | .takeFromDiscard => some .draw
  | .discard => some .discard
  | _ => none

namespace Match

/-- The draw or discard that is made by an event, and by whom. A move that is refused is none. -/
def turnPart? (game : Match) : Event → Option (Nat × TurnPart)
  | .move shuffle session action payload =>
      match (game.play shuffle session action payload).1 with
      | .ok () => action.turnPart?.map fun part => (session, part)
      | .error _ => none
  | _ => none

def turnParts : List Event → Match → List (Nat × TurnPart)
  | [], _ => []
  | event :: events, game =>
      (game.turnPart? event).toList ++ turnParts events (game.after event)

/-- What the turn of this number is made of. The first one is without a draw. -/
def turnOf (members : List Nat) (turn : Nat) : List (Nat × TurnPart) :=
  members[turn % members.length]?.toList.flatMap fun session =>
    if turn = 0 then [(session, .discard)] else [(session, .draw), (session, .discard)]

/-- What has been made of the turn that is not over. -/
def begun (game : Match) : List (Nat × TurnPart) :=
  game.seats[game.current]?.toList.flatMap fun seat =>
    if seat.phase = .awaitingDiscard then [(seat.session, .draw)] else []

def history (members : List Nat) (turns : Nat) (game : Match) : List (Nat × TurnPart) :=
  (List.range turns).flatMap (turnOf members) ++ game.begun

theorem begun_eq {game : Match} {seat : Seat} (sits : game.seats[game.current]? = some seat) :
    game.begun = if seat.phase = .awaitingDiscard then [(seat.session, .draw)] else [] := by
  simp [begun, sits]

theorem begun_passTurn (game : Match) :
    game.passTurn.status = .finished ∨ game.passTurn.begun = [] := by
  unfold passTurn
  split
  · next place _ =>
      refine .inr ?_
      cases sits : game.seats[place]? <;> simp [begun, modifySeat, sits]
  · exact .inl rfl

theorem MayMove.session_eq {game : Match} {session place : Nat} {seat : Seat}
    (mover : game.MayMove session place seat) :
    seat.session = session := by
  obtain ⟨bound, here, _⟩ := List.findIdx?_eq_some_iff_getElem.1 mover.seated
  have sits := mover.sits
  rw [List.getElem?_eq_getElem bound] at sits
  cases sits
  simpa using here

/-- Whoever may move is on turn. -/
theorem MayMove.currentSession?_eq {game : Match} {session place : Nat} {seat : Seat}
    (mover : game.MayMove session place seat) :
    game.currentSession? = some session := by
  obtain rfl := mover.turn
  rw [currentSession?, mover.sits, Option.map_some, mover.session_eq]

theorem currentSession?_of_play_ok {shuffle : Shuffle} {session : Nat} {action : MessageType}
    {payload : String} {game after : Match}
    (made : game.play shuffle session action payload = (.ok (), after)) :
    game.currentSession? = some session := by
  have played := play_played shuffle session action payload game
  rw [made] at played
  cases played with
  | accepted mover accepted =>
      exact mover.currentSession?_eq

namespace Orderly

variable {members : List Nat} {turns : Nat} {game after : Match} {seat : Seat}

theorem turnOf_eq (orderly : game.Orderly members turns)
    (sits : game.seats[game.current]? = some seat) :
    turnOf members turns =
      if turns = 0 then [(seat.session, .discard)]
      else [(seat.session, .draw), (seat.session, .discard)] := by
  have member : members[turns % members.length]? = some seat.session := by
    rw [← orderly.current, ← orderly.sessions, List.getElem?_map, sits, Option.map_some]
  simp [turnOf, member]

theorem begun_append_discard (orderly : game.Orderly members turns)
    (sits : game.seats[game.current]? = some seat) (incomplete : seat.phase ≠ .turnComplete)
    (drawn : seat.phase = .awaitingDraw → seat.isOpening = true) :
    game.begun ++ [(seat.session, .discard)] = turnOf members turns := by
  have fits := orderly.fits sits
  have opening := fits.isOpening_iff orderly.current
  rw [orderly.turnOf_eq sits, begun_eq sits]
  cases phase : seat.phase with
  | awaitingDraw =>
      simp [opening.1 (drawn phase)]
  | awaitingDiscard =>
      have later : turns ≠ 0 := by
        intro first
        have both := fits.balanced.once phase
        rw [opening.2 first] at both
        cases both
      simp [later]
  | turnComplete =>
      exact absurd phase incomplete

theorem history_of_accepted (orderly : game.Orderly members turns)
    (sits : game.seats[game.current]? = some seat) {action : MessageType} {payload : String}
    (accepted : game.Accepted game.current seat payload action after) :
    after.status = .finished ∨
      history members (turns + if action = .discard then 1 else 0) after =
        history members turns game ++
          (action.turnPart?.map fun part => (seat.session, part)).toList := by
  cases accepted with
  | takeFromDeck awaiting opened top =>
      have waiting : seat.phase ≠ .awaitingDiscard := by
        rw [awaiting]
        exact Phase.noConfusion
      refine .inr ?_
      simp [history, begun, receive, modifySeat, sits, waiting, MessageType.turnPart?]
  | takeFromDiscard waiting opened top =>
      refine .inr ?_
      simp [history, begun, receive, modifySeat, sits, waiting, MessageType.turnPart?]
  | layDown parsed fewer held formed =>
      refine .inr ?_
      simp [history, begun, modifySeat, sits, MessageType.turnPart?]
  | attach cut parsed held more named found fits =>
      refine .inr ?_
      simp [history, begun, modifySeat, sits, MessageType.turnPart?]
  | discard incomplete drawn parsed held left =>
      rcases begun_passTurn _ with finished | nothing
      · exact .inl finished
      · refine .inr ?_
        simp only [if_true, history, nothing, List.range_succ, List.flatMap_append,
          List.flatMap_singleton, ← orderly.begun_append_discard sits incomplete drawn]
        simp [MessageType.turnPart?]
  | close only named =>
      exact .inl rfl

/-- What happens adds itself to the history if it is a draw or a discard, and leaves the match in
order. -/
theorem history_after (orderly : game.Orderly members turns) {event : Event}
    (ordinary : event.isOrdinary) :
    (game.after event).status = .finished ∨
      ∃ later, (game.after event).Orderly members later ∧
        history members later (game.after event) =
          history members turns game ++ (game.turnPart? event).toList := by
  cases event with
  | move shuffle session action payload =>
      have played := play_played shuffle session action payload game
      simp only [Match.after, turnPart?]
      generalize game.play shuffle session action payload = answer at played
      cases played with
      | refused other =>
          exact .inr ⟨turns, orderly, (List.append_nil _).symm⟩
      | rebuilt mover awaiting opened empty pile =>
          refine .inr ⟨turns, ?_, ?_⟩
          · refine orderly.congr ?_ ?_ ?_ ?_ <;> simp [rebuildDrawPile, pile]
          · simp [history, begun, rebuildDrawPile, pile]
      | @accepted action place seat after mover accepted =>
          have sits := mover.sits
          rw [mover.turn] at sits accepted
          rcases orderly.of_accepted sits accepted with finished | later
          · exact .inl finished
          · rcases orderly.history_of_accepted sits accepted with finished | longer
            · exact .inl finished
            · rw [mover.session_eq] at longer
              exact .inr ⟨_, later, longer⟩
  | pause reason =>
      simp only [Match.after, pause?]
      split
      · exact .inr ⟨turns, orderly.congr rfl rfl rfl id, (List.append_nil _).symm⟩
      · exact .inr ⟨turns, orderly, (List.append_nil _).symm⟩
  | resume =>
      simp only [Match.after, resume?]
      split
      · exact .inr ⟨turns, orderly.congr rfl rfl rfl id, (List.append_nil _).symm⟩
      · exact .inr ⟨turns, orderly, (List.append_nil _).symm⟩
  | setActive session active =>
      cases ordinary
  | passTurn =>
      cases ordinary
  | score =>
      cases ordinary

end Orderly

theorem after_finished {game : Match} (finished : game.status = .finished) {event : Event}
    (ordinary : event.isOrdinary) :
    (game.after event).status = .finished := by
  cases event with
  | move shuffle session action payload =>
      simp [after, play, finished]
  | pause reason =>
      simp [after, pause?, finished]
  | resume =>
      simp [after, resume?, finished]
  | setActive session active =>
      cases ordinary
  | passTurn =>
      cases ordinary
  | score =>
      cases ordinary

theorem run_finished {game : Match} {events : List Event} (finished : game.status = .finished)
    (ordinary : ∀ event ∈ events, event.isOrdinary) :
    (game.run events).status = .finished := by
  induction events generalizing game with
  | nil =>
      exact finished
  | cons event events inductionHypothesis =>
      have next := after_finished finished (ordinary event List.mem_cons_self)
      exact inductionHypothesis next fun event member =>
        ordinary event (List.mem_cons_of_mem _ member)

theorem Orderly.history_run {members : List Nat} {turns : Nat} {game : Match} {events : List Event}
    (orderly : game.Orderly members turns) (ordinary : ∀ event ∈ events, event.isOrdinary)
    (unfinished : (game.run events).status ≠ .finished) :
    ∃ later, (game.run events).Orderly members later ∧
      history members later (game.run events) =
        history members turns game ++ turnParts events game := by
  -- A match that finishes on the way would be finished at the end.
  induction events generalizing turns game with
  | nil =>
      exact ⟨turns, orderly, (List.append_nil _).symm⟩
  | cons event events inductionHypothesis =>
      have first := ordinary event List.mem_cons_self
      have others := fun event member => ordinary event (List.mem_cons_of_mem _ member)
      rcases orderly.history_after first with finished | ⟨next, kept, longer⟩
      · exact absurd (run_finished finished others) unfinished
      · obtain ⟨later, inOrder, whole⟩ := inductionHypothesis kept others unfinished
        refine ⟨later, inOrder, whole.trans ?_⟩
        rw [longer, turnParts, List.append_assoc]

/-- How the match stands for the members of its room, when so many draws and discards were taken. -/
structure TakesTurns (members : List Nat) (taken : List (Nat × TurnPart)) (game : Match) :
    Prop where
  sessions : game.seats.map Seat.session = members
  current : game.current < members.length
  held : ∀ seat ∈ game.seats, seat.hand.length + seat.cardsPlayed =
    14 + (if seat.phase = .awaitingDiscard then 1 else 0) + (if seat.isOpening then 1 else 0)
  once : ∀ seat ∈ game.seats, seat.phase = .awaitingDiscard → seat.isOpening = false
  holding : ∀ seat ∈ game.seats, seat.hand ≠ []
  waiting : ∀ {place : Nat} {seat : Seat}, game.seats[place]? = some seat →
    seat.phase = .awaitingDiscard → place = game.current
  moving : ∀ {seat : Seat}, game.seats[game.current]? = some seat → seat.phase ≠ .turnComplete
  /-- Of two seats, the one that opens the match is ahead while the other one has the turn. -/
  alternate : ∀ {starter other : Seat}, game.seats = [starter, other] →
    starter.takesFifteen = true ∧ other.takesFifteen = false ∧
      starter.turnsPlayed = other.turnsPlayed + if game.current = 1 then 1 else 0
  /-- So many turns are over, one member after the other, and one more may be begun. -/
  taken : ∃ turns, game.current = turns % members.length ∧
    taken = (List.range turns).flatMap (turnOf members) ++ game.begun

theorem Orderly.takesTurns {members : List Nat} {turns : Nat} {game : Match}
    (orderly : game.Orderly members turns) :
    game.TakesTurns members (history members turns game) where
  sessions := orderly.sessions
  current := by
    rw [orderly.current]
    exact Nat.mod_lt _ (List.length_pos_of_ne_nil orderly.seated)
  held seat member := by
    obtain ⟨place, sits⟩ := List.mem_iff_getElem?.1 member
    exact (orderly.fits sits).balanced.held
  once seat member := by
    obtain ⟨place, sits⟩ := List.mem_iff_getElem?.1 member
    exact (orderly.fits sits).balanced.once
  holding seat member := by
    obtain ⟨place, sits⟩ := List.mem_iff_getElem?.1 member
    exact (orderly.fits sits).balanced.holding
  waiting sits awaiting := by
    rw [orderly.current]
    exact Decidable.byContradiction fun other => (orderly.fits sits).waiting other awaiting
  moving sits := (orderly.fits sits).moving orderly.current
  alternate {starter other} two := by
    have count : members.length = 2 := by
      rw [← orderly.length_seats, two]
      rfl
    have first : starter.IsAfter 2 turns 0 := by
      rw [← count]
      exact orderly.fits (by rw [two]; rfl)
    have second : other.IsAfter 2 turns 1 := by
      rw [← count]
      exact orderly.fits (by rw [two]; rfl)
    refine ⟨first.starter, second.starter, ?_⟩
    rw [first.turnsPlayed, second.turnsPlayed, orderly.current, count]
    split <;> split <;> split <;> omega
  taken := ⟨turns, orderly.current, rfl⟩

/-- Whatever moves and pauses there are, a match that was dealt for no more than seven goes round
the table turn by turn, until it is finished. -/
theorem takesTurns_run_start (shuffle : Shuffle) (room : Nat) {members : List Nat}
    (shuffled : Bool) {events : List Event} (seated : members ≠ []) (few : members.length ≤ 7)
    (ordinary : ∀ event ∈ events, event.isOrdinary) :
    let game := (Match.seat room members shuffled).start shuffle
    (game.run events).status ≠ .finished →
      (game.run events).TakesTurns members (turnParts events game) := by
  intro game unfinished
  have start := orderly_start shuffle room shuffled seated few
  obtain ⟨turns, orderly, whole⟩ := start.history_run ordinary unfinished
  have nothing : history members 0 game = [] := by
    have bound : game.current < game.seats.length := by
      rw [start.length_seats, start.current]
      exact Nat.mod_lt _ (List.length_pos_of_ne_nil seated)
    have sits := List.getElem?_eq_getElem bound
    have opening := ((start.fits sits).isOpening_iff start.current).2 rfl
    rw [history, begun_eq sits, if_neg]
    · rfl
    · intro waiting
      have once := (start.fits sits).balanced.once waiting
      rw [opening] at once
      cases once
  rw [nothing, List.nil_append] at whole
  rw [← whole]
  exact orderly.takesTurns

/-- The first player opens, the second one draws, and there is a pause in between. -/
theorem takesTurns_after_opening :
    let events : List Event :=
      [.move .still 9 .takeFromDeck "", .move .still 4 .discard "KS", .pause "away", .resume,
        .move .still 9 .takeFromDeck ""]
    let game := (Match.seat 0 [4, 9] false).start .still
    (∀ event ∈ events, event.isOrdinary) ∧ (game.run events).status ≠ .finished ∧
      turnParts events game = [(4, .discard), (9, .draw)] ∧
      (game.run events).TakesTurns [4, 9] (turnParts events game) := by
  intro events game
  have ordinary : ∀ event ∈ events, event.isOrdinary := by decide
  have unfinished : (game.run events).status ≠ .finished := by decide +kernel
  have taken : turnParts events game = [(4, .discard), (9, .draw)] := by decide +kernel
  exact ⟨ordinary, unfinished, taken,
    takesTurns_run_start .still 0 false (by decide) (by decide) ordinary unfinished⟩

end Match

end Cardroom
