import Cardroom.Match.Deal
import Cardroom.Match.Move

/-!
# Runs of a match

Everything that can happen to a match after it was dealt, in any order and any number of times.
-/

namespace Cardroom.Match

inductive Event where
  | move (shuffle : Shuffle) (session : Nat) (action : MessageType) (payload : String)
  | pause (reason : String)
  | resume
  | setActive (session : Nat) (active : Bool)
  | passTurn
  | score

/-- Whether the event is a move, a pause or the end of one, and nobody comes to the table or leaves
it. -/
def Event.isOrdinary : Event → Bool
  | .move .. | .pause _ | .resume => true
  | .setActive .. | .passTurn | .score => false

/-- The match after an event. A move may be refused, and a pause or its end find nothing to do. -/
def after (game : Match) : Event → Match
  | .move shuffle session action payload => (game.play shuffle session action payload).2
  | .pause reason => (game.pause? reason).getD game
  | .resume => game.resume?.getD game
  | .setActive session active => game.setActive session active
  | .passTurn => game.passTurn
  | .score => game.score

def run (events : List Event) (game : Match) : Match :=
  events.foldl after game

/-- What every event preserves holds after all of them. -/
theorem run_preserves {motive : Match → Prop}
    (step : ∀ game event, motive game → motive (game.after event)) (events : List Event)
    {game : Match} (start : motive game) :
    motive (game.run events) := by
  induction events generalizing game with
  | nil =>
      exact start
  | cons event events inductionHypothesis =>
      exact inductionHypothesis (step game event start)

end Cardroom.Match
