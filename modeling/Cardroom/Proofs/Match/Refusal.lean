import Cardroom.Proofs.Match.Moves

/-!
# Refused moves

A move works on the match as it stands, and may have changed it by the time it is refused.
`play_error_eq_self_or_rebuilt` says that nothing of this is ever left, the rebuilt draw pile apart:
it holds the cards of the discard pile below the top one, and everything else is as before.
-/

namespace Cardroom.Match

/-- A refused move leaves the match as it was, unless the refusal is that the draw pile was rebuilt.
Then the draw pile was empty, the discard pile keeps its top card, and the cards below it are the
new draw pile, turned over or else in any order. -/
theorem play_error_eq_self_or_rebuilt {shuffle : Shuffle} {session : Nat} {action : MessageType}
    {payload : String} {game after : Match} {error : MoveError}
    (refused : game.play shuffle session action payload = (.error error, after)) :
    (error ≠ .deckRebuilt → after = game) ∧
      (error = .deckRebuilt →
        game.drawPile = [] ∧
          ∃ top rest,
            game.discardPile = top :: rest ∧ rest ≠ [] ∧
              after = { game with drawPile := after.drawPile, discardPile := [top] } ∧
              after.drawPile.Perm rest ∧
              (game.shuffled = false → after.drawPile = rest.reverse)) := by
  have played := play_played shuffle session action payload game
  rw [refused] at played
  cases played with
  | refused other =>
      exact ⟨fun _ => rfl, fun rebuilt => absurd rebuilt other⟩
  | @rebuilt place seat top second rest mover awaiting opened empty pile =>
      refine ⟨fun other => absurd rfl other, fun _ => ⟨empty, top, second :: rest, pile, ?_⟩⟩
      refine ⟨List.cons_ne_nil second rest, ?_, drawPile_rebuildDrawPile_perm shuffle pile, ?_⟩
      · simp only [rebuildDrawPile, pile]
      · intro still
        simp only [rebuildDrawPile, pile, still, Bool.false_eq_true, if_false]

/-- The second player finds the draw pile empty, and three cards on the discard pile. -/
theorem takeFromDeck_rebuilt_of_three :
    let game : Match :=
      { room := 0, status := .playing, current := 1, shuffled := false
        seats := [{ session := 4, takesFifteen := true }, { session := 9, takesFifteen := false }]
        discardPile := Card.deck.take 3 }
    let after : Match :=
      { game with
        drawPile := [Card.deck[2], Card.deck[1]]
        discardPile := [Card.deck[0]] }
    game.play .still 9 .takeFromDeck "" = (.error .deckRebuilt, after) ∧
      (game.drawPile = [] ∧
        ∃ top rest,
          game.discardPile = top :: rest ∧ rest ≠ [] ∧
            after = { game with drawPile := after.drawPile, discardPile := [top] } ∧
            after.drawPile.Perm rest ∧
            (game.shuffled = false → after.drawPile = rest.reverse)) := by
  intro game after
  have refused : game.play .still 9 .takeFromDeck "" = (.error .deckRebuilt, after) := rfl
  exact ⟨refused, (play_error_eq_self_or_rebuilt refused).2 rfl⟩

end Cardroom.Match
