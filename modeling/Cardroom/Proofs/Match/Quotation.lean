import Cardroom.Proofs.Card.Grammar
import Cardroom.Proofs.Match.Size
import Cardroom.Proofs.Session.Login

/-!
# What a refusal quotes

The refusal of a move is one of a few fixed texts, or names a card, or quotes what was sent in place
of a card. Only the quotation can be long.
-/

namespace Cardroom

namespace CodeError

def text : CodeError → String
  | badLength code => code
  | unknownRank code => code
  | unknownSuit code => code
  | oddLength codes => codes

theorem message_size (error : CodeError) :
    error.message.utf8ByteSize ≤ Text.mostPerByte * error.text.utf8ByteSize + 34 := by
  have quoted := Text.utf8ByteSize_quoted_le error.text
  cases error with
  | badLength code =>
      show ("card code " ++ Text.quoted code ++ " is not two characters").utf8ByteSize ≤ _
      rw [String.utf8ByteSize_append, String.utf8ByteSize_append,
        show "card code ".utf8ByteSize = 10 by decide,
        show " is not two characters".utf8ByteSize = 22 by decide]
      simp only [text] at quoted ⊢
      omega
  | unknownRank code =>
      show ("unknown rank in card code " ++ Text.quoted code).utf8ByteSize ≤ _
      rw [String.utf8ByteSize_append, show "unknown rank in card code ".utf8ByteSize = 26 by decide]
      simp only [text] at quoted ⊢
      omega
  | unknownSuit code =>
      show ("unknown suit in card code " ++ Text.quoted code).utf8ByteSize ≤ _
      rw [String.utf8ByteSize_append, show "unknown suit in card code ".utf8ByteSize = 26 by decide]
      simp only [text] at quoted ⊢
      omega
  | oddLength codes =>
      show ("card list " ++ Text.quoted codes ++ " has an odd length").utf8ByteSize ≤ _
      rw [String.utf8ByteSize_append, String.utf8ByteSize_append,
        show "card list ".utf8ByteSize = 10 by decide,
        show " has an odd length".utf8ByteSize = 18 by decide]
      simp only [text] at quoted ⊢
      omega

end CodeError

namespace Card

variable {error : CodeError}

theorem text_of_ofPair {first second : Char} (failed : ofPair first second = .error error) :
    error.text = String.ofList [first, second] := by
  unfold ofPair at failed
  split at failed
  · cases failed
  · split at failed
    · cases failed
      rfl
    · split at failed
      · cases failed
        rfl
      · cases failed

theorem text_of_ofCode {code : String} (failed : ofCode code = .error error) :
    error.text = code := by
  unfold ofCode at failed
  split at failed
  · next first second pair =>
      rw [text_of_ofPair failed, ← pair, String.ofList_toList]
  · cases failed
    rfl

theorem size_of_ofPairs {letters : List Char} (failed : ofPairs letters = .error error) :
    error.text.utf8ByteSize ≤ Text.size letters := by
  obtain ⟨cards, first, second, behind, rfl, wrong⟩ := ofPairs_eq_error_iff.1 failed
  rw [text_of_ofPair wrong, Text.utf8ByteSize_ofList, Text.size_append]
  simp only [Text.size_cons, Text.size_nil]
  omega

theorem size_of_ofListCode {codes : String} (failed : ofListCode codes = .error error) :
    error.text.utf8ByteSize ≤ codes.utf8ByteSize := by
  unfold ofListCode at failed
  split at failed
  · rw [Text.utf8ByteSize_eq codes]
    exact size_of_ofPairs failed
  · cases failed
    exact Nat.le_refl _

end Card

/-- The payload of a move, or the part of it that ought to name a card, cannot be read. -/
def CodeError.IsFrom (payload : String) (error : CodeError) : Prop :=
  Card.ofListCode payload = .error error ∨ Card.ofCode payload = .error error ∨
    ∃ target code, Text.cut? payload = some (target, code) ∧ Card.ofCode code = .error error

/-- What cannot be read is no longer than what was sent. -/
theorem CodeError.IsFrom.text_size {payload : String} {error : CodeError}
    (source : error.IsFrom payload) :
    error.text.utf8ByteSize ≤ payload.utf8ByteSize := by
  rcases source with list | code | ⟨target, code, cut, failed⟩
  · exact Card.size_of_ofListCode list
  · exact Nat.le_of_eq (congrArg String.utf8ByteSize (Card.text_of_ofCode code))
  · rw [Card.text_of_ofCode failed, (Text.cut?_eq_some.1 cut).1, String.utf8ByteSize_append]
    exact Nat.le_add_left _ _

namespace MoveError

/-- A refusal names cards by their codes, and quotes what was sent. -/
def IsAbout (payload : String) : MoveError → Prop
  | cardNotInHand code => code.utf8ByteSize = 2
  | badCards error => error.IsFrom payload
  | _ => True

end MoveError

namespace Match

section

variable {shuffle : Shuffle} {game after : Match} {session place : Nat} {seat : Seat}
  {payload : String} {error : MoveError}

theorem takeFromDeck_isAbout
    (refused : game.takeFromDeck shuffle place seat = (.error error, after)) :
    error.IsAbout payload := by
  unfold takeFromDeck at refused
  split at refused
  · cases refused
    trivial
  · cases refused
    trivial
  · split at refused
    · cases refused
      trivial
    · split at refused
      · cases refused
      · dsimp only at refused
        split at refused <;> cases refused <;> trivial

theorem takeFromDiscard_isAbout
    (refused : game.takeFromDiscard place seat = (.error error, after)) :
    error.IsAbout payload := by
  unfold takeFromDiscard at refused
  split at refused
  · cases refused
    trivial
  · split at refused
    · cases refused
      trivial
    · split at refused
      · cases refused
        trivial
      · cases refused

theorem layDown_isAbout (refused : game.layDown place seat payload = (.error error, after)) :
    error.IsAbout payload := by
  unfold layDown at refused
  split at refused
  · cases refused
    trivial
  · split at refused
    · next wrong =>
        cases refused
        exact .inl wrong
    · split at refused
      · cases refused
        trivial
      · split at refused
        · next missing =>
            cases refused
            obtain ⟨card, rfl⟩ := takePlaces_error missing
            exact card.utf8ByteSize_code
        · split at refused
          · cases refused
            trivial
          · cases refused

theorem attach_isAbout (refused : game.attach place seat payload = (.error error, after)) :
    error.IsAbout payload := by
  unfold attach at refused
  split at refused
  · cases refused
    trivial
  · next target code cut =>
      split at refused
      · next wrong =>
          cases refused
          exact .inr (.inr ⟨target, code, cut, wrong⟩)
      · next card _ =>
          split at refused
          · cases refused
            exact card.utf8ByteSize_code
          · split at refused
            · cases refused
              trivial
            · split at refused
              · cases refused
                trivial
              · split at refused
                · cases refused
                  trivial
                · cases refused

theorem discard_isAbout (refused : game.discard place seat payload = (.error error, after)) :
    error.IsAbout payload := by
  unfold discard at refused
  split at refused
  · cases refused
    trivial
  · split at refused
    · cases refused
      trivial
    · split at refused
      · cases refused
        trivial
      · split at refused
        · next wrong =>
            cases refused
            exact .inr (.inl wrong)
        · next card _ =>
            split at refused
            · cases refused
              exact card.utf8ByteSize_code
            · dsimp only at refused
              split at refused <;> cases refused

theorem close_isAbout (refused : game.close place seat payload = (.error error, after)) :
    error.IsAbout payload := by
  unfold close at refused
  split at refused
  · split at refused
    · cases refused
    · cases refused
      trivial
  · cases refused
    trivial

end

theorem play_isAbout {shuffle : Shuffle} {session : Nat} {action : MessageType} {payload : String}
    {game after : Match} {error : MoveError}
    (refused : game.play shuffle session action payload = (.error error, after)) :
    error.IsAbout payload := by
  unfold play at refused
  split at refused
  · cases refused
    trivial
  · split at refused
    · cases refused
      trivial
    · split at refused
      · cases refused
        trivial
      · split at refused
        · cases refused
          trivial
        · split at refused
          · exact takeFromDeck_isAbout refused
          · exact takeFromDiscard_isAbout refused
          · exact layDown_isAbout refused
          · exact attach_isAbout refused
          · exact discard_isAbout refused
          · exact close_isAbout refused
          · cases refused
            trivial

/-- Whoever lays down an odd number of bytes is told so, and shown them. -/
theorem play_layDown_of_odd {shuffle : Shuffle} {session place : Nat} {payload : String}
    {game : Match} {seat : Seat} (mover : game.MayMove session place seat)
    (odd : payload.utf8ByteSize % 2 = 1) (long : 2 * Combination.fewestCards ≤ payload.utf8ByteSize) :
    game.play shuffle session .layDown payload =
      (.error (.badCards (.oddLength payload)), game) := by
  have misread : Card.ofListCode payload = .error (.oddLength payload) := by
    rw [Card.ofListCode, if_neg]
    omega
  simp only [play, mover.running, mover.seated, mover.sits, layDown, misread]
  rw [if_neg (by decide), if_neg (not_not_intro mover.turn), if_neg (Nat.not_lt.2 long)]

end Match

namespace MoveError

/-- The most bytes of a payload that is known to fit into a frame when it is quoted. -/
def longestQuoted : Nat := 1650

/-- A quotation of letters that are shown as they are. -/
theorem message_size_of_plain {text : String}
    (plain : ∀ letter ∈ text.toList, Text.quotedChar letter = [letter]) :
    (badCards (.oddLength text)).message.utf8ByteSize = text.utf8ByteSize + 51 := by
  show ("Malformed card list: " ++ ("card list " ++ Text.quoted text ++
    " has an odd length")).utf8ByteSize = _
  rw [String.utf8ByteSize_append, String.utf8ByteSize_append, String.utf8ByteSize_append,
    Text.utf8ByteSize_quoted_of_plain plain, show "Malformed card list: ".utf8ByteSize = 21 by decide,
    show "card list ".utf8ByteSize = 10 by decide,
    show " has an odd length".utf8ByteSize = 18 by decide]
  omega

theorem message_size {payload : String} {error : MoveError} (about : error.IsAbout payload) :
    error.message.utf8ByteSize ≤ Frame.maxPayload ∨
      longestQuoted < payload.utf8ByteSize ∧
        ∃ quoting : CodeError, quoting.IsFrom payload ∧ error = .badCards quoting := by
  cases error with
  | cardNotInHand code =>
      refine .inl ?_
      have short : code.utf8ByteSize = 2 := about
      show ("Card " ++ code ++ " is not in your hand").utf8ByteSize ≤ _
      rw [String.utf8ByteSize_append, String.utf8ByteSize_append, short]
      decide
  | badCards quoting =>
      by_cases long : longestQuoted < payload.utf8ByteSize
      · exact .inr ⟨long, quoting, about, rfl⟩
      · refine .inl ?_
        have within : quoting.text.utf8ByteSize ≤ payload.utf8ByteSize :=
          CodeError.IsFrom.text_size about
        have size := quoting.message_size
        show ("Malformed card list: " ++ quoting.message).utf8ByteSize ≤ _
        rw [String.utf8ByteSize_append, show "Malformed card list: ".utf8ByteSize = 21 by decide]
        simp only [longestQuoted, Text.mostPerByte, Frame.maxPayload] at long size ⊢
        omega
  | _ =>
      exact .inl (by decide)

end MoveError

end Cardroom
