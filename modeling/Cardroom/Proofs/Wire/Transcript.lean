import Cardroom.Wire.Reading

/-!
# All frames of a stream

A reader that reads on and on gets some frames and then, sooner or later, an error, for each frame
takes bytes off the stream and in the end the peer is gone. `readAll` is everything that a reader
gets before the first error, and that error.
-/

namespace Cardroom

theorem Source.left_take_le (count : Nat) (source : Source) :
    (source.take count).2.left ≤ source.left := by
  induction count generalizing source with
  | zero =>
      exact Nat.le_refl _
  | succ count inductionHypothesis =>
      rw [take]
      split
      · exact Nat.le_refl _
      · next byte rest taken =>
          exact Nat.le_trans (inductionHypothesis rest) (Nat.le_of_lt (left_lt_of_next? taken))

namespace Frame

theorem left_readBody_le (source : Source) : (readBody source).2.left ≤ source.left := by
  have header := source.left_take_le headerSize
  unfold readBody
  split
  · next taken =>
      rw [taken] at header
      exact header
  · next rest taken =>
      rw [taken] at header
      split
      · exact header
      · next size _ =>
          have payload := rest.left_take_le size
          split
          · next taken =>
              rw [taken] at payload
              exact Nat.le_trans payload header
          · next taken =>
              rw [taken] at payload
              split <;> exact Nat.le_trans payload header

theorem left_findStart_lt {budget discarded : Nat} {window : List UInt8} {source rest : Source}
    (found : findStart budget window discarded source = (.ok (), rest)) :
    rest.left < source.left := by
  fun_induction findStart budget window discarded source with
  | case1 => cases found
  | case2 => cases found
  | case3 window discarded source byte next taken =>
      cases found
      exact Source.left_lt_of_next? taken
  | case4 window discarded source byte next taken _ _ _ _ _ inductionHypothesis =>
      exact Nat.lt_trans (inductionHypothesis found) (Source.left_lt_of_next? taken)

/-- A frame takes bytes off its source. -/
theorem left_read_lt {budget : Nat} {source rest : Source} {frame : Frame}
    (reading : read budget source = (.ok frame, rest)) :
    rest.left < source.left := by
  unfold read at reading
  split at reading
  · cases reading
  · next behind found =>
      have body := left_readBody_le behind
      rw [reading] at body
      exact Nat.lt_of_le_of_lt body (left_findStart_lt found)

/-- What a reader gets that reads on until it meets an error. -/
structure Transcript where
  frames : List Frame
  error : WireError

def readAll (budget : Nat) (source : Source) : Transcript :=
  match reading : read budget source with
  | (.error error, _) => { frames := [], error }
  | (.ok frame, rest) =>
      have : rest.left < source.left := left_read_lt reading
      let later := readAll budget rest
      { later with frames := frame :: later.frames }
termination_by source.left

theorem readAll_of_ok {budget : Nat} {source rest : Source} {frame : Frame}
    (reading : read budget source = (.ok frame, rest)) :
    readAll budget source =
      { frames := frame :: (readAll budget rest).frames
        error := (readAll budget rest).error } := by
  rw [readAll]
  split
  · next failed =>
      rw [reading] at failed
      cases failed
  · next there =>
      rw [reading] at there
      cases there
      rfl

theorem readAll_of_error {budget : Nat} {source rest : Source} {error : WireError}
    (reading : read budget source = (.error error, rest)) :
    readAll budget source = { frames := [], error } := by
  rw [readAll]
  split
  · next failed =>
      rw [reading] at failed
      cases failed
      rfl
  · next there =>
      rw [reading] at there
      cases there

end Frame

end Cardroom
