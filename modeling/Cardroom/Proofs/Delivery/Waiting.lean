import Mathlib.Logic.Function.Iterate
import Cardroom.Delivery.Channel

/-!
# Waiting for the close signal

A watcher looks at the close signal, and if it is not raised, waits until it changes, and looks
again. What it has seen is told by a number that grows with every change, so that a change between
a look and the wait is noticed as well. `IsRight.ends_iff` says when a watcher comes to its end: if
the signal is raised, or if nobody is left to raise it, whenever the watcher began.
-/

namespace Cardroom

structure Signal where
  raised : Bool := false
  /-- How often it was raised. -/
  changes : Nat := 0
  /-- Whether anyone can still raise it. -/
  hasSender : Bool := true
deriving DecidableEq, Repr

inductive Watcher.Stage where
  /-- It looks whether the signal is raised. -/
  | looks
  /-- It waits for a change that it has not seen. -/
  | waits
  /-- Its waiting is over. -/
  | done
deriving DecidableEq, Repr

/-- Someone who waits for the close signal of a connection. -/
structure Watcher where
  connection : Nat
  /-- How many changes of the signal it has seen. -/
  seen : Nat
  stage : Watcher.Stage := .looks
deriving DecidableEq, Repr

namespace Watcher

/-- The next thing that a watcher does. A change that it has not seen ends the wait at once, and if
there is none, the wait ends when nobody is left to raise the signal. -/
def step (signal : Signal) (watcher : Watcher) : Watcher :=
  match watcher.stage with
  | .looks =>
      { watcher with seen := signal.changes, stage := if signal.raised then .done else .waits }
  | .waits =>
      if watcher.seen ≠ signal.changes then
        { watcher with seen := signal.changes, stage := .looks }
      else if signal.hasSender then
        watcher
      else
        { watcher with stage := .done }
  | .done => watcher

/-- Without another change of the signal, the watcher comes to its end. -/
def Ends (signal : Signal) (watcher : Watcher) : Prop :=
  ∃ steps, ((step signal)^[steps] watcher).stage = .done

/-- A watcher has seen no more than there was, does not wait for the change that raised the signal
once it has seen it, and does not come to its end before there is a reason. -/
structure IsRight (signal : Signal) (watcher : Watcher) : Prop where
  seen : watcher.seen ≤ signal.changes
  waits : watcher.stage = .waits → watcher.seen = signal.changes → signal.raised = false
  done : watcher.stage = .done → signal.raised = true ∨ signal.hasSender = false

end Watcher

/-- What can become of a signal: it stays as it is, or it is raised, perhaps again. It may lose its
last sender, but does not get a new one. -/
structure Signal.Precedes (signal later : Signal) : Prop where
  changes : later.changes = signal.changes ∧ later.raised = signal.raised ∨
    signal.changes < later.changes ∧ later.raised = true
  hasSender : later.hasSender = true → signal.hasSender = true

theorem Signal.Precedes.refl (signal : Signal) : signal.Precedes signal :=
  ⟨.inl ⟨rfl, rfl⟩, id⟩

namespace Watcher

variable {signal later : Signal} {watcher : Watcher}

theorem connection_step : (watcher.step signal).connection = watcher.connection := by
  unfold step
  split
  · rfl
  · split
    · rfl
    · split <;> rfl
  · rfl

theorem ends_of_looks (looks : watcher.stage = .looks)
    (reason : signal.raised = true ∨ signal.hasSender = false) :
    watcher.Ends signal := by
  cases raised : signal.raised with
  | true =>
      refine ⟨1, ?_⟩
      simp [Watcher.step, looks, raised]
  | false =>
      have alone : signal.hasSender = false := by simpa [raised] using reason
      refine ⟨2, ?_⟩
      simp [Watcher.step, looks, raised, alone]

namespace IsRight

theorem of_looks (looks : watcher.stage = .looks) (seen : watcher.seen ≤ signal.changes) :
    watcher.IsRight signal where
  seen := seen
  waits waits := by
    rw [looks] at waits
    cases waits
  done done := by
    rw [looks] at done
    cases done

theorem step (right : watcher.IsRight signal) : (watcher.step signal).IsRight signal := by
  unfold Watcher.step
  cases stage : watcher.stage with
  | looks =>
      dsimp only
      split
      · next raised =>
          exact ⟨Nat.le_refl _, nofun, fun _ => .inl raised⟩
      · next lowered =>
          exact ⟨Nat.le_refl _, fun _ _ => eq_false_of_ne_true lowered, nofun⟩
  | waits =>
      dsimp only
      split
      · exact of_looks rfl (Nat.le_refl _)
      · split
        · exact right
        · next alone =>
            exact ⟨right.seen, nofun, fun _ => .inr (eq_false_of_ne_true alone)⟩
  | done =>
      exact right

theorem iterate_step (right : watcher.IsRight signal) (steps : Nat) :
    ((Watcher.step signal)^[steps] watcher).IsRight signal := by
  induction steps generalizing watcher with
  | zero =>
      exact right
  | succ steps inductionHypothesis =>
      exact inductionHypothesis right.step

/-- A watcher that waits notices that the signal was raised, since it has not seen that change. -/
theorem of_precedes (right : watcher.IsRight signal) (precedes : signal.Precedes later) :
    watcher.IsRight later where
  seen := by
    have seen := right.seen
    rcases precedes.changes with ⟨same, -⟩ | ⟨more, -⟩ <;> omega
  waits waits equal := by
    have seen := right.seen
    rcases precedes.changes with ⟨same, kept⟩ | ⟨more, -⟩
    · exact kept.trans (right.waits waits (equal.trans same))
    · omega
  done done := by
    rcases right.done done with raised | alone
    · rcases precedes.changes with ⟨-, kept⟩ | ⟨-, now⟩
      · exact .inl (kept.trans raised)
      · exact .inl now
    · refine .inr (eq_false_of_ne_true fun sender => ?_)
      rw [precedes.hasSender sender] at alone
      cases alone

/-- A watcher comes to its end if the signal is raised, or nobody can raise it any more. -/
theorem ends_iff (right : watcher.IsRight signal) :
    watcher.Ends signal ↔ signal.raised = true ∨ signal.hasSender = false := by
  constructor
  · rintro ⟨steps, done⟩
    exact (right.iterate_step steps).done done
  · intro reason
    cases stage : watcher.stage with
    | looks =>
        exact ends_of_looks stage reason
    | waits =>
        by_cases news : watcher.seen = signal.changes
        · have alone : signal.hasSender = false := by
            simpa [right.waits stage news] using reason
          refine ⟨1, ?_⟩
          simp [Watcher.step, stage, news, alone]
        · have looks : (watcher.step signal).stage = .looks := by
            simp [Watcher.step, stage, news]
          obtain ⟨steps, done⟩ := ends_of_looks looks reason
          exact ⟨steps + 1, done⟩
    | done =>
        exact ⟨0, stage⟩

end IsRight

end Watcher

end Cardroom
