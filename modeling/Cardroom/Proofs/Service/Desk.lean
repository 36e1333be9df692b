import Cardroom.Proofs.Wire.Transcript
import Cardroom.Service.Worker

/-!
# What a worker has done

A `Desk` is a worker together with what its peer sends and with what it has done so far. `Stepped`
lists all that a step of the worker can be, and `Stepped.isSound` says what every step keeps: the
frames that have been handled are those that the peer sent first, in order, and nothing has been
handled since the worker was told to disconnect.
-/

namespace Cardroom

def Worker.heard? (closed : Bool) (worker : Worker) : Option (Except WireError Frame) :=
  if worker.stage = .reading && !closed then some worker.reading.1 else none

/-- A worker reads on after a frame if it was not told to disconnect. -/
theorem Worker.stage_afterFrame {handled : Tables.Handled} {source : Source} {worker : Worker} :
    (worker.afterFrame handled source).stage = .reading ↔ handled.flow = .proceed := by
  unfold afterFrame
  dsimp only
  split
  · next proceeds =>
      exact ⟨fun _ => proceeds, fun _ => rfl⟩
  · next ends =>
      exact ⟨nofun, fun proceeds => absurd proceeds ends⟩

theorem Worker.stage_afterFrame_ne (handled : Tables.Handled) (source : Source)
    (worker : Worker) :
    (worker.afterFrame handled source).stage ≠ .finished := by
  unfold afterFrame
  dsimp only
  split <;> nofun

/-- A worker, what its peer sends, and what it has done so far. -/
structure Desk where
  worker : Worker
  /-- All that the peer ever sends, and how that ends. -/
  source : Source
  /-- The frames that have been handled, each with what the worker was told to do then. -/
  handled : List (Frame × Flow) := []
  /-- The error that ended the reading. -/
  stopped : Option WireError := none

namespace Desk

def next (config : Config) (moment : Moment) (closed : Bool) (tables : Tables) (desk : Desk) :
    Desk × Step :=
  let (worker, step) := desk.worker.step config moment closed tables
  match desk.worker.heard? closed with
  | some (.ok frame) =>
      let handled :=
        tables.handleFrame config moment desk.worker.slot desk.worker.connection frame
      ({ desk with worker, handled := desk.handled ++ [(frame, handled.flow)] }, step)
  | some (.error error) => ({ desk with worker, stopped := some error }, step)
  | none => ({ desk with worker }, step)

inductive Stepped (config : Config) (moment : Moment) (tables : Tables) (desk : Desk) :
    Desk → Step → Prop
  | handles {frame : Frame} {rest : Source} {handled : Tables.Handled} :
      desk.worker.stage = .reading → desk.worker.reading = (.ok frame, rest) →
      tables.handleFrame config moment desk.worker.slot desk.worker.connection frame = handled →
      Stepped config moment tables desk
        { desk with
          worker := desk.worker.afterFrame handled rest
          handled := desk.handled ++ [(frame, handled.flow)] }
        handled.step
  | fails {error : WireError} {rest : Source} :
      desk.worker.stage = .reading → desk.worker.reading = (.error error, rest) →
      Stepped config moment tables desk
        { desk with
          worker := { desk.worker with source := rest, stage := .leaving }
          stopped := some error }
        { tables, outbox := desk.worker.farewell error }
  | notices :
      desk.worker.stage = .reading →
      Stepped config moment tables desk
        { desk with worker := { desk.worker with stage := .leaving } }
        { tables, outbox := {} }
  | leaves {cleaned : Step} :
      desk.worker.stage = .leaving →
      tables.handleDisconnect moment.now desk.worker.slot desk.worker.connection = cleaned →
      Stepped config moment tables desk
        { desk with worker := { desk.worker with stage := .finished } }
        { cleaned with outbox := cleaned.outbox.close desk.worker.connection }
  | rests :
      desk.worker.stage = .finished →
      Stepped config moment tables desk desk { tables, outbox := {} }

theorem next_stepped (config : Config) (moment : Moment) (closed : Bool) (tables : Tables)
    (desk : Desk) :
    Stepped config moment tables desk (desk.next config moment closed tables).1
      (desk.next config moment closed tables).2 := by
  cases stage : desk.worker.stage with
  | reading =>
      cases closed with
      | true =>
          simp only [next, Worker.heard?, Worker.step, stage]
          exact .notices stage
      | false =>
          cases reading : desk.worker.reading with
          | mk result rest =>
              cases result with
              | ok frame =>
                  simp only [next, Worker.heard?, Worker.step, stage, reading]
                  exact .handles stage reading rfl
              | error error =>
                  simp only [next, Worker.heard?, Worker.step, stage, reading]
                  exact .fails stage reading
  | leaving =>
      simp only [next, Worker.heard?, Worker.step, stage]
      exact .leaves stage rfl
  | finished =>
      simp only [next, Worker.heard?, Worker.step, stage]
      exact .rests stage

def frames (desk : Desk) : List Frame :=
  desk.handled.map Prod.fst

/-- All that the peer sends before the first error, and that error. -/
def sent (desk : Desk) : Frame.Transcript :=
  Frame.readAll Frame.garbageBudget desk.source

def ahead (desk : Desk) : Frame.Transcript :=
  Frame.readAll Frame.garbageBudget desk.worker.source

/-- What a worker has done agrees with what its peer sends. -/
structure IsSound (connection : Nat) (desk : Desk) : Prop where
  own : desk.worker.connection = connection
  /-- What has been handled is what comes before the rest of the stream. -/
  reading : desk.stopped = none →
    desk.sent = { frames := desk.frames ++ desk.ahead.frames, error := desk.ahead.error }
  stopped : ∀ error, desk.stopped = some error → desk.sent = { frames := desk.frames, error }
  going : desk.worker.stage = .reading →
    desk.stopped = none ∧ ∀ entry ∈ desk.handled, entry.2 = .proceed
  order : ∀ entry ∈ desk.handled.dropLast, entry.2 = .proceed

def opened (connection slot : Nat) (source : Source) : Desk where
  worker := { connection, slot, source }
  source

theorem opened_isSound (connection slot : Nat) (source : Source) :
    (opened connection slot source).IsSound connection where
  own := rfl
  reading _ := rfl
  stopped := nofun
  going _ := ⟨rfl, nofun⟩
  order := nofun

/-- The frames that were handled are the first ones of the stream. -/
theorem IsSound.frames_prefix {connection : Nat} {desk : Desk} (sound : desk.IsSound connection) :
    desk.frames <+: desk.sent.frames := by
  cases stopped : desk.stopped with
  | none =>
      rw [sound.reading stopped]
      exact List.prefix_append _ _
  | some error =>
      have all := congrArg Frame.Transcript.frames (sound.stopped error stopped)
      exact ⟨[], (List.append_nil _).trans all.symm⟩

namespace Stepped

variable {config : Config} {moment : Moment} {tables : Tables} {desk later : Desk} {step : Step}
  {connection : Nat}

theorem source_eq (stepped : Stepped config moment tables desk later step) :
    later.source = desk.source := by
  cases stepped <;> rfl

theorem isSound (stepped : Stepped config moment tables desk later step)
    (sound : desk.IsSound connection) :
    later.IsSound connection := by
  cases stepped with
  | @handles frame rest handled stage reading _ =>
      obtain ⟨running, proceeds⟩ := sound.going stage
      have ahead := sound.reading running
      rw [Desk.ahead, Frame.readAll_of_ok reading] at ahead
      refine ⟨sound.own, fun _ => ?_, ?_, fun goes => ⟨running, ?_⟩, ?_⟩
      · refine ahead.trans ?_
        simp [frames, Desk.ahead, Worker.afterFrame]
      · intro error stopped
        rw [running] at stopped
        cases stopped
      · intro entry listed
        rcases List.mem_append.1 listed with earlier | last
        · exact proceeds entry earlier
        · rw [List.mem_singleton.1 last]
          exact Worker.stage_afterFrame.1 goes
      · intro entry listed
        rw [List.dropLast_concat] at listed
        exact proceeds entry listed
  | @fails error rest stage reading =>
      obtain ⟨running, proceeds⟩ := sound.going stage
      have ahead := sound.reading running
      rw [Desk.ahead, Frame.readAll_of_error reading, List.append_nil] at ahead
      refine ⟨sound.own, nofun, ?_, nofun, sound.order⟩
      intro other stopped
      cases stopped
      exact ahead
  | notices stage =>
      exact ⟨sound.own, sound.reading, sound.stopped, nofun, sound.order⟩
  | leaves stage cleaned =>
      exact ⟨sound.own, sound.reading, sound.stopped, nofun, sound.order⟩
  | rests stage =>
      exact sound

end Stepped

end Desk

end Cardroom
