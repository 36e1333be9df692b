import Cardroom.Server.Dispatch
import Cardroom.Wire.Reading

/-!
# Workers

Each connection has a worker, which reads the frames of its peer and has the server handle them one
by one. It leaves when the server says so, when the peer is gone or sends something that is no
frame, or when the close signal is raised; then it has the server clean up, and closes the
connection.
-/

namespace Cardroom

inductive Worker.Stage where
  | reading
  | leaving
  | finished
deriving DecidableEq, Repr

structure Worker where
  connection : Nat
  /-- The slot to which the connection is bound, as far as the worker knows. -/
  slot : Nat
  source : Source
  stage : Worker.Stage := .reading
deriving DecidableEq, Repr

namespace Worker

/-- What the worker would read next, and what is left of its source after that. -/
def reading (worker : Worker) : Except WireError Frame × Source :=
  Frame.read Frame.garbageBudget worker.source

def afterFrame (handled : Tables.Handled) (source : Source) (worker : Worker) : Worker :=
  { worker with
    slot := handled.slot
    source
    stage := if handled.flow = .proceed then .reading else .leaving }

/-- What a worker says to a peer that sends something that is no frame. -/
def invalidNotice : Frame where
  type := .error
  payload := "Invalid data"

def farewell (error : WireError) (worker : Worker) : Outbox :=
  if error.isTransport then {} else { frames := [(worker.connection, invalidNotice)] }

/-- One step of a worker. Whether the close signal is up is looked at before a frame is read. -/
def step (config : Config) (moment : Moment) (closed : Bool) (worker : Worker) (tables : Tables) :
    Worker × Step :=
  match worker.stage with
  | .reading =>
      if closed then
        ({ worker with stage := .leaving }, { tables, outbox := {} })
      else
        match worker.reading with
        | (.ok frame, source) =>
            let handled :=
              tables.handleFrame config moment worker.slot worker.connection frame
            (worker.afterFrame handled source, handled.step)
        | (.error error, source) =>
            ({ worker with source, stage := .leaving },
              { tables, outbox := worker.farewell error })
  | .leaving =>
      let cleaned := tables.handleDisconnect moment.now worker.slot worker.connection
      ({ worker with stage := .finished },
        { cleaned with outbox := cleaned.outbox.close worker.connection })
  | .finished => (worker, { tables, outbox := {} })

/-- Whether the worker has nothing to do until more bytes arrive or the close signal is raised. -/
def isIdle (closed more : Bool) (worker : Worker) : Bool :=
  match worker.stage with
  | .reading =>
      !closed && more &&
        match worker.reading.1 with
        | .error .disconnected => true
        | _ => false
  | .leaving => false
  | .finished => true

/-- So many steps are enough for a worker to become idle: each one takes a byte of the source at
least, or brings the worker closer to its end. -/
def stepBound (worker : Worker) : Nat :=
  worker.source.left + 3

end Worker

end Cardroom
