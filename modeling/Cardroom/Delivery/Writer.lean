import Cardroom.Wire.Sink

/-!
# Writers

A connection's writer hands the queued frames to its sink, one by one. When the connection is
closing, or when a frame could not be written, it makes one more attempt at what is still queued,
gives up at the first failure of that, and tells the sink that no more bytes follow.
-/

namespace Cardroom.Writer

/-- The seconds after which a write that gets no answer is given up. -/
def writeTimeout : Nat := 5

def flushTimeout : Nat := 1

/-- What has become of a queue that is being written. -/
structure Progress where
  sink : Sink
  /-- The frames that have not been tried. -/
  queue : List Frame
  /-- Whether a frame has failed. -/
  failed : Bool
  /-- The seconds spent waiting. -/
  seconds : Nat
deriving DecidableEq, Repr

/-- Writes frames until the queue is empty or a frame fails. A write that gets no answer fails after
so many seconds. -/
def writeQueue (patience : Nat) (sink : Sink) : List Frame → Progress
  | [] => { sink, queue := [], failed := false, seconds := 0 }
  | frame :: queue =>
      match sink.writeFrame frame with
      | (.done, sink) => writeQueue patience sink queue
      | (.failed _, sink) => { sink, queue, failed := true, seconds := 0 }
      | (.stalled, sink) => { sink, queue, failed := true, seconds := patience }

/-- The end of a writer: one more attempt at the queue, and the sink is told that this was all. -/
def windUp (progress : Progress) : Sink × Nat :=
  let flushed := writeQueue flushTimeout progress.sink progress.queue
  (flushed.sink.shutdown, progress.seconds + flushed.seconds)

/-- The whole life of the writer of a connection that is closed after these frames: the sink at its
end, and the seconds it took. -/
def run (queue : List Frame) (sink : Sink) : Sink × Nat :=
  windUp (writeQueue writeTimeout sink queue)

end Cardroom.Writer
