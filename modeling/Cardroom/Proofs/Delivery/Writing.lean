import Mathlib.Data.List.TakeWhile
import Cardroom.Delivery.Writer
import Cardroom.Proofs.Delivery.HandingOver

/-!
# What a writer gets through

A writer drains the queue of its connection while frames come in, and makes one more attempt when
the connection is over or a frame has failed. `writes_sendable` says what the sink has taken in the
end: as much as it has room for of the frames that were queued before the connection was over, the
first frame that is too long left out and the queue cut at the second one.
-/

namespace Cardroom

namespace Sink

def within : Option Nat → List UInt8 → List UInt8
  | none, bytes => bytes
  | some room, bytes => bytes.take room

theorem within_append (room : Option Nat) (bytes more : List UInt8) :
    within room (bytes ++ more) =
      within room bytes ++ within (room.map (· - bytes.length)) more := by
  cases room with
  | none =>
      rfl
  | some room =>
      exact List.take_append

/-- Every write takes a byte at least, as long as there is room. -/
def TakesSome (sink : Sink) : Prop :=
  0 ∉ sink.portions ∧ sink.portion ≠ some 0

/-- The later sink is what has become of the sink when it was offered the bytes. -/
structure Took (sink : Sink) (bytes : List UInt8) (later : Sink) : Prop where
  portions : later.portions <:+ sink.portions
  portion : later.portion = sink.portion
  room : later.room = sink.room.map (· - bytes.length)
  taken : later.taken = sink.taken ++ within sink.room bytes
  shutdowns : later.shutdowns = sink.shutdowns

theorem took_nil (sink : Sink) : sink.Took [] sink where
  portions := List.suffix_rfl
  portion := rfl
  room := by simp
  taken := by cases sink.room <;> simp [within]
  shutdowns := rfl

theorem Took.trans {sink next later : Sink} {bytes more : List UInt8}
    (first : sink.Took bytes next) (second : next.Took more later) :
    sink.Took (bytes ++ more) later where
  portions := second.portions.trans first.portions
  portion := second.portion.trans first.portion
  room := by
    rw [second.room, first.room, Option.map_map, List.length_append]
    simp only [Function.comp_def, Nat.sub_sub]
  taken := by
    rw [second.taken, first.taken, first.room, within_append, List.append_assoc]
  shutdowns := second.shutdowns.trans first.shutdowns

/-- It does not matter what a sink is offered that is full. -/
theorem Took.of_full {sink later : Sink} {bytes : List UInt8} (took : sink.Took bytes later)
    (full : sink.room = some 0) (others : List UInt8) :
    sink.Took others later where
  portions := took.portions
  portion := took.portion
  room := by rw [took.room, full, Option.map_some, Option.map_some, Nat.zero_sub, Nat.zero_sub]
  taken := by rw [took.taken, full, within, within, List.take_zero, List.take_zero]
  shutdowns := took.shutdowns

theorem Took.takesSome {sink later : Sink} {bytes : List UInt8} (took : sink.Took bytes later)
    (takes : sink.TakesSome) :
    later.TakesSome :=
  ⟨fun none => takes.1 (took.portions.subset none), took.portion ▸ takes.2⟩

theorem accepts_le (offered : Nat) (sink : Sink) : sink.accepts offered ≤ offered :=
  Nat.le_trans (Nat.min_le_left _ _) (Nat.min_le_left _ _)

theorem accepts_le_room {sink : Sink} {room : Nat} (limit : sink.room = some room)
    (offered : Nat) :
    sink.accepts offered ≤ room := by
  simp only [accepts, limit, Option.getD_some]
  exact Nat.min_le_right _ _

/-- One write takes no more than there is room for. -/
theorem took_accept (bytes : List UInt8) (sink : Sink) :
    sink.Took (bytes.take (sink.accepts bytes.length))
      (sink.accept (sink.accepts bytes.length) bytes) := by
  have counted : (bytes.take (sink.accepts bytes.length)).length = sink.accepts bytes.length :=
    List.length_take_of_le (accepts_le _ _)
  refine ⟨List.tail_suffix _, rfl, ?_, ?_, rfl⟩
  · rw [counted]
    rfl
  · cases limit : sink.room with
    | none =>
        rfl
    | some room =>
        have short := Nat.le_trans (Nat.le_of_eq counted) (accepts_le_room limit _)
        rw [within, List.take_of_length_le short]
        rfl

theorem TakesSome.limit? {sink : Sink} (takes : sink.TakesSome) : sink.limit? ≠ some 0 := by
  intro none
  rcases Option.or_eq_some_iff.1 none with next | ⟨-, after⟩
  · exact takes.1 (List.mem_of_head? next)
  · exact takes.2 after

/-- Only a sink that is full takes nothing. -/
theorem room_eq_of_accepts_eq_zero {sink : Sink} (takes : sink.TakesSome)
    {bytes : List UInt8} (offered : bytes ≠ []) (nothing : sink.accepts bytes.length = 0) :
    sink.room = some 0 := by
  have positive := List.length_pos_iff.2 offered
  have portion : sink.limit?.getD bytes.length ≠ 0 := by
    cases limit : sink.limit? with
    | none =>
        exact Nat.ne_of_gt positive
    | some portion =>
        exact fun none => takes.limit? (limit.trans (congrArg some none))
  cases limit : sink.room with
  | none =>
      simp only [accepts, limit, Option.getD_none] at nothing
      omega
  | some room =>
      simp only [accepts, limit, Option.getD_some] at nothing
      rw [show room = 0 by omega]

theorem write_of_silence {sink : Sink} (full : sink.room = some 0)
    (silent : sink.refusal = .silence) {bytes : List UInt8} (offered : bytes ≠ []) :
    sink.write bytes = (.stalled, sink) := by
  have nothing : sink.accepts bytes.length = 0 := by simp [accepts, full]
  rw [write]
  simp only [offered, nothing, silent, if_true, if_false]

/-- In whatever portions bytes are taken: all are if there is room, and else as many as there is
room for, and the sink is full. -/
theorem took_write (bytes : List UInt8) {sink : Sink} (takes : sink.TakesSome) :
    sink.Took bytes (sink.write bytes).2 ∧
      ((sink.write bytes).1 = .done ∨ (sink.write bytes).2.room = some 0) := by
  fun_induction write bytes sink with
  | case1 sink =>
      exact ⟨took_nil sink, .inl rfl⟩
  | case2 bytes sink count offered nothing | case3 bytes sink count offered nothing
  | case4 bytes sink count offered nothing =>
      have full := room_eq_of_accepts_eq_zero takes offered nothing
      exact ⟨(took_nil sink).of_full full bytes, .inr full⟩
  | case5 bytes sink count offered more inductionHypothesis =>
      have first := took_accept bytes sink
      obtain ⟨rest, ended⟩ := inductionHypothesis (first.takesSome takes)
      have whole := first.trans rest
      rw [List.take_append_drop] at whole
      exact ⟨whole, ended⟩

end Sink

/-! ## What a writer writes -/

def Frame.isSendable (frame : Frame) : Bool :=
  frame.payload.utf8ByteSize ≤ maxPayload

def Frame.wire (frames : List Frame) : List UInt8 :=
  frames.flatMap wireBytes

namespace Writer

def early (frames : List Frame) : List Frame :=
  frames.takeWhile Frame.isSendable

def late (frames : List Frame) : List Frame :=
  (frames.dropWhile Frame.isSendable).tail

/-- The frames before the second one that is too long, without the first. -/
def sendable (frames : List Frame) : List Frame :=
  early frames ++ early (late frames)

theorem sendable_of_all {frames : List Frame} (fit : ∀ frame ∈ frames, frame.isSendable) :
    sendable frames = frames := by
  have whole : early frames = frames := List.takeWhile_eq_self_iff.2 fit
  have rest : late frames = [] := by
    rw [late, List.dropWhile_eq_nil_iff.2 fit]
    rfl
  rw [sendable, whole, rest]
  exact List.append_nil frames

theorem writeFrame_of_isSendable {frame : Frame} (fits : frame.isSendable) (sink : Sink) :
    sink.writeFrame frame = sink.write frame.wireBytes := by
  have encoded : frame.encode = .ok frame.wireBytes := if_pos (of_decide_eq_true fits)
  simp only [Sink.writeFrame, encoded]

theorem writeFrame_of_tooLong {frame : Frame} (long : frame.isSendable = false) (sink : Sink) :
    sink.writeFrame frame =
      (.failed (.payloadTooLarge frame.payload.utf8ByteSize), sink) := by
  have refused : frame.encode = .error (.payloadTooLarge frame.payload.utf8ByteSize) :=
    if_neg (of_decide_eq_false long)
  simp only [Sink.writeFrame, refused]

/-- One pass over the queue ends behind the first frame that is too long, unless the sink is full
before that. -/
theorem took_writeQueue (patience : Nat) (frames : List Frame) {sink : Sink}
    (takes : sink.TakesSome) :
    let progress := writeQueue patience sink frames
    sink.Took (Frame.wire (early frames)) progress.sink ∧
      (progress.queue = late frames ∨ progress.sink.room = some 0) ∧
      progress.seconds ≤ patience := by
  induction frames generalizing sink with
  | nil =>
      exact ⟨sink.took_nil, .inl rfl, Nat.zero_le _⟩
  | cons frame frames inductionHypothesis =>
      cases fits : frame.isSendable with
      | false =>
          have none : early (frame :: frames) = [] := by simp [early, fits]
          have behind : late (frame :: frames) = frames := by simp [late, fits]
          simp only [writeQueue, writeFrame_of_tooLong fits, none, behind]
          exact ⟨sink.took_nil, .inl trivial, Nat.zero_le _⟩
      | true =>
          have first : early (frame :: frames) = frame :: early frames := by simp [early, fits]
          have behind : late (frame :: frames) = late frames := by simp [late, fits]
          have bytes : Frame.wire (early (frame :: frames)) =
              frame.wireBytes ++ Frame.wire (early frames) := by
            rw [first]
            rfl
          obtain ⟨took, ended⟩ := Sink.took_write frame.wireBytes takes
          rw [bytes, behind]
          simp only [writeQueue, writeFrame_of_isSendable fits]
          cases written : sink.write frame.wireBytes with
          | mk outcome next =>
              rw [written] at took ended
              cases outcome with
              | done =>
                  obtain ⟨rest, left⟩ := inductionHypothesis (took.takesSome takes)
                  exact ⟨took.trans rest, left⟩
              | failed error =>
                  have full := ended.resolve_left nofun
                  exact ⟨took.trans (next.took_nil.of_full full _), .inr full, Nat.zero_le _⟩
              | stalled =>
                  have full := ended.resolve_left nofun
                  exact ⟨took.trans (next.took_nil.of_full full _), .inr full, Nat.le_refl _⟩

/-- What the sink has taken when the writer of these frames has ended, and how long that took. -/
theorem took_run (frames : List Frame) {sink : Sink} (takes : sink.TakesSome) :
    ∃ last, sink.Took (Frame.wire (sendable frames)) last ∧ (run frames sink).1 = last.shutdown ∧
      (run frames sink).2 ≤ writeTimeout + flushTimeout := by
  obtain ⟨first, behind, quick⟩ := took_writeQueue writeTimeout frames takes
  obtain ⟨second, -, brief⟩ :=
    took_writeQueue flushTimeout (writeQueue writeTimeout sink frames).queue
      (first.takesSome takes)
  refine ⟨_, ?_, rfl, Nat.add_le_add quick brief⟩
  rw [sendable, Frame.wire, List.flatMap_append]
  rcases behind with rest | full
  · rw [rest] at second ⊢
    exact first.trans second
  · exact first.trans (second.of_full full _)

/-! ## The writer step by step -/

/-- The seconds that a write takes which is given up after so many without an answer. -/
def wait (patience : Nat) : Writing → Nat
  | .stalled => patience
  | _ => 0

inductive Stage where
  /-- It writes the frames as they come. -/
  | draining
  /-- It makes its last attempt at the queue. -/
  | flushing
  | ended
deriving DecidableEq, Repr

structure Task where
  channel : Channel
  sink : Sink
  stage : Stage := .draining
  /-- The seconds spent waiting. -/
  seconds : Nat := 0
  /-- Every frame that was queued while the writer was at work. -/
  queued : List Frame := []
deriving DecidableEq, Repr

namespace Task

def finish (task : Task) : Task :=
  { task with sink := task.sink.shutdown, stage := .ended }

/-- The writer has handed a frame to its sink, and the others are still queued. -/
def tried (queue : List Frame) (sink : Sink) (task : Task) : Task :=
  { task with channel := { task.channel with queue }, sink }

def flush (seconds : Nat) (task : Task) : Task :=
  { task with stage := .flushing, seconds := task.seconds + seconds }

def giveUp (seconds : Nat) (task : Task) : Task :=
  { task with seconds := task.seconds + seconds }.finish

/-- What the writer does next. A frame that is queued comes before the close signal; without either
it waits. -/
def step (task : Task) : Task :=
  match task.stage, task.channel.receive with
  | .draining, (.frame frame, channel) =>
      match task.sink.writeFrame frame with
      | (.done, sink) => task.tried channel.queue sink
      | (writing, sink) => (task.tried channel.queue sink).flush (wait writeTimeout writing)
  | .draining, _ => if task.channel.isOver then task.flush 0 else task
  | .flushing, (.frame frame, channel) =>
      match task.sink.writeFrame frame with
      | (.done, sink) => task.tried channel.queue sink
      | (writing, sink) => (task.tried channel.queue sink).giveUp (wait flushTimeout writing)
  | .flushing, _ => task.finish
  | .ended, _ => task

inductive Stepped (task : Task) : Task → Prop
  | waits :
      task.stage = .draining → task.channel.queue = [] → task.channel.isOver = false →
      Stepped task task
  | turns :
      task.stage = .draining → task.channel.queue = [] → task.channel.isOver = true →
      Stepped task (task.flush 0)
  | writes {frame : Frame} {queue : List Frame} {sink : Sink} :
      task.stage ≠ .ended → task.channel.queue = frame :: queue →
      task.sink.writeFrame frame = (.done, sink) →
      Stepped task (task.tried queue sink)
  | fails {frame : Frame} {queue : List Frame} {writing : Writing} {sink : Sink} :
      task.stage = .draining → task.channel.queue = frame :: queue →
      task.sink.writeFrame frame = (writing, sink) → writing ≠ .done →
      Stepped task ((task.tried queue sink).flush (wait writeTimeout writing))
  | givesUp {frame : Frame} {queue : List Frame} {writing : Writing} {sink : Sink} :
      task.stage = .flushing → task.channel.queue = frame :: queue →
      task.sink.writeFrame frame = (writing, sink) → writing ≠ .done →
      Stepped task ((task.tried queue sink).giveUp (wait flushTimeout writing))
  | finishes :
      task.stage = .flushing → task.channel.queue = [] →
      Stepped task task.finish
  | rests :
      task.stage = .ended →
      Stepped task task

theorem step_stepped (task : Task) : task.Stepped task.step := by
  cases queue : task.channel.queue with
  | nil =>
      have nothing : ∀ frame channel, task.channel.receive ≠ (.frame frame, channel) := by
        simp only [Channel.receive, queue]
        split <;> nofun
      unfold step
      split
      · next received => exact absurd received (nothing _ _)
      · next draining _ =>
          split
          · next signal => exact .turns draining queue signal
          · next silent => exact .waits draining queue (eq_false_of_ne_true silent)
      · next received => exact absurd received (nothing _ _)
      · next flushing _ => exact .finishes flushing queue
      · next ended => exact .rests ended
  | cons frame rest =>
      have received : task.channel.receive =
          (.frame frame, { task.channel with queue := rest }) := by
        simp only [Channel.receive, queue]
      cases written : task.sink.writeFrame frame with
      | mk writing sink =>
          cases stage : task.stage with
          | draining =>
              simp only [step, stage, received, written]
              cases writing with
              | done =>
                  exact .writes (by simp [stage]) queue written
              | failed | stalled =>
                  exact .fails stage queue written nofun
          | flushing =>
              simp only [step, stage, received, written]
              cases writing with
              | done =>
                  exact .writes (by simp [stage]) queue written
              | failed | stalled =>
                  exact .givesUp stage queue written nofun
          | ended =>
              simp only [step, stage]
              exact .rests stage

/-- A frame is queued. When the writer has looked into the queue for the last time, it is lost. -/
def send (frame : Frame) (task : Task) : Task :=
  if task.stage = .ended then task
  else
    { task with
      channel := task.channel.send frame
      queued := task.queued ++ [frame] }

/-- The sink in the end when no more frames are queued, and the seconds the writer will have
waited. -/
def outcome (task : Task) : Sink × Nat :=
  match task.stage with
  | .draining =>
      let later := run task.channel.queue task.sink
      (later.1, task.seconds + later.2)
  | .flushing =>
      windUp
        { sink := task.sink, queue := task.channel.queue, failed := true, seconds := task.seconds }
  | .ended => (task.sink, task.seconds)

def extend (more : List Frame) (task : Task) : Task :=
  { task with channel := { task.channel with queue := task.channel.queue ++ more } }

section

variable {task after : Task} {frame : Frame} {queue : List Frame} {writing : Writing} {sink : Sink}

theorem outcome_tried (waiting : task.channel.queue = frame :: queue) (busy : task.stage ≠ .ended)
    (written : task.sink.writeFrame frame = (.done, sink)) :
    (task.tried queue sink).outcome = task.outcome := by
  cases stage : task.stage with
  | draining =>
      simp only [outcome, tried, stage, waiting, run, writeQueue, written]
  | flushing =>
      simp only [outcome, tried, stage, waiting, windUp, writeQueue, written]
  | ended =>
      exact absurd stage busy

theorem outcome_flush (waiting : task.channel.queue = frame :: queue)
    (draining : task.stage = .draining)
    (written : task.sink.writeFrame frame = (writing, sink)) (failed : writing ≠ .done) :
    ((task.tried queue sink).flush (wait writeTimeout writing)).outcome = task.outcome := by
  cases writing with
  | done =>
      exact absurd rfl failed
  | failed error =>
      simp [outcome, flush, tried, wait, draining, waiting, run, windUp, writeQueue, written]
  | stalled =>
      simp [outcome, flush, tried, wait, draining, waiting, run, windUp, writeQueue, written,
        Nat.add_assoc]

theorem outcome_giveUp (waiting : task.channel.queue = frame :: queue)
    (flushing : task.stage = .flushing)
    (written : task.sink.writeFrame frame = (writing, sink)) (failed : writing ≠ .done) :
    ((task.tried queue sink).giveUp (wait flushTimeout writing)).outcome = task.outcome := by
  cases writing with
  | done =>
      exact absurd rfl failed
  | failed error =>
      simp [outcome, giveUp, finish, tried, wait, flushing, waiting, windUp, writeQueue, written]
  | stalled =>
      simp [outcome, giveUp, finish, tried, wait, flushing, waiting, windUp, writeQueue, written]

theorem Stepped.outcome_eq (stepped : task.Stepped after) : after.outcome = task.outcome := by
  cases stepped with
  | waits | rests =>
      rfl
  | turns draining empty =>
      simp [outcome, flush, draining, empty, run, windUp, writeQueue]
  | writes busy waiting written =>
      exact outcome_tried waiting busy written
  | fails draining waiting written failed =>
      exact outcome_flush waiting draining written failed
  | givesUp flushing waiting written failed =>
      exact outcome_giveUp waiting flushing written failed
  | finishes flushing empty =>
      simp [outcome, finish, flushing, empty, windUp, writeQueue]

/-- As long as the writer goes on, a step does not see what is queued behind the first frame. -/
theorem Stepped.outcome_extend (stepped : task.Stepped after)
    (goesOn : task.channel.isOver = false) (busy : after.stage ≠ .ended) (more : List Frame) :
    (after.extend more).outcome = (task.extend more).outcome := by
  cases stepped with
  | waits | rests =>
      rfl
  | turns _ _ signal =>
      rw [goesOn] at signal
      cases signal
  | @writes frame queue _ _ waiting written =>
      have longer : (task.extend more).channel.queue = frame :: (queue ++ more) :=
        congrArg (· ++ more) waiting
      exact outcome_tried longer busy written
  | @fails frame queue _ _ draining waiting written failed =>
      have longer : (task.extend more).channel.queue = frame :: (queue ++ more) :=
        congrArg (· ++ more) waiting
      exact outcome_flush longer draining written failed
  | givesUp | finishes =>
      exact absurd rfl busy

theorem Stepped.isOver_eq (stepped : task.Stepped after) :
    after.channel.isOver = task.channel.isOver := by
  cases stepped <;> rfl

/-- The writer does nothing to its channel but take the oldest frame out of the queue. -/
theorem Stepped.channel_eq (stepped : task.Stepped after) :
    after.channel = task.channel ∨ after.channel = task.channel.receive.2 := by
  cases stepped with
  | waits | turns | finishes | rests =>
      exact .inl rfl
  | writes _ waiting | fails _ waiting | givesUp _ waiting =>
      refine .inr ?_
      rw [Channel.receive, waiting]
      rfl

theorem Stepped.hasReceiver_eq (stepped : task.Stepped after) :
    after.channel.hasReceiver = task.channel.hasReceiver := by
  rcases stepped.channel_eq with same | taken
  · rw [same]
  · rw [taken, Channel.hasReceiver_receive]

theorem Stepped.queued_eq (stepped : task.Stepped after) : after.queued = task.queued := by
  cases stepped <;> rfl

theorem Stepped.length_queue_le (stepped : task.Stepped after) :
    after.channel.queue.length ≤ task.channel.queue.length := by
  cases stepped with
  | waits | turns | finishes | rests =>
      exact Nat.le_refl _
  | writes _ waiting | fails _ waiting | givesUp _ waiting =>
      rw [waiting]
      exact Nat.le_succ _

theorem step_of_ended (ended : task.stage = .ended) : task.step = task := by
  simp only [step, ended]

end

/-- The channel is not over, and whatever is queued from now on, the writer will have done in the
end what it would have done with the whole queue at once. -/
structure Foretells (sink : Sink) (task : Task) : Prop where
  goesOn : task.channel.isOver = false
  hears : task.channel.hasReceiver = true
  now : task.outcome = run task.queued sink
  later : task.stage ≠ .ended →
    ∀ more, (task.extend more).outcome = run (task.queued ++ more) sink

namespace Foretells

variable {sink : Sink} {task : Task}

theorem start (connection : Nat) (sink : Sink) :
    ({ channel := { id := connection }, sink } : Task).Foretells sink where
  goesOn := rfl
  hears := rfl
  now := by simp [outcome]
  later _ more := by simp [extend, outcome]

theorem send (foretells : task.Foretells sink) (frame : Frame) :
    (task.send frame).Foretells sink := by
  unfold Task.send
  split
  · exact foretells
  · next busy =>
      have queued : task.channel.send frame = (task.extend [frame]).channel :=
        if_pos foretells.hears
      rw [queued]
      refine ⟨foretells.goesOn, foretells.hears, foretells.later busy [frame], ?_⟩
      intro _ more
      rw [List.append_assoc, ← foretells.later busy]
      simp [extend, outcome]

theorem step (foretells : task.Foretells sink) : task.step.Foretells sink := by
  have stepped := task.step_stepped
  refine ⟨?_, ?_, ?_, ?_⟩
  · exact stepped.isOver_eq.trans foretells.goesOn
  · exact stepped.hasReceiver_eq.trans foretells.hears
  · rw [stepped.outcome_eq, stepped.queued_eq]
    exact foretells.now
  · intro busy more
    have before : task.stage ≠ .ended := fun ended => busy (by rwa [step_of_ended ended])
    rw [stepped.outcome_extend foretells.goesOn busy, stepped.queued_eq]
    exact foretells.later before more

end Foretells

/-! ## The end of a writer -/

/-- How many steps the writer of a connection that is over takes at most. -/
def left (task : Task) : Nat :=
  match task.stage with
  | .draining => task.channel.queue.length + 2
  | .flushing => task.channel.queue.length + 1
  | .ended => 0

theorem Stepped.left_lt {task after : Task} (stepped : task.Stepped after)
    (signal : task.channel.isOver = true) (busy : task.stage ≠ .ended) :
    after.left < task.left := by
  cases stepped with
  | waits _ _ silent =>
      rw [signal] at silent
      cases silent
  | turns draining =>
      simp [left, flush, draining]
  | writes _ waiting =>
      cases stage : task.stage with
      | draining | flushing =>
          simp [left, tried, stage, waiting]
      | ended =>
          exact absurd stage busy
  | fails draining waiting =>
      simp [left, flush, tried, draining, waiting]
  | givesUp flushing =>
      simp [left, giveUp, finish, flushing]
  | finishes flushing =>
      simp [left, finish, flushing]
  | rests ended =>
      exact absurd ended busy

theorem ended_of_left_le {task : Task} (signal : task.channel.isOver = true) {steps : Nat}
    (enough : task.left ≤ steps) :
    (step^[steps] task).stage = .ended := by
  induction steps generalizing task with
  | zero =>
      have none := Nat.le_zero.1 enough
      unfold left at none
      split at none
      · cases none
      · cases none
      · assumption
  | succ steps inductionHypothesis =>
      have stepped := task.step_stepped
      rw [Function.iterate_succ_apply]
      refine inductionHypothesis (stepped.isOver_eq.trans signal) ?_
      by_cases ended : task.stage = .ended
      · rw [step_of_ended ended, left, ended]
        exact Nat.zero_le steps
      · exact Nat.le_of_lt_succ (Nat.lt_of_lt_of_le (stepped.left_lt signal ended) enough)

theorem outcome_iterate_step (steps : Nat) (task : Task) :
    (step^[steps] task).outcome = task.outcome := by
  induction steps generalizing task with
  | zero =>
      rfl
  | succ steps inductionHypothesis =>
      rw [Function.iterate_succ_apply, inductionHypothesis, task.step_stepped.outcome_eq]

end Task

inductive Event where
  | send (frame : Frame)
  | step
deriving DecidableEq, Repr

def Event.frame? : Event → Option Frame
  | send frame => some frame
  | step => none

/-- How a connection comes to be over. -/
inductive Ending where
  /-- The close signal is raised. -/
  | closed
  /-- The last handle of the sending side is given up. -/
  | abandoned
deriving DecidableEq, Repr

namespace Task

def next (task : Task) : Event → Task
  | .send frame => task.send frame
  | .step => task.step

def follow (connection : Nat) (sink : Sink) (events : List Event) : Task :=
  events.foldl next { channel := { id := connection }, sink }

def endBy (ending : Ending) (task : Task) : Task :=
  match ending with
  | .closed => { task with channel := task.channel.close }
  | .abandoned => { task with channel := task.channel.dropSender }

theorem Foretells.foldl {sink : Sink} {task : Task} (foretells : task.Foretells sink)
    (events : List Event) :
    (events.foldl next task).Foretells sink := by
  induction events generalizing task with
  | nil =>
      exact foretells
  | cons event events inductionHypothesis =>
      cases event with
      | send frame =>
          exact inductionHypothesis (foretells.send frame)
      | step =>
          exact inductionHypothesis foretells.step

theorem foldl_of_ended {task : Task} (ended : task.stage = .ended) (events : List Event) :
    events.foldl next task = task := by
  induction events with
  | nil =>
      rfl
  | cons event events inductionHypothesis =>
      have still : task.next event = task := by
        cases event with
        | send frame =>
            exact if_pos ended
        | step =>
            exact step_of_ended ended
      rw [List.foldl_cons, still, inductionHypothesis]

/-- As long as the writer has not ended, every frame that is sent is queued. -/
theorem queued_foldl {task : Task} (events : List Event)
    (waits : (events.foldl next task).stage ≠ .ended) :
    (events.foldl next task).queued = task.queued ++ events.filterMap Event.frame? := by
  induction events generalizing task with
  | nil =>
      exact (List.append_nil _).symm
  | cons event events inductionHypothesis =>
      rw [List.foldl_cons] at waits ⊢
      rw [inductionHypothesis waits]
      cases event with
      | send frame =>
          have still : task.stage ≠ .ended := fun ended => by
            have same : task.next (.send frame) = task := if_pos ended
            rw [same, foldl_of_ended ended] at waits
            exact waits ended
          have queued : (task.next (.send frame)).queued = task.queued ++ [frame] :=
            congrArg Task.queued (if_neg still)
          rw [queued, List.append_assoc]
          rfl
      | step =>
          rw [next, task.step_stepped.queued_eq]
          rfl

theorem length_queue_send_le (frame : Frame) (task : Task) :
    (task.send frame).channel.queue.length ≤ task.channel.queue.length + 1 := by
  unfold send Channel.send
  split
  · exact Nat.le_succ _
  · split <;> simp

theorem length_queue_foldl_le (events : List Event) (task : Task) :
    (events.foldl next task).channel.queue.length ≤
      task.channel.queue.length + events.length := by
  induction events generalizing task with
  | nil =>
      exact Nat.le_refl _
  | cons event events inductionHypothesis =>
      have later := inductionHypothesis (task.next event)
      have now : (task.next event).channel.queue.length ≤ task.channel.queue.length + 1 := by
        cases event with
        | send frame =>
            exact length_queue_send_le frame task
        | step =>
            exact Nat.le_succ_of_le task.step_stepped.length_queue_le
      rw [List.foldl_cons, List.length_cons]
      omega

theorem endBy_outcome (ending : Ending) (task : Task) :
    (task.endBy ending).outcome = task.outcome := by
  cases ending <;> rfl

theorem left_endBy_le (ending : Ending) (task : Task) :
    (task.endBy ending).left ≤ task.channel.queue.length + 2 := by
  obtain ⟨channel, sink, stage, seconds, queued⟩ := task
  cases ending <;> cases stage <;> simp [endBy, left, Channel.close, Channel.dropSender]

theorem endBy_isOver (ending : Ending) (task : Task) :
    (task.endBy ending).channel.isOver = true := by
  cases ending <;> simp [endBy, Channel.isOver, Channel.close, Channel.dropSender]

end Task

/-- Whatever the writer has written by then, when its connection is over it ends. The sink has taken
as much as there is room for of the frames that were queued, the first one that is too long left out
and those from the second one on; it is told once that this was all. As long as a write takes any
bytes at all, it does not matter how many each of them takes. -/
theorem writes_sendable (sink : Sink) (takes : sink.TakesSome) (connection : Nat)
    (events : List Event) (ending : Ending) (steps : Nat)
    (enough : events.length + 2 ≤ steps) :
    let before := Task.follow connection sink events
    let task := Task.step^[steps] (before.endBy ending)
    (before.stage ≠ .ended → before.queued = events.filterMap Event.frame?) ∧
      task.stage = .ended ∧
      (task.sink, task.seconds) = run before.queued sink ∧
      task.sink.taken =
        sink.taken ++ Sink.within sink.room (Frame.wire (sendable before.queued)) ∧
      (sink.room = none → (∀ frame ∈ before.queued, frame.isSendable) →
        task.sink.taken = sink.taken ++ Frame.wire before.queued) ∧
      task.sink.shutdowns = sink.shutdowns + 1 ∧
      task.seconds ≤ writeTimeout + flushTimeout := by
  intro before task
  have foretells : before.Foretells sink := (Task.Foretells.start connection sink).foldl events
  have queue : before.channel.queue.length ≤ 0 + events.length :=
    Task.length_queue_foldl_le events _
  have left := before.left_endBy_le ending
  have ended : task.stage = .ended :=
    Task.ended_of_left_le (before.endBy_isOver ending) (by omega)
  have same : (task.sink, task.seconds) = run before.queued sink := by
    have outcome : task.outcome = run before.queued sink := by
      rw [Task.outcome_iterate_step, Task.endBy_outcome, foretells.now]
    rwa [Task.outcome, ended] at outcome
  obtain ⟨last, took, told, short⟩ := took_run before.queued takes
  rw [← same] at told short
  have taken : task.sink.taken =
      sink.taken ++ Sink.within sink.room (Frame.wire (sendable before.queued)) :=
    (congrArg Sink.taken told).trans took.taken
  have shutdowns : task.sink.shutdowns = sink.shutdowns + 1 :=
    (congrArg Sink.shutdowns told).trans (congrArg (· + 1) took.shutdowns)
  refine ⟨fun waits => ?_, ended, same, taken, ?_, shutdowns, short⟩
  · exact Task.queued_foldl events waits
  · intro healthy fit
    rw [taken, healthy, sendable_of_all fit]
    rfl

/-- The sink takes a byte first, then seven and two, and then three at a time, and stops answering
after twenty. By then it has the frame that was written before the last handle was given up, and
part of the next one. -/
theorem writes_sendable_of_stalled :
    let login : Frame := { type := .login, payload := "ann" }
    let notice : Frame := { type := .notice, payload := "bob" }
    let sink : Sink :=
      { portions := [1, 7, 2], portion := some 3, room := some 20, refusal := .silence }
    let events : List Event := [.send login, .step, .send notice, .send login]
    let before := Task.follow 4 sink events
    let task := Task.step^[6] (before.endBy .abandoned)
    sink.TakesSome ∧ events.length + 2 ≤ 6 ∧
      before.queued = [login, notice, login] ∧ task.stage = .ended ∧
      task.sink.taken = Text.bytes "JOKELOGI0003annJOKEN" ∧ task.sink.shutdowns = 1 ∧
      task.seconds ≤ 6 := by
  intro login notice sink events before task
  have takes : sink.TakesSome := ⟨by decide, nofun⟩
  obtain ⟨sent, ended, -, taken, -, told, short⟩ :=
    writes_sendable sink takes 4 events .abandoned 6 (by decide)
  obtain ⟨took, enough⟩ := sink.took_write login.wireBytes takes
  have written : sink.writeFrame login = (.done, (sink.write login.wireBytes).2) := by
    rw [writeFrame_of_isSendable rfl]
    exact Prod.ext (enough.resolve_right (by rw [took.room]; decide)) rfl
  have waits : before.stage ≠ .ended := by
    simp [before, events, Task.follow, Task.next, Task.send, Task.step, Task.tried, Channel.send,
      Channel.canSend, Channel.receive, written]
  have queued : before.queued = [login, notice, login] := sent waits
  refine ⟨takes, by decide, queued, ended, taken.trans ?_, told, short⟩
  rw [queued]
  decide

end Writer

end Cardroom
