/-
**The engine room: the engine, its session, its queue, and the journal.**

* `EngineRoom.submit`: a submission, with the notice of a refusal;
* `EngineRoom.notify`, `EngineRoom.shutdown`: calls into the engine, each recorded before its effects;
* `EngineRoom.run`: one task from its first act to its end; `EngineRoom.verdict` says what follows it;
* `EngineRoom.workOff`: a batch of tasks, up to the first that fails or ends the session;
* `EngineRoom.pass`: one pass over the queue.
-/

import EngineHost.Engine.Journal
import EngineHost.Engine.Program
import EngineHost.Engine.Queue

namespace EngineHost

/-- The engine, its session, its queue, and the journal of what happened. -/
structure EngineRoom (ε τ : Type) where
  engine : ε
  session : Session := {}
  queue : Queue (Task τ) := {}
  journal : List Event := []

namespace EngineRoom

variable {ε τ α : Type}

/-- Adds events to the journal. -/
def record (events : List Event) (room : EngineRoom ε τ) : EngineRoom ε τ :=
  { room with journal := room.journal ++ events }

/-- Adds notices to the journal. -/
def report (notices : List Notice) (room : EngineRoom ε τ) : EngineRoom ε τ :=
  room.record (notices.map Event.notice)

/-- Submits a task and says whether it was accepted; a refusal is reported. -/
def submit (task : Task τ) (room : EngineRoom ε τ) : Bool × EngineRoom ε τ :=
  match room.queue.submit task with
  | some queue => (true, { room with queue })
  | none => (false, room.report [.submissionRefused])

/-- Lets hosted code use the queue; what it learns is recorded. -/
def use (program : Program ε τ) (room : EngineRoom ε τ) : QueueUse τ → EngineRoom ε τ
  | .submit job =>
    let (accepted, room) := room.submit (program.task job)
    room.record [.submitted accepted]
  | .look => room.record [.sawQueue room.queue.pending room.queue.closed]

/-- Hears the reaction of the engine to a call: the call is recorded, then what the engine says. -/
def hear (call : EngineCall) (reaction : Reaction ε τ α) (room : EngineRoom ε τ) : EngineRoom ε τ :=
  ({ room with engine := reaction.engine }.record [.call call]).report reaction.notices

/-- Takes over the reaction of the engine to a call, its uses of the queue included. -/
def take (program : Program ε τ) (call : EngineCall) (reaction : Reaction ε τ α)
    (room : EngineRoom ε τ) : EngineRoom ε τ :=
  reaction.uses.foldl (use program) (room.hear call reaction)

/-- Tells the engine something. -/
def notify (program : Program ε τ) (notification : Notification) (room : EngineRoom ε τ) :
    EngineRoom ε τ :=
  room.take program (.notify notification) (program.notify room.engine notification)

/-- Shuts the engine down. -/
def shutdown (program : Program ε τ) (room : EngineRoom ε τ) : EngineRoom ε τ :=
  room.take program .shutdown (program.shutdown room.engine)

/-- Ends the session; the end of one that was begun is reported. -/
def endSession (room : EngineRoom ε τ) : EngineRoom ε τ :=
  let reported :=
    if room.session.initialized then room.report [.sessionReset room.session.generation]
    else room
  { reported with session := room.session.reset }

/-- One act of a task. -/
def perform (program : Program ε τ) (room : EngineRoom ε τ) : Act τ → EngineRoom ε τ
  | .notify notification => room.notify program notification
  | .shutdown => room.shutdown program
  | .endSession => room.endSession
  | .lookAtSession => room.record [.sawSession room.session]
  | .queue use => room.use program use

/-- The acts of a task, in order. -/
def run (program : Program ε τ) (task : Task τ) (room : EngineRoom ε τ) : EngineRoom ε τ :=
  task.acts.foldl (perform program) room

/-- What follows a task of a batch. -/
inductive Verdict
  | goOn
  | sessionOver
  | failed (failure : EngineFailure)
  | panicked (text : String)
deriving DecidableEq, Repr

/-- What follows a task, by its end and by the room after it. In a batch that was begun in a session, a task
that leaves none behind is the last. -/
def verdict (inSession : Bool) (task : Task τ) (after : EngineRoom ε τ) : Verdict :=
  match task.ending with
  | .failed failure => .failed failure
  | .panicked text => .panicked text
  | .done => if inSession && !after.session.initialized then .sessionOver else .goOn

/-- Puts the rest of a batch back in front of what was submitted meanwhile. -/
def putBack (rest : List (Task τ)) (room : EngineRoom ε τ) : EngineRoom ε τ :=
  if rest.isEmpty then room
  else { room.report [.deferred rest.length] with queue := room.queue.putBack rest }

/-- Drops the rest of a batch after a failed task, `done` tasks of which ran before it. -/
def dropRest (done : Nat) (rest : List (Task τ)) (failure : EngineFailure) (room : EngineRoom ε τ) :
    EngineRoom ε τ :=
  let position := done + 1
  room.report [.taskFailed position (position + rest.length) rest.length failure]

/-- Works off a batch, `done` tasks of which ran before. A failure drops the rest of the batch, and a panic
loses it. -/
def workOff (program : Program ε τ) (inSession : Bool) (done : Nat) :
    List (Task τ) → EngineRoom ε τ → TaskEnd × EngineRoom ε τ
  | [], room => (.done, room)
  | task :: rest, room =>
    let after := room.run program task
    match after.verdict inSession task with
    | .goOn => workOff program inSession (done + 1) rest after
    | .sessionOver => (.done, after.putBack rest)
    | .failed failure => (.failed failure, after.dropRest done rest failure)
    | .panicked text => (.panicked text, after)

/-- One pass over the queue: takes all that waits and works it off. What a task submits meanwhile waits for
the next pass. -/
def pass (program : Program ε τ) (room : EngineRoom ε τ) : TaskEnd × EngineRoom ε τ :=
  let (batch, queue) := room.queue.take
  workOff program room.session.initialized 0 batch { room with queue }

/-- Closes the queue; what it drops is reported. -/
def closeQueue (room : EngineRoom ε τ) : EngineRoom ε τ :=
  let reported :=
    if room.queue.pending = 0 then room else room.report [.discarded room.queue.pending]
  { reported with queue := room.queue.close }

/-! ### What an operation leaves alone

Each lemma lists the session, the queue, the calls and the requests to finish after one operation. -/

@[simp] theorem record_frame (events : List Event) (room : EngineRoom ε τ) :
    (room.record events).session = room.session ∧ (room.record events).queue = room.queue ∧
      (room.record events).engine = room.engine ∧
      (room.record events).journal = room.journal ++ events :=
  ⟨rfl, rfl, rfl, rfl⟩

@[simp] theorem report_frame (notices : List Notice) (room : EngineRoom ε τ) :
    (room.report notices).session = room.session ∧ (room.report notices).queue = room.queue ∧
      (room.report notices).engine = room.engine ∧
      callsOf (room.report notices).journal = callsOf room.journal ∧
      finishesOf (room.report notices).journal = finishesOf room.journal := by
  refine ⟨rfl, rfl, rfl, ?_, ?_⟩ <;> simp [report]

/-- A submission is accepted by an open queue only. -/
@[simp] theorem submit_accepted (task : Task τ) (room : EngineRoom ε τ) :
    (room.submit task).1 = !room.queue.closed := by
  cases closed : room.queue.closed <;> simp [submit, Queue.submit, closed]

/-- A refusal is reported, and nothing else. -/
theorem journal_submit (task : Task τ) (room : EngineRoom ε τ) :
    (room.submit task).2.journal = room.journal ++
      (if room.queue.closed then [Event.notice .submissionRefused] else []) := by
  by_cases closed : room.queue.closed = true <;> simp [submit, Queue.submit, closed, report]

@[simp] theorem submit_frame (task : Task τ) (room : EngineRoom ε τ) :
    (room.submit task).2.session = room.session ∧
      (room.submit task).2.queue.closed = room.queue.closed ∧
      (room.submit task).2.queue.tasks =
        (if room.queue.closed then room.queue.tasks else room.queue.tasks ++ [task]) ∧
      callsOf (room.submit task).2.journal = callsOf room.journal ∧
      finishesOf (room.submit task).2.journal = finishesOf room.journal := by
  cases closed : room.queue.closed <;> simp [submit, Queue.submit, closed]

@[simp] theorem use_frame (program : Program ε τ) (room : EngineRoom ε τ) (use : QueueUse τ) :
    (room.use program use).session = room.session ∧
      (room.use program use).queue.closed = room.queue.closed ∧
      (room.use program use).queue.tasks =
        (if room.queue.closed then room.queue.tasks
          else room.queue.tasks ++ (use.task? program).toList) ∧
      callsOf (room.use program use).journal = callsOf room.journal ∧
      finishesOf (room.use program use).journal = finishesOf room.journal := by
  cases use with
  | submit job => simp [EngineRoom.use, QueueUse.task?]
  | look => simp [EngineRoom.use, QueueUse.task?]

@[simp] theorem hear_frame (call : EngineCall) (reaction : Reaction ε τ α) (room : EngineRoom ε τ) :
    (room.hear call reaction).session = room.session ∧ (room.hear call reaction).queue = room.queue ∧
      (room.hear call reaction).engine = reaction.engine ∧
      callsOf (room.hear call reaction).journal = callsOf room.journal ++ [call] ∧
      finishesOf (room.hear call reaction).journal = finishesOf room.journal := by
  refine ⟨rfl, rfl, rfl, ?_, ?_⟩ <;> simp [hear]

@[simp] theorem endSession_frame (room : EngineRoom ε τ) :
    room.endSession.session = room.session.reset ∧ room.endSession.queue = room.queue ∧
      callsOf room.endSession.journal = callsOf room.journal ∧
      finishesOf room.endSession.journal = finishesOf room.journal := by
  cases begun : room.session.initialized <;> simp [endSession, begun]

@[simp] theorem putBack_frame (rest : List (Task τ)) (room : EngineRoom ε τ) :
    (room.putBack rest).session = room.session ∧
      (room.putBack rest).queue.closed = room.queue.closed ∧
      (room.putBack rest).queue.tasks = rest ++ room.queue.tasks ∧
      callsOf (room.putBack rest).journal = callsOf room.journal ∧
      finishesOf (room.putBack rest).journal = finishesOf room.journal := by
  cases rest <;> simp [putBack, Queue.putBack]

@[simp] theorem dropRest_frame (done : Nat) (rest : List (Task τ)) (failure : EngineFailure)
    (room : EngineRoom ε τ) :
    (room.dropRest done rest failure).session = room.session ∧
      (room.dropRest done rest failure).queue = room.queue ∧
      callsOf (room.dropRest done rest failure).journal = callsOf room.journal ∧
      finishesOf (room.dropRest done rest failure).journal = finishesOf room.journal := by
  simp [dropRest]

@[simp] theorem closeQueue_frame (room : EngineRoom ε τ) :
    room.closeQueue.session = room.session ∧ room.closeQueue.queue = ⟨[], true⟩ ∧
      callsOf room.closeQueue.journal = callsOf room.journal ∧
      finishesOf room.closeQueue.journal = finishesOf room.journal := by
  refine ⟨?_, rfl, ?_, ?_⟩ <;> by_cases empty : room.queue.pending = 0 <;> simp [closeQueue, empty]

/-! ### The engine changes by calls only -/

@[simp] theorem submit_engine (task : Task τ) (room : EngineRoom ε τ) :
    (room.submit task).2.engine = room.engine := by
  unfold submit
  split <;> rfl

@[simp] theorem use_engine (program : Program ε τ) (room : EngineRoom ε τ) (use : QueueUse τ) :
    (room.use program use).engine = room.engine := by
  cases use with
  | submit job => exact submit_engine (program.task job) room
  | look => rfl

@[simp] theorem endSession_engine (room : EngineRoom ε τ) : room.endSession.engine = room.engine := by
  unfold endSession
  split <;> rfl

@[simp] theorem putBack_engine (rest : List (Task τ)) (room : EngineRoom ε τ) :
    (room.putBack rest).engine = room.engine := by
  unfold putBack
  split <;> rfl

@[simp] theorem dropRest_engine (done : Nat) (rest : List (Task τ)) (failure : EngineFailure)
    (room : EngineRoom ε τ) : (room.dropRest done rest failure).engine = room.engine := rfl

@[simp] theorem closeQueue_engine (room : EngineRoom ε τ) : room.closeQueue.engine = room.engine := by
  unfold closeQueue
  split <;> rfl

end EngineRoom

end EngineHost
