/-
**A frame loop among other threads.**

The hooks of a frame loop run on its own thread, and other threads submit tasks at any time. Here a hook
is cut into steps, each of which touches the queue at most once; between any two of them other threads
may submit.

* `LoopRun`: a loop in the middle of a hook, with what its thread has left to do and what happened so
  far;
* `LoopRun.next`, `LoopRun.useQueue`: the next step of the loop's thread;
* `LoopRun.step`, `LoopRun.play`: one move of a schedule, and a whole schedule;
* `LoopRun.step_induction`: all that one move can do; what others do is `FrameLoop.Offered`;
* `accepted`, `begun`, `replies`: the tasks that were accepted, the tasks that were begun, and how the
  starts of the engine ended, each in order.

A schedule is any list of moves, so a statement about all schedules is one about all interleavings of
any number of threads.
-/

import EngineHost.Loop.FrameLoop

namespace EngineHost

/-- The ways into a frame loop. -/
inductive Entry
  | surfaceCreated (thread : ThreadId)
  | surfaceChanged (thread : ThreadId) (width height : UInt32)
  | drawFrame (thread : ThreadId)
  | deliverRest
deriving DecidableEq, Repr

/-- The thread on which a hook is called; the delivery of the rest does not ask for it. -/
def Entry.thread? : Entry → Option ThreadId
  | .surfaceCreated thread | .surfaceChanged thread _ _ | .drawFrame thread => some thread
  | .deliverRest => none

/-- What a hook answers: the outcome of a frame, nothing, or a panic. -/
abbrev Entry.Answer := Except Panic (Option FrameOutcome)

/-- A pass over the queue that is on its way: whether a frame follows it, whether it was begun in a
session, and how many of its tasks ran. -/
structure Pass where
  drawing : Bool
  inSession : Bool
  ran : Nat := 0
deriving DecidableEq, Repr

/-- What a hook answers if a pass is the end of it; only a frame has an outcome. -/
def Pass.answer (pass : Pass) (outcome : FrameOutcome) : Entry.Answer :=
  .ok (if pass.drawing then some outcome else none)

/-- Where the thread of a loop stands. -/
inductive Stage (τ : Type)
  /-- Between two hooks. -/
  | idle
  /-- The engine was configured. -/
  | configured
  /-- The engine answered to its start. -/
  | started (reply : InitReply)
  /-- The engine was told about another surface. -/
  | notified
  /-- Between two tasks of a batch. -/
  | choosing (pass : Pass) (batch : List (Task τ))
  /-- Within a task, before these acts of it. -/
  | running (pass : Pass) (task : Task τ) (acts : List (Act τ)) (rest : List (Task τ))
  /-- A task failed. -/
  | failing (pass : Pass) (failure : EngineFailure)
  /-- A frame was drawn. -/
  | drawn (outcome : FrameOutcome)
  /-- The queue is closed, and the engine is shut down if it had a session. -/
  | closing (answer : Entry.Answer)

/-- The tasks of the batch in hand that were not begun. -/
def Stage.inHand {τ : Type} : Stage τ → List (Task τ)
  | .choosing _ batch => batch
  | .running _ _ _ rest => rest
  | _ => []

/-- A move of a schedule: something another thread does, the call of a hook, or one step of the loop's
thread. -/
inductive Move (τ : Type)
  | submit (task : Task τ)
  | report (notices : List Notice)
  | enter (entry : Entry)
  | proceed

/-- The task that is running, and the batch in hand after it. -/
def Stage.tasks {τ : Type} : Stage τ → List (Task τ)
  | .choosing _ batch => batch
  | .running _ task _ rest => task :: rest
  | _ => []

/-! ### What happens -/

/-- What happens in a run. -/
inductive Happening (τ : Type)
  | accepted (task : Task τ)
  | refused (task : Task τ)
  | begun (task : Task τ)
  | failed (failure : EngineFailure)
  | closed
  | replied (reply : InitReply)
  | returned (answer : Entry.Answer)

section History

variable {τ : Type}

/-- The task whose submission was accepted. -/
@[simp] def Happening.accepted? : Happening τ → Option (Task τ)
  | .accepted task => some task
  | _ => none

/-- The task that was begun. -/
@[simp] def Happening.begun? : Happening τ → Option (Task τ)
  | .begun task => some task
  | _ => none

/-- How a start of the engine ended. -/
@[simp] def Happening.reply? : Happening τ → Option InitReply
  | .replied reply => some reply
  | _ => none

/-- The tasks whose submission was accepted, in the order of the queue's lock. -/
def accepted (history : List (Happening τ)) : List (Task τ) := history.filterMap Happening.accepted?

/-- The tasks that were begun, in order. -/
def begun (history : List (Happening τ)) : List (Task τ) := history.filterMap Happening.begun?

/-- How the starts of the engine ended, in order. -/
def replies (history : List (Happening τ)) : List InitReply := history.filterMap Happening.reply?

@[simp] theorem accepted_nil : accepted ([] : List (Happening τ)) = [] := rfl

@[simp] theorem begun_nil : begun ([] : List (Happening τ)) = [] := rfl

@[simp] theorem replies_nil : replies ([] : List (Happening τ)) = [] := rfl

@[simp] theorem accepted_append (earlier later : List (Happening τ)) :
    accepted (earlier ++ later) = accepted earlier ++ accepted later :=
  List.filterMap_append

@[simp] theorem begun_append (earlier later : List (Happening τ)) :
    begun (earlier ++ later) = begun earlier ++ begun later :=
  List.filterMap_append

@[simp] theorem replies_append (earlier later : List (Happening τ)) :
    replies (earlier ++ later) = replies earlier ++ replies later :=
  List.filterMap_append

@[simp] theorem accepted_singleton (happening : Happening τ) :
    accepted [happening] = happening.accepted?.toList := by
  cases happening <;> rfl

@[simp] theorem begun_singleton (happening : Happening τ) :
    begun [happening] = happening.begun?.toList := by
  cases happening <;> rfl

@[simp] theorem replies_singleton (happening : Happening τ) :
    replies [happening] = happening.reply?.toList := by
  cases happening <;> rfl

end History

variable {ε τ α : Type}

/-! ### What is done to a loop from outside -/

/-- Tasks were offered to the queue of a loop, and events that call nobody were recorded; nothing else
has changed. -/
structure FrameLoop.Offered (before : FrameLoop ε τ) (offered : List (Task τ))
    (after : FrameLoop ε τ) : Prop where
  session : after.session = before.session
  state : after.state = before.state
  config : after.config = before.config
  closed : after.queue.closed = before.queue.closed
  tasks : after.queue.tasks =
    if before.queue.closed then before.queue.tasks else before.queue.tasks ++ offered
  frames : after.frames = before.frames
  finishes : after.finishes = before.finishes
  calls : callsOf after.journal = callsOf before.journal
  asked : finishesOf after.journal = finishesOf before.journal

namespace FrameLoop.Offered

theorem refl (loop : FrameLoop ε τ) : loop.Offered [] loop := by
  constructor <;> simp

theorem trans {first second third : FrameLoop ε τ} {earlier later : List (Task τ)}
    (one : first.Offered earlier second) (two : second.Offered later third) :
    first.Offered (earlier ++ later) third where
  session := two.session.trans one.session
  state := two.state.trans one.state
  config := two.config.trans one.config
  closed := two.closed.trans one.closed
  tasks := by
    rw [two.tasks, one.tasks, one.closed]
    cases first.queue.closed <;> simp
  frames := two.frames.trans one.frames
  finishes := two.finishes.trans one.finishes
  calls := two.calls.trans one.calls
  asked := two.asked.trans one.asked

theorem report (notices : List Notice) (loop : FrameLoop ε τ) :
    loop.Offered [] (loop.report notices) := by
  constructor <;> simp

theorem submit (task : Task τ) (loop : FrameLoop ε τ) :
    loop.Offered [task] (loop.inRoom fun room => (room.submit task).2) := by
  constructor <;> simp

theorem use (program : Program ε τ) (use : QueueUse τ) (loop : FrameLoop ε τ) :
    loop.Offered (use.task? program).toList (loop.inRoom (·.use program use)) := by
  constructor <;> simp

/-- An open queue gets what is offered, and a closed one nothing. -/
theorem queue {before after : FrameLoop ε τ} {offered : List (Task τ)}
    (outside : before.Offered offered after) : after.queue = if before.queue.closed then before.queue
      else { before.queue with tasks := before.queue.tasks ++ offered } := by
  obtain ⟨-, -, -, closed, tasks, -, -, -, -⟩ := outside
  generalize after.queue = queue at closed tasks
  obtain ⟨waiting, isClosed⟩ := queue
  rw [show isClosed = before.queue.closed from closed, show waiting = _ from tasks]
  split <;> rfl

end FrameLoop.Offered

/-! ### The run of a loop -/

/-- A frame loop in the middle of a hook. -/
structure LoopRun (ε τ : Type) where
  loop : FrameLoop ε τ
  stage : Stage τ := .idle
  /-- The uses of the queue that the engine or a task makes before anything else. -/
  owed : List (QueueUse τ) := []
  history : List (Happening τ) := []

namespace LoopRun

/-- A run of a loop around an engine that was not started. -/
def start (engine : ε) (config : Config) : LoopRun ε τ := { loop := FrameLoop.create engine config }

/-- Remembers what happened. -/
def note (happening : Happening τ) (run : LoopRun ε τ) : LoopRun ε τ :=
  { run with history := run.history ++ [happening] }

/-- The hook returns. -/
def leave (answer : Entry.Answer) (run : LoopRun ε τ) : LoopRun ε τ :=
  { run with stage := .idle }.note (.returned answer)

/-- What a submission comes to. -/
def submission (task : Task τ) (run : LoopRun ε τ) : Happening τ :=
  if (run.loop.submit task).1 then .accepted task else .refused task

/-- Another thread submits a task. -/
def submit (task : Task τ) (run : LoopRun ε τ) : LoopRun ε τ :=
  { run with
    loop := run.loop.inRoom fun room => (room.submit task).2
    history := run.history ++ [run.submission task] }

/-- Hosted code uses the queue. -/
def useQueue (program : Program ε τ) (use : QueueUse τ) (run : LoopRun ε τ) : LoopRun ε τ :=
  { run with
    loop := run.loop.inRoom (·.use program use)
    history := run.history ++ ((use.task? program).map run.submission).toList }

/-- The engine is called; the uses of the queue in its reaction are still to come. -/
def call (call : EngineCall) (reaction : Reaction ε τ α) (run : LoopRun ε τ) : LoopRun ε τ :=
  { run with loop := run.loop.inRoom (·.hear call reaction), owed := reaction.uses }

/-- Takes all that waits. -/
def takeBatch (drawing : Bool) (run : LoopRun ε τ) : LoopRun ε τ :=
  let (batch, queue) := run.loop.queue.take
  { run with
    loop := { run.loop with queue }
    stage := .choosing { drawing, inSession := run.loop.session.initialized } batch }

/-- Closes the queue, and shuts the engine down if it has a session. -/
def beginClose (program : Program ε τ) (notices : List Notice) (answer : Entry.Answer)
    (run : LoopRun ε τ) : LoopRun ε τ :=
  let loop := (run.loop.report notices).inRoom (·.closeQueue)
  let closed := { run with loop, stage := .closing answer }.note .closed
  if loop.session.initialized then closed.call .shutdown (program.shutdown loop.engine) else closed

/-- The next act of a task begins. -/
def perform (program : Program ε τ) (act : Act τ) (run : LoopRun ε τ) : LoopRun ε τ :=
  match act with
  | .notify notification =>
    run.call (.notify notification) (program.notify run.loop.engine notification)
  | .shutdown => run.call .shutdown (program.shutdown run.loop.engine)
  | .queue use => { run with owed := [use] }
  | .endSession | .lookAtSession => { run with loop := run.loop.inRoom (·.perform program act) }

/-- What follows the verdict on a task. -/
def follow (pass : Pass) (rest : List (Task τ)) (run : LoopRun ε τ) : EngineRoom.Verdict → LoopRun ε τ
  | .goOn => { run with stage := .choosing { pass with ran := pass.ran + 1 } rest }
  | .sessionOver =>
    { run with
      loop := run.loop.inRoom (·.putBack rest)
      stage := .choosing { pass with ran := pass.ran + 1 } [] }
  | .failed failure =>
    { run with
      loop := run.loop.inRoom (·.dropRest pass.ran rest failure)
      stage := .failing pass failure }.note (.failed failure)
  | .panicked text => run.leave (.error (.raised text))

/-- What follows the end of a task. -/
def judge (pass : Pass) (task : Task τ) (rest : List (Task τ)) (run : LoopRun ε τ) : LoopRun ε τ :=
  run.follow pass rest (run.loop.verdict pass.inSession task)

/-- What follows the last task of a pass: the frame, if one is due and the session goes on. -/
def finishPass (program : Program ε τ) (pass : Pass) (run : LoopRun ε τ) : LoopRun ε τ :=
  if run.loop.session.initialized then
    if pass.drawing then
      let reaction := program.render run.loop.engine
      { run with stage := .drawn reaction.reply }.call .render reaction
    else run.leave (.ok none)
  else { run with loop := run.loop.awaitSurface }.leave (pass.answer .proceed)

/-- The engine answered to its start. -/
def answerStart (program : Program ε τ) (run : LoopRun ε τ) : InitReply → LoopRun ε τ
  | .ready => { run with loop := run.loop.beginSession }.leave (.ok none)
  | .failed failure => run.beginClose program [.terminating (.engineFailed failure)] (.ok none)
  | .panicked text => run.leave (.error (.raised text))

/-- A frame was drawn. -/
def answerFrame (program : Program ε τ) (run : LoopRun ε τ) : FrameOutcome → LoopRun ε τ
  | .proceed => { run with loop := run.loop.countFrame }.leave (.ok (some .proceed))
  | .stop =>
    let counted := run.loop.countFrame
    { run with loop := counted }.beginClose program [.stopRequested counted.frames] (.ok (some .stop))

/-- The next step of the loop's thread when no use of the queue is owed. -/
def next (program : Program ε τ) (run : LoopRun ε τ) : LoopRun ε τ :=
  match run.stage with
  | .idle => run
  | .configured =>
    let args := run.loop.config.launchArgs
    let reaction := program.init run.loop.engine args
    ({ run with stage := .started reaction.reply }.call (.init args) reaction).note
      (.replied reaction.reply)
  | .started reply => run.answerStart program reply
  | .notified => run.leave (.ok none)
  | .choosing pass [] => run.finishPass program pass
  | .choosing pass (task :: rest) =>
    { run with stage := .running pass task task.acts rest }.note (.begun task)
  | .running pass task (act :: acts) rest =>
    { run with stage := .running pass task acts rest }.perform program act
  | .running pass task [] rest => run.judge pass task rest
  | .failing pass failure =>
    run.beginClose program [.terminating (.engineFailed failure)] (pass.answer .stop)
  | .drawn outcome => run.answerFrame program outcome
  | .closing answer => { run with loop := run.loop.conclude }.leave answer

/-- A hook begins on a thread that may enter. -/
def beginHook (program : Program ε τ) (run : LoopRun ε τ) : Entry → LoopRun ε τ
  | .surfaceCreated _ =>
    match run.loop.state with
    | .uninitialized =>
      let config := run.loop.config
      let prepared := run.loop.prepare
      { run with loop := prepared, stage := .configured }.call
        (.configure config.dataPath config.archivePath)
        (program.configure prepared.engine config.dataPath config.archivePath)
    | .running =>
      { run with stage := .notified }.call (.notify .surfaceCreated)
        (program.notify run.loop.engine .surfaceCreated)
    | .initializing =>
      { run with loop := run.loop.report [.surfaceWhileInitializing] }.leave (.ok none)
    | .terminated =>
      { run with loop := run.loop.report [.surfaceAfterTermination] }.leave (.ok none)
  | .surfaceChanged _ width height =>
    { run with loop := run.loop.report [.surfaceChanged width height] }.leave (.ok none)
  | .drawFrame _ =>
    match run.loop.state with
    | .running => run.takeBatch true
    | .terminated => run.leave (.ok (some .stop))
    | .uninitialized | .initializing => run.leave (.ok (some .proceed))
  | .deliverRest =>
    match run.loop.state with
    | .running => run.takeBatch false
    | _ => run.leave (.ok none)

/-- A hook is called; a thread that does not own the loop is turned away. -/
def enter (program : Program ε τ) (entry : Entry) (run : LoopRun ε τ) : LoopRun ε τ :=
  match entry.thread? with
  | none => run.beginHook program entry
  | some thread =>
    match run.loop.enter thread with
    | .error panic => run.leave (.error panic)
    | .ok loop => { run with loop }.beginHook program entry

/-! ### Schedules -/

/-- One move. A hook is called between two hooks only. -/
def step (program : Program ε τ) (run : LoopRun ε τ) : Move τ → LoopRun ε τ
  | .submit task => run.submit task
  | .report notices => { run with loop := run.loop.report notices }
  | .enter entry =>
    match run.stage with
    | .idle => run.enter program entry
    | _ => run
  | .proceed =>
    match run.owed with
    | use :: owed => { run with owed }.useQueue program use
    | [] => run.next program

/-- The moves of a schedule, in order. -/
def play (program : Program ε τ) (moves : List (Move τ)) (run : LoopRun ε τ) : LoopRun ε τ :=
  moves.foldl (step program) run

/-! ### What a step leaves alone -/

@[simp] theorem note_frame (happening : Happening τ) (run : LoopRun ε τ) :
    (run.note happening).loop = run.loop ∧ (run.note happening).stage = run.stage ∧
      (run.note happening).owed = run.owed ∧
      (run.note happening).history = run.history ++ [happening] :=
  ⟨rfl, rfl, rfl, rfl⟩

@[simp] theorem leave_frame (answer : Entry.Answer) (run : LoopRun ε τ) :
    (run.leave answer).loop = run.loop ∧ (run.leave answer).stage = .idle ∧
      (run.leave answer).owed = run.owed ∧
      (run.leave answer).history = run.history ++ [.returned answer] :=
  ⟨rfl, rfl, rfl, rfl⟩

@[simp] theorem call_frame (made : EngineCall) (reaction : Reaction ε τ α) (run : LoopRun ε τ) :
    (run.call made reaction).loop = run.loop.inRoom (·.hear made reaction) ∧
      (run.call made reaction).stage = run.stage ∧ (run.call made reaction).owed = reaction.uses ∧
      (run.call made reaction).history = run.history :=
  ⟨rfl, rfl, rfl, rfl⟩

/-- A submission is accepted by an open queue only. -/
@[simp] theorem submission_eq (task : Task τ) (run : LoopRun ε τ) :
    run.submission task = if run.loop.queue.closed then .refused task else .accepted task := by
  cases closed : run.loop.queue.closed <;> simp [submission, closed]

/-- Submissions are accepted by an open queue only. -/
theorem accepted_submissions (offered : List (Task τ)) (run : LoopRun ε τ) :
    accepted (offered.map run.submission) = if run.loop.queue.closed then [] else offered := by
  induction offered with
  | nil => simp [accepted]
  | cons task offered ih =>
    rw [List.map_cons, ← List.singleton_append, accepted_append, ih, submission_eq]
    cases run.loop.queue.closed <;> simp

theorem begun_submissions (offered : List (Task τ)) (run : LoopRun ε τ) :
    begun (offered.map run.submission) = [] := by
  refine List.filterMap_eq_nil_iff.mpr fun happening member => ?_
  obtain ⟨task, -, rfl⟩ := List.mem_map.mp member
  rw [submission_eq]
  split <;> rfl

theorem replies_submissions (offered : List (Task τ)) (run : LoopRun ε τ) :
    replies (offered.map run.submission) = [] := by
  refine List.filterMap_eq_nil_iff.mpr fun happening member => ?_
  obtain ⟨task, -, rfl⟩ := List.mem_map.mp member
  rw [submission_eq]
  split <;> rfl

/-- The end of a loop: the queue is closed and empty, and an engine with a session is shut down. -/
@[simp] theorem beginClose_frame (program : Program ε τ) (notices : List Notice)
    (answer : Entry.Answer) (run : LoopRun ε τ) :
    (run.beginClose program notices answer).loop.session = run.loop.session ∧
      (run.beginClose program notices answer).loop.queue = ⟨[], true⟩ ∧
      callsOf (run.beginClose program notices answer).loop.journal = callsOf run.loop.journal ++
        (if run.loop.session.initialized then [.shutdown] else []) ∧
      finishesOf (run.beginClose program notices answer).loop.journal =
        finishesOf run.loop.journal ∧
      (run.beginClose program notices answer).loop.state = run.loop.state ∧
      (run.beginClose program notices answer).loop.config = run.loop.config ∧
      (run.beginClose program notices answer).loop.frames = run.loop.frames ∧
      (run.beginClose program notices answer).loop.finishes = run.loop.finishes ∧
      (run.beginClose program notices answer).stage = .closing answer ∧
      (run.beginClose program notices answer).history = run.history ++ [.closed] := by
  cases begun : run.loop.session.initialized <;> simp [beginClose, begun]

/-- Something was done to the loop from outside: tasks were offered to its queue. -/
def offer (offered : List (Task τ)) (loop : FrameLoop ε τ) (run : LoopRun ε τ) : LoopRun ε τ :=
  { run with loop, history := run.history ++ offered.map run.submission }

theorem report_eq_offer (notices : List Notice) (run : LoopRun ε τ) :
    { run with loop := run.loop.report notices } = run.offer [] (run.loop.report notices) := by
  simp [offer]

theorem useQueue_eq_offer (program : Program ε τ) (use : QueueUse τ) (run : LoopRun ε τ) :
    run.useQueue program use =
      run.offer (use.task? program).toList (run.loop.inRoom (·.use program use)) := by
  cases use <;> rfl

/-- A hook turns a thread away, or it begins and no more than the owner of the loop has changed. -/
theorem enter_induction {program : Program ε τ} {entry : Entry} {run : LoopRun ε τ}
    {P : LoopRun ε τ → Prop} (turnedAway : ∀ panic, P (run.leave (.error panic)))
    (inside : ∀ owner, P ({ run with loop := { run.loop with owner } }.beginHook program entry)) :
    P (run.enter program entry) := by
  unfold enter
  split
  · exact inside run.loop.owner
  · split
    · exact turnedAway _
    · rename_i loop entered
      rw [FrameLoop.eq_of_enter entered]
      exact inside _

/-- All that one move can do: nothing, something from outside, the call of a hook, or the next step of
the loop's thread. -/
theorem step_induction {program : Program ε τ} {run : LoopRun ε τ} {move : Move τ}
    {P : LoopRun ε τ → Prop} (stays : P run)
    (outside : ∀ owed offered loop, run.loop.Offered offered loop →
      (∀ task ∈ offered, move = .submit task ∨ ∃ job, task = program.task job) →
      P ({ run with owed }.offer offered loop))
    (enters : ∀ entry, run.stage = .idle → P (run.enter program entry))
    (proceeds : P (run.next program)) : P (run.step program move) := by
  cases move with
  | submit task =>
    refine outside run.owed [task] _ (.submit task run.loop) fun other member => ?_
    exact Or.inl (congrArg Move.submit (List.mem_singleton.mp member).symm)
  | report notices =>
    rw [step, report_eq_offer]
    exact outside run.owed [] _ (.report notices run.loop) (List.forall_mem_nil _)
  | enter entry =>
    simp only [step]
    split
    · rename_i idle
      exact enters entry idle
    · exact stays
  | proceed =>
    simp only [step]
    split
    · rename_i use owed _
      rw [useQueue_eq_offer]
      refine outside owed _ _ (.use program use run.loop) fun task member => ?_
      cases use with
      | submit job => exact Or.inr ⟨job, List.mem_singleton.mp member⟩
      | look => cases member
    · exact proceeds

/-- What holds at the start of a schedule and is kept by every move of it holds at its end. -/
theorem play_induction {program : Program ε τ} {P : LoopRun ε τ → Prop} {moves : List (Move τ)}
    {run : LoopRun ε τ} (start : P run)
    (kept : ∀ run, P run → ∀ move ∈ moves, P (run.step program move)) :
    P (run.play program moves) := by
  induction moves generalizing run with
  | nil => exact start
  | cons move moves ih =>
    refine ih (kept run start move List.mem_cons_self) fun run holds other member => ?_
    exact kept run holds other (List.mem_cons_of_mem move member)

/-! ### Where tasks come from -/

/-- The tasks that are under way or wait. -/
def tasks (run : LoopRun ε τ) : List (Task τ) := run.stage.tasks ++ run.loop.queue.tasks

theorem tasks_offer_subset {offered : List (Task τ)} {loop : FrameLoop ε τ} {run : LoopRun ε τ}
    (outside : run.loop.Offered offered loop) :
    (run.offer offered loop).tasks ⊆ run.tasks ++ offered := by
  intro task member
  rw [tasks, List.append_assoc]
  rcases List.mem_append.mp member with running | waiting
  · exact List.mem_append_left _ running
  · rw [offer, outside.tasks] at waiting
    split at waiting
    · exact List.mem_append_right _ (List.mem_append_left _ waiting)
    · exact List.mem_append_right _ waiting

theorem tasks_judge_subset {pass : Pass} {task : Task τ} {rest : List (Task τ)} {run : LoopRun ε τ}
    (stage : run.stage = .running pass task [] rest) :
    (run.judge pass task rest).tasks ⊆ run.tasks := by
  simp only [tasks, stage, Stage.tasks, judge]
  cases run.loop.verdict pass.inSession task <;> simp [follow]

theorem tasks_next_subset (program : Program ε τ) (run : LoopRun ε τ) :
    (run.next program).tasks ⊆ run.tasks := by
  cases stage : run.stage with
  | idle => simp [tasks, next, stage]
  | configured => simp [tasks, next, stage, Stage.tasks]
  | started reply => cases reply <;> simp [tasks, next, stage, answerStart, Stage.tasks,
      Queue.reopen]
  | notified => simp [tasks, next, stage, Stage.tasks]
  | choosing pass batch =>
    cases batch with
    | nil =>
      cases inSession : run.loop.session.initialized <;> cases drawing : pass.drawing <;>
        simp [tasks, next, stage, finishPass, Stage.tasks, inSession, drawing]
    | cons task rest => simp [tasks, next, stage, Stage.tasks]
  | running pass task acts rest =>
    cases acts with
    | cons act acts =>
      cases act <;> simp [tasks, next, stage, perform, Stage.tasks, EngineRoom.perform]
    | nil => simpa only [next, stage] using tasks_judge_subset stage
  | failing pass failure => simp [tasks, next, stage, Stage.tasks]
  | drawn outcome => cases outcome <;> simp [tasks, next, stage, answerFrame, Stage.tasks]
  | closing answer => simp [tasks, next, stage, Stage.tasks]

theorem tasks_beginHook_subset (program : Program ε τ) (entry : Entry) {run : LoopRun ε τ}
    (idle : run.stage = .idle) : (run.beginHook program entry).tasks ⊆ run.tasks := by
  cases entry <;> cases state : run.loop.state <;>
    simp [tasks, beginHook, state, idle, Stage.tasks, takeBatch, Queue.take]

theorem tasks_enter_subset (program : Program ε τ) (entry : Entry) {run : LoopRun ε τ}
    (idle : run.stage = .idle) : (run.enter program entry).tasks ⊆ run.tasks := by
  refine enter_induction (P := fun after => after.tasks ⊆ run.tasks) (fun panic => ?_) fun owner => ?_
  · simp [tasks, idle, Stage.tasks]
  · exact tasks_beginHook_subset program entry idle

/-- Tasks come from submissions and from the jobs of the program only: what holds of all these holds of
every task that is ever under way. -/
theorem forall_tasks_step {P : Task τ → Prop} {program : Program ε τ} {run : LoopRun ε τ}
    {move : Move τ} (jobs : ∀ job, P (program.task job))
    (submitted : ∀ task, move = .submit task → P task) (all : ∀ task ∈ run.tasks, P task) :
    ∀ task ∈ (run.step program move).tasks, P task := by
  refine step_induction (P := fun after => ∀ task ∈ after.tasks, P task) all ?_ ?_ ?_
  · intro owed offered loop outside source task member
    rcases List.mem_append.mp (tasks_offer_subset outside member) with old | new
    · exact all task old
    · rcases source task new with its | ⟨job, rfl⟩
      · exact submitted task its
      · exact jobs job
  · exact fun entry idle task member => all task (tasks_enter_subset program entry idle member)
  · exact fun task member => all task (tasks_next_subset program run member)

/-- What is kept by every move that finds only such tasks under way is kept by every schedule that submits only
such tasks. -/
theorem play_induction_of_tasks {P : LoopRun ε τ → Prop} {Q : Task τ → Prop} {program : Program ε τ}
    {moves : List (Move τ)} {run : LoopRun ε τ} (jobs : ∀ job, Q (program.task job))
    (submitted : ∀ task, .submit task ∈ moves → Q task) (all : ∀ task ∈ run.tasks, Q task)
    (start : P run)
    (kept : ∀ run, P run → (∀ task ∈ run.tasks, Q task) → ∀ move, P (run.step program move)) :
    P (run.play program moves) ∧ ∀ task ∈ (run.play program moves).tasks, Q task := by
  refine play_induction (P := fun run => P run ∧ ∀ task ∈ run.tasks, Q task) ⟨start, all⟩ ?_
  rintro run ⟨holds, all⟩ move member
  refine ⟨kept run holds all move, forall_tasks_step jobs ?_ all⟩
  rintro task rfl
  exact submitted task member

end LoopRun

end EngineHost
