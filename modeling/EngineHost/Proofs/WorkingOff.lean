/-
**A batch is worked off, task by task.**

What a hook does from the moment it takes what waits to its return, while other threads go on
submitting.

* `Task.stops`: behind which tasks a batch does not go on;
* `Program.after`: the engine after a list of calls;
* `PassProgress`, `PassProgress.Stands`: how far the hook is, and where its thread stands then;
* `LoopRun.Underway`: the run of such a hook, with `LoopRun.underway_enter` for the call of the hook,
  `LoopRun.Underway.step` for one move and `LoopRun.Underway.play` for a schedule.

Nothing is assumed about the tasks: they may submit tasks, fail, panic and end the session.
-/

import EngineHost.Proofs.Independence
import EngineHost.Proofs.Relay

namespace EngineHost

variable {ε τ α : Type}

/-! ### Hooks that deliver what waits -/

/-- Whether a hook delivers what waits and, if so, whether a frame follows. -/
def Entry.delivers? : Entry → Option Bool
  | .drawFrame _ => some true
  | .deliverRest => some false
  | .surfaceCreated _ | .surfaceChanged _ _ _ => none

/-! ### Where a batch stops -/

/-- Whether an act ends the session. -/
@[simp] def Act.endsSession : Act τ → Bool
  | .endSession => true
  | .notify _ | .shutdown | .lookAtSession | .queue _ => false

/-- Whether a task ends the session. -/
def Task.endsSession (task : Task τ) : Bool := task.acts.any Act.endsSession

/-- Whether a batch of a session does not go on behind a task: the task is not done at its end, or it
ends the session. -/
def Task.stops (task : Task τ) : Bool := task.ending != .done || task.endsSession

theorem Task.stops_eq_false {task : Task τ} :
    task.stops = false ↔ task.ending = .done ∧ task.endsSession = false := by
  simp [stops]

theorem Task.stops_of_ending {task : Task τ} {ending : TaskEnd} (ends : task.ending = ending)
    (undone : ending ≠ .done) : task.stops = true := by
  simp [stops, ends, undone]

theorem Task.stops_of_endsSession {task : Task τ} (ends : task.endsSession = true) :
    task.stops = true := by
  simp [stops, ends]

/-! ### The engine after its calls -/

/-- The engine after a call. -/
def Program.react (program : Program ε τ) (engine : ε) : EngineCall → ε
  | .configure dataPath archivePath => (program.configure engine dataPath archivePath).engine
  | .init args => (program.init engine args).engine
  | .render => (program.render engine).engine
  | .shutdown => (program.shutdown engine).engine
  | .notify notification => (program.notify engine notification).engine

/-- The engine after some calls, in order. -/
def Program.after (program : Program ε τ) (engine : ε) (calls : List EngineCall) : ε :=
  calls.foldl program.react engine

@[simp] theorem Program.after_nil (program : Program ε τ) (engine : ε) : program.after engine [] = engine :=
  rfl

@[simp] theorem Program.after_append (program : Program ε τ) (engine : ε)
    (earlier later : List EngineCall) :
    program.after engine (earlier ++ later) = program.after (program.after engine earlier) later :=
  List.foldl_append

@[simp] theorem Program.after_singleton (program : Program ε τ) (engine : ε) (call : EngineCall) :
    program.after engine [call] = program.react engine call :=
  rfl

/-! ### What hooks answer -/

/-- What a hook answered. -/
@[simp] def Happening.answer? : Happening τ → Option Entry.Answer
  | .returned answer => some answer
  | _ => none

/-- What the hooks answered, in order. -/
def answers (history : List (Happening τ)) : List Entry.Answer := history.filterMap Happening.answer?

@[simp] theorem answers_nil : answers ([] : List (Happening τ)) = [] := rfl

@[simp] theorem answers_append (earlier later : List (Happening τ)) :
    answers (earlier ++ later) = answers earlier ++ answers later :=
  List.filterMap_append

@[simp] theorem answers_singleton (happening : Happening τ) :
    answers [happening] = happening.answer?.toList := by
  cases happening <;> rfl

theorem LoopRun.answers_submissions (offered : List (Task τ)) (run : LoopRun ε τ) :
    answers (offered.map run.submission) = [] := by
  refine List.filterMap_eq_nil_iff.mpr fun happening member => ?_
  obtain ⟨task, -, rfl⟩ := List.mem_map.mp member
  rw [submission_eq]
  split <;> rfl

/-! ### How far a hook is -/

/-- How far a hook is that works off a batch. -/
structure PassProgress (τ : Type) where
  /-- The tasks of the batch that were begun. -/
  ran : List (Task τ)
  /-- The calls that were made. -/
  made : List EngineCall
  /-- Whether the session goes on. -/
  inSession : Bool := true
  /-- The tasks of the batch that are back in the queue; none once the queue is closed. -/
  back : Option (List (Task τ)) := some []
  /-- What the hook answered, once it has returned. -/
  answered : List Entry.Answer := []

/-- What waits: the tasks that are back, in front of those that arrived meanwhile. -/
def PassProgress.waiting (progress : PassProgress τ) (arrived : List (Task τ)) : List (Task τ) :=
  match progress.back with
  | some back => back ++ arrived
  | none => []

/-- Where the thread of a hook stands, by how far it is with a batch that it took in a session. The batch
goes on behind each task of `first`. -/
inductive PassProgress.Stands (program : Program ε τ) (engine : ε) (batch : List (Task τ))
    (drawing : Bool) : PassProgress τ → LoopState → Stage τ → Prop
  | choosing {first rest : List (Task τ)} (whole : batch = first ++ rest)
      (goesOn : ∀ task ∈ first, task.stops = false) :
      Stands program engine batch drawing { ran := first, made := first.flatMap Task.calls } .running
        (.choosing ⟨drawing, true, first.length⟩ rest)
  | running {first rest : List (Task τ)} {task : Task τ} {done ahead : List (Act τ)}
      (whole : batch = first ++ task :: rest) (goesOn : ∀ task ∈ first, task.stops = false)
      (acts : task.acts = done ++ ahead) :
      Stands program engine batch drawing
        { ran := first ++ [task]
          made := first.flatMap Task.calls ++ done.filterMap Act.call?
          inSession := !done.any Act.endsSession } .running
        (.running ⟨drawing, true, first.length⟩ task ahead rest)
  -- The session is over, and the rest of the batch is back in the queue.
  | left {first rest : List (Task τ)} {task : Task τ} {ran : Nat}
      (whole : batch = first ++ task :: rest) (goesOn : ∀ task ∈ first, task.stops = false)
      (ending : task.ending = .done) (ends : task.endsSession = true) :
      Stands program engine batch drawing
        { ran := first ++ [task]
          made := (first ++ [task]).flatMap Task.calls
          inSession := false
          back := some rest } .running
        (.choosing ⟨drawing, true, ran⟩ [])
  | failing {first rest : List (Task τ)} {task : Task τ} {failure : EngineFailure}
      (whole : batch = first ++ task :: rest) (goesOn : ∀ task ∈ first, task.stops = false)
      (ending : task.ending = .failed failure) :
      Stands program engine batch drawing
        { ran := first ++ [task]
          made := (first ++ [task]).flatMap Task.calls
          inSession := !task.endsSession } .running
        (.failing ⟨drawing, true, first.length⟩ failure)
  | drawn (goesOn : ∀ task ∈ batch, task.stops = false) (draws : drawing = true) :
      Stands program engine batch drawing
        { ran := batch, made := batch.flatMap Task.calls ++ [.render] } .running
        (.drawn (program.render (program.after engine (batch.flatMap Task.calls))).reply)
  | stopping (goesOn : ∀ task ∈ batch, task.stops = false) (draws : drawing = true)
      (reply : (program.render (program.after engine (batch.flatMap Task.calls))).reply = .stop) :
      Stands program engine batch drawing
        { ran := batch
          made := batch.flatMap Task.calls ++ [.render, .shutdown]
          back := none } .running
        (.closing (.ok (some .stop)))
  | aborting {first rest : List (Task τ)} {task : Task τ} {failure : EngineFailure}
      (whole : batch = first ++ task :: rest) (goesOn : ∀ task ∈ first, task.stops = false)
      (ending : task.ending = .failed failure) :
      Stands program engine batch drawing
        { ran := first ++ [task]
          made := (first ++ [task]).flatMap Task.calls ++
            if task.endsSession then [] else [.shutdown]
          inSession := !task.endsSession
          back := none } .running
        (.closing (.ok (if drawing then some .stop else none)))
  -- The hook has returned.
  | delivered (goesOn : ∀ task ∈ batch, task.stops = false) (rests : drawing = false) :
      Stands program engine batch drawing
        { ran := batch, made := batch.flatMap Task.calls, answered := [.ok none] } .running .idle
  | drew (goesOn : ∀ task ∈ batch, task.stops = false) (draws : drawing = true)
      (reply : (program.render (program.after engine (batch.flatMap Task.calls))).reply = .proceed) :
      Stands program engine batch drawing
        { ran := batch
          made := batch.flatMap Task.calls ++ [.render]
          answered := [.ok (some .proceed)] } .running .idle
  | stopped (goesOn : ∀ task ∈ batch, task.stops = false) (draws : drawing = true)
      (reply : (program.render (program.after engine (batch.flatMap Task.calls))).reply = .stop) :
      Stands program engine batch drawing
        { ran := batch
          made := batch.flatMap Task.calls ++ [.render, .shutdown]
          inSession := false
          back := none
          answered := [.ok (some .stop)] } .terminated .idle
  | ended {first rest : List (Task τ)} {task : Task τ}
      (whole : batch = first ++ task :: rest) (goesOn : ∀ task ∈ first, task.stops = false)
      (ending : task.ending = .done) (ends : task.endsSession = true) :
      Stands program engine batch drawing
        { ran := first ++ [task]
          made := (first ++ [task]).flatMap Task.calls
          inSession := false
          back := some rest
          answered := [.ok (if drawing then some .proceed else none)] } .uninitialized .idle
  | failed {first rest : List (Task τ)} {task : Task τ} {failure : EngineFailure}
      (whole : batch = first ++ task :: rest) (goesOn : ∀ task ∈ first, task.stops = false)
      (ending : task.ending = .failed failure) :
      Stands program engine batch drawing
        { ran := first ++ [task]
          made := (first ++ [task]).flatMap Task.calls ++
            if task.endsSession then [] else [.shutdown]
          inSession := false
          back := none
          answered := [.ok (if drawing then some .stop else none)] } .terminated .idle
  | panicked {first rest : List (Task τ)} {task : Task τ} {text : String}
      (whole : batch = first ++ task :: rest) (goesOn : ∀ task ∈ first, task.stops = false)
      (ending : task.ending = .panicked text) :
      Stands program engine batch drawing
        { ran := first ++ [task]
          made := (first ++ [task]).flatMap Task.calls
          inSession := !task.endsSession
          answered := [.error (.raised text)] } .running .idle

namespace LoopRun

/-- A hook works off the batch that it found in a session, while other threads submit. -/
structure Underway (program : Program ε τ) (before : LoopRun ε τ) (drawing : Bool)
    (progress : PassProgress τ) (run : LoopRun ε τ) : Prop where
  ran : begun run.history = begun before.history ++ progress.ran
  answered : answers run.history = answers before.history ++ progress.answered
  calls : callsOf run.loop.journal = callsOf before.loop.journal ++ progress.made
  engine : run.loop.engine = program.after before.loop.engine progress.made
  session : run.loop.session.initialized = progress.inSession
  closed : run.loop.queue.closed = (before.loop.queue.closed || progress.back.isNone)
  waits : ∃ arrived, accepted run.history = accepted before.history ++ arrived ∧
    run.loop.queue.tasks = progress.waiting arrived
  stands : progress.Stands program before.loop.engine before.loop.queue.tasks drawing run.loop.state
    run.stage

namespace Underway

variable {program : Program ε τ} {before run after : LoopRun ε τ} {drawing : Bool}
  {progress later : PassProgress τ}

/-- Tasks are offered to the queue. -/
theorem offer (holds : Underway program before drawing progress run) {offered : List (Task τ)}
    {loop : FrameLoop ε τ} (outside : run.loop.Offered offered loop)
    (engine : loop.engine = run.loop.engine) :
    Underway program before drawing progress (run.offer offered loop) where
  ran := by
    simp only [LoopRun.offer, begun_append, begun_submissions, List.append_nil]
    exact holds.ran
  answered := by
    simp only [LoopRun.offer, answers_append, answers_submissions, List.append_nil]
    exact holds.answered
  calls := outside.calls.trans holds.calls
  engine := engine.trans holds.engine
  session := by
    simp only [LoopRun.offer, outside.session]
    exact holds.session
  closed := outside.closed.trans holds.closed
  waits := by
    obtain ⟨arrived, accepts, waits⟩ := holds.waits
    simp only [LoopRun.offer, accepted_append, accepted_submissions, outside.tasks]
    by_cases closed : run.loop.queue.closed = true
    · exact ⟨arrived, by simp [closed, accepts], by simp [closed, waits]⟩
    · have isOpen : run.loop.queue.closed = false := Bool.eq_false_iff.mpr closed
      refine ⟨arrived ++ offered, by simp [isOpen, accepts], ?_⟩
      -- An open queue was not closed by the hook: what arrives waits behind what is back.
      cases back : progress.back with
      | none => simp [holds.closed, back] at isOpen
      | some rest => simp [isOpen, waits, PassProgress.waiting, back]
  stands := by
    simp only [LoopRun.offer, outside.state]
    exact holds.stands

/-- The hook goes on: the tasks that it begins, the calls that it makes and what it answers are added. -/
theorem advance (holds : Underway program before drawing progress run)
    (stands : later.Stands program before.loop.engine before.loop.queue.tasks drawing after.loop.state
      after.stage)
    (events : List (Happening τ)) (made : List EngineCall) (history : after.history = run.history ++ events)
    (accepts : accepted events = []) (ran : later.ran = progress.ran ++ begun events)
    (answered : later.answered = progress.answered ++ answers events)
    (calls : callsOf after.loop.journal = callsOf run.loop.journal ++ made)
    (grows : later.made = progress.made ++ made)
    (engine : after.loop.engine = program.after run.loop.engine made)
    (session : after.loop.session.initialized = later.inSession)
    (closed : after.loop.queue.closed = (before.loop.queue.closed || later.back.isNone))
    (waits : ∀ arrived, run.loop.queue.tasks = progress.waiting arrived →
      after.loop.queue.tasks = later.waiting arrived) : Underway program before drawing later after where
  ran := by rw [history, begun_append, holds.ran, ran, List.append_assoc]
  answered := by rw [history, answers_append, holds.answered, answered, List.append_assoc]
  calls := by rw [calls, holds.calls, grows, List.append_assoc]
  engine := by rw [engine, holds.engine, grows, Program.after_append]
  session := session
  closed := closed
  waits := by
    obtain ⟨arrived, all, those⟩ := holds.waits
    refine ⟨arrived, ?_, waits arrived those⟩
    rw [history, accepted_append, accepts, List.append_nil, all]
  stands := stands

/-- The engine is called. -/
theorem call (holds : Underway program before drawing progress run) {stage : Stage τ}
    (stands : later.Stands program before.loop.engine before.loop.queue.tasks drawing run.loop.state
      stage)
    (made : EngineCall) (reaction : Reaction ε τ α) (grows : later.made = progress.made ++ [made])
    (engine : reaction.engine = program.react run.loop.engine made) (ran : later.ran = progress.ran)
    (session : later.inSession = progress.inSession) (back : later.back = progress.back)
    (answered : later.answered = progress.answered) :
    Underway program before drawing later (LoopRun.call made reaction { run with stage }) := by
  refine holds.advance ?_ [] [made] (List.append_nil _).symm rfl ?_ ?_ ?_ grows ?_ ?_ ?_ ?_
  · simpa using stands
  · rw [ran, begun_nil, List.append_nil]
  · rw [answered, answers_nil, List.append_nil]
  · simp
  · simpa using engine
  · simpa [session] using holds.session
  · simpa [back] using holds.closed
  · simp [PassProgress.waiting, back]

/-- No call is made, and no task is begun or dropped. -/
theorem quiet (holds : Underway program before drawing progress run) {loop : FrameLoop ε τ}
    {stage : Stage τ}
    (stands : later.Stands program before.loop.engine before.loop.queue.tasks drawing loop.state stage)
    (ran : later.ran = progress.ran) (made : later.made = progress.made)
    (back : later.back = progress.back) (answered : later.answered = progress.answered)
    (calls : callsOf loop.journal = callsOf run.loop.journal) (engine : loop.engine = run.loop.engine)
    (session : loop.session.initialized = later.inSession) (queue : loop.queue = run.loop.queue) :
    Underway program before drawing later { run with loop, stage } := by
  refine holds.advance stands [] [] (List.append_nil _).symm rfl ?_ ?_ ?_ ?_ engine session ?_ ?_
  · rw [begun_nil, List.append_nil, ran]
  · rw [answers_nil, List.append_nil, answered]
  · rw [List.append_nil, calls]
  · rw [List.append_nil, made]
  · rw [queue, back, holds.closed]
  · intro arrived waits
    rw [queue, waits, PassProgress.waiting, PassProgress.waiting, back]

/-- The hook returns. -/
theorem leave (holds : Underway program before drawing progress run) (loop : FrameLoop ε τ)
    (stands : later.Stands program before.loop.engine before.loop.queue.tasks drawing loop.state .idle)
    (answer : Entry.Answer) (ran : later.ran = progress.ran) (made : later.made = progress.made)
    (back : later.back = progress.back) (answered : later.answered = progress.answered ++ [answer])
    (calls : callsOf loop.journal = callsOf run.loop.journal) (engine : loop.engine = run.loop.engine)
    (session : loop.session.initialized = later.inSession) (queue : loop.queue = run.loop.queue) :
    Underway program before drawing later (LoopRun.leave answer { run with loop }) := by
  refine holds.advance stands [.returned answer] [] rfl rfl ?_ answered ?_ ?_ engine session ?_ ?_
  · rw [ran, begun_singleton]
    exact (List.append_nil _).symm
  · rw [List.append_nil]
    exact calls
  · rw [List.append_nil, made]
  · show loop.queue.closed = _
    rw [queue, back, holds.closed]
  · intro arrived waits
    show loop.queue.tasks = _
    rw [queue, waits, PassProgress.waiting, PassProgress.waiting, back]

/-- The next act of a task. -/
theorem perform {first rest : List (Task τ)} {task : Task τ} {done ahead : List (Act τ)} {act : Act τ}
    (holds : Underway program before drawing
      { ran := first ++ [task]
        made := first.flatMap Task.calls ++ done.filterMap Act.call?
        inSession := !done.any Act.endsSession } run)
    (state : run.loop.state = .running) (whole : before.loop.queue.tasks = first ++ task :: rest)
    (goesOn : ∀ task ∈ first, task.stops = false) (acts : task.acts = done ++ act :: ahead) :
    Underway program before drawing
      { ran := first ++ [task]
        made := first.flatMap Task.calls ++ (done ++ [act]).filterMap Act.call?
        inSession := !(done ++ [act]).any Act.endsSession }
      (LoopRun.perform program act
        { run with stage := .running ⟨drawing, true, first.length⟩ task ahead rest }) := by
  have session := holds.session
  have stands : PassProgress.Stands program before.loop.engine before.loop.queue.tasks drawing
      { ran := first ++ [task]
        made := first.flatMap Task.calls ++ (done ++ [act]).filterMap Act.call?
        inSession := !(done ++ [act]).any Act.endsSession } run.loop.state
      (.running ⟨drawing, true, first.length⟩ task ahead rest) := by
    rw [state]
    exact .running whole goesOn (by rw [acts, List.append_assoc, List.singleton_append])
  cases act with
  | notify notification => exact holds.call stands _ _ (by simp) rfl rfl (by simp) rfl rfl
  | shutdown => exact holds.call stands _ _ (by simp) rfl rfl (by simp) rfl rfl
  | endSession =>
    refine holds.quiet stands rfl ?_ rfl rfl ?_ ?_ ?_ ?_
    · simp
    · simp [EngineRoom.perform]
    · simp [EngineRoom.perform]
    · simp [EngineRoom.perform]
    · simp [EngineRoom.perform]
  | lookAtSession =>
    refine holds.quiet stands rfl ?_ rfl rfl ?_ rfl ?_ rfl
    · simp
    · simp [EngineRoom.perform]
    · simpa [EngineRoom.perform] using session
  | queue use =>
    have owing : Underway program before drawing _ { run with owed := [use] } := { holds with }
    refine owing.quiet stands rfl ?_ rfl rfl rfl rfl ?_ rfl
    · simp
    · simpa using session

/-- The queue is closed, and the engine is shut down if its session goes on. -/
theorem close (holds : Underway program before drawing progress run) {answer : Entry.Answer}
    (stands : later.Stands program before.loop.engine before.loop.queue.tasks drawing run.loop.state
      (.closing answer))
    (notices : List Notice) (ran : later.ran = progress.ran)
    (made : later.made = progress.made ++ if progress.inSession then [.shutdown] else [])
    (session : later.inSession = progress.inSession) (back : later.back = none)
    (answered : later.answered = progress.answered) :
    Underway program before drawing later (run.beginClose program notices answer) := by
  refine holds.advance ?_ [.closed] _ ?_ rfl ?_ ?_ ?_ made ?_ ?_ ?_ ?_
  · simpa using stands
  · simp
  · simpa using ran
  · simpa using answered
  · simp [holds.session]
  · rw [← holds.session]
    cases begun : run.loop.session.initialized <;> simp [LoopRun.beginClose, begun, Program.react]
  · simp [session, holds.session]
  · simp [back]
  · simp [PassProgress.waiting, back]

/-- What follows the end of a task. -/
theorem judge {first rest : List (Task τ)} {task : Task τ}
    (holds : Underway program before drawing
      { ran := first ++ [task]
        made := (first ++ [task]).flatMap Task.calls
        inSession := !task.endsSession } run)
    (state : run.loop.state = .running) (whole : before.loop.queue.tasks = first ++ task :: rest)
    (goesOn : ∀ task ∈ first, task.stops = false) :
    ∃ later, Underway program before drawing later
      (run.judge ⟨drawing, true, first.length⟩ task rest) := by
  have session : run.loop.session.initialized = !task.endsSession := holds.session
  simp only [LoopRun.judge, EngineRoom.verdict, session, Bool.not_not, Bool.true_and]
  cases ending : task.ending with
  | done =>
    cases ends : task.endsSession with
    | false =>
      have goesOnBehind : ∀ other ∈ first ++ [task], other.stops = false := by
        rintro other member
        rcases List.mem_append.mp member with old | new
        · exact goesOn other old
        · rw [List.mem_singleton.mp new]
          exact Task.stops_eq_false.mpr ⟨ending, ends⟩
      have stands : PassProgress.Stands program before.loop.engine before.loop.queue.tasks drawing _
          .running (.choosing ⟨drawing, true, (first ++ [task]).length⟩ rest) :=
        .choosing (by rw [whole, List.append_assoc]; rfl) goesOnBehind
      rw [List.length_append, ← state] at stands
      exact ⟨_, holds.quiet stands rfl rfl rfl rfl rfl rfl (by rw [session, ends]; rfl) rfl⟩
    | true =>
      have stands : PassProgress.Stands program before.loop.engine before.loop.queue.tasks drawing _
          .running (.choosing ⟨drawing, true, first.length + 1⟩ []) := .left whole goesOn ending ends
      rw [← state] at stands
      refine ⟨_, holds.advance stands [] [] (List.append_nil _).symm rfl (List.append_nil _).symm
        (List.append_nil _).symm ?_ (List.append_nil _).symm ?_ ?_ ?_ ?_⟩
      · simp [follow]
      · simp [follow]
      · simp [follow, session, ends]
      · simpa [follow] using holds.closed
      · intro arrived waits
        simp [follow, waits, PassProgress.waiting]
  | failed failure =>
    have stands : PassProgress.Stands program before.loop.engine before.loop.queue.tasks drawing _
        .running (.failing ⟨drawing, true, first.length⟩ failure) := .failing whole goesOn ending
    rw [← state] at stands
    refine ⟨_, holds.advance stands [.failed failure] [] rfl rfl (List.append_nil _).symm
      (List.append_nil _).symm ?_ (List.append_nil _).symm ?_ ?_ ?_ ?_⟩
    · simp [follow]
    · simp [follow]
    · simpa [follow] using session
    · simpa [follow] using holds.closed
    · intro arrived waits
      simpa [follow] using waits
  | panicked text =>
    have stands : PassProgress.Stands program before.loop.engine before.loop.queue.tasks drawing _
        .running .idle := .panicked whole goesOn ending
    rw [← state] at stands
    exact ⟨_, holds.leave run.loop stands _ rfl rfl rfl rfl rfl rfl session rfl⟩

/-- What follows a batch that went on behind all its tasks: the frame, if one is due. -/
theorem finish (holds : Underway program before drawing
      { ran := before.loop.queue.tasks, made := before.loop.queue.tasks.flatMap Task.calls } run)
    (state : run.loop.state = .running) (goesOn : ∀ task ∈ before.loop.queue.tasks, task.stops = false)
    (ran : Nat) : ∃ later, Underway program before drawing later
      (run.finishPass program ⟨drawing, true, ran⟩) := by
  have session : run.loop.session.initialized = true := holds.session
  rw [LoopRun.finishPass, if_pos session]
  by_cases draws : drawing = true
  · rw [if_pos draws]
    have stands : PassProgress.Stands program before.loop.engine before.loop.queue.tasks drawing _ .running
        (.drawn _) := .drawn goesOn draws
    rw [← state, ← holds.engine] at stands
    exact ⟨_, holds.call stands _ _ rfl rfl rfl rfl rfl rfl⟩
  · rw [if_neg draws]
    have stands : PassProgress.Stands program before.loop.engine before.loop.queue.tasks drawing _ .running
        .idle := .delivered goesOn (Bool.eq_false_iff.mpr draws)
    rw [← state] at stands
    exact ⟨_, holds.leave run.loop stands _ rfl rfl rfl rfl rfl rfl session rfl⟩

/-- The next step of the loop's thread, by where it stands. -/
theorem next (holds : Underway program before drawing progress run) :
    ∃ later, Underway program before drawing later (run.next program) := by
  obtain ⟨loop, stage, owed, history⟩ := run
  have stands := holds.stands
  have session := holds.session
  generalize state : loop.state = loopState at stands
  cases stands with
  | choosing whole goesOn =>
    rename_i first rest
    cases rest with
    | nil =>
      rw [List.append_nil] at whole
      subst whole
      exact holds.finish state goesOn _
    | cons task rest =>
      have stands : PassProgress.Stands program before.loop.engine before.loop.queue.tasks drawing _
          .running (.running ⟨drawing, true, first.length⟩ task task.acts rest) :=
        .running whole goesOn (List.nil_append _).symm
      rw [← state] at stands
      refine ⟨_, holds.advance stands [.begun task] [] rfl rfl rfl rfl ?_ rfl rfl session holds.closed fun _ => id⟩
      exact (List.append_nil _).symm
  | running whole goesOn acts =>
    rename_i first rest task done ahead
    cases ahead with
    | cons act ahead => exact ⟨_, holds.perform state whole goesOn acts⟩
    | nil =>
      rw [List.append_nil] at acts
      subst acts
      have calls : (first ++ [task]).flatMap Task.calls =
          first.flatMap Task.calls ++ task.acts.filterMap Act.call? := by
        rw [List.flatMap_append, List.flatMap_singleton]
        rfl
      refine judge ?_ state whole goesOn
      rw [calls]
      exact holds
  | left whole goesOn ending ends =>
    rename_i first rest task ran
    have isOver : ¬ loop.session.initialized = true := by
      rw [session]
      exact Bool.false_ne_true
    have stands : PassProgress.Stands program before.loop.engine before.loop.queue.tasks drawing _
        .uninitialized .idle := .ended whole goesOn ending ends
    simp only [LoopRun.next, LoopRun.finishPass]
    rw [if_neg isOver]
    refine ⟨_, holds.leave loop.awaitSurface stands _ rfl rfl rfl rfl ?_ rfl session rfl⟩
    exact loop.awaitSurface_frame.2.2.1
  | failing whole goesOn ending =>
    rename_i first rest task failure
    have stands : PassProgress.Stands program before.loop.engine before.loop.queue.tasks drawing _
        .running (.closing _) := .aborting whole goesOn ending
    rw [← state] at stands
    refine ⟨_, holds.close stands _ rfl ?_ rfl rfl rfl⟩
    cases task.endsSession <;> rfl
  | drawn goesOn draws =>
    simp only [LoopRun.next]
    cases reply : (program.render
        (program.after before.loop.engine (before.loop.queue.tasks.flatMap Task.calls))).reply with
    | proceed =>
      have stands : PassProgress.Stands program before.loop.engine before.loop.queue.tasks drawing _
          .running .idle := .drew goesOn draws reply
      rw [← state] at stands
      rw [reply] at holds
      exact ⟨_, holds.leave loop.countFrame stands _ rfl rfl rfl rfl rfl rfl session rfl⟩
    | stop =>
      have stands : PassProgress.Stands program before.loop.engine before.loop.queue.tasks drawing _
          .running (.closing _) := .stopping goesOn draws reply
      rw [← state] at stands
      rw [reply] at holds
      have counted : Underway program before drawing _
        ⟨loop.countFrame, .drawn .stop, owed, history⟩ := { holds with }
      refine ⟨_, counted.close stands _ rfl ?_ rfl rfl rfl⟩
      rw [if_pos rfl, List.append_assoc]
      rfl
  | stopping goesOn draws reply =>
    have stands : PassProgress.Stands program before.loop.engine before.loop.queue.tasks drawing _
        .terminated .idle := .stopped goesOn draws reply
    obtain ⟨session, queue, calls, -⟩ := loop.conclude_frame
    refine ⟨_, holds.leave loop.conclude stands _ rfl rfl rfl rfl calls loop.conclude_engine ?_ queue⟩
    rw [session]
    rfl
  | aborting whole goesOn ending =>
    have stands : PassProgress.Stands program before.loop.engine before.loop.queue.tasks drawing _
        .terminated .idle := .failed whole goesOn ending
    obtain ⟨session, queue, calls, -⟩ := loop.conclude_frame
    refine ⟨_, holds.leave loop.conclude stands _ rfl rfl rfl rfl calls loop.conclude_engine ?_ queue⟩
    rw [session]
    rfl
  | delivered goesOn rests => exact ⟨_, holds⟩
  | drew goesOn draws reply => exact ⟨_, holds⟩
  | stopped goesOn draws reply => exact ⟨_, holds⟩
  | ended whole goesOn ending ends => exact ⟨_, holds⟩
  | failed whole goesOn ending => exact ⟨_, holds⟩
  | panicked whole goesOn ending => exact ⟨_, holds⟩

/-- One move that does not call a hook. -/
theorem step (holds : Underway program before drawing progress run) {move : Move τ}
    (inner : move.isEnter = false) : ∃ later, Underway program before drawing later (run.step program move) := by
  refine inner_induction (P := fun after => ∃ later, Underway program before drawing later after) inner ?_ ?_
  · intro owed offered loop outside engine
    have resumed : Underway program before drawing progress { run with owed } := { holds with }
    exact ⟨progress, resumed.offer outside engine⟩
  · exact fun _ _ => holds.next

/-- A schedule that calls no hook. -/
theorem play (holds : Underway program before drawing progress run) {moves : List (Move τ)}
    (inner : Inner moves) : ∃ later, Underway program before drawing later (run.play program moves) := by
  refine inner_play_induction (P := fun run => ∃ later, Underway program before drawing later run) inner ⟨_, holds⟩ ?_
  rintro run ⟨progress, holds⟩ move still
  exact holds.step still

end Underway

/-! ### From the call of the hook on -/

/-- A hook that delivers takes what waits, and begins to work it off. -/
theorem underway_enter (program : Program ε τ) {run : LoopRun ε τ} {entry : Entry} {drawing : Bool}
    (state : run.loop.state = .running) (inSession : run.loop.session.initialized = true)
    (delivers : entry.delivers? = some drawing) (admitted : run.loop.Admits entry) :
    Underway program run drawing { ran := [], made := [] } (run.enter program entry) := by
  obtain ⟨owner, entered⟩ := enter_admitted program admitted
  have taken : run.enter program entry =
      { run with loop := { run.loop with owner } }.takeBatch drawing := by
    rw [entered]
    cases entry with
    | drawFrame thread =>
      cases delivers
      simp only [beginHook, state]
    | deliverRest =>
      cases delivers
      simp only [beginHook, state]
    | surfaceCreated | surfaceChanged => cases delivers
  rw [taken]
  refine ⟨(List.append_nil _).symm, (List.append_nil _).symm, (List.append_nil _).symm, rfl, inSession,
    (Bool.or_false _).symm, ⟨[], (List.append_nil _).symm, rfl⟩, ?_⟩
  simp only [takeBatch, Queue.take, state, inSession]
  exact .choosing (List.nil_append _).symm (List.forall_mem_nil _)

end LoopRun

end EngineHost
