/-
**Tasks are delivered once and in order.**

* `Intact`: a history in which no task failed and the queue was not closed;
* `LoopRun.Conserved`: accepted tasks are begun, in hand or waiting, each exactly once and in order,
  with `LoopRun.Conserved.step` for one move;
* `LoopRun.Conserved.still`: what stands still after a close or a failure.
-/

import EngineHost.Proofs.Consistency

namespace EngineHost

variable {ε τ : Type}

/-- Whether tasks that were accepted may be dropped from then on: a task failed, or the queue was
closed. -/
@[simp] def Happening.isBreak : Happening τ → Bool
  | .failed _ | .closed => true
  | _ => false

/-- No task failed, and the queue was not closed. -/
def Intact (history : List (Happening τ)) : Prop := ∀ happening ∈ history, happening.isBreak = false

instance (history : List (Happening τ)) : Decidable (Intact history) :=
  inferInstanceAs (Decidable (∀ happening ∈ history, happening.isBreak = false))

@[simp] theorem intact_nil : Intact ([] : List (Happening τ)) := fun _ member => nomatch member

@[simp] theorem intact_append (earlier later : List (Happening τ)) :
    Intact (earlier ++ later) ↔ Intact earlier ∧ Intact later :=
  List.forall_mem_append

@[simp] theorem intact_singleton (happening : Happening τ) :
    Intact [happening] ↔ happening.isBreak = false :=
  List.forall_mem_singleton

/-- Whether a task of the pass failed. -/
@[simp] def Stage.hasFailed : Stage τ → Bool
  | .failing _ _ => true
  | _ => false

namespace LoopRun

theorem intact_submissions (offered : List (Task τ)) (run : LoopRun ε τ) :
    Intact (offered.map run.submission) := by
  refine List.forall_mem_map.mpr fun task _ => ?_
  rw [submission_eq]
  split <;> rfl

/-- Every accepted task was begun, is in hand or waits, in this order, as long as no task failed and the
queue was not closed; and always the tasks that were begun come first. -/
structure Conserved (run : LoopRun ε τ) : Prop where
  whole : Intact run.history →
    accepted run.history = begun run.history ++ (run.stage.inHand ++ run.loop.queue.tasks)
  ahead : begun run.history <+: accepted run.history
  intact : run.loop.queue.closed = false → run.stage.hasFailed = false → Intact run.history

theorem conserved_start (engine : ε) (config : Config) :
    Conserved (LoopRun.start engine config : LoopRun ε τ) := by
  constructor <;> simp [start, FrameLoop.create, accepted, begun, Stage.inHand]

namespace Conserved

variable {program : Program ε τ} {run after : LoopRun ε τ}

/-- Tasks are offered to the queue. -/
theorem offer (holds : run.Conserved) {offered : List (Task τ)} {loop : FrameLoop ε τ}
    (outside : run.loop.Offered offered loop) : (run.offer offered loop).Conserved := by
  obtain ⟨whole, ahead, intact⟩ := holds
  refine ⟨fun calm => ?_, ?_, fun isOpen goesOn => ?_⟩
  · simp only [LoopRun.offer, intact_append] at calm
    simp only [LoopRun.offer, outside.tasks, accepted_append, begun_append, accepted_submissions,
      begun_submissions, whole calm.1]
    cases run.loop.queue.closed <;> simp
  · simp only [LoopRun.offer, accepted_append, begun_append, begun_submissions, List.append_nil]
    exact ahead.trans (List.prefix_append _ _)
  · simp only [LoopRun.offer, intact_append]
    exact ⟨intact (outside.closed.symm.trans isOpen) goesOn, intact_submissions offered run⟩

/-- No task is accepted or begun, and none is dropped without a break. -/
theorem of_quiet (holds : run.Conserved) (events : List (Happening τ))
    (history : after.history = run.history ++ events) (accepts : accepted events = [])
    (begins : begun events = [])
    (waiting : Intact events → after.stage.inHand ++ after.loop.queue.tasks =
      run.stage.inHand ++ run.loop.queue.tasks)
    (intact : after.loop.queue.closed = false → after.stage.hasFailed = false →
      run.loop.queue.closed = false ∧ run.stage.hasFailed = false ∧ Intact events) :
    after.Conserved := by
  refine ⟨fun calm => ?_, ?_, fun isOpen goesOn => ?_⟩
  · rw [history, intact_append] at calm
    rw [history, accepted_append, begun_append, accepts, begins, List.append_nil, List.append_nil,
      waiting calm.2]
    exact holds.whole calm.1
  · rw [history, accepted_append, begun_append, accepts, begins, List.append_nil, List.append_nil]
    exact holds.ahead
  · obtain ⟨wasOpen, wentOn, calm⟩ := intact isOpen goesOn
    rw [history, intact_append]
    exact ⟨holds.intact wasOpen wentOn, calm⟩

/-- After the end of a loop there is nothing left to account for. -/
theorem beginClose (holds : run.Conserved) (notices : List Notice) (answer : Entry.Answer) :
    (run.beginClose program notices answer).Conserved := by
  refine holds.of_quiet [.closed] ?_ ?_ ?_ ?_ ?_ <;> simp

/-- A task of the batch in hand is begun. -/
theorem begin (holds : run.Conserved) {pass : Pass} {task : Task τ} {rest : List (Task τ)}
    (stage : run.stage = .choosing pass (task :: rest)) (isOpen : run.loop.queue.closed = false) :
    (note (.begun task) { run with stage := .running pass task task.acts rest }).Conserved := by
  have calm : Intact run.history := holds.intact isOpen (by rw [stage]; rfl)
  have whole := holds.whole calm
  rw [stage] at whole
  refine ⟨fun _ => ?_, ?_, fun _ _ => ?_⟩
  · simpa [Stage.inHand] using whole
  · refine ⟨rest ++ run.loop.queue.tasks, ?_⟩
    simpa [Stage.inHand] using whole.symm
  · simpa using calm

theorem judge (holds : run.Conserved) {pass : Pass} {task : Task τ} {rest : List (Task τ)}
    (stage : run.stage = .running pass task [] rest) (calm : task.Calm) :
    (run.judge pass task rest).Conserved := by
  have ⟨whole, ahead, intact⟩ := holds
  rw [stage] at whole intact
  unfold LoopRun.judge
  cases verdict : run.loop.verdict pass.inSession task with
  | goOn => exact ⟨whole, ahead, intact⟩
  | sessionOver =>
    -- The rest of the batch goes from the hand to the front of the queue.
    refine ⟨fun calm => ?_, ahead, ?_⟩
    · simpa [follow, Stage.inHand] using whole calm
    · simpa [follow] using intact
  | failed failure => refine holds.of_quiet [.failed failure] rfl ?_ ?_ ?_ ?_ <;> simp [follow]
  | panicked text =>
    simp only [EngineRoom.verdict] at verdict
    split at verdict
    · cases verdict
    · rename_i other ending
      exact absurd ending (calm other)
    · split at verdict <;> cases verdict

/-- The hook returns with nothing in hand. -/
theorem leave (holds : run.Conserved) {loop : FrameLoop ε τ} (answer : Entry.Answer)
    (tasks : loop.queue.tasks = run.loop.queue.tasks)
    (isOpen : loop.queue.closed = false → run.loop.queue.closed = false)
    (empty : run.stage.inHand = []) (goesOn : run.stage.hasFailed = false) :
    (LoopRun.leave answer { run with loop }).Conserved := by
  refine holds.of_quiet [.returned answer] rfl rfl rfl (fun _ => ?_) fun stillOpen _ => ?_
  · rw [empty]
    exact tasks
  · exact ⟨isOpen stillOpen, goesOn, (intact_singleton _).mpr rfl⟩

/-- The engine is called. -/
theorem call {α : Type} (holds : run.Conserved) {loop : FrameLoop ε τ} {stage : Stage τ}
    (made : EngineCall) (reaction : Reaction ε τ α) (queue : loop.queue = run.loop.queue)
    (inHand : stage.inHand = run.stage.inHand) (goesOn : run.stage.hasFailed = false) :
    (LoopRun.call made reaction { run with loop, stage }).Conserved := by
  refine holds.of_quiet [] (List.append_nil _).symm rfl rfl (fun _ => ?_) fun isOpen _ => ?_
  · simp [inHand, queue]
  · simp only [call_frame, FrameLoop.inRoom_frame, EngineRoom.hear_frame, queue] at isOpen
    exact ⟨isOpen, goesOn, intact_nil⟩

theorem finishPass (holds : run.Conserved) {pass : Pass} (stage : run.stage = .choosing pass []) :
    (run.finishPass program pass).Conserved := by
  have empty : run.stage.inHand = [] := by rw [stage]; rfl
  have goesOn : run.stage.hasFailed = false := by rw [stage]; rfl
  simp only [LoopRun.finishPass]
  split
  · split
    · exact holds.call _ _ rfl empty.symm goesOn
    · exact holds.leave _ rfl id empty goesOn
  · refine holds.leave _ ?_ ?_ empty goesOn <;> simp

theorem perform (holds : run.Conserved) {pass : Pass} {task : Task τ} {act : Act τ}
    {acts : List (Act τ)} {rest : List (Task τ)}
    (stage : run.stage = .running pass task (act :: acts) rest) :
    (LoopRun.perform program act { run with stage := .running pass task acts rest }).Conserved := by
  have inHand : (Stage.running pass task acts rest).inHand = run.stage.inHand := by rw [stage]; rfl
  have goesOn : run.stage.hasFailed = false := by rw [stage]; rfl
  cases act with
  | notify notification => exact holds.call _ _ rfl inHand goesOn
  | shutdown => exact holds.call _ _ rfl inHand goesOn
  | endSession =>
    refine holds.of_quiet [] (List.append_nil _).symm rfl rfl (fun _ => ?_) fun isOpen _ => ?_
    · simp [LoopRun.perform, EngineRoom.perform, inHand]
    · exact ⟨by simpa [LoopRun.perform, EngineRoom.perform] using isOpen, goesOn, intact_nil⟩
  | lookAtSession =>
    refine holds.of_quiet [] (List.append_nil _).symm rfl rfl (fun _ => ?_) fun isOpen _ => ?_
    · exact congrArg (· ++ _) inHand
    · exact ⟨isOpen, goesOn, intact_nil⟩
  | queue use =>
    refine holds.of_quiet [] (List.append_nil _).symm rfl rfl (fun _ => ?_) fun isOpen _ => ?_
    · exact congrArg (· ++ _) inHand
    · exact ⟨isOpen, goesOn, intact_nil⟩

/-- The next step of the loop's thread, stage by stage. -/
theorem next (holds : run.Conserved) (consistent : run.Consistent) (calm : run.Calm) :
    (run.next program).Conserved := by
  obtain ⟨loop, stage, owed, history⟩ := run
  have fits := consistent.fits
  cases stage with
  | idle => exact holds
  | configured =>
    let reaction := program.init loop.engine loop.config.launchArgs
    have started : (LoopRun.call (.init loop.config.launchArgs) reaction
        (⟨loop, .started reaction.reply, owed, history⟩ : LoopRun ε τ)).Conserved :=
      holds.call _ _ rfl rfl rfl
    refine started.of_quiet [.replied reaction.reply] rfl rfl rfl (fun _ => rfl) fun isOpen _ => ?_
    exact ⟨isOpen, rfl, (intact_singleton _).mpr rfl⟩
  | started reply =>
    cases reply with
    | ready =>
      refine holds.leave _ ?_ (fun _ => fits.2.2.1) rfl rfl
      simp [Queue.reopen]
    | failed failure => exact holds.beginClose _ _
    | panicked text => exact holds.leave _ rfl id rfl rfl
  | notified => exact holds.leave _ rfl id rfl rfl
  | choosing pass batch =>
    cases batch with
    | nil => exact holds.finishPass rfl
    | cons task rest => exact holds.begin rfl fits.2.2.2.1
  | running pass task acts rest =>
    cases acts with
    | cons act acts => exact holds.perform rfl
    | nil => exact holds.judge rfl (calm pass task rest rfl)
  | failing pass failure => exact holds.beginClose _ _
  | drawn outcome =>
    cases outcome with
    | proceed => exact holds.leave _ rfl id rfl rfl
    | stop =>
      have counted : Conserved (⟨loop.countFrame, .drawn .stop, owed, history⟩ : LoopRun ε τ) :=
        { holds with }
      exact counted.beginClose _ _
  | closing answer =>
    refine holds.leave _ ?_ ?_ rfl rfl <;> simp

theorem takeBatch (holds : run.Conserved) (idle : run.stage = .idle) (drawing : Bool) :
    (run.takeBatch drawing).Conserved := by
  refine holds.of_quiet [] (List.append_nil _).symm rfl rfl (fun _ => ?_) fun isOpen _ => ?_
  · rw [idle]
    simp [LoopRun.takeBatch, Queue.take, Stage.inHand]
  · exact ⟨isOpen, by rw [idle]; rfl, intact_nil⟩

theorem beginHook (holds : run.Conserved) (idle : run.stage = .idle) (entry : Entry) :
    (run.beginHook program entry).Conserved := by
  have empty : run.stage.inHand = [] := by rw [idle]; rfl
  have goesOn : run.stage.hasFailed = false := by rw [idle]; rfl
  cases entry with
  | surfaceCreated thread =>
    cases state : run.loop.state <;> simp only [LoopRun.beginHook, state]
    · exact holds.call _ _ (by simp) empty.symm goesOn
    · exact holds.leave _ rfl id empty goesOn
    · exact holds.call _ _ rfl empty.symm goesOn
    · exact holds.leave _ rfl id empty goesOn
  | surfaceChanged thread width height => exact holds.leave _ rfl id empty goesOn
  | drawFrame thread =>
    cases state : run.loop.state <;> simp only [LoopRun.beginHook, state]
    · exact holds.leave _ rfl id empty goesOn
    · exact holds.leave _ rfl id empty goesOn
    · exact holds.takeBatch idle true
    · exact holds.leave _ rfl id empty goesOn
  | deliverRest =>
    cases state : run.loop.state <;> simp only [LoopRun.beginHook, state]
    · exact holds.leave _ rfl id empty goesOn
    · exact holds.leave _ rfl id empty goesOn
    · exact holds.takeBatch idle false
    · exact holds.leave _ rfl id empty goesOn

theorem enter (holds : run.Conserved) (idle : run.stage = .idle) (entry : Entry) :
    (run.enter program entry).Conserved := by
  refine enter_induction (P := Conserved) (fun panic => ?_) fun owner => ?_
  · exact holds.leave _ rfl id (by rw [idle]; rfl) (by rw [idle]; rfl)
  · have entered : Conserved { run with loop := { run.loop with owner } } := { holds with }
    exact entered.beginHook idle entry

/-- One move keeps the account. -/
theorem step (holds : run.Conserved) (consistent : run.Consistent)
    (calm : ∀ task ∈ run.tasks, task.Calm) (move : Move τ) : (run.step program move).Conserved := by
  refine step_induction (P := Conserved) holds ?_ ?_ (holds.next consistent (calm_of_tasks calm))
  · intro owed offered loop outside _
    have resumed : Conserved { run with owed } := { holds with }
    exact resumed.offer outside
  · exact fun entry idle => holds.enter idle entry

end Conserved

/-! ### What stands still after a break -/

section Growth

variable (program : Program ε τ) {run : LoopRun ε τ}

/-- A step of the loop's thread accepts nothing, and begins a task of an intact history only. -/
theorem history_next (consistent : run.Consistent) (holds : run.Conserved) :
    ∃ events, (run.next program).history = run.history ++ events ∧ accepted events = [] ∧
      (¬ Intact run.history → begun events = []) := by
  obtain ⟨loop, stage, owed, history⟩ := run
  have fits := consistent.fits
  cases stage with
  | idle => exact ⟨[], (List.append_nil _).symm, rfl, fun _ => rfl⟩
  | configured => exact ⟨[.replied _], rfl, rfl, fun _ => rfl⟩
  | started reply =>
    cases reply with
    | ready => exact ⟨[.returned _], rfl, rfl, fun _ => rfl⟩
    | failed failure => exact ⟨[.closed], by simp [next, answerStart], rfl, fun _ => rfl⟩
    | panicked text => exact ⟨[.returned _], rfl, rfl, fun _ => rfl⟩
  | notified => exact ⟨[.returned _], rfl, rfl, fun _ => rfl⟩
  | choosing pass batch =>
    cases batch with
    | nil =>
      simp only [next, finishPass]
      split
      · split
        · exact ⟨[], (List.append_nil _).symm, rfl, fun _ => rfl⟩
        · exact ⟨[.returned _], rfl, rfl, fun _ => rfl⟩
      · exact ⟨[.returned _], rfl, rfl, fun _ => rfl⟩
    | cons task rest =>
      -- Between two tasks the queue is open, and no task of the pass failed.
      refine ⟨[.begun task], rfl, rfl, fun broken => ?_⟩
      exact absurd (holds.intact fits.2.2.2.1 rfl) broken
  | running pass task acts rest =>
    cases acts with
    | cons act acts => cases act <;> exact ⟨[], (List.append_nil _).symm, rfl, fun _ => rfl⟩
    | nil =>
      simp only [next, judge]
      cases loop.verdict pass.inSession task with
      | goOn => exact ⟨[], (List.append_nil _).symm, rfl, fun _ => rfl⟩
      | sessionOver => exact ⟨[], (List.append_nil _).symm, rfl, fun _ => rfl⟩
      | failed failure => exact ⟨[.failed failure], rfl, rfl, fun _ => rfl⟩
      | panicked text => exact ⟨[.returned _], rfl, rfl, fun _ => rfl⟩
  | failing pass failure => exact ⟨[.closed], by simp [next], rfl, fun _ => rfl⟩
  | drawn outcome =>
    cases outcome with
    | proceed => exact ⟨[.returned _], rfl, rfl, fun _ => rfl⟩
    | stop => exact ⟨[.closed], by simp [next, answerFrame], rfl, fun _ => rfl⟩
  | closing answer => exact ⟨[.returned _], rfl, rfl, fun _ => rfl⟩

/-- The call of a hook accepts and begins nothing. -/
theorem history_enter (run : LoopRun ε τ) (entry : Entry) :
    ∃ events, (run.enter program entry).history = run.history ++ events ∧ accepted events = [] ∧ begun events = [] := by
  refine enter_induction (P := fun after => ∃ events, after.history = run.history ++ events ∧
    accepted events = [] ∧ begun events = []) (fun panic => ?_) fun owner => ?_
  · exact ⟨[.returned _], rfl, rfl, rfl⟩
  · cases entry <;> cases state : run.loop.state <;> simp only [beginHook, state]
    all_goals first
      | exact ⟨[], (List.append_nil _).symm, rfl, rfl⟩
      | exact ⟨[.returned _], rfl, rfl, rfl⟩

/-- A move adds to the history. Behind a closed queue it accepts nothing, and after a break it begins
nothing. -/
theorem history_step (consistent : run.Consistent) (holds : run.Conserved) (move : Move τ) :
    ∃ events, (run.step program move).history = run.history ++ events ∧
      (run.loop.queue.closed = true → accepted events = []) ∧
      (¬ Intact run.history → begun events = []) := by
  refine step_induction (P := fun after => ∃ events, after.history = run.history ++ events ∧
    (run.loop.queue.closed = true → accepted events = []) ∧ (¬ Intact run.history → begun events = []))
    ?_ ?_ ?_ ?_
  · exact ⟨[], (List.append_nil _).symm, fun _ => rfl, fun _ => rfl⟩
  · intro owed offered loop outside _
    refine ⟨offered.map run.submission, rfl, fun closed => ?_, fun _ => begun_submissions _ run⟩
    rw [accepted_submissions, if_pos closed]
  · intro entry idle
    obtain ⟨events, grows, accepts, begins⟩ := history_enter program run entry
    exact ⟨events, grows, fun _ => accepts, fun _ => begins⟩
  · obtain ⟨events, grows, accepts, begins⟩ := history_next program consistent holds
    exact ⟨events, grows, fun _ => accepts, begins⟩

/-- A step of the loop's thread adds to the history. -/
theorem isPrefix_history_next (run : LoopRun ε τ) : run.history <+: (run.next program).history := by
  cases stage : run.stage with
  | idle | configured | notified | failing | closing => simp [next, stage]
  | started reply => cases reply <;> simp [next, stage, answerStart]
  | choosing pass batch =>
    cases batch with
    | nil =>
      cases inSession : run.loop.session.initialized <;> cases drawing : pass.drawing <;>
        simp [next, stage, finishPass, inSession, drawing]
    | cons task rest => simp [next, stage]
  | running pass task acts rest =>
    cases acts with
    | cons act acts => cases act <;> simp [next, stage, perform]
    | nil =>
      cases verdict : run.loop.verdict pass.inSession task <;>
        simp [next, stage, judge, follow, verdict]
  | drawn outcome => cases outcome <;> simp [next, stage, answerFrame]

/-- Every move adds to the history. -/
theorem isPrefix_history_step (run : LoopRun ε τ) (move : Move τ) :
    run.history <+: (run.step program move).history := by
  refine step_induction (P := fun after => run.history <+: after.history) ?_ ?_ ?_ ?_
  · exact List.prefix_refl _
  · exact fun owed offered loop _ _ => List.prefix_append _ _
  · intro entry _
    obtain ⟨events, adds, -, -⟩ := history_enter program run entry
    exact ⟨events, adds.symm⟩
  · exact isPrefix_history_next program run

/-- Every schedule adds to the history. -/
theorem isPrefix_history_play (moves : List (Move τ)) (run : LoopRun ε τ) :
    run.history <+: (run.play program moves).history := by
  refine play_induction (P := fun after => run.history <+: after.history) (List.prefix_refl _) ?_
  exact fun between grows move _ => grows.trans (isPrefix_history_step program between move)

end Growth

section Schedules

variable {program : Program ε τ} (calmJobs : ∀ job, (program.task job).Calm)
include calmJobs

/-- A schedule of tasks that do not panic keeps the account. -/
theorem conserved_play (engine : ε) (config : Config) {moves : List (Move τ)}
    (calmMoves : ∀ task, .submit task ∈ moves → task.Calm) :
    (((start engine config).play program moves).Conserved ∧
      ((start engine config).play program moves).Consistent) ∧
      ∀ task ∈ ((start engine config).play program moves).tasks, task.Calm := by
  refine play_induction_of_tasks (P := fun run => run.Conserved ∧ run.Consistent) calmJobs calmMoves
    ?_ ?_ ?_
  · exact List.forall_mem_nil _
  · exact ⟨conserved_start engine config, consistent_start engine config⟩
  · rintro run ⟨holds, consistent⟩ calm move
    exact ⟨holds.step consistent calm move, consistent.step calm move⟩

/-- After a close nothing is accepted, and after a break nothing is begun, whatever the schedule. -/
theorem Conserved.still {run : LoopRun ε τ} (holds : run.Conserved) (consistent : run.Consistent)
    (calm : ∀ task ∈ run.tasks, task.Calm) {moves : List (Move τ)}
    (calmMoves : ∀ task, .submit task ∈ moves → task.Calm) :
    (.closed ∈ run.history → accepted (run.play program moves).history = accepted run.history) ∧
      (¬ Intact run.history → begun (run.play program moves).history = begun run.history) := by
  induction moves generalizing run with
  | nil => exact ⟨fun _ => rfl, fun _ => rfl⟩
  | cons move moves ih =>
    obtain ⟨events, grows, accepts, begins⟩ := history_step program consistent holds move
    have calmMove : ∀ task, move = .submit task → task.Calm :=
      fun task its => calmMoves task (its ▸ List.mem_cons_self)
    obtain ⟨stillAccepted, stillBegun⟩ := ih (holds.step consistent calm move)
      (consistent.step calm move) (forall_tasks_step calmJobs calmMove calm)
      fun task member => calmMoves task (List.mem_cons_of_mem move member)
    rw [grows] at stillAccepted stillBegun
    refine ⟨fun closed => ?_, fun broken => ?_⟩
    · refine (stillAccepted (List.mem_append_left events closed)).trans ?_
      rw [accepted_append, accepts (consistent.closed.mp closed), List.append_nil]
    · refine (stillBegun fun calm => broken ((intact_append _ _).mp calm).1).trans ?_
      rw [begun_append, begins broken, List.append_nil]

/-- **Tasks are delivered exactly once and in order**, across threads and sessions. As long as no task
failed and the queue was not closed, the accepted tasks are those that were begun, then the rest of the
batch in hand, then those that wait; what was begun is always a first part of what was accepted; and
after a close nothing is accepted, and after a failure or a close nothing is begun. -/
theorem delivered_once_in_order (engine : ε) (config : Config) (moves : List (Move τ))
    (calmMoves : ∀ task, .submit task ∈ moves → task.Calm) :
    let run := (start engine config).play program moves
    (Intact run.history →
      accepted run.history = begun run.history ++ run.stage.inHand ++ run.loop.queue.tasks) ∧
    begun run.history <+: accepted run.history ∧
    ∀ later, (∀ task, .submit task ∈ later → task.Calm) →
      (.closed ∈ run.history → accepted (run.play program later).history = accepted run.history) ∧
      (¬ Intact run.history → begun (run.play program later).history = begun run.history) := by
  intro run
  obtain ⟨⟨holds, consistent⟩, calm⟩ := conserved_play calmJobs engine config calmMoves
  refine ⟨fun intact => ?_, holds.ahead, fun later calmLater => ?_⟩
  · rw [List.append_assoc]
    exact holds.whole intact
  · exact holds.still calmJobs consistent calm calmLater

end Schedules

/-- Two tasks wait behind the end of a session, one of them submitted while the batch is worked off. -/
def recreatingSchedule : List (Move Unit) :=
  [.enter (.surfaceCreated 0), .proceed, .proceed, .submit Task.endActivity,
    .submit (Task.notify .lowMemory), .enter (.drawFrame 0), .proceed, .proceed, .proceed,
    .submit (Task.notify (.windowFocus true)), .proceed, .proceed]

/-- The desktop's engine through that schedule. -/
def recreatingRun : LoopRun Desktop.Engine Unit :=
  (start {} {}).play (Desktop.program fun _ => Task.endActivity) recreatingSchedule

theorem recreatingRun_delivers :
    (∀ job, ((Desktop.program fun _ : Unit => Task.endActivity).task job).Calm) ∧
      (∀ task, .submit task ∈ recreatingSchedule → task.Calm) ∧ Intact recreatingRun.history ∧
      begun recreatingRun.history = [Task.endActivity] ∧
      recreatingRun.loop.queue.tasks = [Task.notify .lowMemory, Task.notify (.windowFocus true)] ∧
      accepted recreatingRun.history =
        [Task.endActivity, Task.notify .lowMemory, Task.notify (.windowFocus true)] := by
  have calmJobs : ∀ job, ((Desktop.program fun _ : Unit => Task.endActivity).task job).Calm :=
    fun _ => Task.calm_endActivity
  have calmMoves : ∀ task, .submit task ∈ recreatingSchedule → task.Calm := by
    intro task member
    simp only [recreatingSchedule, List.mem_cons, reduceCtorEq, Move.submit.injEq, List.not_mem_nil,
      false_or, or_false] at member
    rcases member with rfl | rfl | rfl
    · exact Task.calm_endActivity
    · exact Task.calm_notify .lowMemory
    · exact Task.calm_notify (.windowFocus true)
  have intact : Intact recreatingRun.history := by decide
  obtain ⟨whole, -, -⟩ := delivered_once_in_order calmJobs {} {} recreatingSchedule calmMoves
  exact ⟨calmJobs, calmMoves, intact, rfl, rfl, whole intact⟩

end LoopRun

end EngineHost
