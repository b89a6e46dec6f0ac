/-
**What is submitted after the end of a render thread.**

The queue outlives the thread that works it off. The end of a loop closes it; the end of a thread does not.

* `LoopRun.Answered`: what the last hook of a loop can have answered, by the phase of the loop;
* `ThreadRun.LeftBehind`: what the end of a thread says about the state of its loop;
* `ThreadRun.ended_play`: a thread that has ended does nothing more;
* `Host.Takes`: what the hooks of the system answer in front of an open queue;
* `ThreadRun.refused_iff_terminated`: behind a thread that has ended a task is refused if the loop was
  terminated, and otherwise it waits for ever.

Nothing is assumed about the tasks or about the engine.
-/

import EngineHost.Proofs.Finality
import EngineHost.Proofs.Signals

namespace EngineHost

variable {ε δ τ : Type}

/-! ### What the last hook answered -/

/-- What the last hook answered, if one has returned. -/
def lastAnswer (history : List (Happening τ)) : Option Entry.Answer := (answers history).getLast?

@[simp] theorem lastAnswer_returned (history : List (Happening τ)) (answer : Entry.Answer) :
    lastAnswer (history ++ [.returned answer]) = some answer := by
  simp [lastAnswer]

/-- Where no hook returns, the last answer stays. -/
theorem lastAnswer_append {history events : List (Happening τ)} (silent : answers events = []) :
    lastAnswer (history ++ events) = lastAnswer history := by
  rw [lastAnswer, answers_append, silent, List.append_nil]
  rfl

namespace LoopRun

/-- What the last hook can have answered: a loop that goes on told nobody to stop, the hook that ends a loop does
not panic, and a hook of a loop that is over does not raise anything. -/
inductive Answered (run : LoopRun ε τ) : Prop
  | goesOn (phase : run.GoesOn) (unstopped : lastAnswer run.history ≠ some (.ok (some .stop)))
  | shutting (phase : run.Shutting) (outcome : Option FrameOutcome) (stage : run.stage = .closing (.ok outcome))
  | isOver (phase : run.Over) (unraised : ∀ text, lastAnswer run.history ≠ some (.error (.raised text)))

section Steps

variable {program : Program ε τ} {run : LoopRun ε τ}

/-- The next step of a loop that goes on tells nobody to stop. -/
theorem GoesOn.unstopped_next (holds : run.GoesOn)
    (unstopped : lastAnswer run.history ≠ some (.ok (some .stop))) :
    lastAnswer (run.next program).history ≠ some (.ok (some .stop)) := by
  have ⟨_, stage, _, _, _⟩ := holds
  obtain ⟨loop, here, owed, history⟩ := run
  have quiet : ∀ {events : List (Happening τ)}, answers events = [] →
      lastAnswer (history ++ events) ≠ some (.ok (some .stop)) := by
    intro events silent
    rw [lastAnswer_append silent]
    exact unstopped
  cases here with
  | idle => exact unstopped
  | configured => exact quiet rfl
  | started reply =>
    cases reply with
    | ready => simp [LoopRun.next, answerStart]
    | failed failure =>
      simp only [LoopRun.next, answerStart, beginClose_frame]
      exact quiet rfl
    | panicked text => simp [LoopRun.next, answerStart]
  | notified => simp [LoopRun.next]
  | choosing pass batch =>
    cases batch with
    | cons task rest => exact quiet rfl
    | nil =>
      simp only [LoopRun.next, finishPass]
      split
      · split
        · exact unstopped
        · simp
      · cases drawing : pass.drawing <;> simp [Pass.answer, drawing]
  | running pass task acts rest =>
    cases acts with
    | cons act acts => cases act <;> exact unstopped
    | nil =>
      simp only [LoopRun.next, judge]
      cases loop.verdict pass.inSession task with
      | goOn | sessionOver => exact unstopped
      | failed failure => exact quiet rfl
      | panicked text => simp [follow]
  | failing pass failure =>
    simp only [LoopRun.next, beginClose_frame]
    exact quiet rfl
  | drawn outcome =>
    cases outcome with
    | proceed => simp [LoopRun.next, answerFrame]
    | stop =>
      simp only [LoopRun.next, answerFrame, beginClose_frame]
      exact quiet rfl
  | closing answer => cases stage

/-- No hook of a loop that goes on tells anybody to stop when it is called. -/
theorem GoesOn.unstopped_enter (holds : run.GoesOn)
    (unstopped : lastAnswer run.history ≠ some (.ok (some .stop))) (entry : Entry) :
    lastAnswer (run.enter program entry).history ≠ some (.ok (some .stop)) := by
  refine enter_induction (P := fun after => lastAnswer after.history ≠ some (.ok (some .stop)))
    (fun panic => by simp) fun owner => ?_
  cases entry with
  | surfaceCreated thread =>
    cases state : run.loop.state <;> simp only [LoopRun.beginHook, state]
    case uninitialized | running => exact unstopped
    all_goals simp
  | surfaceChanged thread width height => simp [LoopRun.beginHook]
  | drawFrame thread =>
    cases state : run.loop.state <;> simp only [LoopRun.beginHook, state]
    case running => exact unstopped
    case terminated => exact absurd state holds.state
    all_goals simp
  | deliverRest =>
    cases state : run.loop.state <;> simp only [LoopRun.beginHook, state]
    case running => exact unstopped
    all_goals simp

/-- No move of a loop that goes on tells anybody to stop. -/
theorem GoesOn.unstopped (holds : run.GoesOn) (unstopped : lastAnswer run.history ≠ some (.ok (some .stop)))
    (move : Move τ) : lastAnswer (run.step program move).history ≠ some (.ok (some .stop)) := by
  refine step_induction (P := fun after => lastAnswer after.history ≠ some (.ok (some .stop))) unstopped ?_
    (fun entry _ => holds.unstopped_enter unstopped entry) (holds.unstopped_next unstopped)
  intro owed offered loop _ _
  rw [LoopRun.offer, lastAnswer_append (answers_submissions offered { run with owed })]
  exact unstopped

/-- The step that closes the queue is one of a hook that will not panic. -/
theorem closing_of_endsLoop (program : Program ε τ) (ends : run.stage.endsLoop = true) :
    ∃ outcome, (run.next program).stage = .closing (.ok outcome) := by
  obtain ⟨loop, stage, owed, history⟩ := run
  cases stage with
  | started reply =>
    cases reply with
    | failed failure => exact ⟨none, (beginClose_frame program _ _ _).2.2.2.2.2.2.2.2.1⟩
    | ready | panicked => cases ends
  | failing pass failure => exact ⟨_, (beginClose_frame program _ _ _).2.2.2.2.2.2.2.2.1⟩
  | drawn outcome =>
    cases outcome with
    | stop => exact ⟨some .stop, (beginClose_frame program _ _ _).2.2.2.2.2.2.2.2.1⟩
    | proceed => cases ends
  | idle | configured | notified | choosing | running | closing => cases ends

/-- A hook of a loop that is over raises nothing. -/
theorem Over.unraised_enter (holds : run.Over) (entry : Entry) (text : String) :
    lastAnswer (run.enter program entry).history ≠ some (.error (.raised text)) := by
  have returns : ∀ loop : FrameLoop ε τ, loop.state = .terminated →
      lastAnswer (LoopRun.beginHook program { run with loop } entry).history ≠ some (.error (.raised text)) := by
    intro loop terminated
    cases entry <;> simp [LoopRun.beginHook, terminated]
  unfold LoopRun.enter
  split
  · exact returns run.loop holds.state
  · rename_i thread _
    rcases run.loop.enter_cases thread with ⟨-, entered⟩ | ⟨-, -, -, refused⟩
    · simp only [entered]
      exact returns _ holds.state
    · simp [refused]

/-- What the last hook can have answered is kept by every move. -/
theorem Answered.step (program : Program ε τ) (holds : run.Answered) (move : Move τ) :
    (run.step program move).Answered := by
  cases holds with
  | goesOn phase unstopped =>
    rcases phase.step program move with still | ⟨rfl, unowed, ends, closes⟩
    · exact .goesOn still (phase.unstopped unstopped move)
    · obtain ⟨outcome, stage⟩ := closing_of_endsLoop program ends
      refine .shutting (closes.shutting phase) outcome ?_
      simpa only [LoopRun.step, unowed] using stage
  | shutting phase outcome stage =>
    refine move_induction (P := Answered) (fun _ => .shutting phase outcome stage) ?_ ?_ ?_
    · intro owed offered loop outside _ _
      have resumed : Shutting { run with owed } := { phase with }
      exact .shutting (resumed.offer outside) outcome stage
    · intro entry _ idle
      rw [idle] at stage
      cases stage
    · intro _ _
      refine .isOver ((concludes_next phase.stage).isOver phase) fun text => ?_
      simp [LoopRun.next, stage]
  | isOver phase unraised =>
    refine move_induction (P := Answered) (fun _ => .isOver phase unraised) ?_ ?_ ?_
    · intro owed offered loop outside _ _
      have resumed : Over { run with owed } := { phase with }
      refine .isOver (resumed.offer outside) fun text => ?_
      rw [LoopRun.offer, lastAnswer_append (answers_submissions offered { run with owed })]
      exact unraised text
    · intro entry its idle
      have isOver := (phase.step program (.enter entry)).2
      simp only [LoopRun.step, idle] at isOver
      exact .isOver isOver fun text => phase.unraised_enter entry text
    · intro _ _
      simp only [LoopRun.next, phase.stage]
      exact .isOver phase unraised

/-- What the last hook of a loop can have answered after a schedule. -/
theorem answered_play (program : Program ε τ) (engine : ε) (config : Config) (moves : List (Move τ)) :
    ((start engine config).play program moves).Answered :=
  play_induction (P := Answered) (.goesOn (goesOn_start engine config) nofun)
    fun _ holds move _ => holds.step program move

/-- A loop that told somebody to stop and is between two hooks is over. -/
theorem Answered.terminated (holds : run.Answered) (idle : run.stage = .idle)
    (stopped : lastAnswer run.history = some (.ok (some .stop))) : run.loop.state = .terminated := by
  cases holds with
  | goesOn phase unstopped => exact absurd stopped unstopped
  | shutting phase outcome stage =>
    rw [idle] at stage
    cases stage
  | isOver phase unraised => exact phase.state

/-- A loop one of whose hooks has just raised something is not over. -/
theorem Answered.alive (holds : run.Answered) {text : String}
    (raised : lastAnswer run.history = some (.error (.raised text))) : run.loop.state ≠ .terminated := by
  cases holds with
  | goesOn phase unstopped => exact phase.state
  | shutting phase outcome stage => exact phase.state
  | isOver phase unraised => exact absurd raised (unraised text)

/-- The queue is closed between two hooks if and only if the loop is over, and then it is empty. -/
theorem Answered.queue (holds : run.Answered) (idle : run.stage = .idle) :
    (run.loop.state = .terminated → run.loop.queue = ⟨[], true⟩) ∧
      (run.loop.state ≠ .terminated → run.loop.queue.closed = false) := by
  cases holds with
  | goesOn phase unstopped => exact ⟨fun terminated => absurd terminated phase.state, fun _ => phase.isOpen⟩
  | shutting phase outcome stage =>
    rw [idle] at stage
    cases stage
  | isOver phase unraised => exact ⟨fun _ => phase.queue, fun alive => absurd phase.state alive⟩

end Steps

end LoopRun

/-! ### What the end of a thread leaves behind -/

/-- The task that a move submits. -/
def ThreadMove.task? : ThreadMove τ → Option (Task τ)
  | .submit task => some task
  | .report _ | .send _ | .hangUp | .proceed => none

namespace ThreadRun

section Steps

variable {program : Program ε τ} {state : ThreadRun ε τ}

/-- What the end of a thread says about its loop: the state that it returns is the state of the loop, and a thread
that hosted code stopped leaves a loop that is not terminated. -/
structure LeftBehind (state : ThreadRun ε τ) : Prop where
  orderly : state.Orderly
  answered : state.run.Answered
  returned : ∀ last, state.phase = .ended (.returned last) → state.run.loop.state = last
  raised : ∀ text, state.phase = .ended (.panicked (.raised text)) → state.run.loop.state ≠ .terminated

/-- The answer that a thread sees behind a hook, if it is not the one that stands for no hook at all. -/
theorem lastAnswer_of_answer {last : Entry.Answer} (answered : state.answer = last) (told : last ≠ .ok none) :
    lastAnswer state.run.history = some last := by
  unfold ThreadRun.answer at answered
  unfold lastAnswer
  cases found : (answers state.run.history).getLast? with
  | none =>
    rw [found] at answered
    exact absurd answered.symm told
  | some other =>
    rw [found] at answered
    exact congrArg some answered

/-- Behind its hook a thread that ends returns the state of its loop, or panics as the hook did. -/
theorem ending_of_finish {signal : Signal} {ending : ThreadEnd}
    (ends : (state.finish program signal).phase = .ended ending) :
    (∃ panic, state.answer = .error panic ∧ ending = .panicked panic) ∨
      (ending = .returned state.run.loop.state ∧
        (signal = .shutdown ∨ signal = .drawFrame ∧ state.answer = .ok (some .stop))) := by
  simp only [finish, Signal.follow] at ends
  cases answered : state.answer with
  | error panic =>
    rw [answered] at ends
    cases ends
    exact Or.inl ⟨panic, rfl, rfl⟩
  | ok outcome =>
    rw [answered] at ends
    cases signal with
    | shutdown =>
      cases ends
      exact Or.inr ⟨rfl, Or.inl rfl⟩
    | drawFrame =>
      simp only at ends
      split at ends
      · rename_i last
        cases ends
        exact Or.inr ⟨rfl, Or.inr ⟨rfl, by rw [last]⟩⟩
      · cases ends
    | surfaceCreated | surfaceChanged => cases ends

/-- A thread that ends behind a frame returns that its loop is terminated, or a hook panicked. -/
theorem LeftBehind.stopped (holds : state.LeftBehind) (idle : state.run.stage = .idle) {last : LoopState}
    (ends : (state.finish program .drawFrame).phase = .ended (.returned last)) : last = .terminated := by
  rcases ending_of_finish ends with ⟨panic, -, other⟩ | ⟨same, other | ⟨-, stopped⟩⟩
  · cases other
  · cases other
  · cases same
    exact holds.answered.terminated idle (lastAnswer_of_answer stopped nofun)

theorem LeftBehind.step (program : Program ε τ) (holds : state.LeftBehind) (move : ThreadMove τ) :
    (state.step program move).LeftBehind := by
  have orderly : (state.step program move).Orderly := holds.orderly.step move
  revert orderly
  refine step_induction (P := fun after => after.Orderly → after.LeftBehind) ?_ ?_ ?_ ?_ ?_ ?_ ?_ ?_
  · exact fun _ => holds
  · intro inner enters _ own orderly
    -- A thread that has ended takes no steps, so that others only submit or report.
    have outside : ∀ ending, state.phase = .ended ending →
        (state.run.step program inner).loop.state = state.run.loop.state := by
      intro ending ended
      cases inner with
      | submit task => exact (FrameLoop.Offered.submit task state.run.loop).state
      | report notices => exact (FrameLoop.Offered.report notices state.run.loop).state
      | enter => cases enters
      | proceed =>
        obtain ⟨signal, handling⟩ := own rfl
        rw [ended] at handling
        cases handling
    refine ⟨orderly, holds.answered.step program inner, fun last ended => ?_, fun text ended => ?_⟩
    · exact (outside _ ended).trans (holds.returned last ended)
    · exact outside _ ended ▸ holds.raised text ended
  · exact fun signal _ orderly => { holds with orderly }
  · exact fun orderly => { holds with orderly }
  · exact fun signal channel phase _ orderly => ⟨orderly, holds.answered, nofun, nofun⟩
  · intro signal _ orderly
    have reported := holds.answered.step program (.report signal.announces)
    exact ⟨orderly, reported.step program (.enter (signal.entry state.thread)), nofun, nofun⟩
  · intro signal _ idle orderly
    have reported := holds.answered.step program (.report (signal.follow state.run.loop state.answer).1)
    refine ⟨orderly, reported, fun last ended => ?_, fun text ended => ?_⟩
    · rcases ending_of_finish ended with ⟨panic, -, other⟩ | ⟨same, -⟩
      · cases other
      · cases same
        rfl
    · rcases ending_of_finish ended with ⟨panic, raised, same⟩ | ⟨other, -⟩
      · cases same
        exact holds.answered.alive (lastAnswer_of_answer raised nofun)
      · cases other
  · intro _ orderly
    refine ⟨orderly, holds.answered, fun last ended => ?_, nofun⟩
    cases ended
    rfl

theorem leftBehind_play (program : Program ε τ) (engine : ε) (config : Config) {before : List (Move τ)}
    (idle : ((LoopRun.start engine config).play program before).stage = .idle) (thread : ThreadId)
    (moves : List (ThreadMove τ)) :
    ((spawn thread ((LoopRun.start engine config).play program before)).play program moves).LeftBehind := by
  have start : (spawn thread ((LoopRun.start engine config).play program before)).LeftBehind :=
    ⟨orderly_spawn idle thread, LoopRun.answered_play program engine config before, nofun, nofun⟩
  generalize spawn thread ((LoopRun.start engine config).play program before) = state at start
  induction moves generalizing state with
  | nil => exact start
  | cons move moves ih => exact ih _ (start.step program move)

/-- **A thread that has ended does nothing more**: its loop is offered what others submit, and that is all. -/
theorem ended_play (program : Program ε τ) {ending : ThreadEnd} (ended : state.phase = .ended ending)
    (moves : List (ThreadMove τ)) :
    (state.play program moves).phase = .ended ending ∧
      state.run.loop.Offered (moves.filterMap ThreadMove.task?) (state.play program moves).run.loop ∧
      (state.play program moves).run.stage = state.run.stage ∧
      begun (state.play program moves).run.history = begun state.run.history := by
  induction moves generalizing state with
  | nil => exact ⟨ended, .refl _, rfl, rfl⟩
  | cons move moves ih =>
    have here : (state.step program move).phase = .ended ending ∧
        state.run.loop.Offered move.task?.toList (state.step program move).run.loop ∧
        (state.step program move).run.stage = state.run.stage ∧
        begun (state.step program move).run.history = begun state.run.history := by
      cases move with
      | submit task =>
        refine ⟨ended, .submit task state.run.loop, rfl, ?_⟩
        simp only [step, LoopRun.step, LoopRun.submit, begun_append]
        rw [begun_singleton, LoopRun.submission_eq]
        split <;> exact List.append_nil _
      | report notices => exact ⟨ended, .report notices state.run.loop, rfl, rfl⟩
      | send signal =>
        obtain ⟨run, phase⟩ := send_frame signal state
        refine ⟨phase.trans ended, ?_⟩
        show state.run.loop.Offered [] (state.send signal).run.loop ∧ _
        rw [step, run]
        exact ⟨.refl _, rfl, rfl⟩
      | hangUp => exact ⟨ended, .refl _, rfl, rfl⟩
      | proceed =>
        have stays : state.step program .proceed = state := by simp only [step, proceed, ended]
        rw [stays]
        exact ⟨ended, .refl _, rfl, rfl⟩
    obtain ⟨still, offered, stage, begins⟩ := here
    obtain ⟨last, rest, rested, same⟩ := ih still
    refine ⟨last, ?_, rested.trans stage, same.trans begins⟩
    have split : (move :: moves).filterMap ThreadMove.task? =
        move.task?.toList ++ moves.filterMap ThreadMove.task? := by
      cases move <;> rfl
    rw [split]
    exact offered.trans rest

end Steps

end ThreadRun

/-! ### Hooks in front of an open queue -/

/-- A host accepts every task, and so does every hook that submits one; only the answer to a dialog does not say
whether its task was accepted. -/
structure Host.Takes (services : Services δ) (host : Host ε δ τ) : Prop where
  submit : ∀ task, (host.submit task).1 = .ok () ∧
    (host.submit task).2.loop.queue.tasks = host.loop.queue.tasks ++ [task]
  hook : ∀ (hook : Hook) (task : Task τ), hook.task? host = some task →
    (hook.submission? host = some (.ok ()) ∨ ∃ handle action, hook = .answerDialog handle action) ∧
      (hook.run services host).loop.queue.tasks = host.loop.queue.tasks ++ [task]

/-- A submission says whether the queue is open. -/
theorem Host.submit_fst (task : Task τ) (host : Host ε δ τ) :
    (host.submit task).1 = if host.loop.queue.closed then .error .noSession else .ok () := by
  cases closed : host.loop.queue.closed <;> simp [submit, closed]

theorem Host.takes (services : Services δ) {host : Host ε δ τ} (isOpen : host.loop.queue.closed = false) :
    host.Takes services where
  submit task := by
    refine ⟨?_, ?_⟩
    · rw [submit_fst, isOpen]
      rfl
    · rw [(host.offered_submit task).tasks, isOpen]
      rfl
  hook hook task submits := by
    have offered := (hook.offered_run services host).tasks
    rw [isOpen, submits] at offered
    refine ⟨?_, offered⟩
    have accepts : ∀ (other : Host ε δ τ) (task : Task τ), other.loop.queue = host.loop.queue →
        some (other.submit task).1 = some (.ok ()) := by
      intro other task same
      rw [submit_fst, same, isOpen]
      rfl
    cases hook with
    | lifecycle state => exact Or.inl (accepts _ _ rfl)
    | input event => exact Or.inl (accepts _ _ rfl)
    | windowFocus focused => exact Or.inl (accepts _ _ rfl)
    | lowMemory => exact Or.inl (accepts _ _ rfl)
    | keyboardLayout visibleHeight rootHeight =>
      obtain ⟨layout, measured, -⟩ := Option.map_eq_some_iff.mp submits
      simp only [Hook.submission?, keyboardLayout, measured]
      exact Or.inl (accepts _ _ rfl)
    | answerDialog handle action => exact Or.inr ⟨handle, action, rfl⟩
    | requestKeyboard | keyboardResult | settingsChanged | geometry | openDialog => cases submits

/-! ### What is submitted behind a thread -/

namespace ThreadRun

/-- **Behind a render thread that has ended, a task is refused if and only if its loop is terminated.** A thread
that leaves its loop behind the last frame terminated it; one that was asked to end, that lost all its senders or
that panicked may leave a loop that is not terminated. The queue of such a loop stays open: it accepts every task
that any hook of the system submits, and no task is begun any more. -/
theorem refused_iff_terminated (program : Program ε τ) (engine : ε) (config : Config) (before : List (Move τ))
    (thread : ThreadId) (moves : List (ThreadMove τ)) (services : Services δ) (memory : Memory) (device : δ) :
    let loop := (LoopRun.start engine config).play program before
    let state := (spawn thread loop).play program moves
    loop.stage = .idle →
    (∀ last, state.phase = .handling .drawFrame →
      (state.step program .proceed).phase = .ended (.returned last) → last = .terminated) ∧
    ∀ ending, state.phase = .ended ending →
      (∀ last, ending = .returned last → state.run.loop.state = last) ∧
      (∀ text, ending = .panicked (.raised text) → state.run.loop.state ≠ .terminated) ∧
      ∀ later : List (ThreadMove τ),
        let now := state.play program later
        let host : Host ε δ τ := ⟨now.run.loop, memory, device⟩
        now.phase = .ended ending ∧ begun now.run.history = begun state.run.history ∧
        callsOf now.run.loop.journal = callsOf state.run.loop.journal ∧
        (∀ task, (host.submit task).1 = .error .noSession ↔ state.run.loop.state = .terminated) ∧
        (state.run.loop.state = .terminated → host.Refuses services) ∧
        (state.run.loop.state ≠ .terminated → host.Takes services ∧
          now.run.loop.queue.tasks = state.run.loop.queue.tasks ++ later.filterMap ThreadMove.task?) := by
  intro loop state idle
  have left : state.LeftBehind := leftBehind_play program engine config idle thread moves
  refine ⟨fun last handling ends => ?_, fun ending ended => ⟨?_, ?_, fun later => ?_⟩⟩
  · simp only [step, proceed, handling] at ends
    split at ends
    · rename_i returned
      exact left.stopped returned ends
    · cases ends
  · rintro last rfl
    exact left.returned last ended
  · rintro text rfl
    exact left.raised text ended
  · intro now host
    obtain ⟨still, outside, -, begins⟩ := ended_play program ended later
    obtain ⟨closes, stays⟩ := left.answered.queue (left.orderly.between (by rw [ended]; rfl))
    have tasks := outside.tasks
    by_cases isOver : state.run.loop.state = .terminated
    · have closed : now.run.loop.queue = ⟨[], true⟩ := by
        have isClosed := outside.closed
        rw [closes isOver] at tasks isClosed
        exact congrArg₂ Queue.mk tasks isClosed
      refine ⟨still, begins, outside.calls, fun task => ?_, fun _ => Host.refuses services closed,
        fun alive => absurd isOver alive⟩
      exact ⟨fun _ => isOver, fun _ => ((Host.refuses services closed).submit task).1⟩
    · have isOpen : now.run.loop.queue.closed = false := outside.closed.trans (stays isOver)
      have takes : host.Takes services := Host.takes services isOpen
      rw [stays isOver] at tasks
      refine ⟨still, begins, outside.calls, fun task => ?_, fun terminated => absurd terminated isOver,
        fun _ => ⟨takes, tasks⟩⟩
      refine ⟨fun refused => ?_, fun terminated => absurd terminated isOver⟩
      rw [(takes.submit task).1] at refused
      cases refused

/-- A surface is created. -/
def runningMoves : List (ThreadMove Unit) := .send .surfaceCreated :: List.replicate 5 .proceed

/-- A thread that is asked to end while its loop is running. -/
def joiningMoves : List (ThreadMove Unit) := runningMoves ++ .send .shutdown :: List.replicate 4 .proceed

/-- A thread whose user wants to quit: the next frame is the last one. -/
def quittingMoves : List (ThreadMove Unit) :=
  runningMoves ++ .submit (Task.notify (.dialog .yes)) :: .send .drawFrame :: List.replicate 8 .proceed

/-- The desktop's render thread through a schedule. -/
def desktopThread (moves : List (ThreadMove Unit)) : ThreadRun Desktop.Engine Unit :=
  (spawn 1 (LoopRun.start {} {})).play desktopProgram moves

/-- The host in front of that thread. -/
def desktopHost (moves : List (ThreadMove Unit)) : Host Desktop.Engine Desktop.Window Unit :=
  { (Host.create {} {} {} {} : Host Desktop.Engine Desktop.Window Unit) with
    loop := (desktopThread moves).run.loop }

/-- Two threads that have ended: the one behind its last frame refuses, and the one that was asked to end does
not. -/
theorem quitting_refuses_joining_takes :
    (desktopThread quittingMoves).phase = .handling .drawFrame ∧
      ((desktopThread quittingMoves).step desktopProgram .proceed).phase = .ended (.returned .terminated) ∧
      (desktopHost (quittingMoves ++ [.proceed])).lowMemory.1 = .error .noSession ∧
      (desktopThread joiningMoves).phase = .ended (.returned .running) ∧
      (desktopHost joiningMoves).Takes Desktop.services := by
  let memory := (desktopHost []).memory
  obtain ⟨last, -⟩ := refused_iff_terminated desktopProgram ({} : Desktop.Engine) {} [] 1 quittingMoves
    Desktop.services memory {} rfl
  obtain ⟨-, quit⟩ := refused_iff_terminated desktopProgram ({} : Desktop.Engine) {} [] 1
    (quittingMoves ++ [.proceed]) Desktop.services memory {} rfl
  obtain ⟨-, joined⟩ := refused_iff_terminated desktopProgram ({} : Desktop.Engine) {} [] 1 joiningMoves
    Desktop.services memory {} rfl
  have drawing : (desktopThread quittingMoves).phase = .handling .drawFrame := rfl
  have stopped : ((desktopThread quittingMoves).step desktopProgram .proceed).phase =
      .ended (.returned (desktopThread quittingMoves).run.loop.state) := rfl
  have ended : (desktopThread joiningMoves).phase = .ended (.returned .running) := rfl
  have quits : (desktopThread quittingMoves).run.loop.state = .terminated := last _ drawing stopped
  obtain ⟨-, -, refusing⟩ := quit _ stopped
  obtain ⟨running, -, taking⟩ := joined _ ended
  refine ⟨drawing, quits ▸ stopped, ?_, ended, ?_⟩
  · obtain ⟨-, -, -, refuses, -⟩ := refusing []
    exact (refuses (Task.notify .lowMemory)).mpr quits
  · obtain ⟨-, -, -, -, -, takes⟩ := taking []
    refine (takes ?_).1
    rw [running _ rfl]
    exact LoopState.noConfusion

/-- Behind a thread that was asked to end while its loop was running, a hook of the system is told that its task
was accepted, and the task waits. -/
theorem joining_accepts :
    (desktopThread joiningMoves).phase = .ended (.returned .running) ∧
      (desktopHost joiningMoves).lowMemory.1 = .ok () ∧
      (desktopHost joiningMoves).lowMemory.2.loop.queue.tasks = [Task.notify .lowMemory] :=
  ⟨rfl, rfl, rfl⟩

end ThreadRun

end EngineHost
