/-
**The end of a loop is one step, complete and final.**

A loop goes on, is closing, or is over.

* `LoopRun.GoesOn`, `LoopRun.Shutting`, `LoopRun.Over`: the three phases, each with its lemma for one
  move;
* `LoopRun.Closes`, `LoopRun.Concludes`: how the loop leaves the first phase and the second one;
* `LoopRun.Still`: what no later move changes;
* `LoopRun.over_of_endsLoop`: once there is a reason to end, the loop is over after some steps of its
  thread.

Nothing is assumed about the tasks or about the engine.
-/

import EngineHost.Proofs.Account
import EngineHost.Proofs.HookDelivery

namespace EngineHost

variable {ε δ τ : Type}

/-! ### The phases of a loop -/

/-- Whether an event closes the queue. -/
@[simp] def Happening.isClose : Happening τ → Bool
  | .closed => true
  | _ => false

/-- How often the queue was closed. -/
def closings (history : List (Happening τ)) : Nat := history.countP Happening.isClose

@[simp] theorem closings_append (earlier later : List (Happening τ)) :
    closings (earlier ++ later) = closings earlier + closings later :=
  List.countP_append

@[simp] theorem closings_singleton (happening : Happening τ) :
    closings [happening] = happening.isClose.toNat := by
  cases happening <;> rfl

/-- Whether the queue is closed and the loop is not over. -/
@[simp] def Stage.isClosing : Stage τ → Bool
  | .closing _ => true
  | _ => false

/-- What has a reason to end has not begun to end. -/
theorem Stage.isClosing_of_endsLoop {stage : Stage τ} (ends : stage.endsLoop = true) :
    stage.isClosing = false := by
  cases stage with
  | closing answer => cases ends
  | _ => rfl

namespace LoopRun

theorem closings_submissions (offered : List (Task τ)) (run : LoopRun ε τ) :
    closings (offered.map run.submission) = 0 := by
  refine List.countP_eq_zero.mpr fun happening member => ?_
  obtain ⟨task, -, rfl⟩ := List.mem_map.mp member
  rw [submission_eq]
  split <;> exact Bool.false_ne_true

/-- The loop has no end so far. -/
structure GoesOn (run : LoopRun ε τ) : Prop where
  isOpen : run.loop.queue.closed = false
  stage : run.stage.isClosing = false
  state : run.loop.state ≠ .terminated
  unclosed : closings run.history = 0
  unfinished : finishesOf run.loop.journal = 0

/-- The queue was closed, and the rest of the end follows. -/
structure Shutting (run : LoopRun ε τ) : Prop where
  queue : run.loop.queue = ⟨[], true⟩
  stage : run.stage.isClosing = true
  state : run.loop.state ≠ .terminated
  closedOnce : closings run.history = 1
  unfinished : finishesOf run.loop.journal = 0

/-- The loop is over. -/
structure Over (run : LoopRun ε τ) : Prop where
  queue : run.loop.queue = ⟨[], true⟩
  stage : run.stage = .idle
  state : run.loop.state = .terminated
  session : run.loop.session.initialized = false
  closedOnce : closings run.history = 1
  finishedOnce : finishesOf run.loop.journal = 1

/-- No call into the engine is made, no task is begun and none is accepted. -/
structure Still (before after : LoopRun ε τ) : Prop where
  calls : callsOf after.loop.journal = callsOf before.loop.journal
  begun : begun after.history = begun before.history
  accepted : accepted after.history = accepted before.history

theorem Still.refl (run : LoopRun ε τ) : run.Still run := ⟨rfl, rfl, rfl⟩

theorem Still.trans {first second third : LoopRun ε τ} (one : first.Still second)
    (two : second.Still third) : first.Still third :=
  ⟨two.calls.trans one.calls, two.begun.trans one.begun, two.accepted.trans one.accepted⟩

/-- The first half of the end: the queue is closed, and then an engine with a session is shut down. What
that shutdown uses the queue for is still to come, and so is all the rest. -/
structure Closes (program : Program ε τ) (before after : LoopRun ε τ) : Prop where
  queue : after.loop.queue = ⟨[], true⟩
  history : after.history = before.history ++ [.closed]
  calls : callsOf after.loop.journal = callsOf before.loop.journal ++
    if before.loop.session.initialized then [.shutdown] else []
  owed : after.owed =
    if before.loop.session.initialized then (program.shutdown before.loop.engine).uses else []
  session : after.loop.session = before.loop.session
  state : after.loop.state = before.loop.state
  finishes : finishesOf after.loop.journal = finishesOf before.loop.journal
  stage : after.stage.isClosing = true

/-- The second half: the session is reset, the loop is terminated, the host is asked to finish, and the
hook returns. -/
structure Concludes (before after : LoopRun ε τ) : Prop where
  session : after.loop.session = before.loop.session.reset
  state : after.loop.state = .terminated
  finishes : finishesOf after.loop.journal = finishesOf before.loop.journal + 1
  history : ∃ answer, after.history = before.history ++ [.returned answer]
  stage : after.stage = .idle
  queue : after.loop.queue = before.loop.queue
  calls : callsOf after.loop.journal = callsOf before.loop.journal

section Phases

variable {program : Program ε τ} {run after : LoopRun ε τ}

theorem goesOn_start (engine : ε) (config : Config) :
    GoesOn (LoopRun.start engine config : LoopRun ε τ) where
  isOpen := rfl
  stage := rfl
  state := LoopState.noConfusion
  unclosed := rfl
  unfinished := rfl

/-- The first half of the end leads from the first phase to the second one. -/
theorem Closes.shutting (closes : Closes program run after) (holds : run.GoesOn) : after.Shutting where
  queue := closes.queue
  stage := closes.stage
  state := by
    rw [closes.state]
    exact holds.state
  closedOnce := by
    rw [closes.history, closings_append, holds.unclosed]
    rfl
  unfinished := closes.finishes.trans holds.unfinished

/-- The second half leads to the end. -/
theorem Concludes.isOver (concludes : run.Concludes after) (holds : run.Shutting) : after.Over where
  queue := concludes.queue.trans holds.queue
  stage := concludes.stage
  state := concludes.state
  session := by
    rw [concludes.session]
    rfl
  closedOnce := by
    obtain ⟨answer, history⟩ := concludes.history
    rw [history, closings_append, holds.closedOnce]
    rfl
  finishedOnce := by rw [concludes.finishes, holds.unfinished]

theorem closes_beginClose (program : Program ε τ) (notices : List Notice) (answer : Entry.Answer)
    (unowed : run.owed = []) :
    run.Closes program (run.beginClose program notices answer) := by
  have frame := beginClose_frame program notices answer run
  refine ⟨frame.2.1, frame.2.2.2.2.2.2.2.2.2, frame.2.2.1, ?_, frame.1, frame.2.2.2.2.1, frame.2.2.2.1, ?_⟩
  · unfold beginClose
    by_cases inSession : run.loop.session.initialized = true <;> simp [inSession, unowed]
  · rw [frame.2.2.2.2.2.2.2.2.1]
    rfl

/-- With a reason to end, the next step closes the queue. -/
theorem closes_next (ends : run.stage.endsLoop = true) (unowed : run.owed = []) :
    run.Closes program (run.next program) := by
  obtain ⟨loop, stage, owed, history⟩ := run
  cases unowed
  cases stage with
  | started reply =>
    cases reply with
    | failed failure => exact closes_beginClose program _ _ rfl
    | ready | panicked => cases ends
  | failing pass failure => exact closes_beginClose program _ _ rfl
  | drawn outcome =>
    cases outcome with
    | stop =>
      have closes := closes_beginClose program [.stopRequested loop.countFrame.frames]
        (.ok (some .stop)) (rfl : (⟨loop.countFrame, .drawn .stop, [], history⟩ : LoopRun ε τ).owed = [])
      exact { closes with }
    | proceed => cases ends
  | idle | configured | notified | choosing | running | closing => cases ends

/-- Behind the closed queue, the next step is the second half of the end. -/
theorem concludes_next (closing : run.stage.isClosing = true) : run.Concludes (run.next program) := by
  obtain ⟨loop, stage, owed, history⟩ := run
  cases stage with
  | closing answer =>
    obtain ⟨session, queue, calls, finishes, state, -⟩ := loop.conclude_frame
    exact ⟨session, state, finishes, ⟨answer, rfl⟩, rfl, queue, calls⟩
  | idle | configured | started | notified | choosing | running | failing | drawn => cases closing

/-- A step that neither closes the queue nor asks the host to finish. -/
theorem GoesOn.of_quiet (holds : run.GoesOn) (events : List (Happening τ))
    (history : after.history = run.history ++ events) (unclosed : closings events = 0)
    (isOpen : after.loop.queue.closed = false) (stage : after.stage.isClosing = false)
    (state : after.loop.state ≠ .terminated)
    (finishes : finishesOf after.loop.journal = finishesOf run.loop.journal) : after.GoesOn where
  isOpen := isOpen
  stage := stage
  state := state
  unclosed := by rw [history, closings_append, holds.unclosed, unclosed]
  unfinished := finishes.trans holds.unfinished

/-- Without a reason to end, the next step lets the loop go on. -/
theorem GoesOn.next (holds : run.GoesOn) (endless : run.stage.endsLoop = false) :
    (run.next program).GoesOn := by
  have ⟨isOpen, stage, state, unclosed, unfinished⟩ := holds
  obtain ⟨loop, here, owed, history⟩ := run
  cases here with
  | idle => exact holds
  | configured => exact holds.of_quiet [.replied _] rfl rfl isOpen rfl state (by simp [LoopRun.next])
  | started reply =>
    cases reply with
    | ready =>
      refine holds.of_quiet [.returned _] rfl rfl rfl rfl LoopState.noConfusion ?_
      simp [LoopRun.next, answerStart]
    | failed failure => cases endless
    | panicked text => exact holds.of_quiet [.returned _] rfl rfl isOpen rfl state rfl
  | notified => exact holds.of_quiet [.returned _] rfl rfl isOpen rfl state rfl
  | choosing pass batch =>
    cases batch with
    | nil =>
      simp only [LoopRun.next, finishPass]
      split
      · split
        · exact holds.of_quiet [] (List.append_nil _).symm rfl isOpen rfl state (by simp)
        · exact holds.of_quiet [.returned _] rfl rfl isOpen rfl state rfl
      · refine holds.of_quiet [.returned _] rfl rfl isOpen rfl LoopState.noConfusion ?_
        simp
    | cons task rest => exact holds.of_quiet [.begun task] rfl rfl isOpen rfl state rfl
  | running pass task acts rest =>
    cases acts with
    | cons act acts =>
      cases act with
      | notify | shutdown =>
        exact holds.of_quiet [] (List.append_nil _).symm rfl isOpen rfl state
          (by simp [LoopRun.next, perform])
      | endSession =>
        refine holds.of_quiet [] (List.append_nil _).symm rfl ?_ rfl state ?_
        · simpa [LoopRun.next, perform, EngineRoom.perform] using isOpen
        · simp [LoopRun.next, perform, EngineRoom.perform]
      | lookAtSession =>
        exact holds.of_quiet [] (List.append_nil _).symm rfl isOpen rfl state
          (by simp [LoopRun.next, perform, EngineRoom.perform])
      | queue use => exact holds.of_quiet [] (List.append_nil _).symm rfl isOpen rfl state rfl
    | nil =>
      simp only [LoopRun.next, judge]
      cases loop.verdict pass.inSession task with
      | goOn => exact holds.of_quiet [] (List.append_nil _).symm rfl isOpen rfl state rfl
      | sessionOver =>
        refine holds.of_quiet [] (List.append_nil _).symm rfl ?_ rfl state ?_
        · simpa [follow] using isOpen
        · simp [follow]
      | failed failure =>
        refine holds.of_quiet [.failed failure] rfl rfl isOpen rfl state ?_
        simp [follow]
      | panicked text => exact holds.of_quiet [.returned _] rfl rfl isOpen rfl state rfl
  | failing pass failure => cases endless
  | drawn outcome =>
    cases outcome with
    | proceed => exact holds.of_quiet [.returned _] rfl rfl isOpen rfl state rfl
    | stop => cases endless
  | closing answer => cases stage

/-- Tasks are offered to the queue. -/
theorem GoesOn.offer (holds : run.GoesOn) {offered : List (Task τ)} {loop : FrameLoop ε τ}
    (outside : run.loop.Offered offered loop) : (run.offer offered loop).GoesOn := by
  refine holds.of_quiet _ rfl (closings_submissions offered run) ?_ holds.stage ?_ outside.asked
  · exact outside.closed.trans holds.isOpen
  · exact outside.state ▸ holds.state

theorem GoesOn.takeBatch (holds : run.GoesOn) (drawing : Bool) : (run.takeBatch drawing).GoesOn :=
  holds.of_quiet [] (List.append_nil _).symm rfl holds.isOpen rfl holds.state rfl

/-- A hook returns at once, or begins. -/
theorem GoesOn.beginHook (holds : run.GoesOn) (entry : Entry) : (run.beginHook program entry).GoesOn := by
  have leaves : ∀ (notices : List Notice) (answer : Entry.Answer),
      (LoopRun.leave answer { run with loop := run.loop.report notices }).GoesOn := by
    intro notices answer
    exact holds.of_quiet [.returned answer] rfl rfl holds.isOpen rfl holds.state (by simp)
  have returns : ∀ answer : Entry.Answer, (run.leave answer).GoesOn := fun answer =>
    holds.of_quiet [.returned answer] rfl rfl holds.isOpen rfl holds.state rfl
  cases entry with
  | surfaceCreated thread =>
    cases state : run.loop.state <;> simp only [LoopRun.beginHook, state]
    case uninitialized =>
      refine holds.of_quiet [] (List.append_nil _).symm rfl ?_ rfl ?_ ?_
      · simpa using holds.isOpen
      · simp
      · simp
    case running =>
      refine holds.of_quiet [] (List.append_nil _).symm rfl holds.isOpen rfl holds.state ?_
      simp
    all_goals exact leaves _ _
  | surfaceChanged thread width height => exact leaves _ _
  | drawFrame thread =>
    cases state : run.loop.state <;> simp only [LoopRun.beginHook, state]
    case running => exact holds.takeBatch true
    all_goals exact returns _
  | deliverRest =>
    cases state : run.loop.state <;> simp only [LoopRun.beginHook, state]
    case running => exact holds.takeBatch false
    all_goals exact returns _

/-- The call of a hook. -/
theorem GoesOn.enter (holds : run.GoesOn) (entry : Entry) : (run.enter program entry).GoesOn := by
  refine enter_induction (P := GoesOn) (fun panic => ?_) fun owner => ?_
  · exact holds.of_quiet [.returned _] rfl rfl holds.isOpen rfl holds.state rfl
  · have entered : GoesOn { run with loop := { run.loop with owner } } := { holds with }
    exact entered.beginHook entry

/-! ### What one move does in each phase -/

/-- A loop goes on until it has a reason to end; then the next step of its thread closes the queue. -/
theorem GoesOn.step (program : Program ε τ) (holds : run.GoesOn) (move : Move τ) :
    (run.step program move).GoesOn ∨
      (move = .proceed ∧ run.owed = [] ∧ run.stage.endsLoop = true ∧ run.Closes program (run.step program move)) := by
  refine move_induction (P := fun after => after.GoesOn ∨ (move = .proceed ∧ run.owed = [] ∧
    run.stage.endsLoop = true ∧ run.Closes program after)) (fun _ => Or.inl holds) ?_ ?_ ?_
  · intro owed offered loop outside _ _
    have resumed : GoesOn { run with owed } := { holds with }
    exact Or.inl (resumed.offer outside)
  · exact fun entry _ _ => Or.inl (holds.enter entry)
  · intro own unowed
    cases ends : run.stage.endsLoop with
    | false => exact Or.inl (holds.next ends)
    | true => exact Or.inr ⟨own, unowed, rfl, closes_next ends unowed⟩

/-- What is offered to a closed queue changes nothing. -/
theorem still_offer (closed : run.loop.queue = ⟨[], true⟩) {offered : List (Task τ)}
    {loop : FrameLoop ε τ} (outside : run.loop.Offered offered loop) :
    run.Still (run.offer offered loop) ∧ (run.offer offered loop).loop.queue = ⟨[], true⟩ := by
  have isClosed : run.loop.queue.closed = true := by rw [closed]
  refine ⟨⟨outside.calls, ?_, ?_⟩, ?_⟩
  · simp only [LoopRun.offer, begun_append, begun_submissions, List.append_nil]
  · simp only [LoopRun.offer, accepted_append, accepted_submissions, if_pos isClosed, List.append_nil]
  · have tasks := outside.tasks
    have stays := outside.closed
    rw [closed] at tasks stays
    exact congrArg₂ Queue.mk tasks stays

theorem Shutting.offer (holds : run.Shutting) {offered : List (Task τ)} {loop : FrameLoop ε τ}
    (outside : run.loop.Offered offered loop) : (run.offer offered loop).Shutting where
  queue := (still_offer holds.queue outside).2
  stage := holds.stage
  state := outside.state ▸ holds.state
  closedOnce := by
    simp only [LoopRun.offer, closings_append, closings_submissions]
    exact holds.closedOnce
  unfinished := outside.asked.trans holds.unfinished

/-- Behind the closed queue nothing happens but the second half of the end. -/
theorem Shutting.step (program : Program ε τ) (holds : run.Shutting) (move : Move τ) :
    run.Still (run.step program move) ∧ ((run.step program move).Shutting ∨
      (move = .proceed ∧ run.owed = [] ∧ run.Concludes (run.step program move))) := by
  refine move_induction (P := fun after => run.Still after ∧ (after.Shutting ∨
    (move = .proceed ∧ run.owed = [] ∧ run.Concludes after)))
    (fun _ => ⟨Still.refl run, Or.inl holds⟩) ?_ ?_ ?_
  · intro owed offered loop outside _ _
    have resumed : Shutting { run with owed } := { holds with }
    obtain ⟨⟨calls, begins, accepts⟩, -⟩ := still_offer resumed.queue outside
    exact ⟨⟨calls, begins, accepts⟩, Or.inl (resumed.offer outside)⟩
  · intro entry _ idle
    have closing := holds.stage
    rw [idle] at closing
    cases closing
  · intro own unowed
    have concludes : run.Concludes (run.next program) := concludes_next holds.stage
    obtain ⟨answer, history⟩ := concludes.history
    refine ⟨⟨concludes.calls, ?_, ?_⟩, Or.inr ⟨own, unowed, concludes⟩⟩
    · rw [history, begun_append]
      exact List.append_nil _
    · rw [history, accepted_append]
      exact List.append_nil _

theorem Over.offer (holds : run.Over) {offered : List (Task τ)} {loop : FrameLoop ε τ}
    (outside : run.loop.Offered offered loop) : (run.offer offered loop).Over where
  queue := (still_offer holds.queue outside).2
  stage := holds.stage
  state := outside.state.trans holds.state
  session := by
    simp only [LoopRun.offer, outside.session]
    exact holds.session
  closedOnce := by
    simp only [LoopRun.offer, closings_append, closings_submissions]
    exact holds.closedOnce
  finishedOnce := outside.asked.trans holds.finishedOnce

theorem Over.leave (holds : run.Over) {loop : FrameLoop ε τ} (outside : run.loop.Offered [] loop)
    (answer : Entry.Answer) :
    run.Still (LoopRun.leave answer { run with loop }) ∧ (LoopRun.leave answer { run with loop }).Over := by
  obtain ⟨⟨calls, -, -⟩, queue⟩ := still_offer holds.queue outside
  have offered := holds.offer outside
  refine ⟨⟨calls, ?_, ?_⟩, ⟨queue, rfl, offered.state, offered.session, ?_, offered.finishedOnce⟩⟩
  · simp
  · simp
  · simpa using holds.closedOnce

/-- A hook of a loop that is over returns at once. -/
theorem Over.beginHook (program : Program ε τ) (holds : run.Over) (entry : Entry) :
    run.Still (run.beginHook program entry) ∧ (run.beginHook program entry).Over := by
  cases entry <;> simp only [LoopRun.beginHook, holds.state]
  · exact holds.leave (.report _ run.loop) _
  · exact holds.leave (.report _ run.loop) _
  · exact holds.leave (.refl run.loop) _
  · exact holds.leave (.refl run.loop) _

/-- When the loop is over, nothing happens any more. -/
theorem Over.step (program : Program ε τ) (holds : run.Over) (move : Move τ) :
    run.Still (run.step program move) ∧ (run.step program move).Over := by
  refine move_induction (P := fun after => run.Still after ∧ after.Over)
    (fun _ => ⟨Still.refl run, holds⟩) ?_ ?_ ?_
  · intro owed offered loop outside _ _
    have resumed : Over { run with owed } := { holds with }
    obtain ⟨⟨calls, begins, accepts⟩, -⟩ := still_offer resumed.queue outside
    exact ⟨⟨calls, begins, accepts⟩, resumed.offer outside⟩
  · intro entry _ _
    refine enter_induction (P := fun after => run.Still after ∧ after.Over)
      (fun panic => holds.leave (.refl run.loop) _) fun owner => ?_
    have entered : Over { run with loop := { run.loop with owner } } := { holds with }
    obtain ⟨⟨calls, begins, accepts⟩, isOver⟩ := entered.beginHook program entry
    exact ⟨⟨calls, begins, accepts⟩, isOver⟩
  · intro _ _
    simp only [next, holds.stage]
    exact ⟨Still.refl run, holds⟩

/-! ### What a schedule does in each phase -/

/-- Every schedule leads from one of the phases to one of them. -/
theorem phases_play (program : Program ε τ) (holds : run.GoesOn ∨ run.Shutting ∨ run.Over)
    (moves : List (Move τ)) :
    (run.play program moves).GoesOn ∨ (run.play program moves).Shutting ∨
      (run.play program moves).Over := by
  refine play_induction (P := fun run => run.GoesOn ∨ run.Shutting ∨ run.Over) holds ?_
  rintro run (goesOn | shutting | isOver) move -
  · rcases goesOn.step program move with still | ⟨-, -, -, closes⟩
    · exact Or.inl still
    · exact Or.inr (Or.inl (closes.shutting goesOn))
  · rcases (shutting.step program move).2 with still | ⟨-, -, concludes⟩
    · exact Or.inr (Or.inl still)
    · exact Or.inr (Or.inr (concludes.isOver shutting))
  · exact Or.inr (Or.inr (isOver.step program move).2)

theorem Over.play (holds : run.Over) (moves : List (Move τ)) : (run.play program moves).Over :=
  play_induction (P := Over) holds fun _ isOver move _ => (isOver.step program move).2

/-- Once the queue is closed, nothing is called, begun or accepted any more. -/
theorem still_play (closed : run.Shutting ∨ run.Over) (moves : List (Move τ)) :
    run.Still (run.play program moves) ∧
      ((run.play program moves).Shutting ∨ (run.play program moves).Over) := by
  refine play_induction (P := fun after => run.Still after ∧ (after.Shutting ∨ after.Over))
    ⟨Still.refl run, closed⟩ ?_
  rintro after ⟨still, shutting | isOver⟩ move -
  · obtain ⟨more, still' | ⟨-, -, concludes⟩⟩ := shutting.step program move
    · exact ⟨still.trans more, Or.inl still'⟩
    · exact ⟨still.trans more, Or.inr (concludes.isOver shutting)⟩
  · exact ⟨still.trans (isOver.step program move).1, Or.inr (isOver.step program move).2⟩

/-- A loop whose queue is closed is over once its thread has paid what it owes and taken one more step. -/
theorem over_of_shutting (holds : run.Shutting) {moves : List (Move τ)}
    (enough : run.owed.length < moves.countP Move.isProceed) : (run.play program moves).Over := by
  have busy : run.stage ≠ .idle := by
    intro idle
    have closing := holds.stage
    rw [idle] at closing
    cases closing
  obtain ⟨earlier, later, rfl, -, stage, unowed, -⟩ := reaches_next program busy enough
  have shutting : (run.play program earlier).Shutting := by
    rcases (still_play (Or.inl holds) earlier).2 with shutting | isOver
    · exact shutting
    · rw [isOver.stage] at stage
      exact absurd stage.symm busy
  have isOver : ((run.play program earlier).step program .proceed).Over := by
    simp only [step, unowed]
    exact (concludes_next shutting.stage).isOver shutting
  rw [play_append]
  exact isOver.play later

/-- **A loop with a reason to end is over** once its thread has taken so many steps, whatever the other
threads do. -/
theorem over_of_endsLoop (holds : run.GoesOn) (ends : run.stage.endsLoop = true) {moves : List (Move τ)}
    (enough : run.owed.length + 1 + (program.shutdown run.loop.engine).uses.length <
      moves.countP Move.isProceed) : (run.play program moves).Over := by
  have busy : run.stage ≠ .idle := by
    intro idle
    rw [idle] at ends
    cases ends
  have starts : run.owed.length < moves.countP Move.isProceed := by omega
  obtain ⟨earlier, later, rfl, count, stage, unowed, engine⟩ := reaches_next program busy starts
  rw [count] at enough
  -- On the way to the next step the loop is in its first phase: it stands where the end begins.
  have goesOn : (run.play program earlier).GoesOn := by
    rcases phases_play program (Or.inl holds) earlier with goesOn | shutting | isOver
    · exact goesOn
    · have closing := shutting.stage
      rw [stage, Stage.isClosing_of_endsLoop ends] at closing
      cases closing
    · rw [isOver.stage] at stage
      exact absurd stage.symm busy
  have closes : (run.play program earlier).Closes program
      ((run.play program earlier).step program .proceed) := by
    simp only [step, unowed]
    exact closes_next (stage ▸ ends) unowed
  have owes : ((run.play program earlier).step program .proceed).owed.length ≤
      (program.shutdown run.loop.engine).uses.length := by
    rw [closes.owed, engine]
    split
    · exact Nat.le_refl _
    · exact Nat.zero_le _
  rw [play_append]
  exact over_of_shutting (closes.shutting goesOn) (by omega)

/-! ### The reasons to end -/

/-- What the next step of the loop's thread finds is a reason to end: the engine does not start, a task of
the batch fails, or the engine draws a frame and wants to stop. -/
def Reason (program : Program ε τ) (loop : FrameLoop ε τ) : Stage τ → Prop
  | .configured => ∃ failure, (program.init loop.engine loop.config.launchArgs).reply = .failed failure
  | .running _ task [] _ => ∃ failure, task.ending = .failed failure
  | .choosing pass [] => loop.session.initialized = true ∧ pass.drawing = true ∧
      (program.render loop.engine).reply = .stop
  | _ => False

/-- The next step of the loop's thread finds a reason to end. -/
def FindsReason (program : Program ε τ) (run : LoopRun ε τ) : Prop :=
  run.owed = [] ∧ Reason program run.loop run.stage

/-- A reason that the next step finds is one to end. -/
theorem endsLoop_of_reason (finds : run.FindsReason program) :
    (run.step program .proceed).stage.endsLoop = true := by
  obtain ⟨loop, stage, owed, history⟩ := run
  obtain ⟨unowed, reason⟩ := finds
  cases unowed
  simp only [step, next]
  cases stage with
  | configured =>
    obtain ⟨failure, replied⟩ := reason
    simp only [call_frame, note_frame]
    rw [replied]
    rfl
  | running pass task acts rest =>
    cases acts with
    | nil =>
      obtain ⟨failure, ending⟩ := reason
      simp only [judge, EngineRoom.verdict, ending]
      rfl
    | cons act acts => cases reason
  | choosing pass batch =>
    cases batch with
    | nil =>
      obtain ⟨inSession, drawing, stops⟩ := reason
      simp only [finishPass]
      rw [if_pos inSession, if_pos drawing, stops]
      rfl
    | cons task rest => cases reason
  | idle | started | notified | failing | drawn | closing => cases reason

theorem reason_of_next (endless : run.stage.endsLoop = false)
    (ends : (run.next program).stage.endsLoop = true) : Reason program run.loop run.stage := by
  obtain ⟨loop, stage, owed, history⟩ := run
  unfold next at ends
  cases stage with
  | configured =>
    simp only [call_frame, note_frame] at ends
    cases replied : (program.init loop.engine loop.config.launchArgs).reply with
    | failed failure => exact ⟨failure, replied⟩
    | ready | panicked =>
      rw [replied] at ends
      cases ends
  | choosing pass batch =>
    cases batch with
    | cons task rest => cases ends
    | nil =>
      simp only [finishPass] at ends
      split at ends
      · rename_i inSession
        split at ends
        · rename_i drawing
          refine ⟨inSession, drawing, ?_⟩
          cases stops : (program.render loop.engine).reply with
          | stop => rfl
          | proceed =>
            simp only [call_frame, stops] at ends
            cases ends
        · cases ends
      · cases ends
  | running pass task acts rest =>
    cases acts with
    | cons act acts => cases act <;> cases ends
    | nil =>
      simp only [judge, EngineRoom.verdict] at ends
      cases ending : task.ending with
      | failed failure => exact ⟨failure, ending⟩
      | panicked text =>
        rw [ending] at ends
        cases ends
      | done =>
        rw [ending] at ends
        simp only at ends
        split at ends <;> cases ends
  | started reply =>
    cases reply with
    | failed failure => cases endless
    | ready | panicked => cases ends
  | drawn outcome =>
    cases outcome with
    | stop => cases endless
    | proceed => cases ends
  | failing pass failure => cases endless
  | idle | notified | closing => cases ends

/-- A loop that had no reason to end has one only because a step found it. -/
theorem reason_of_endsLoop {move : Move τ} (endless : run.stage.endsLoop = false)
    (ends : (run.step program move).stage.endsLoop = true) : move = .proceed ∧ run.FindsReason program := by
  revert ends
  refine move_induction (P := fun after => after.stage.endsLoop = true →
    move = .proceed ∧ run.FindsReason program) ?_ ?_ ?_ ?_
  · exact fun _ ends => absurd (endless.symm.trans ends) Bool.false_ne_true
  · exact fun owed offered loop _ _ _ ends => absurd (endless.symm.trans ends) Bool.false_ne_true
  · intro entry _ _
    refine enter_induction (P := fun after => after.stage.endsLoop = true → _)
      (fun panic ends => absurd ends Bool.false_ne_true) fun owner => ?_
    cases entry <;> cases state : run.loop.state <;> simp only [beginHook, state] <;>
      exact fun ends => absurd ends Bool.false_ne_true
  · exact fun own unowed ends => ⟨own, unowed, reason_of_next endless ends⟩

end Phases

end LoopRun

end EngineHost
