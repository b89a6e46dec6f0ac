/-
**A loop ends once, for good, and with all its tasks accounted for.**

* `Hook.submission?`, `Host.Refuses`: what the hooks of the system answer behind a closed queue, with
  `Host.refuses`;
* `LoopRun.EndsOnce`, `LoopRun.Final`, `LoopRun.NothingLost`: the end in its steps, what it leaves
  behind, and the account of the tasks;
* `LoopRun.ends_once_for_good`: all of this after every schedule.
-/

import EngineHost.Proofs.Ending

namespace EngineHost

variable {ε δ τ : Type}

/-! ### Hooks behind a closed queue -/

/-- What a hook answers that says whether its task was accepted. -/
def Hook.submission? (host : Host ε δ τ) : Hook → Option (Except HostFailure Unit)
  | .lifecycle state => some (host.lifecycle state).1
  | .input event => some (host.input event).1
  | .windowFocus focused => some (host.windowFocus focused).1
  | .lowMemory => some host.lowMemory.1
  | .keyboardLayout visibleHeight rootHeight => some (host.keyboardLayout visibleHeight rootHeight).1
  | .requestKeyboard _ | .keyboardResult _ | .settingsChanged | .geometry | .openDialog _
  | .answerDialog _ _ => none

/-- A host refuses every task, and every hook that would submit one says so; the answer to a dialog says
so in the journal. Nothing else comes of a hook. -/
structure Host.Refuses (services : Services δ) (host : Host ε δ τ) : Prop where
  submit : ∀ task, (host.submit task).1 = .error .noSession ∧ (host.submit task).2.loop.queue = ⟨[], true⟩
  hook : ∀ (hook : Hook) (task : Task τ), hook.task? host = some task →
    hook.submission? host = some (.error .noSession) ∨
      ∃ handle action outcome events, hook = .answerDialog handle action ∧
        task = Task.notify (.dialog outcome) ∧
        (hook.run services host).loop.journal = host.loop.journal ++ events ∧
        .notice (.outcomeUndelivered outcome) ∈ events
  still : ∀ hook : Hook, (hook.run services host).loop.queue = ⟨[], true⟩ ∧
    (hook.run services host).loop.state = host.loop.state ∧
    callsOf (hook.run services host).loop.journal = callsOf host.loop.journal ∧
    finishesOf (hook.run services host).loop.journal = finishesOf host.loop.journal

namespace Host

variable {host : Host ε δ τ}

/-- A closed queue refuses, and that is all. -/
theorem submit_of_closed (closed : host.loop.queue.closed = true) (task : Task τ) :
    host.submit task = (.error .noSession, host.report [.submissionRefused]) := by
  simp [submit, EngineRoom.submit, Queue.submit, closed]
  rfl

/-- An answer to a dialog that is not delivered is reported. -/
theorem deliverOutcome_of_closed (closed : host.loop.queue.closed = true) (outcome : Dialog.Outcome) :
    host.deliverOutcome outcome =
      (host.report [.submissionRefused]).report [.outcomeUndelivered outcome] := by
  unfold deliverOutcome notify
  rw [submit_of_closed closed]

theorem refuses (services : Services δ) (closed : host.loop.queue = ⟨[], true⟩) :
    host.Refuses services where
  submit task := by
    have isClosed : host.loop.queue.closed = true := by rw [closed]
    rw [submit_of_closed isClosed]
    exact ⟨rfl, closed⟩
  hook hook task submits := by
    have isClosed : host.loop.queue.closed = true := by rw [closed]
    cases hook with
    | lifecycle state =>
      left
      simp only [Hook.submission?, lifecycle]
      rw [submit_of_closed]
      exact isClosed
    | input event =>
      left
      simp only [Hook.submission?, input, notify]
      rw [submit_of_closed isClosed]
    | windowFocus focused =>
      left
      simp only [Hook.submission?, windowFocus, notify]
      rw [submit_of_closed]
      exact isClosed
    | lowMemory =>
      left
      simp only [Hook.submission?, lowMemory, notify]
      rw [submit_of_closed]
      exact isClosed
    | keyboardLayout visibleHeight rootHeight =>
      left
      obtain ⟨layout, measured, -⟩ := Option.map_eq_some_iff.mp submits
      simp only [Hook.submission?, keyboardLayout, measured, notify]
      rw [submit_of_closed isClosed]
    | answerDialog handle action =>
      right
      obtain ⟨outcome, decided, rfl⟩ := Option.map_eq_some_iff.mp submits
      rw [answerDialog_fst] at decided
      let told : List Event := [.notice .submissionRefused, .notice (.outcomeUndelivered outcome)]
      refine ⟨handle, action, outcome, told, rfl, rfl, ?_, List.mem_cons_of_mem _ List.mem_cons_self⟩
      simp only [Hook.run]
      rw [answerDialog_of_some decided, deliverOutcome_of_closed]
      · exact List.append_assoc _ _ _
      · exact isClosed
    | requestKeyboard | keyboardResult | settingsChanged | geometry | openDialog => cases submits
  still hook := by
    have outside := hook.offered_run services host
    have tasks := outside.tasks
    have stays := outside.closed
    rw [closed] at tasks stays
    exact ⟨congrArg₂ Queue.mk tasks stays, outside.state, outside.calls, outside.asked⟩

end Host

/-! ### The end, what it leaves behind, and the account -/

namespace LoopRun

/-- A loop ends once, in two steps of its thread. -/
structure EndsOnce (program : Program ε τ) (run : LoopRun ε τ) : Prop where
  /-- Only the three reasons make a loop end. -/
  reason : ∀ move, run.stage.endsLoop = false →
    ((run.step program move).stage.endsLoop = true ↔ move = .proceed ∧ run.FindsReason program)
  closes : run.stage.endsLoop = true → run.owed = [] → run.Closes program (run.step program .proceed)
  concludes : run.stage.isClosing = true → run.owed = [] →
    run.Concludes (run.step program .proceed)
  /-- Nothing else closes the queue. -/
  onlyThen : ∀ move, closings (run.step program move).history ≠ closings run.history →
    move = .proceed ∧ run.owed = [] ∧ run.stage.endsLoop = true
  /-- No other thread keeps the loop from its end. -/
  ends : run.stage.endsLoop = true → ∀ later : List (Move τ),
    run.owed.length + 1 + (program.shutdown run.loop.engine).uses.length < later.countP Move.isProceed →
      (run.play program later).Over
  once : closings run.history ≤ 1 ∧
    finishesOf run.loop.journal = if run.loop.state = .terminated then 1 else 0

/-- What a loop leaves behind stays as it is. -/
structure Final (program : Program ε τ) (run : LoopRun ε τ) : Prop where
  /-- Behind the closed queue no call is made, no task is begun, and every submission is refused; also
  one that the engine makes while it is shut down. -/
  still : closings run.history = 1 → ∀ later : List (Move τ),
    run.Still (run.play program later) ∧ (run.play program later).loop.queue = ⟨[], true⟩ ∧
      ∀ task, (run.play program later).submission task = .refused task
  isOver : run.loop.state = .terminated → ∀ later : List (Move τ), (run.play program later).Over ∧
    ∀ thread, (run.play program later).loop.Admits (.drawFrame thread) →
      ((run.play program later).loop.drawFrame program thread).1 = .ok .stop

/-- The tasks that a schedule of a loop from `start` on drops are accounted for. -/
structure NothingLost (program : Program ε τ) (start : LoopRun ε τ) (moves : List (Move τ)) : Prop where
  account : (start.play program moves).Accounted (start.dropped program moves)
  /-- When the loop is over, the tasks that were not begun are those that were dropped. -/
  atTheEnd : (start.play program moves).loop.state = .terminated →
    (accepted (start.play program moves).history).length =
      (begun (start.play program moves).history).length + (start.dropped program moves).length
  /-- A move that drops tasks says how many, unless a task panics. -/
  told : ∀ earlier move later, moves = earlier ++ move :: later →
    (start.play program earlier).drops move ≠ [] →
    (start.play program earlier).Tells ((start.play program earlier).step program move)
        ((start.play program earlier).drops move).length ∨
      ∃ text, ((start.play program earlier).step program move).history =
        (start.play program earlier).history ++ [.returned (.error (.raised text))]
  /-- A failed task is reported with its position in the batch that its hook found: so many of the batch
  ran before it, and all others are dropped. -/
  position : ∀ pass task rest failure, (start.play program moves).stage = .running pass task [] rest →
    (start.play program moves).owed = [] → task.ending = .failed failure →
    ∃ earlier entry later first, moves = earlier ++ .enter entry :: later ∧
      (start.play program earlier).stage = .idle ∧
      (start.play program earlier).loop.queue.tasks = first ++ task :: rest ∧
      begun (start.play program moves).history =
        begun (start.play program earlier).history ++ first ++ [task] ∧
      ((start.play program moves).step program .proceed).loop.journal =
        (start.play program moves).loop.journal ++ [.notice (.taskFailed (first.length + 1)
          (first ++ task :: rest).length rest.length failure)] ∧
      (start.play program moves).drops .proceed = rest

section Results

variable {program : Program ε τ} {run : LoopRun ε τ}

theorem endsOnce_of_phases (holds : run.GoesOn ∨ run.Shutting ∨ run.Over) : run.EndsOnce program where
  reason move endless :=
    ⟨reason_of_endsLoop endless, fun ⟨own, finds⟩ => own ▸ endsLoop_of_reason finds⟩
  closes ends unowed := by
    simp only [step, unowed]
    exact closes_next ends unowed
  concludes closing unowed := by
    simp only [step, unowed]
    exact concludes_next closing
  onlyThen move changes := by
    rcases holds with goesOn | shutting | isOver
    · rcases goesOn.step program move with still | ⟨own, unowed, ends, -⟩
      · exact absurd (still.unclosed.trans goesOn.unclosed.symm) changes
      · exact ⟨own, unowed, ends⟩
    · have once : closings (run.step program move).history = 1 := by
        rcases (shutting.step program move).2 with still | ⟨-, -, concludes⟩
        · exact still.closedOnce
        · exact (concludes.isOver shutting).closedOnce
      exact absurd (once.trans shutting.closedOnce.symm) changes
    · exact absurd ((isOver.step program move).2.closedOnce.trans isOver.closedOnce.symm) changes
  ends ends later enough := by
    rcases holds with goesOn | shutting | isOver
    · exact over_of_endsLoop goesOn ends enough
    · have closing := shutting.stage
      rw [Stage.isClosing_of_endsLoop ends] at closing
      cases closing
    · rw [isOver.stage] at ends
      cases ends
  once := by
    rcases holds with goesOn | shutting | isOver
    · rw [goesOn.unclosed, goesOn.unfinished, if_neg goesOn.state]
      exact ⟨Nat.zero_le 1, rfl⟩
    · rw [shutting.closedOnce, shutting.unfinished, if_neg shutting.state]
      exact ⟨Nat.le_refl 1, rfl⟩
    · rw [isOver.closedOnce, isOver.finishedOnce, if_pos isOver.state]
      exact ⟨Nat.le_refl 1, rfl⟩

/-- The owner of a loop that is over learns that there is nothing more to draw. -/
theorem drawFrame_of_terminated (program : Program ε τ) {loop : FrameLoop ε τ}
    (isOver : loop.state = .terminated) {thread : ThreadId} (admitted : loop.Admits (.drawFrame thread)) :
    (loop.drawFrame program thread).1 = .ok .stop := by
  unfold FrameLoop.drawFrame
  rw [FrameLoop.enter_of_admits admitted rfl]
  simp only [isOver]

theorem final_of_phases (holds : run.GoesOn ∨ run.Shutting ∨ run.Over) : run.Final program where
  still closed later := by
    have behind : run.Shutting ∨ run.Over := by
      rcases holds with goesOn | behind
      · rw [goesOn.unclosed] at closed
        cases closed
      · exact behind
    obtain ⟨still, phase⟩ := still_play behind later
    have queue : (run.play program later).loop.queue = ⟨[], true⟩ := phase.elim Shutting.queue Over.queue
    refine ⟨still, queue, fun task => ?_⟩
    rw [submission_eq, queue]
    rfl
  isOver terminated later := by
    have isOver : (run.play program later).Over := by
      rcases holds with goesOn | shutting | isOver
      · exact absurd terminated goesOn.state
      · exact absurd terminated shutting.state
      · exact isOver.play later
    exact ⟨isOver, fun thread admitted => drawFrame_of_terminated program isOver.state admitted⟩

theorem nothingLost (program : Program ε τ) (engine : ε) (config : Config) (moves : List (Move τ)) :
    NothingLost program (start engine config) moves := by
  have opening : Accounted [] (start engine config : LoopRun ε τ) := List.Perm.refl []
  have account := opening.play program moves
  rw [List.nil_append] at account
  refine ⟨account, fun terminated => ?_, ?_, ?_⟩
  · have isOver : ((start engine config).play program moves).Over := by
      rcases phases_play program (Or.inl (goesOn_start engine config)) moves with
        goesOn | shutting | isOver
      · exact absurd terminated goesOn.state
      · exact absurd terminated shutting.state
      · exact isOver
    have all := account.length_eq
    rw [isOver.stage, isOver.queue] at all
    simpa [Stage.inHand] using all
  · intro earlier move later _ some
    exact tells_of_step program _ some
  · intro pass task rest failure stage unowed ending
    obtain ⟨earlier, entry, later, first, split, idle, batch, ran, begins⟩ := running_in_batch rfl stage
    refine ⟨earlier, entry, later, first, split, idle, batch, begins, ?_, ?_⟩
    · have total : pass.ran + 1 + rest.length = (first ++ task :: rest).length := by
        rw [List.length_append, List.length_cons, ran]
        omega
      simp only [step, unowed, next, stage]
      rw [journal_failed ending, total, ran]
    · simp [drops, unowed, stage, Stage.drops, ending]

/-- **A loop ends once, for good, and with all its tasks accounted for**, whatever its engine and its
tasks do and whenever other threads submit: it ends for three reasons only, the queue is closed before
the engine is shut down, nothing happens afterwards but refusals, and every task that is dropped is
reported. -/
theorem ends_once_for_good (program : Program ε τ) (engine : ε) (config : Config) (moves : List (Move τ))
    (services : Services δ) (memory : Memory) (device : δ) :
    let run := (start engine config).play program moves
    run.EndsOnce program ∧ run.Final program ∧ NothingLost program (start engine config) moves ∧
      (closings run.history = 1 → ∀ later : List (Move τ),
        (⟨(run.play program later).loop, memory, device⟩ : Host ε δ τ).Refuses services) := by
  intro run
  have phase : run.GoesOn ∨ run.Shutting ∨ run.Over :=
    phases_play program (Or.inl (goesOn_start engine config)) moves
  have final : run.Final program := final_of_phases phase
  refine ⟨endsOnce_of_phases phase, final, nothingLost program engine config moves, fun closed later => ?_⟩
  obtain ⟨-, queue, -⟩ := final.still closed later
  exact Host.refuses services queue

end Results

/-- The second of three tasks fails in a frame, while another thread submits a fourth one. -/
def droppingSchedule : List (Move Unit) :=
  [.enter (.surfaceCreated 0), .proceed, .proceed, .submit (Task.notify .lowMemory),
    .submit { acts := [], ending := .failed ⟨"the device is lost"⟩ },
    .submit (Task.notify (.windowFocus true)), .enter (.drawFrame 0), .proceed, .proceed, .proceed, .proceed,
    .submit (Task.notify .lowMemory), .proceed, .proceed, .proceed]

/-- The desktop's engine through that schedule. -/
def droppingRun : LoopRun Desktop.Engine Unit :=
  (start {} {}).play (Desktop.program fun _ => Task.endActivity) droppingSchedule

/-- The host around that run. -/
def droppingHost : Host Desktop.Engine Desktop.Window Unit :=
  let host : Host Desktop.Engine Desktop.Window Unit := Host.create {} {} {} {}
  { host with loop := droppingRun.loop }

/-- Two tasks were begun and two were dropped, one of them behind the failed task and one by the close of
the queue. -/
theorem droppingRun_ends :
    droppingRun.loop.state = .terminated ∧ finishesOf droppingRun.loop.journal = 1 ∧
      (accepted droppingRun.history).length = (begun droppingRun.history).length + 2 ∧
      begun droppingRun.history = [Task.notify .lowMemory,
        { acts := [], ending := .failed ⟨"the device is lost"⟩ }] ∧
      (droppingRun.loop.drawFrame (Desktop.program fun _ => Task.endActivity) 0).1 = .ok .stop ∧
      ∀ task, (droppingHost.submit task).1 = .error .noSession := by
  obtain ⟨once, final, lost, refuses⟩ := ends_once_for_good (Desktop.program fun _ : Unit => Task.endActivity)
    {} {} droppingSchedule Desktop.services droppingHost.memory droppingHost.device
  have terminated : droppingRun.loop.state = .terminated := rfl
  have closed : closings droppingRun.history = 1 := rfl
  have admitted : droppingRun.loop.Admits (.drawFrame 0) := by
    rintro thread ⟨⟩ owner ⟨⟩
    rfl
  refine ⟨terminated, once.once.2, lost.atTheEnd terminated, rfl, (final.isOver terminated []).2 0 admitted,
    fun task => ?_⟩
  exact ((refuses closed []).submit task).1

end LoopRun

end EngineHost
