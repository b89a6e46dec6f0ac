/-
**What was accepted before a signal was sent comes before the signal.**

* `LoopRun.drawn_after_tasks`, `LoopRun.worked_off_at_end`: what the hook of a signal comes to;
* `ThreadRun.Leaving`, `ThreadRun.handled_in_time`: a thread that was asked to end does so;
* `ThreadRun.Sound`: what holds of a thread whose tasks do not panic;
* `ThreadRun.tasks_before_signals`: tasks that were accepted before a signal was sent are delivered before
  the frame that it asks for, and before the thread ends on request.

A schedule is any list of moves, so that it does not matter which thread submits and which one sends.
-/

import EngineHost.Desktop.Engine
import EngineHost.Proofs.FrameBoundary
import EngineHost.Proofs.RenderThread

namespace EngineHost

variable {ε τ : Type}

/-! ### Hooks that deliver -/

/-- A task that does not panic and stops its batch has failed or ends the session. -/
theorem Task.Calm.failed_or_ends {task : Task τ} (calm : task.Calm) (stops : task.stops = true) :
    (∃ failure, task.ending = .failed failure) ∨ task.endsSession = true := by
  cases ending : task.ending with
  | failed failure => exact Or.inl ⟨failure, rfl⟩
  | panicked text => exact absurd ending (calm text)
  | done =>
    refine Or.inr ?_
    simpa [Task.stops, ending] using stops

namespace LoopRun

variable {program : Program ε τ} {run : LoopRun ε τ}

/-- Between two hooks other threads may submit, and nothing else happens. -/
theorem idle_play (idle : run.stage = .idle) (unowed : run.owed = []) {moves : List (Move τ)}
    (inner : Inner moves) : callsOf (run.play program moves).loop.journal = callsOf run.loop.journal := by
  have quiet : (run.play program moves).stage = .idle ∧ (run.play program moves).owed = [] ∧
      callsOf (run.play program moves).loop.journal = callsOf run.loop.journal := by
    refine inner_play_induction (P := fun after => after.stage = .idle ∧ after.owed = [] ∧
      callsOf after.loop.journal = callsOf run.loop.journal) inner ⟨idle, unowed, rfl⟩ ?_
    rintro between ⟨idle, unowed, calls⟩ move still
    cases move with
    | submit task => exact ⟨idle, unowed, (FrameLoop.Offered.submit task between.loop).calls.trans calls⟩
    | report notices => exact ⟨idle, unowed, (FrameLoop.Offered.report notices between.loop).calls.trans calls⟩
    | enter => cases still
    | proceed =>
      have stays : between.step program .proceed = between := by simp only [step, unowed, next, idle]
      rw [stays]
      exact ⟨idle, unowed, calls⟩
  exact quiet.2.2

/-- A hook that has nothing to deliver returns at once. -/
theorem returns_at_once (program : Program ε τ) {entry : Entry} {drawing : Bool}
    (delivers : entry.delivers? = some drawing)
    (nothing : ¬ (run.loop.state = .running ∧ run.loop.Admits entry)) :
    ∃ loop answer, run.enter program entry = LoopRun.leave answer { run with loop } ∧
      callsOf loop.journal = callsOf run.loop.journal := by
  by_cases admitted : run.loop.Admits entry
  · obtain ⟨owner, entered⟩ := enter_admitted program admitted
    have still : run.loop.state ≠ .running := fun running => nothing ⟨running, admitted⟩
    rw [entered]
    cases entry with
    | drawFrame | deliverRest =>
      cases state : run.loop.state with
      | running => exact absurd state still
      | uninitialized | initializing | terminated =>
        simp only [beginHook, state]
        exact ⟨_, _, rfl, rfl⟩
    | surfaceCreated | surfaceChanged => cases delivers
  · cases entry with
    | drawFrame thread =>
      rcases run.loop.enter_cases thread with ⟨free, -⟩ | ⟨-, -, -, entered⟩
      · refine absurd (fun other on owner owned => ?_) admitted
        cases on
        exact free owner owned
      · refine ⟨run.loop, .error .foreignThread, ?_, rfl⟩
        simp only [enter, Entry.thread?, entered]
    | deliverRest =>
      refine absurd (fun thread on => ?_) admitted
      cases on
    | surfaceCreated | surfaceChanged => cases delivers

/-- A frame is drawn only by a hook that draws, once, and when all that was accepted before the hook has been
begun. -/
theorem drawn_after_tasks (conserved : run.Conserved) (consistent : run.Consistent)
    (idle : run.stage = .idle) (unowed : run.owed = []) {entry : Entry} {drawing : Bool}
    (delivers : entry.delivers? = some drawing) {moves : List (Move τ)} (inner : Inner moves) :
    ∃ made, callsOf ((run.enter program entry).play program moves).loop.journal =
        callsOf run.loop.journal ++ made ∧
      (.render ∈ made → drawing = true ∧
        begun ((run.enter program entry).play program moves).history = accepted run.history ∧
        ∃ ends, made = run.loop.queue.tasks.flatMap Task.calls ++ .render :: ends ∧ .render ∉ ends) := by
  by_cases delivering : run.loop.state = .running ∧ run.loop.Admits entry
  · obtain ⟨running, admitted⟩ := delivering
    have fits := consistent.fits
    rw [idle] at fits
    obtain ⟨progress, holds⟩ := (underway_enter program running (fits.1.mp running) delivers admitted).play inner
    obtain ⟨-, drawn⟩ := holds.so_far
    refine ⟨progress.made, holds.calls, fun drew => ?_⟩
    obtain ⟨draws, whole, once⟩ := drawn drew
    refine ⟨draws, ?_, once⟩
    rw [holds.ran, whole, conserved.waiting consistent idle running]
  · obtain ⟨loop, answer, left, same⟩ := returns_at_once program delivers delivering
    have returned : (LoopRun.leave answer { run with loop }).stage = .idle := rfl
    refine ⟨[], ?_, nofun⟩
    rw [left, List.append_nil]
    exact (idle_play returned unowed inner).trans same

/-- When the delivery of the rest has returned, the batch was worked off. -/
theorem worked_off_at_end (consistent : run.Consistent) (idle : run.stage = .idle)
    (running : run.loop.state = .running) {moves : List (Move τ)} (inner : Inner moves)
    (returned : ((run.enter program .deliverRest).play program moves).stage = .idle) :
    begun ((run.enter program .deliverRest).play program moves).history =
      begun run.history ++ workedOff run.loop.queue.tasks := by
  have fits := consistent.fits
  rw [idle] at fits
  have admitted : run.loop.Admits .deliverRest := nofun
  obtain ⟨progress, holds⟩ := (underway_enter program running (fits.1.mp running) rfl admitted).play inner
  rw [holds.ran, holds.worked returned]

end LoopRun

namespace ThreadRun

section Steps

variable {program : Program ε τ} {state : ThreadRun ε τ}

/-! ### The end of a thread on request -/

/-- The thread handles the request to end, or it has ended. -/
def Leaving (state : ThreadRun ε τ) : Prop :=
  state.phase = .handling .shutdown ∨ ∃ ending, state.phase = .ended ending

/-- A thread that is leaving calls no hook any more. -/
theorem Leaving.step (program : Program ε τ) (holds : state.Leaving) (move : ThreadMove τ) :
    (state.step program move).Leaving ∧ (state.step program move).handled = state.handled := by
  have busy : state.phase ≠ .waiting ∧ ∀ signal, state.phase ≠ .received signal := by
    rcases holds with handling | ⟨ending, ended⟩
    · rw [handling]
      exact ⟨nofun, nofun⟩
    · rw [ended]
      exact ⟨nofun, nofun⟩
  refine step_induction (P := fun after => after.Leaving ∧ after.handled = state.handled) ⟨holds, rfl⟩
    (fun _ _ _ _ => ⟨holds, rfl⟩) (fun _ _ => ⟨holds, rfl⟩) ⟨holds, rfl⟩
    (fun _ _ phase _ => absurd phase busy.1) (fun signal phase => absurd phase (busy.2 signal)) ?_
    (fun phase => absurd phase busy.1)
  intro signal phase _
  rcases holds with handling | ⟨ending, ended⟩
  · rw [phase] at handling
    cases handling
    rcases Signal.shutdown.follow_phase state.run.loop state.answer with ⟨-, other⟩ | ends
    · exact absurd rfl other
    · exact ⟨Or.inr ends, rfl⟩
  · rw [phase] at ended
    cases ended

theorem Leaving.play (program : Program ε τ) (holds : state.Leaving) (moves : List (ThreadMove τ)) :
    (state.play program moves).Leaving ∧ (state.play program moves).handled = state.handled := by
  induction moves generalizing state with
  | nil => exact ⟨holds, rfl⟩
  | cons move moves ih =>
    obtain ⟨leaving, same⟩ := holds.step program move
    obtain ⟨stays, still⟩ := ih leaving
    exact ⟨stays, still.trans same⟩

/-- A signal has been handled as soon as its hook has returned and the thread takes one more step. -/
theorem handled_in_time {signal : Signal} (handling : state.phase = .handling signal) {bound : Nat}
    (returns : ∀ inner : List (Move τ), Inner inner → bound ≤ inner.countP Move.isProceed →
      (state.run.play program inner).stage = .idle) {moves : List (ThreadMove τ)}
    (enough : bound < moves.countP ThreadMove.isProceed) :
    ∃ earlier later, moves = earlier ++ later ∧ (state.play program earlier).phase.handling? = none := by
  induction moves generalizing state bound with
  | nil => exact absurd enough (Nat.not_lt_zero bound)
  | cons move moves ih =>
    -- What another thread does leaves the steps of the hook as they are.
    have outside : ∀ inner : Move τ, inner.isEnter = false → inner.isProceed = false →
        bound < moves.countP ThreadMove.isProceed →
        ∃ earlier later, moves = earlier ++ later ∧ (ThreadRun.play program earlier
          { state with run := state.run.step program inner }).phase.handling? = none := by
      intro inner enters other enough
      refine ih handling (fun rest innerRest count => ?_) enough
      refine returns (inner :: rest) (List.forall_mem_cons.mpr ⟨enters, innerRest⟩) ?_
      rw [List.countP_cons_of_neg (by rw [other]; exact Bool.false_ne_true)]
      exact count
    cases move with
    | submit task =>
      obtain ⟨earlier, later, rfl, isOver⟩ := outside (.submit task) rfl rfl enough
      exact ⟨.submit task :: earlier, later, rfl, isOver⟩
    | report notices =>
      obtain ⟨earlier, later, rfl, isOver⟩ := outside (.report notices) rfl rfl enough
      exact ⟨.report notices :: earlier, later, rfl, isOver⟩
    | send other =>
      obtain ⟨run, phase⟩ := send_frame other state
      obtain ⟨earlier, later, rfl, isOver⟩ := ih (phase.trans handling) (run ▸ returns) enough
      exact ⟨.send other :: earlier, later, rfl, isOver⟩
    | hangUp =>
      have still : (state.step program .hangUp).phase = .handling signal := handling
      obtain ⟨earlier, later, rfl, isOver⟩ := ih still returns enough
      exact ⟨.hangUp :: earlier, later, rfl, isOver⟩
    | proceed =>
      by_cases idle : state.run.stage = .idle
      · refine ⟨[.proceed], moves, rfl, ?_⟩
        show (state.proceed program).phase.handling? = none
        simp only [proceed, handling, idle]
        rcases signal.follow_phase state.run.loop state.answer with ⟨waits, -⟩ | ⟨ending, ends⟩
        · simp only [finish, waits, ThreadPhase.handling?]
        · simp only [finish, ends, ThreadPhase.handling?]
      · have stepped := step_of_busy program handling idle
        have still : (state.step program .proceed).phase = .handling signal := by rw [stepped, handling]
        cases bound with
        | zero => exact absurd (returns [] (List.forall_mem_nil _) (Nat.le_refl 0)) idle
        | succ bound =>
          have onward : ∀ inner : List (Move τ), Inner inner → bound ≤ inner.countP Move.isProceed →
              ((state.step program .proceed).run.play program inner).stage = .idle := by
            intro inner innerMoves count
            rw [stepped]
            refine returns (.proceed :: inner) (List.forall_mem_cons.mpr ⟨rfl, innerMoves⟩) ?_
            rw [List.countP_cons_of_pos rfl]
            exact Nat.succ_le_succ count
          rw [List.countP_cons_of_pos rfl] at enough
          obtain ⟨earlier, later, rfl, isOver⟩ := ih still onward (Nat.lt_of_succ_lt_succ enough)
          exact ⟨.proceed :: earlier, later, rfl, isOver⟩

/-! ### Signals and tasks -/

/-- What holds of a thread whose tasks do not panic. -/
structure Sound (state : ThreadRun ε τ) : Prop where
  orderly : state.Orderly
  conserved : state.run.Conserved
  consistent : state.run.Consistent
  calm : ∀ task ∈ state.run.tasks, task.Calm
  rested : state.run.Rested

/-- A thread is sound as long as nobody submits a task that panics. -/
theorem sound_play (calmJobs : ∀ job, (program.task job).Calm) (engine : ε) (config : Config)
    {before : List (Move τ)} (calmBefore : ∀ task, .submit task ∈ before → task.Calm)
    (idle : ((LoopRun.start engine config).play program before).stage = .idle) (thread : ThreadId)
    {moves : List (ThreadMove τ)} (calmMoves : ∀ task, .submit task ∈ moves → task.Calm) :
    ((spawn thread ((LoopRun.start engine config).play program before)).play program moves).Sound := by
  let loop := (LoopRun.start engine config).play program before
  obtain ⟨inner, runs, submits, -⟩ := play_run program (spawn thread loop) moves
  have whole : ((spawn thread loop).play program moves).run =
      (LoopRun.start engine config).play program (before ++ inner) := by
    rw [runs, LoopRun.play_append]
    rfl
  have calmAll : ∀ task, .submit task ∈ before ++ inner → task.Calm := by
    intro task member
    rcases List.mem_append.mp member with old | new
    · exact calmBefore task old
    · exact calmMoves task (submits task new)
  obtain ⟨⟨conserved, consistent⟩, calm⟩ := LoopRun.conserved_play calmJobs engine config calmAll
  rw [← whole] at conserved consistent calm
  refine ⟨(orderly_spawn idle thread).play moves, conserved, consistent, calm, ?_⟩
  rw [whole]
  exact LoopRun.rested_play (fun _ => rfl) _

/-- A signal that is sent while the thread goes on is received in its turn. -/
theorem next_in_turn {due : ThreadRun ε τ} {signal next : Signal} (orderly : due.Orderly)
    (grows : (state.step program (.send signal)).Grows due) (phase : due.phase = .received next)
    (position : due.handled.length = state.sent.length) : next = signal := by
  have fifo := orderly.fifo
  rw [phase] at fifo
  have connected : state.connected = true := by
    cases cut : state.connected with
    | true => rfl
    | false =>
      -- Nothing can be sent any more, and yet one more signal was received.
      have unsent : state.step program (.send signal) = state := by
        simp only [step, send, cut, Bool.false_and, Bool.false_eq_true, if_false]
      rw [unsent] at grows
      rw [(grows.cut cut).2] at fifo
      have length := congrArg List.length fifo
      rw [List.length_append, position] at length
      exact absurd length (by simp)
  have goesOn : state.phase.ending? = none := by
    cases ending : state.phase with
    | ended reason =>
      have same : (state.step program (.send signal)).phase = .ended reason :=
        (send_frame signal state).2.trans ending
      rw [grows.ended reason same] at phase
      cases phase
    | waiting | received | handling => rfl
  obtain ⟨later, sends⟩ := grows.sent
  have sent : (state.step program (.send signal)).sent = state.sent ++ [signal] := by
    simp only [step, send, connected, goesOn, Option.isNone_none, Bool.and_self, if_true]
  rw [← sends, sent, List.append_assoc] at fifo
  obtain ⟨-, rest⟩ := List.append_inj fifo position.symm
  exact (List.cons.inj rest).1.symm

/-- What was accepted stays so. -/
theorem isPrefix_accepted (program : Program ε τ) (state : ThreadRun ε τ) (moves : List (ThreadMove τ)) :
    accepted state.run.history <+: accepted (state.play program moves).run.history := by
  obtain ⟨inner, runs, -, -⟩ := play_run program state moves
  rw [runs]
  exact (LoopRun.isPrefix_history_play program inner state.run).filterMap _

/-- The hook of a signal is called on the loop as the thread finds it, behind what the thread reports. -/
theorem call_received (program : Program ε τ) {signal : Signal} (phase : state.phase = .received signal)
    (idle : state.run.stage = .idle) :
    (state.step program .proceed).phase = .handling signal ∧ (state.step program .proceed).run =
      (state.run.step program (.report signal.announces)).enter program (signal.entry state.thread) := by
  have called : state.step program .proceed = state.call program signal := by
    simp only [step, proceed, phase]
  rw [called]
  refine ⟨rfl, ?_⟩
  simp only [call, LoopRun.step, idle]

namespace Sound

variable {signal : Signal} {later : List (ThreadMove τ)}

/-- The loop between two hooks, as the next one finds it. -/
theorem idle (sound : state.Sound) (phase : state.phase = .received signal) : state.run.stage = .idle :=
  sound.orderly.between (by rw [phase]; rfl)

/-- What the thread reports leaves the account of its loop as it is. -/
theorem report (program : Program ε τ) (sound : state.Sound) (notices : List Notice) :
    (state.run.step program (.report notices)).Conserved ∧
      (state.run.step program (.report notices)).Consistent :=
  ⟨sound.conserved.step sound.consistent sound.calm _, sound.consistent.step sound.calm _⟩

/-- A frame is drawn on a signal that asks for one, once, and when all that was accepted before the hook has
been begun. -/
theorem drawn (sound : state.Sound) (phase : state.phase = .received signal) {drawing : Bool}
    (delivers : (signal.entry state.thread).delivers? = some drawing)
    (same : ((state.step program .proceed).play program later).handled =
      (state.step program .proceed).handled) :
    ∃ made, callsOf ((state.step program .proceed).play program later).run.loop.journal =
        callsOf state.run.loop.journal ++ made ∧
      (.render ∈ made → drawing = true ∧
        begun ((state.step program .proceed).play program later).run.history = accepted state.run.history ∧
        ∃ ends, made = state.run.loop.queue.tasks.flatMap Task.calls ++ .render :: ends ∧ .render ∉ ends) := by
  obtain ⟨-, called⟩ := call_received program phase (sound.idle phase)
  obtain ⟨inner, runs, -, calls⟩ := play_run program (state.step program .proceed) later
  obtain ⟨conserved, consistent⟩ := sound.report program signal.announces
  obtain ⟨made, grows, drew⟩ := LoopRun.drawn_after_tasks conserved consistent (sound.idle phase)
    (sound.rested (sound.idle phase)) delivers (calls same)
  rw [runs, called]
  refine ⟨made, grows.trans ?_, drew⟩
  exact congrArg (· ++ made) (FrameLoop.Offered.report signal.announces state.run.loop).calls

/-- A request to end ends the thread within a bound of steps of its own. -/
theorem ends (sound : state.Sound) (phase : state.phase = .received .shutdown) :
    ∃ bound, ∀ later : List (ThreadMove τ), bound ≤ later.countP ThreadMove.isProceed →
      ∃ ending, ((state.step program .proceed).play program later).phase = .ended ending := by
  obtain ⟨handling, called⟩ := call_received program phase (sound.idle phase)
  obtain ⟨bound, returns⟩ := LoopRun.returns_among_others program (Signal.shutdown.entry state.thread)
    (show (state.run.step program (.report Signal.shutdown.announces)).stage = .idle from sound.idle phase)
    (sound.rested (sound.idle phase))
  rw [← called] at returns
  refine ⟨bound + 1, fun later enough => ?_⟩
  obtain ⟨first, rest, rfl, isOver⟩ := handled_in_time handling returns (Nat.lt_of_succ_le enough)
  have leaving : (state.step program .proceed).Leaving := Or.inl handling
  rw [play_append]
  rcases (leaving.play program first).1 with still | ⟨ending, ended⟩
  · rw [still] at isOver
    cases isOver
  · exact ⟨ending, (grows_play program _ rest).ended ending ended⟩

/-- When the thread has ended on request, a running loop has begun all that was accepted before, up to a task
that failed or ended the session. -/
theorem delivered (sound : state.Sound) (phase : state.phase = .received .shutdown)
    (running : state.run.loop.state = .running) {ending : ThreadEnd}
    (ended : ((state.step program .proceed).play program later).phase = .ended ending) :
    begun ((state.step program .proceed).play program later).run.history = accepted state.run.history ∨
      ∃ first last rest, state.run.loop.queue.tasks = first ++ last :: rest ∧
        ((∃ failure, last.ending = .failed failure) ∨ last.endsSession = true) ∧
        begun ((state.step program .proceed).play program later).run.history =
          begun state.run.history ++ (first ++ [last]) := by
  obtain ⟨handling, called⟩ := call_received program phase (sound.idle phase)
  obtain ⟨inner, runs, -, calls⟩ := play_run program (state.step program .proceed) later
  have leaving : (state.step program .proceed).Leaving := Or.inl handling
  have returned : ((state.step program .proceed).play program later).run.stage = .idle :=
    ((sound.orderly.step .proceed).play later).between (by rw [ended]; rfl)
  rw [runs, called, show Signal.shutdown.entry state.thread = .deliverRest from rfl] at returned ⊢
  obtain ⟨-, consistent⟩ := sound.report program Signal.shutdown.announces
  have inside : Inner inner := calls (leaving.play program later).2
  rw [LoopRun.worked_off_at_end consistent (sound.idle phase) running inside returned]
  let batch := state.run.loop.queue.tasks
  cases stops : batch.find? Task.stops with
  | none =>
    have goesOn : ∀ task ∈ batch, task.stops = false := fun task member =>
      Bool.eq_false_iff.mpr (List.find?_eq_none.mp stops task member)
    refine Or.inl ?_
    rw [sound.conserved.waiting sound.consistent (sound.idle phase) running]
    exact congrArg (begun state.run.history ++ ·) (workedOff_of_goesOn goesOn).1
  | some last =>
    refine Or.inr ?_
    obtain ⟨its, first, rest, split, ahead⟩ := List.find?_eq_some_iff_append.mp stops
    have goesOn : ∀ task ∈ first, task.stops = false := fun task member => by
      simpa using ahead task member
    have waits : last ∈ state.run.tasks := by
      refine List.mem_append_right _ ?_
      show last ∈ batch
      rw [split]
      exact List.mem_append_right _ List.mem_cons_self
    refine ⟨first, last, rest, split, (sound.calm last waits).failed_or_ends its, ?_⟩
    rw [← (workedOff_of_stops rest goesOn its).1, ← split]
    rfl

end Sound

end Steps

/-- **What was accepted before a signal was sent comes before the signal.** Other threads submit tasks and send
signals at any time, and it does not matter which of them did which. A frame that is drawn on a signal is drawn
once, after every task that was accepted before that signal was sent; each of those was begun exactly once. A
request to end is the last signal that is handled: the thread ends, no frame follows, and a loop that is
running has begun every task that was accepted before the request was sent, unless a task of the last batch
failed or ended the session, behind which the batch does not go on. -/
theorem tasks_before_signals {program : Program ε τ} (calmJobs : ∀ job, (program.task job).Calm) (engine : ε)
    (config : Config) (before : List (Move τ)) (calmBefore : ∀ task, .submit task ∈ before → task.Calm)
    (thread : ThreadId) (earlier meanwhile : List (ThreadMove τ))
    (calmMoves : ∀ task, .submit task ∈ earlier ++ meanwhile → task.Calm) (signal next : Signal) :
    let loop := (LoopRun.start engine config).play program before
    let sent := (spawn thread loop).play program earlier
    let due := (sent.step program (.send signal)).play program meanwhile
    let called := due.step program .proceed
    loop.stage = .idle → due.phase = .received next → due.handled.length = sent.sent.length →
    next = signal ∧
    (signal = .drawFrame → ∀ later : List (ThreadMove τ),
      let now := called.play program later
      now.handled = called.handled →
      ∃ made, callsOf now.run.loop.journal = callsOf due.run.loop.journal ++ made ∧
        (.render ∈ made → accepted sent.run.history <+: begun now.run.history ∧
          begun now.run.history = accepted due.run.history ∧
          ∃ ends, made = due.run.loop.queue.tasks.flatMap Task.calls ++ .render :: ends ∧ .render ∉ ends)) ∧
    (signal = .shutdown →
      (∃ bound, ∀ later : List (ThreadMove τ), bound ≤ later.countP ThreadMove.isProceed →
        ∃ ending, (called.play program later).phase = .ended ending) ∧
      ∀ later : List (ThreadMove τ),
        let now := called.play program later
        (∃ made, callsOf now.run.loop.journal = callsOf due.run.loop.journal ++ made ∧ .render ∉ made) ∧
        (due.run.loop.state = .running → ∀ ending, now.phase = .ended ending →
          (accepted sent.run.history <+: begun now.run.history ∧
            begun now.run.history = accepted due.run.history) ∨
          ∃ first last rest, due.run.loop.queue.tasks = first ++ last :: rest ∧
            ((∃ failure, last.ending = .failed failure) ∨ last.endsSession = true) ∧
            begun now.run.history = begun due.run.history ++ (first ++ [last]))) := by
  intro loop sent due called idle phase position
  have whole : due = (spawn thread loop).play program (earlier ++ .send signal :: meanwhile) :=
    (play_append program earlier (.send signal :: meanwhile) _).symm
  have calmAll : ∀ task, .submit task ∈ earlier ++ .send signal :: meanwhile → task.Calm := by
    intro task member
    refine calmMoves task ?_
    simpa using member
  have sound : due.Sound := whole ▸ sound_play calmJobs engine config calmBefore idle thread calmAll
  have stays : accepted sent.run.history <+: accepted due.run.history :=
    isPrefix_accepted program sent (.send signal :: meanwhile)
  have turn : next = signal := next_in_turn sound.orderly (grows_play program _ meanwhile) phase position
  refine ⟨turn, ?_, ?_⟩
  · rintro rfl later now same
    subst turn
    obtain ⟨made, calls, drew⟩ := sound.drawn phase rfl same
    refine ⟨made, calls, fun drawn => ?_⟩
    obtain ⟨-, all, once⟩ := drew drawn
    exact ⟨all ▸ stays, all, once⟩
  · rintro rfl
    subst turn
    refine ⟨sound.ends phase, fun later => ⟨?_, fun running ending ended => ?_⟩⟩
    · obtain ⟨handling, -⟩ := call_received program phase (sound.idle phase)
      have leaving : called.Leaving := Or.inl handling
      obtain ⟨made, calls, drew⟩ := sound.drawn phase rfl (leaving.play program later).2
      refine ⟨made, calls, fun drawn => ?_⟩
      cases (drew drawn).1
    · refine (sound.delivered phase running ended).imp_left fun all => ?_
      exact ⟨all ▸ stays, all⟩

/-- The desktop's engine, in a program whose jobs end the session. -/
def desktopProgram : Program Desktop.Engine Unit := Desktop.program fun _ => Task.endActivity

/-- A surface is created, and then a task is submitted. -/
def openingMoves : List (ThreadMove Unit) :=
  .send .surfaceCreated :: (List.replicate 5 .proceed ++ [.submit (Task.notify .lowMemory)])

/-- Another task is submitted before the thread receives the next signal. -/
def receivingMoves : List (ThreadMove Unit) := [.submit (Task.notify (.windowFocus true)), .proceed]

/-- A thread whose loop is running and for which a task waits. -/
def openedThread : ThreadRun Desktop.Engine Unit :=
  (spawn 1 (LoopRun.start {} {})).play desktopProgram openingMoves

/-- That thread when it has received one more signal. -/
def signalledThread (signal : Signal) : ThreadRun Desktop.Engine Unit :=
  (openedThread.step desktopProgram (.send signal)).play desktopProgram receivingMoves

/-- That thread a number of steps later. -/
def laterThread (signal : Signal) (count : Nat) : ThreadRun Desktop.Engine Unit :=
  ((signalledThread signal).step desktopProgram .proceed).play desktopProgram (List.replicate count .proceed)

theorem openedThread_keeps_order :
    (∀ job, (desktopProgram.task job).Calm) ∧
      (∀ task, .submit task ∈ openingMoves ++ receivingMoves → task.Calm) ∧
      (signalledThread .drawFrame).phase = .received .drawFrame ∧
      (signalledThread .drawFrame).handled.length = openedThread.sent.length ∧
      .render ∈ callsOf (laterThread .drawFrame 7).run.loop.journal ∧
      begun (laterThread .drawFrame 7).run.history =
        [Task.notify .lowMemory, Task.notify (.windowFocus true)] ∧
      (signalledThread .shutdown).phase = .received .shutdown ∧
      (laterThread .shutdown 8).phase = .ended (.returned .running) ∧
      accepted openedThread.run.history <+: begun (laterThread .shutdown 8).run.history := by
  have calmJobs : ∀ job, (desktopProgram.task job).Calm := fun _ => Task.calm_endActivity
  have calmMoves : ∀ task, .submit task ∈ openingMoves ++ receivingMoves → task.Calm := by
    intro task member
    simp only [openingMoves, receivingMoves, List.replicate, List.cons_append, List.nil_append, List.mem_cons,
      reduceCtorEq, ThreadMove.submit.injEq, List.not_mem_nil, false_or, or_false] at member
    rcases member with rfl | rfl
    · exact Task.calm_notify .lowMemory
    · exact Task.calm_notify (.windowFocus true)
  have drawing : (signalledThread .drawFrame).phase = .received .drawFrame := rfl
  have ending : (signalledThread .shutdown).phase = .received .shutdown := rfl
  have drawsInTurn : (signalledThread .drawFrame).handled.length = openedThread.sent.length := rfl
  have endsInTurn : (signalledThread .shutdown).handled.length = openedThread.sent.length := rfl
  have running : (signalledThread .shutdown).run.loop.state = .running := rfl
  have ended : (laterThread .shutdown 8).phase = .ended (.returned .running) := rfl
  have still : (laterThread .drawFrame 7).handled =
      ((signalledThread .drawFrame).step desktopProgram .proceed).handled := rfl
  have rendered : callsOf (laterThread .drawFrame 7).run.loop.journal =
      callsOf (signalledThread .drawFrame).run.loop.journal ++
        [.notify .lowMemory, .notify (.windowFocus true), .render] := rfl
  have waits : accepted (signalledThread .drawFrame).run.history =
      [Task.notify .lowMemory, Task.notify (.windowFocus true)] := rfl
  have lastBatch : (signalledThread .shutdown).run.loop.queue.tasks =
      [Task.notify .lowMemory, Task.notify (.windowFocus true)] := rfl
  obtain ⟨-, frames, -⟩ := tasks_before_signals calmJobs {} {} [] nofun 1 openingMoves receivingMoves calmMoves
    .drawFrame .drawFrame rfl drawing drawsInTurn
  obtain ⟨-, -, endings⟩ := tasks_before_signals calmJobs {} {} [] nofun 1 openingMoves receivingMoves calmMoves
    .shutdown .shutdown rfl ending endsInTurn
  obtain ⟨made, calls, drew⟩ := frames rfl (List.replicate 7 .proceed) still
  have same : made = [.notify .lowMemory, .notify (.windowFocus true), .render] :=
    List.append_cancel_left (calls.symm.trans rendered)
  obtain ⟨-, delivered⟩ := (endings rfl).2 (List.replicate 8 .proceed)
  refine ⟨calmJobs, calmMoves, drawing, drawsInTurn, ?_, ?_, ending, ended, ?_⟩
  · rw [rendered]
    exact List.mem_append_right _ (by decide)
  · rw [← waits]
    exact (drew (by rw [same]; decide)).2.1
  · rcases delivered running _ ended with ⟨all, -⟩ | ⟨first, last, rest, split, stops, -⟩
    · exact all
    · -- Neither of the two tasks fails or ends the session.
      have goesOn : ∀ task ∈ (signalledThread .shutdown).run.loop.queue.tasks, task.stops = false := by
        rw [lastBatch]
        decide
      have behind := goesOn last (split ▸ List.mem_append_right first List.mem_cons_self)
      rcases stops with ⟨failure, failed⟩ | isOver
      · rw [Task.stops_of_ending failed (nomatch ·)] at behind
        cases behind
      · rw [Task.stops_of_endsSession isOver] at behind
        cases behind

end ThreadRun

end EngineHost
