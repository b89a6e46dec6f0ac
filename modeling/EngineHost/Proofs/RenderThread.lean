/-
**A render thread among other threads.**

A render thread gets signals through a channel of its own and tasks through the queue of its loop. Here
its work on a signal is cut into steps; between any two of them other threads may submit tasks and send
signals.

* `ThreadPhase`, `ThreadRun`: a render thread between two signals, or in the middle of one;
* `ThreadRun.step`, `ThreadRun.play`: one move of a schedule, and a whole schedule;
* `ThreadRun.step_induction`: all that one move can do;
* `ThreadRun.Orderly`: the signals are received in the order in which they were sent;
* `ThreadRun.play_run`: what a schedule of a thread is for its loop;
* `ThreadRun.receives_alone`: a thread that nobody interrupts does what `LoopThread.receive` does.
-/

import EngineHost.Loop.LoopThread
import EngineHost.Proofs.WorkingOff

namespace EngineHost

variable {ε τ : Type}

/-! ### A thread and its signals -/

/-- What a render thread is doing. -/
inductive ThreadPhase
  | waiting
  /-- It has taken a signal from its channel. -/
  | received (signal : Signal)
  /-- It has called the hook of a signal. -/
  | handling (signal : Signal)
  | ended (ending : ThreadEnd)
deriving DecidableEq, Repr

namespace ThreadPhase

/-- The signal that was taken from the channel and is not handled yet. -/
@[simp] def inHand : ThreadPhase → List Signal
  | .received signal => [signal]
  | .waiting | .handling _ | .ended _ => []

/-- How the thread ended, if it has. -/
@[simp] def ending? : ThreadPhase → Option ThreadEnd
  | .ended ending => some ending
  | .waiting | .received _ | .handling _ => none

/-- The signal that is being handled. -/
@[simp] def handling? : ThreadPhase → Option Signal
  | .handling signal => some signal
  | .waiting | .received _ | .ended _ => none

end ThreadPhase

namespace Signal

/-- The hook that a signal calls. -/
def entry (thread : ThreadId) : Signal → Entry
  | .surfaceCreated => .surfaceCreated thread
  | .surfaceChanged width height => .surfaceChanged thread width height
  | .drawFrame => .drawFrame thread
  | .shutdown => .deliverRest

/-- What a thread reports before it calls the hook. -/
def announces : Signal → List Notice
  | .shutdown => [.threadShutdown]
  | .surfaceCreated | .surfaceChanged _ _ | .drawFrame => []

/-- What a thread reports when the hook has answered, and what it does then: a panic ends it, and it leaves
its loop on request and behind the last frame. -/
def follow (loop : FrameLoop ε τ) (answer : Entry.Answer) (signal : Signal) : List Notice × ThreadPhase :=
  match answer with
  | .error panic => ([], .ended (.panicked panic))
  | .ok outcome =>
    match signal with
    | .shutdown => ([], .ended (.returned loop.state))
    | .drawFrame =>
      if outcome = some .stop then ([.threadStopping loop.frames], .ended (.returned loop.state))
      else ([], .waiting)
    | .surfaceCreated | .surfaceChanged _ _ => ([], .waiting)

/-- Behind a hook the thread waits again or has ended, and on request it has ended. -/
theorem follow_phase (loop : FrameLoop ε τ) (answer : Entry.Answer) (signal : Signal) :
    ((signal.follow loop answer).2 = .waiting ∧ signal ≠ .shutdown) ∨
      ∃ ending, (signal.follow loop answer).2 = .ended ending := by
  cases answer with
  | error panic => exact Or.inr ⟨_, rfl⟩
  | ok outcome =>
    cases signal with
    | shutdown => exact Or.inr ⟨_, rfl⟩
    | drawFrame =>
      by_cases last : outcome = some .stop
      · refine Or.inr ⟨.returned loop.state, ?_⟩
        simp only [follow, if_pos last]
      · refine Or.inl ⟨?_, nofun⟩
        simp only [follow, if_neg last]
    | surfaceCreated | surfaceChanged => exact Or.inl ⟨rfl, nofun⟩

end Signal

/-- A render thread in the middle of a schedule. -/
structure ThreadRun (ε τ : Type) where
  run : LoopRun ε τ
  thread : ThreadId
  phase : ThreadPhase := .waiting
  /-- The signals that were sent and not received, oldest first. -/
  channel : List Signal := []
  /-- Whether somebody can still send signals. -/
  connected : Bool := true
  /-- All signals that were sent, oldest first. -/
  sent : List Signal := []
  /-- The signals whose hooks were called, oldest first. -/
  handled : List Signal := []

/-- A move of a schedule: something another thread does, or one step of the render thread. -/
inductive ThreadMove (τ : Type)
  | submit (task : Task τ)
  | report (notices : List Notice)
  | send (signal : Signal)
  | hangUp
  | proceed

/-- Whether a move is a step of the render thread. -/
@[simp] def ThreadMove.isProceed : ThreadMove τ → Bool
  | .proceed => true
  | .submit _ | .report _ | .send _ | .hangUp => false

namespace ThreadRun

/-- A loop is moved to a thread of its own. -/
def spawn (thread : ThreadId) (run : LoopRun ε τ) : ThreadRun ε τ := { run, thread }

/-- The thread as one that handles its signals in one go. -/
def view (state : ThreadRun ε τ) : LoopThread ε τ where
  loop := state.run.loop
  thread := state.thread
  ending := state.phase.ending?

/-- A signal is sent; nobody receives it once the thread has ended. -/
def send (signal : Signal) (state : ThreadRun ε τ) : ThreadRun ε τ :=
  if state.connected && state.phase.ending?.isNone then
    { state with channel := state.channel ++ [signal], sent := state.sent ++ [signal] }
  else state

/-- The hook of a signal is called. -/
def call (program : Program ε τ) (signal : Signal) (state : ThreadRun ε τ) : ThreadRun ε τ :=
  { state with
    run := (state.run.step program (.report signal.announces)).step program
      (.enter (signal.entry state.thread))
    phase := .handling signal
    handled := state.handled ++ [signal] }

/-- What the last hook answered. -/
def answer (state : ThreadRun ε τ) : Entry.Answer := (answers state.run.history).getLast?.getD (.ok none)

/-- The hook of a signal has answered. -/
def finish (program : Program ε τ) (signal : Signal) (state : ThreadRun ε τ) : ThreadRun ε τ :=
  let (notices, phase) := signal.follow state.run.loop state.answer
  { state with run := state.run.step program (.report notices), phase }

/-- The next step of the render thread. It ends when no signal is left and nobody can send one. -/
def proceed (program : Program ε τ) (state : ThreadRun ε τ) : ThreadRun ε τ :=
  match state.phase with
  | .waiting =>
    match state.channel with
    | [] => if state.connected then state else { state with phase := .ended (.returned state.run.loop.state) }
    | signal :: channel => { state with phase := .received signal, channel }
  | .received signal => state.call program signal
  | .handling signal =>
    match state.run.stage with
    | .idle => state.finish program signal
    | _ => { state with run := state.run.step program .proceed }
  | .ended _ => state

/-- One move. -/
def step (program : Program ε τ) (state : ThreadRun ε τ) : ThreadMove τ → ThreadRun ε τ
  | .submit task => { state with run := state.run.step program (.submit task) }
  | .report notices => { state with run := state.run.step program (.report notices) }
  | .send signal => state.send signal
  | .hangUp => { state with connected := false }
  | .proceed => state.proceed program

/-- The moves of a schedule, in order. -/
def play (program : Program ε τ) (moves : List (ThreadMove τ)) (state : ThreadRun ε τ) : ThreadRun ε τ :=
  moves.foldl (step program) state

section Steps

variable {program : Program ε τ} {state : ThreadRun ε τ}

/-- Sending leaves the loop and the thread where they stand. -/
@[simp] theorem send_frame (signal : Signal) (state : ThreadRun ε τ) :
    (state.send signal).run = state.run ∧ (state.send signal).phase = state.phase := by
  unfold send
  split <;> exact ⟨rfl, rfl⟩

/-- All that one move can do: nothing, something to the loop that calls no hook, something to the channel, a
signal that is received or called, the end of its hook, or the end of a thread without signals. -/
theorem step_induction {move : ThreadMove τ} {P : ThreadRun ε τ → Prop} (stays : P state)
    (works : ∀ inner : Move τ, inner.isEnter = false → (∀ task, inner = .submit task → move = .submit task) →
      (inner.isProceed = true → ∃ signal, state.phase = .handling signal) →
      P { state with run := state.run.step program inner })
    (sends : ∀ signal, state.connected = true →
      P { state with channel := state.channel ++ [signal], sent := state.sent ++ [signal] })
    (hangsUp : P { state with connected := false })
    (receives : ∀ signal channel, state.phase = .waiting → state.channel = signal :: channel →
      P { state with phase := .received signal, channel })
    (calls : ∀ signal, state.phase = .received signal → P (state.call program signal))
    (finishes : ∀ signal, state.phase = .handling signal → state.run.stage = .idle →
      P (state.finish program signal))
    (leaves : state.phase = .waiting → P { state with phase := .ended (.returned state.run.loop.state) }) :
    P (state.step program move) := by
  cases move with
  | submit task => exact works (.submit task) rfl (fun other its => by cases its; rfl) nofun
  | report notices => exact works (.report notices) rfl nofun nofun
  | send signal =>
    simp only [step, send]
    split
    · rename_i goesOn
      exact sends signal (Bool.and_eq_true_iff.mp goesOn).1
    · exact stays
  | hangUp => exact hangsUp
  | proceed =>
    obtain ⟨run, thread, phase, channel, connected, sent, handled⟩ := state
    cases phase with
    | waiting =>
      cases channel with
      | nil =>
        cases connected with
        | true => exact stays
        | false => exact leaves rfl
      | cons signal channel => exact receives signal channel rfl rfl
    | received signal => exact calls signal rfl
    | handling signal =>
      simp only [step, proceed]
      split
      · rename_i idle
        exact finishes signal rfl idle
      · exact works .proceed rfl nofun fun _ => ⟨signal, rfl⟩
    | ended ending => exact stays

theorem play_append (program : Program ε τ) (earlier later : List (ThreadMove τ)) (state : ThreadRun ε τ) :
    state.play program (earlier ++ later) = (state.play program earlier).play program later :=
  List.foldl_append

/-! ### Order in the channel -/

/-- The signals are received in the order in which they were sent, and the loop is between two hooks unless the
thread is handling a signal. -/
structure Orderly (state : ThreadRun ε τ) : Prop where
  fifo : state.sent = state.handled ++ (state.phase.inHand ++ state.channel)
  between : state.phase.handling? = none → state.run.stage = .idle

theorem orderly_spawn {run : LoopRun ε τ} (idle : run.stage = .idle) (thread : ThreadId) :
    (spawn thread run).Orderly :=
  ⟨rfl, fun _ => idle⟩

namespace Orderly

theorem step (holds : state.Orderly) (move : ThreadMove τ) : (state.step program move).Orderly := by
  have ⟨fifo, between⟩ := holds
  refine step_induction (P := Orderly) holds ?_ ?_ ⟨fifo, between⟩ ?_ ?_ ?_ ?_
  · intro inner enters _ own
    refine ⟨fifo, fun resting => ?_⟩
    have idle := between resting
    -- Between two hooks only other threads touch the loop.
    cases inner with
    | submit | report => exact idle
    | enter => cases enters
    | proceed =>
      obtain ⟨signal, busy⟩ := own rfl
      simp only [busy] at resting
      cases resting
  · intro signal _
    refine ⟨?_, between⟩
    simp only [fifo, List.append_assoc]
  · intro signal channel phase waits
    refine ⟨?_, fun _ => between (by rw [phase]; rfl)⟩
    rw [phase, waits] at fifo
    exact fifo
  · intro signal phase
    refine ⟨?_, nofun⟩
    rw [phase] at fifo
    simp only [call, fifo, ThreadPhase.inHand, List.append_assoc, List.nil_append]
  · intro signal phase idle
    refine ⟨?_, fun _ => idle⟩
    rw [phase] at fifo
    rcases signal.follow_phase state.run.loop state.answer with ⟨waits, -⟩ | ⟨ending, ends⟩
    · simp only [finish, waits]
      exact fifo
    · simp only [finish, ends]
      exact fifo
  · intro phase
    refine ⟨?_, fun _ => between (by rw [phase]; rfl)⟩
    rw [phase] at fifo
    exact fifo

theorem play (holds : state.Orderly) (moves : List (ThreadMove τ)) : (state.play program moves).Orderly := by
  induction moves generalizing state with
  | nil => exact holds
  | cons move moves ih => exact ih (holds.step move)

end Orderly

/-- What a schedule leaves behind: signals that were sent or called stay so, nobody sends signals again once all
have hung up, and a thread that has ended does nothing more. -/
structure Grows (before after : ThreadRun ε τ) : Prop where
  sent : before.sent <+: after.sent
  handled : before.handled <+: after.handled
  cut : before.connected = false → after.connected = false ∧ after.sent = before.sent
  ended : ∀ ending, before.phase = .ended ending → after.phase = .ended ending

theorem Grows.refl (state : ThreadRun ε τ) : state.Grows state :=
  ⟨List.prefix_refl _, List.prefix_refl _, fun cut => ⟨cut, rfl⟩, fun _ => id⟩

theorem Grows.trans {first second third : ThreadRun ε τ} (one : first.Grows second)
    (two : second.Grows third) : first.Grows third where
  sent := one.sent.trans two.sent
  handled := one.handled.trans two.handled
  cut before := by
    obtain ⟨between, same⟩ := one.cut before
    obtain ⟨after, still⟩ := two.cut between
    exact ⟨after, still.trans same⟩
  ended ending := two.ended ending ∘ one.ended ending

/-- A thread that has not ended may change its phase. -/
theorem Grows.of_phase {after : ThreadRun ε τ} (goesOn : state.phase.ending? = none)
    (sent : after.sent = state.sent) (connected : after.connected = state.connected)
    (handled : state.handled <+: after.handled) : state.Grows after where
  sent := sent ▸ List.prefix_refl _
  handled := handled
  cut before := ⟨connected.trans before, sent⟩
  ended ending ends := by
    rw [ends] at goesOn
    cases goesOn

theorem grows_step (program : Program ε τ) (state : ThreadRun ε τ) (move : ThreadMove τ) :
    state.Grows (state.step program move) := by
  refine step_induction (P := state.Grows) (Grows.refl state) ?_ ?_ ?_ ?_ ?_ ?_ ?_
  · exact fun inner _ _ _ => { Grows.refl state with }
  · intro signal connected
    refine ⟨List.prefix_append _ _, List.prefix_refl _, fun cut => ?_, fun _ => id⟩
    rw [connected] at cut
    cases cut
  · exact ⟨List.prefix_refl _, List.prefix_refl _, fun _ => ⟨rfl, rfl⟩, fun _ => id⟩
  · exact fun signal channel phase _ => .of_phase (by rw [phase]; rfl) rfl rfl (List.prefix_refl _)
  · exact fun signal phase => .of_phase (by rw [phase]; rfl) rfl rfl (List.prefix_append _ _)
  · exact fun signal phase _ => .of_phase (by rw [phase]; rfl) rfl rfl (List.prefix_refl _)
  · exact fun phase => .of_phase (by rw [phase]; rfl) rfl rfl (List.prefix_refl _)

theorem grows_play (program : Program ε τ) (state : ThreadRun ε τ) (moves : List (ThreadMove τ)) :
    state.Grows (state.play program moves) := by
  induction moves generalizing state with
  | nil => exact Grows.refl state
  | cons move moves ih => exact (grows_step program state move).trans (ih _)

/-! ### The loop of a thread -/

/-- A schedule of a thread is one of its loop, in which others submit no other tasks; it calls no hook unless
the thread calls the hook of a signal. -/
theorem step_run (program : Program ε τ) (state : ThreadRun ε τ) (move : ThreadMove τ) :
    ∃ inner : List (Move τ), (state.step program move).run = state.run.play program inner ∧
      (∀ task, .submit task ∈ inner → move = .submit task) ∧
      ((state.step program move).handled = state.handled → Inner inner) := by
  refine step_induction (P := fun after => ∃ inner : List (Move τ), after.run = state.run.play program inner ∧
    (∀ task, .submit task ∈ inner → move = .submit task) ∧
    (after.handled = state.handled → Inner inner)) ?_ ?_ ?_ ?_ ?_ ?_ ?_ ?_
  · exact ⟨[], rfl, nofun, fun _ => nofun⟩
  · intro inner enters submits _
    refine ⟨[inner], rfl, fun task member => ?_, fun _ => List.forall_mem_singleton.mpr enters⟩
    exact submits task (List.mem_singleton.mp member).symm
  · exact fun _ _ => ⟨[], rfl, nofun, fun _ => nofun⟩
  · exact ⟨[], rfl, nofun, fun _ => nofun⟩
  · exact fun _ _ _ _ => ⟨[], rfl, nofun, fun _ => nofun⟩
  · intro signal _
    refine ⟨[.report signal.announces, .enter (signal.entry state.thread)], rfl, by simp, fun same => ?_⟩
    exact absurd (congrArg List.length same) (by simp [call])
  · intro signal _ _
    exact ⟨[.report (signal.follow state.run.loop state.answer).1], rfl, by simp,
      fun _ => List.forall_mem_singleton.mpr rfl⟩
  · exact fun _ => ⟨[], rfl, nofun, fun _ => nofun⟩

theorem play_run (program : Program ε τ) (state : ThreadRun ε τ) (moves : List (ThreadMove τ)) :
    ∃ inner : List (Move τ), (state.play program moves).run = state.run.play program inner ∧
      (∀ task, .submit task ∈ inner → .submit task ∈ moves) ∧
      ((state.play program moves).handled = state.handled → Inner inner) := by
  induction moves generalizing state with
  | nil => exact ⟨[], rfl, nofun, fun _ => nofun⟩
  | cons move moves ih =>
    obtain ⟨first, begins, submitsFirst, innerFirst⟩ := step_run program state move
    obtain ⟨rest, goesOn, submitsRest, innerRest⟩ := ih (state.step program move)
    refine ⟨first ++ rest, ?_, fun task member => ?_, fun same => ?_⟩
    · rw [LoopRun.play_append, ← begins]
      exact goesOn
    · rcases List.mem_append.mp member with old | new
      · rw [submitsFirst task old]
        exact List.mem_cons_self
      · exact List.mem_cons_of_mem move (submitsRest task new)
    · -- No hook was called on the way either.
      have one := (grows_step program state move).handled
      have two := (grows_play program (state.step program move) moves).handled
      have whole : (state.step program move).handled = state.handled :=
        (one.eq_of_length_le (same ▸ two.length_le)).symm
      exact List.forall_mem_append.mpr ⟨innerFirst whole, innerRest (same.trans whole.symm)⟩

/-! ### A thread that nobody interrupts -/

/-- While the hook of a signal is on its way the thread takes its steps. -/
theorem step_of_busy (program : Program ε τ) {signal : Signal} (handling : state.phase = .handling signal)
    (busy : state.run.stage ≠ .idle) :
    state.step program .proceed = { state with run := state.run.step program .proceed } := by
  simp only [step, proceed, handling]

/-- The steps of a hook are the steps of the thread that handles it. -/
theorem hook_alone {signal : Signal} (handling : state.phase = .handling signal) (rested : state.run.Rested)
    {count : Nat} {last : LoopRun ε τ}
    (played : state.run.play program (List.replicate count .proceed) = last) :
    ∃ steps, state.play program (List.replicate steps .proceed) = { state with run := last } := by
  induction count generalizing state with
  | zero => exact ⟨0, played ▸ rfl⟩
  | succ count ih =>
    by_cases idle : state.run.stage = .idle
    · rw [LoopRun.play_idle idle (rested idle)] at played
      exact ⟨0, played ▸ rfl⟩
    · have stepped := step_of_busy program handling idle
      have still : (state.step program .proceed).phase = .handling signal := by rw [stepped, handling]
      have restedStill : (state.step program .proceed).run.Rested := by
        rw [stepped]
        exact LoopRun.rested_play rested [.proceed]
      obtain ⟨steps, all⟩ := ih still restedStill (by rw [stepped]; exact played)
      refine ⟨steps + 1, all.trans ?_⟩
      rw [stepped]

/-- A signal that is handled in one go is its hook, between what the thread reports before and behind it. -/
theorem handle_eq (program : Program ε τ) (loop : FrameLoop ε τ) (thread : ThreadId) (signal : Signal) :
    let hook := (signal.entry thread).run program (loop.report signal.announces)
    let after := signal.follow hook.2 hook.1
    LoopThread.handle program { loop, thread } signal =
      { loop := hook.2.report after.1, thread, ending := after.2.ending? } := by
  cases signal with
  | surfaceCreated =>
    simp only [Signal.entry, Signal.announces, Entry.run, FrameLoop.report_nil, LoopThread.handle]
    rcases loop.surfaceCreated program thread with ⟨panic | _, after⟩ <;>
      simp [LoopThread.goOn, Signal.follow, Except.map, FrameLoop.report_nil]
  | surfaceChanged width height =>
    simp only [Signal.entry, Signal.announces, Entry.run, FrameLoop.report_nil, LoopThread.handle]
    rcases loop.surfaceChanged thread width height with ⟨panic | _, after⟩ <;>
      simp [LoopThread.goOn, Signal.follow, Except.map, FrameLoop.report_nil]
  | drawFrame =>
    simp only [Signal.entry, Signal.announces, Entry.run, FrameLoop.report_nil, LoopThread.handle]
    rcases loop.drawFrame program thread with ⟨panic | _ | _, after⟩ <;>
      simp [LoopThread.goOn, LoopThread.leave, Signal.follow, Except.map, FrameLoop.report_nil]
  | shutdown =>
    simp only [Signal.entry, Signal.announces, Entry.run, LoopThread.handle]
    rcases (loop.report [.threadShutdown]).deliverRest program with ⟨panic | _, after⟩ <;>
      simp [LoopThread.goOn, LoopThread.leave, Signal.follow, Except.map, FrameLoop.report_nil]

/-- A thread that has ended receives nothing. -/
theorem receiveAll_of_ended (program : Program ε τ) {thread : LoopThread ε τ} {ending : ThreadEnd}
    (ended : thread.ending = some ending) (signals : List Signal) :
    thread.receiveAll program signals = thread := by
  induction signals with
  | nil => rfl
  | cons signal signals ih =>
    have stays : thread.receive program signal = thread := by simp only [LoopThread.receive, ended]
    show LoopThread.receiveAll program (thread.receive program signal) signals = thread
    rw [stays, ih]

/-- **A thread that nobody interrupts does what `LoopThread.receive` does in one go** with the next signal of
its channel, and waits again or has ended. -/
theorem receives_alone (program : Program ε τ) (waiting : state.phase = .waiting)
    (idle : state.run.stage = .idle) (unowed : state.run.owed = []) {signal : Signal} {channel : List Signal}
    (waits : state.channel = signal :: channel) :
    ∃ steps, let after := state.play program (List.replicate steps .proceed)
      after.view = state.view.receive program signal ∧ after.channel = channel ∧
        after.run.stage = .idle ∧ after.run.owed = [] ∧
        (after.phase = .waiting ∨ ∃ ending, after.phase = .ended ending) := by
  obtain ⟨⟨loop, stage, owed, history⟩, thread, phase, signals, connected, sent, handled⟩ := state
  cases waiting
  cases idle
  cases unowed
  cases waits
  let entry := signal.entry thread
  let reported := loop.report signal.announces
  let begun : ThreadRun ε τ :=
    ⟨LoopRun.enter program entry ⟨reported, .idle, [], history⟩, thread, .handling signal, channel,
      connected, sent, handled ++ [signal]⟩
  obtain ⟨count, past, played⟩ := LoopRun.returns_of_enter program entry reported history
  have rested : begun.run.Rested := LoopRun.rested_enter rfl entry
  obtain ⟨steps, alone⟩ := hook_alone rfl rested played
  let hook := entry.run program reported
  let returned : ThreadRun ε τ := { begun with run := ⟨hook.2, .idle, [], past ++ [.returned hook.1]⟩ }
  have answered : returned.answer = hook.1 := by simp [answer, returned]
  have finished : ThreadRun.play program (List.replicate (steps + 1 + 2) .proceed)
      ⟨⟨loop, .idle, [], history⟩, thread, .waiting, signal :: channel, connected, sent, handled⟩ =
        returned.finish program signal := by
    show begun.play program (List.replicate (steps + 1) .proceed) = _
    rw [List.replicate_succ', play_append, alone]
    rfl
  refine ⟨steps + 1 + 2, ?_⟩
  rw [finished]
  refine ⟨?_, rfl, rfl, rfl, ?_⟩
  · refine Eq.trans ?_ (handle_eq program loop thread signal).symm
    simp only [view, finish, answered]
    rfl
  · rcases signal.follow_phase returned.run.loop returned.answer with ⟨waits, -⟩ | ends
    · exact Or.inl waits
    · exact Or.inr ends

/-- A thread that nobody interrupts works its channel off as `LoopThread.receiveAll` does. -/
theorem receives_all_alone (program : Program ε τ) (waiting : state.phase = .waiting)
    (idle : state.run.stage = .idle) (unowed : state.run.owed = []) :
    ∃ steps, (state.play program (List.replicate steps .proceed)).view =
      state.view.receiveAll program state.channel := by
  induction waits : state.channel generalizing state with
  | nil => exact ⟨0, rfl⟩
  | cons signal channel ih =>
    obtain ⟨steps, same, rest, idle, unowed, goesOn | ⟨ending, ends⟩⟩ :=
      receives_alone program waiting idle unowed waits
    · obtain ⟨more, all⟩ := ih goesOn idle unowed rest
      refine ⟨steps + more, ?_⟩
      rw [← List.replicate_append_replicate, play_append, all, same]
      rfl
    · -- The thread has ended, and the signals behind this one are not received.
      refine ⟨steps, same.trans ?_⟩
      have ended : (state.view.receive program signal).ending = some ending := by
        rw [← same]
        simp only [view, ends, ThreadPhase.ending?]
      exact (receiveAll_of_ended program ended channel).symm

/-- A thread without signals and senders ends where it stands. -/
theorem hangs_up_alone (program : Program ε τ) (waiting : state.phase = .waiting) (empty : state.channel = [])
    (cut : state.connected = false) : (state.step program .proceed).view = state.view.hangUp := by
  obtain ⟨run, thread, phase, channel, connected, sent, handled⟩ := state
  cases waiting
  cases empty
  cases cut
  rfl

end Steps

end ThreadRun

end EngineHost
