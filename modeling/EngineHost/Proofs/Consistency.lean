/-
**Loop, session and queue agree.**

* `Stage.Fits`: what the state of the loop, its session and its queue are at each stage of a hook;
* `LoopRun.Consistent`: the invariant of all schedules of tasks that do not panic, with
  `LoopRun.Consistent.step` for one move and `LoopRun.consistent_play` for a whole schedule;
* `LoopRun.counters_fit`: how far the counts of sessions and frames can go;
* `LoopState.successors`: the states that may follow a state.
-/

import EngineHost.Desktop.Engine
import EngineHost.Proofs.Interleaving
import Mathlib.Logic.Basic

namespace EngineHost

variable {ε τ α : Type}

/-- A task that does not stop where it stands. -/
def Task.Calm (task : Task τ) : Prop := ∀ text, task.ending ≠ .panicked text

theorem Task.calm_notify (notification : Notification) : (Task.notify notification : Task τ).Calm :=
  fun _ ending => nomatch ending

theorem Task.calm_endActivity : (Task.endActivity : Task τ).Calm := fun _ ending => nomatch ending

/-- The states that may follow a state. -/
def LoopState.successors : LoopState → List LoopState
  | .uninitialized => [.initializing]
  | .initializing => [.running, .terminated]
  | .running => [.uninitialized, .terminated]
  | .terminated => []

/-- The state of the loop, whether a session is begun, whether the queue is closed, and how often the
host was asked to finish, at each stage of a hook. -/
@[simp] def Stage.Fits (state : LoopState) (inSession closed : Bool) (finishes : Nat) : Stage τ → Prop
  | .idle => (state = .running ↔ inSession = true) ∧ (closed = true ↔ state = .terminated) ∧
      finishes = if state = .terminated then 1 else 0
  | .configured | .started _ =>
    state = .initializing ∧ inSession = false ∧ closed = false ∧ finishes = 0
  | .notified | .drawn _ => state = .running ∧ inSession = true ∧ closed = false ∧ finishes = 0
  -- A session that ended leaves nothing of the batch in hand.
  | .choosing pass batch => state = .running ∧ pass.inSession = true ∧ (batch ≠ [] → inSession = true) ∧
      closed = false ∧ finishes = 0
  | .running pass _ _ _ => state = .running ∧ pass.inSession = true ∧ closed = false ∧ finishes = 0
  | .failing _ _ => state = .running ∧ closed = false ∧ finishes = 0
  | .closing _ => (state = .initializing ∨ state = .running) ∧ closed = true ∧ finishes = 0

/-- Between two hooks of a loop that was not closed. -/
theorem Stage.fits_idle {state : LoopState} {inSession closed : Bool} {finishes : Nat}
    (agrees : state = .running ↔ inSession = true) (going : state ≠ .terminated) (isOpen : closed = false)
    (unfinished : finishes = 0) : (Stage.idle : Stage τ).Fits state inSession closed finishes :=
  ⟨agrees, by simp [isOpen, going], by rw [if_neg going, unfinished]⟩

/-- The starts of the engine that succeeded and are not counted by the session yet. -/
@[simp] def Stage.uncountedStarts : Stage τ → Nat
  | .started .ready => 1
  | _ => 0

/-- The frames that were drawn and are not counted by the loop yet. -/
@[simp] def Stage.uncountedFrames : Stage τ → Nat
  | .drawn _ => 1
  | _ => 0

/-- Whether the engine panicked while it was started, by what a loop shows for it. -/
@[simp] def Stage.startPanicked (state : LoopState) : Stage τ → Prop
  | .idle => state = .initializing
  | .started (.panicked _) => True
  | _ => False

namespace LoopRun

/-- The loop, its session and its queue agree with each other and with what happened. -/
structure Consistent (run : LoopRun ε τ) : Prop where
  fits : run.stage.Fits run.loop.state run.loop.session.initialized run.loop.queue.closed
    run.loop.finishes
  flags : run.loop.session.running = run.loop.session.initialized
  empty : run.loop.queue.closed = true → run.loop.queue.tasks = []
  starts : run.loop.session.starts + run.stage.uncountedStarts = (replies run.history).count .ready
  frames : run.loop.frames + run.stage.uncountedFrames = (callsOf run.loop.journal).count .render
  finishes : run.loop.finishes = finishesOf run.loop.journal
  closed : .closed ∈ run.history ↔ run.loop.queue.closed = true
  panics : (∃ text, .panicked text ∈ replies run.history) ↔ run.stage.startPanicked run.loop.state

theorem consistent_start (engine : ε) (config : Config) :
    Consistent (LoopRun.start engine config : LoopRun ε τ) where
  fits := Stage.fits_idle (iff_of_false nofun nofun) nofun rfl rfl
  flags := rfl
  empty _ := rfl
  starts := rfl
  frames := rfl
  finishes := rfl
  closed := iff_of_false nofun nofun
  panics := iff_of_false nofun nofun

/-- The task that is judged in the next step, if one is, does not panic. -/
def Calm (run : LoopRun ε τ) : Prop :=
  ∀ pass task rest, run.stage = .running pass task [] rest → task.Calm

theorem calm_of_tasks {run : LoopRun ε τ} (calm : ∀ task ∈ run.tasks, task.Calm) : run.Calm := by
  intro pass task rest stage
  refine calm task ?_
  simp [tasks, stage, Stage.tasks]

namespace Consistent

variable {program : Program ε τ} {run : LoopRun ε τ}

theorem offer (holds : run.Consistent) {offered : List (Task τ)} {loop : FrameLoop ε τ}
    (outside : run.loop.Offered offered loop) : (run.offer offered loop).Consistent where
  fits := by
    simp only [LoopRun.offer, outside.state, outside.session, outside.closed, outside.finishes]
    exact holds.fits
  flags := by
    simp only [LoopRun.offer, outside.session]
    exact holds.flags
  empty closed := by
    have wasClosed : run.loop.queue.closed = true := outside.closed.symm.trans closed
    simp only [LoopRun.offer, outside.tasks, if_pos wasClosed]
    exact holds.empty wasClosed
  starts := by
    simp only [LoopRun.offer, outside.session, replies_append, replies_submissions, List.append_nil]
    exact holds.starts
  frames := by
    simp only [LoopRun.offer, outside.frames, outside.calls]
    exact holds.frames
  finishes := by
    simp only [LoopRun.offer, outside.finishes, outside.asked]
    exact holds.finishes
  closed := by
    have unnoted : .closed ∉ offered.map run.submission := by
      intro member
      obtain ⟨task, -, its⟩ := List.mem_map.mp member
      rw [submission_eq] at its
      split at its <;> cases its
    simp only [LoopRun.offer, outside.closed, List.mem_append, unnoted, or_false]
    exact holds.closed
  panics := by
    simp only [LoopRun.offer, outside.state, replies_append, replies_submissions, List.append_nil]
    exact holds.panics

/-- What is neither the answer to a start nor the end of the queue is of no account. -/
theorem note (holds : run.Consistent) {happening : Happening τ} (silent : happening.reply? = none)
    (other : happening ≠ .closed) : (run.note happening).Consistent := by
  have same : replies (run.note happening).history = replies run.history := by
    rw [LoopRun.note, replies_append, replies_singleton, silent]
    exact List.append_nil _
  exact { holds with
    starts := by
      rw [same]
      exact holds.starts
    closed := by simpa [other.symm] using holds.closed
    panics := by
      rw [same]
      exact holds.panics }

/-- A call that draws no frame is of no account. -/
theorem call (holds : run.Consistent) (made : EngineCall) (reaction : Reaction ε τ α)
    (undrawn : made ≠ .render) : (run.call made reaction).Consistent :=
  { holds with
    frames := by simpa [undrawn] using holds.frames
    finishes := by simpa using holds.finishes }

/-- A hook returns: what holds between two hooks holds of the loop. -/
theorem leave (settled : Consistent { run with stage := .idle }) (answer : Entry.Answer) :
    (run.leave answer).Consistent :=
  settled.note rfl nofun

/-- A hook returns that leaves the loop running in a session, as one does that told the engine something. -/
theorem goOn (holds : Consistent { run with stage := .notified }) (answer : Entry.Answer) :
    (run.leave answer).Consistent := by
  obtain ⟨state, inSession, isOpen, unfinished⟩ := holds.fits
  have going : run.loop.state ≠ .terminated := state.trans_ne (by decide)
  have begun : run.loop.state ≠ .initializing := state.trans_ne (by decide)
  exact leave { holds with
    fits := Stage.fits_idle (iff_of_true state inSession) going isOpen unfinished
    panics := holds.panics.trans (iff_of_false not_false begun) } answer

/-- A running loop is in a session, as if it told the engine something. -/
theorem of_running (holds : run.Consistent) (idle : run.stage = .idle) (state : run.loop.state = .running) :
    Consistent { run with stage := .notified } := by
  obtain ⟨loop, stage, owed, history⟩ := run
  cases idle
  obtain ⟨running, terminated, finished⟩ := holds.fits
  have going : loop.state ≠ .terminated := state.trans_ne (by decide)
  have begun : loop.state ≠ .initializing := state.trans_ne (by decide)
  exact { holds with
    fits := ⟨state, running.mp state, Bool.eq_false_iff.mpr (terminated.not.mpr going),
      finished.trans (if_neg going)⟩
    panics := holds.panics.trans (iff_of_false begun not_false) }

/-- The end of a loop, once all starts and frames are counted. -/
theorem beginClose {notices : List Notice} {answer : Entry.Answer}
    (state : run.loop.state = .initializing ∨ run.loop.state = .running)
    (unfinished : run.loop.finishes = 0)
    (flags : run.loop.session.running = run.loop.session.initialized)
    (starts : run.loop.session.starts = (replies run.history).count .ready)
    (frames : run.loop.frames = (callsOf run.loop.journal).count .render)
    (finishes : run.loop.finishes = finishesOf run.loop.journal)
    (started : ¬ ∃ text, .panicked text ∈ replies run.history) :
    (run.beginClose program notices answer).Consistent := by
  constructor <;> simp only [beginClose_frame]
  case fits => exact ⟨state, rfl, unfinished⟩
  case flags => exact flags
  case empty => exact fun _ => trivial
  case starts => simpa using starts
  case frames => cases run.loop.session.initialized <;> simpa using frames
  case finishes => exact finishes
  case closed => simp
  case panics => simpa using started

/-- The engine answers to its start. -/
theorem answered (holds : run.Consistent) (stage : run.stage = .configured) (made : EngineCall)
    (reaction : Reaction ε τ InitReply) (undrawn : made ≠ .render) :
    Consistent (({ run with stage := .started reaction.reply }.call made reaction).note
      (.replied reaction.reply)) := by
  obtain ⟨loop, stage, owed, history⟩ := run
  cases stage
  have starts : loop.session.starts = (replies history).count .ready := holds.starts
  have unpanicked : ¬ ∃ text, .panicked text ∈ replies history := holds.panics.mp
  exact { holds with
    starts := by cases reaction.reply <;> simp [starts]
    frames := by simpa [undrawn] using holds.frames
    finishes := by simpa using holds.finishes
    closed := by simpa using holds.closed
    panics := by
      cases reaction.reply with
      | panicked text => simp
      | ready | failed => simpa using unpanicked }

/-- The session ends within a task. -/
theorem endSession (holds : run.Consistent) {pass : Pass} {task : Task τ} {acts : List (Act τ)}
    {rest : List (Task τ)} (stage : run.stage = .running pass task acts rest) :
    Consistent { run with loop := run.loop.inRoom (·.endSession) } := by
  obtain ⟨loop, stage, owed, history⟩ := run
  cases stage
  obtain ⟨-, queue, calls, asked⟩ := loop.toEngineRoom.endSession_frame
  exact { holds with
    fits := by simpa [queue] using holds.fits
    flags := by simp
    empty := by simpa [queue] using holds.empty
    starts := by simpa using holds.starts
    frames := by simpa [calls] using holds.frames
    finishes := by simpa [asked] using holds.finishes
    closed := by simpa [queue] using holds.closed }

/-- The next act of a task. -/
theorem perform (holds : run.Consistent) {pass : Pass} {task : Task τ} {acts : List (Act τ)}
    {rest : List (Task τ)} (stage : run.stage = .running pass task acts rest) (act : Act τ) :
    (run.perform program act).Consistent := by
  cases act with
  | notify notification => exact holds.call (.notify notification) _ nofun
  | shutdown => exact holds.call .shutdown _ nofun
  | queue use => exact { holds with }
  | endSession => exact holds.endSession stage
  | lookAtSession =>
    exact { holds with
      frames := by simpa [LoopRun.perform, EngineRoom.perform] using holds.frames
      finishes := by simpa [LoopRun.perform, EngineRoom.perform] using holds.finishes }

theorem judge (holds : run.Consistent) {pass : Pass} {task : Task τ} {rest : List (Task τ)}
    (stage : run.stage = .running pass task [] rest) (calm : task.Calm) :
    (run.judge pass task rest).Consistent := by
  obtain ⟨loop, stage, owed, history⟩ := run
  cases stage
  obtain ⟨state, inSession, isOpen, unfinished⟩ := holds.fits
  unfold LoopRun.judge EngineRoom.verdict
  rw [inSession]
  cases ending : task.ending with
  | done =>
    cases goesOn : loop.session.initialized with
    | true => exact { holds with fits := ⟨state, inSession, fun _ => goesOn, isOpen, unfinished⟩ }
    | false =>
      -- A task that ended the session leaves nothing of the batch in hand.
      obtain ⟨session, closed, -, calls, asked⟩ := loop.toEngineRoom.putBack_frame rest
      have stillOpen := closed.trans isOpen
      exact { holds with
        fits := ⟨state, inSession, fun some => absurd rfl some, stillOpen, unfinished⟩
        flags := by simpa [follow, session] using holds.flags
        empty := fun its => absurd its (Bool.eq_false_iff.mp stillOpen)
        starts := by simpa [follow, session] using holds.starts
        frames := by simpa [follow, calls] using holds.frames
        finishes := by simpa [follow, asked] using holds.finishes
        closed := by simpa [follow, closed] using holds.closed }
  | failed failure =>
    have dropped : Consistent ⟨loop.inRoom (·.dropRest pass.ran rest failure), .failing pass failure, owed,
        history⟩ :=
      { holds with
        fits := ⟨state, isOpen, unfinished⟩
        frames := by simpa using holds.frames
        finishes := by simpa using holds.finishes }
    exact dropped.note rfl (by simp)
  | panicked text => exact absurd ending (calm text)

theorem finishPass (holds : run.Consistent) {pass : Pass}
    (stage : run.stage = .choosing pass []) : (run.finishPass program pass).Consistent := by
  obtain ⟨loop, stage, owed, history⟩ := run
  cases stage
  obtain ⟨state, inSession, -, isOpen, unfinished⟩ := holds.fits
  unfold LoopRun.finishPass
  cases goesOn : loop.session.initialized with
  | true =>
    cases drawing : pass.drawing with
    | true =>
      exact { holds with
        fits := ⟨state, goesOn, isOpen, unfinished⟩
        frames := by simpa using holds.frames
        finishes := by simpa using holds.finishes }
    | false => exact goOn { holds with fits := ⟨state, goesOn, isOpen, unfinished⟩ } _
  | false =>
    -- Without a session the loop waits for the next surface.
    have waiting : Consistent ⟨loop.awaitSurface, .idle, owed, history⟩ :=
      { holds with
        fits := Stage.fits_idle (iff_of_false nofun (Bool.eq_false_iff.mp goesOn)) nofun isOpen unfinished
        frames := by simpa using holds.frames
        finishes := by simpa using holds.finishes
        panics := holds.panics.trans (iff_of_false not_false nofun) }
    exact waiting.leave _

/-- The engine answered to its start, and the hook returns or the loop ends. -/
theorem answerStart (holds : run.Consistent) {reply : InitReply} (stage : run.stage = .started reply) :
    (run.answerStart program reply).Consistent := by
  obtain ⟨loop, stage, owed, history⟩ := run
  cases stage
  obtain ⟨state, idle, isOpen, unfinished⟩ := holds.fits
  cases reply with
  | ready =>
    have begun : Consistent ⟨loop.beginSession, .idle, owed, history⟩ :=
      { fits := Stage.fits_idle (iff_of_true rfl rfl) nofun rfl unfinished
        flags := rfl
        empty := nofun
        starts := (Session.starts_begun loop.session idle).trans holds.starts
        frames := by simpa using holds.frames
        finishes := by simpa using holds.finishes
        closed := holds.closed.trans (iff_of_false (Bool.eq_false_iff.mp isOpen) nofun)
        panics := holds.panics.trans (iff_of_false not_false nofun) }
    exact begun.leave _
  | failed failure =>
    exact beginClose (Or.inl state) unfinished holds.flags holds.starts holds.frames holds.finishes
      holds.panics.mp
  | panicked text =>
    have unbegun : loop.state ≠ .running := state.trans_ne (by decide)
    have going : loop.state ≠ .terminated := state.trans_ne (by decide)
    have stuck : Consistent ⟨loop, .idle, owed, history⟩ :=
      { holds with
        fits := Stage.fits_idle (iff_of_false unbegun (Bool.eq_false_iff.mp idle)) going isOpen unfinished
        panics := holds.panics.trans (iff_of_true trivial state) }
    exact stuck.leave _

/-- A frame was drawn, and the hook returns or the loop ends. -/
theorem answerFrame (holds : run.Consistent) {outcome : FrameOutcome} (stage : run.stage = .drawn outcome) :
    (run.answerFrame program outcome).Consistent := by
  obtain ⟨loop, stage, owed, history⟩ := run
  cases stage
  cases outcome with
  | proceed =>
    have counted : Consistent ⟨loop.countFrame, .notified, owed, history⟩ := { holds with }
    exact counted.goOn _
  | stop =>
    obtain ⟨state, -, -, unfinished⟩ := holds.fits
    exact beginClose (Or.inr state) unfinished holds.flags holds.starts holds.frames holds.finishes
      holds.panics.mp

/-- The loop ends for good. -/
theorem conclude (holds : run.Consistent) {answer : Entry.Answer} (stage : run.stage = .closing answer) :
    Consistent ({ run with loop := run.loop.conclude }.leave answer) := by
  obtain ⟨loop, stage, owed, history⟩ := run
  cases stage
  obtain ⟨-, shut, unfinished⟩ := holds.fits
  obtain ⟨session, queue, calls, asked, -⟩ := loop.conclude_frame
  have fits : (Stage.idle : Stage τ).Fits .terminated loop.session.reset.initialized loop.queue.closed
      (loop.finishes + 1) :=
    ⟨iff_of_false nofun nofun, iff_of_true shut rfl, congrArg (· + 1) unfinished⟩
  have ended : Consistent ⟨loop.conclude, .idle, owed, history⟩ :=
    { fits := by
        rw [session, queue]
        exact fits
      flags := by
        rw [session]
        rfl
      empty := by simpa [queue] using holds.empty
      starts := by simpa [session] using holds.starts
      frames := by simpa [calls] using holds.frames
      finishes := by simpa [asked] using holds.finishes
      closed := by simpa [queue] using holds.closed
      panics := holds.panics.trans (iff_of_false not_false nofun) }
  exact ended.leave _

/-- The next step of the loop's thread, stage by stage. -/
theorem next (holds : run.Consistent) (calm : run.Calm) : (run.next program).Consistent := by
  obtain ⟨loop, stage, owed, history⟩ := run
  cases stage with
  | idle => exact holds
  | configured => exact holds.answered rfl (.init _) _ nofun
  | started reply => exact holds.answerStart rfl
  | notified => exact holds.goOn _
  | choosing pass batch =>
    cases batch with
    | nil => exact holds.finishPass rfl
    | cons task rest =>
      obtain ⟨state, inSession, -, isOpen, unfinished⟩ := holds.fits
      have chosen : Consistent ⟨loop, .running pass task task.acts rest, owed, history⟩ :=
        { holds with fits := ⟨state, inSession, isOpen, unfinished⟩ }
      exact chosen.note rfl nofun
  | running pass task acts rest =>
    cases acts with
    | cons act acts =>
      have moved : Consistent ⟨loop, .running pass task acts rest, owed, history⟩ := { holds with }
      exact moved.perform rfl act
    | nil => exact holds.judge rfl (calm pass task rest rfl)
  | failing pass failure =>
    obtain ⟨state, isOpen, unfinished⟩ := holds.fits
    exact beginClose (Or.inr state) unfinished holds.flags holds.starts holds.frames holds.finishes
      holds.panics.mp
  | drawn outcome => exact holds.answerFrame rfl
  | closing answer => exact holds.conclude rfl

/-- A hook returns at once. -/
theorem leaveIdle (holds : run.Consistent) (idle : run.stage = .idle) (answer : Entry.Answer) :
    (run.leave answer).Consistent := by
  obtain ⟨loop, stage, owed, history⟩ := run
  cases idle
  exact leave holds answer

/-- A notice and no more. -/
theorem report (holds : run.Consistent) (notices : List Notice) :
    Consistent { run with loop := run.loop.report notices } := by
  rw [report_eq_offer]
  exact holds.offer (.report notices run.loop)

/-- A pass over the queue of a running loop begins, in a session. -/
theorem takeBatch (holds : run.Consistent) (idle : run.stage = .idle)
    (state : run.loop.state = .running) (drawing : Bool) : (run.takeBatch drawing).Consistent := by
  have running := holds.of_running idle state
  obtain ⟨-, inSession, isOpen, unfinished⟩ := running.fits
  exact { running with
    fits := ⟨state, inSession, fun _ => inSession, isOpen, unfinished⟩
    empty := fun _ => rfl }

/-- A surface is created: the engine is configured, or told about it. -/
theorem surfaceCreated (holds : run.Consistent) (idle : run.stage = .idle) (thread : ThreadId) :
    (run.beginHook program (.surfaceCreated thread)).Consistent := by
  cases state : run.loop.state <;> simp only [LoopRun.beginHook, state]
  case initializing => exact (holds.report _).leaveIdle idle _
  case terminated => exact (holds.report _).leaveIdle idle _
  case running => exact (holds.of_running idle state).call (.notify .surfaceCreated) _ (by simp)
  case uninitialized =>
    obtain ⟨loop, stage, owed, history⟩ := run
    cases idle
    obtain ⟨running, terminated, finished⟩ := holds.fits
    have going : loop.state ≠ .terminated := state.trans_ne (by decide)
    have unbegun : loop.state ≠ .running := state.trans_ne (by decide)
    have unstarted : loop.state ≠ .initializing := state.trans_ne (by decide)
    obtain ⟨session, queue, calls, asked, initializing, -, frames, finishes⟩ := loop.prepare_frame
    have idle : loop.session.initialized = false := Bool.eq_false_iff.mpr (running.not.mp unbegun)
    have isOpen : loop.queue.closed = false := Bool.eq_false_iff.mpr (terminated.not.mpr going)
    have prepared : Consistent ⟨loop.prepare, .configured, owed, history⟩ :=
      { fits := by
          rw [session, queue, finishes]
          exact ⟨initializing, idle, isOpen, finished.trans (if_neg going)⟩
        flags := by simpa [session] using holds.flags
        empty := by simpa [queue] using holds.empty
        starts := by simpa [session] using holds.starts
        frames := by simpa [calls, frames] using holds.frames
        finishes := by simpa [asked, finishes] using holds.finishes
        closed := by simpa [queue] using holds.closed
        panics := holds.panics.trans (iff_of_false unstarted not_false) }
    exact prepared.call (.configure _ _) _ (by simp)

theorem beginHook (holds : run.Consistent) (idle : run.stage = .idle) (entry : Entry) :
    (run.beginHook program entry).Consistent := by
  cases entry with
  | surfaceCreated thread => exact holds.surfaceCreated idle thread
  | surfaceChanged thread width height => exact (holds.report _).leaveIdle idle _
  | drawFrame thread =>
    cases state : run.loop.state <;> simp only [LoopRun.beginHook, state]
    case running => exact holds.takeBatch idle state true
    all_goals exact holds.leaveIdle idle _
  | deliverRest =>
    cases state : run.loop.state <;> simp only [LoopRun.beginHook, state]
    case running => exact holds.takeBatch idle state false
    all_goals exact holds.leaveIdle idle _

theorem enter (holds : run.Consistent) (idle : run.stage = .idle) (entry : Entry) :
    (run.enter program entry).Consistent := by
  refine enter_induction (P := Consistent) (fun panic => ?_) fun owner => ?_
  · exact holds.leaveIdle idle _
  · have entered : Consistent { run with loop := { run.loop with owner } } := { holds with }
    exact entered.beginHook idle entry

theorem step (holds : run.Consistent) (calm : ∀ task ∈ run.tasks, task.Calm) (move : Move τ) :
    (run.step program move).Consistent := by
  refine step_induction (P := Consistent) holds ?_ ?_ (holds.next (calm_of_tasks calm))
  · intro owed offered loop outside _
    have resumed : Consistent { run with owed } := { holds with }
    exact resumed.offer outside
  · exact fun entry idle => holds.enter idle entry

/-- The next step of the loop's thread leaves the state alone, or changes it to one that may follow it.
-/
theorem state_next (holds : run.Consistent) :
    (run.next program).loop.state = run.loop.state ∨
      (run.next program).loop.state ∈ run.loop.state.successors := by
  obtain ⟨loop, stage, owed, history⟩ := run
  have fits := holds.fits
  cases stage with
  | idle => exact Or.inl rfl
  | configured => exact Or.inl rfl
  | started reply =>
    have state : loop.state = .initializing := fits.1
    cases reply with
    | ready =>
      right
      show LoopState.running ∈ loop.state.successors
      rw [state]
      decide
    | failed failure => simp [LoopRun.next, LoopRun.answerStart]
    | panicked text => exact Or.inl rfl
  | notified => exact Or.inl rfl
  | choosing pass batch =>
    cases batch with
    | nil =>
      have state : loop.state = .running := fits.1
      simp only [LoopRun.next, LoopRun.finishPass]
      split
      · left
        split <;> rfl
      · right
        show LoopState.uninitialized ∈ loop.state.successors
        rw [state]
        decide
    | cons task rest => exact Or.inl rfl
  | running pass task acts rest =>
    cases acts with
    | cons act acts => cases act <;> exact Or.inl rfl
    | nil =>
      simp only [LoopRun.next, LoopRun.judge]
      cases loop.verdict pass.inSession task <;> exact Or.inl rfl
  | failing pass failure => simp [LoopRun.next]
  | drawn outcome => cases outcome <;> simp [LoopRun.next, LoopRun.answerFrame]
  | closing answer =>
    have state : loop.state = .initializing ∨ loop.state = .running := fits.1
    right
    show LoopState.terminated ∈ loop.state.successors
    rcases state with state | state <;> rw [state] <;> decide

/-- One move leaves the state alone, or changes it to one that may follow it. -/
theorem state_step (holds : run.Consistent) (move : Move τ) :
    (run.step program move).loop.state = run.loop.state ∨
      (run.step program move).loop.state ∈ run.loop.state.successors := by
  refine step_induction (P := fun after => after.loop.state = run.loop.state ∨
    after.loop.state ∈ run.loop.state.successors) (Or.inl rfl) ?_ ?_ holds.state_next
  · exact fun owed offered loop outside _ => Or.inl outside.state
  · intro entry idle
    refine enter_induction (P := fun after => after.loop.state = run.loop.state ∨
      after.loop.state ∈ run.loop.state.successors) (fun panic => Or.inl rfl) fun owner => ?_
    cases entry <;> cases state : run.loop.state <;>
      simp [LoopRun.beginHook, state, LoopState.successors, LoopRun.takeBatch]

end Consistent

section Schedules

variable {program : Program ε τ} (calmJobs : ∀ job, (program.task job).Calm)
include calmJobs

/-- A schedule of tasks that do not panic keeps the invariant. -/
theorem consistent_play (engine : ε) (config : Config) {moves : List (Move τ)}
    (calmMoves : ∀ task, .submit task ∈ moves → task.Calm) :
    ((start engine config).play program moves).Consistent := by
  refine (play_induction_of_tasks (P := Consistent) calmJobs calmMoves ?_ ?_ ?_).1
  · exact List.forall_mem_nil _
  · exact consistent_start engine config
  · exact fun run holds calm move => holds.step calm move

/-- The counts of a loop fit a `UInt64` at every moment, as long as the starts of the engine that succeed and the
frames that are drawn are fewer than `2 ^ 64`. -/
theorem counters_fit (engine : ε) (config : Config) {moves : List (Move τ)}
    (calmMoves : ∀ task, .submit task ∈ moves → task.Calm) :
    let run := (start engine config).play program moves
    ((replies run.history).count .ready < UInt64.size → run.loop.session.generation < UInt64.size) ∧
      ((callsOf run.loop.journal).count .render < UInt64.size → run.loop.frames < UInt64.size) := by
  intro run
  have holds : run.Consistent := consistent_play calmJobs engine config calmMoves
  have ended : run.loop.session.generation ≤ run.loop.session.starts := Nat.le_add_right _ _
  have starts := holds.starts
  have frames := holds.frames
  exact ⟨fun few => by omega, fun few => by omega⟩

/-- **Loop, session and queue agree after every hook**, whatever the engine and the tasks do and
whenever other threads submit; the queue stays closed, and the state changes only as it may. -/
theorem loop_session_queue_agree (engine : ε) (config : Config) (moves : List (Move τ))
    (calmMoves : ∀ task, .submit task ∈ moves → task.Calm) :
    let run := (start engine config).play program moves
    (run.stage = .idle →
      (run.loop.state = .running ↔ run.loop.session.initialized = true) ∧
      (run.loop.session.initialized = true ↔ run.loop.session.running = true) ∧
      (run.loop.queue.closed = true ↔ run.loop.state = .terminated) ∧
      (run.loop.state = .terminated → run.loop.queue.tasks = []) ∧
      run.loop.session.generation + (if run.loop.session.initialized then 1 else 0) =
        (replies run.history).count .ready ∧
      run.loop.frames = (callsOf run.loop.journal).count .render ∧
      finishesOf run.loop.journal = (if run.loop.state = .terminated then 1 else 0) ∧
      (run.loop.state = .initializing ↔ ∃ text, .panicked text ∈ replies run.history)) ∧
    (.closed ∈ run.history → run.loop.queue.closed = true) ∧
    ∀ move, (run.step program move).loop.state = run.loop.state ∨
      (run.step program move).loop.state ∈ run.loop.state.successors := by
  intro run
  have holds : run.Consistent := consistent_play calmJobs engine config calmMoves
  refine ⟨fun idle => ?_, holds.closed.mp, holds.state_step⟩
  obtain ⟨fits, flags, empty, starts, frames, finishes, closed, panics⟩ := holds
  rw [idle] at fits starts frames panics
  obtain ⟨running, terminated, finished⟩ := fits
  refine ⟨running, by rw [flags], terminated, fun ended => empty (terminated.mpr ended), starts,
    frames, ?_, panics.symm⟩
  rw [← finishes]
  exact finished

end Schedules

/-- A task that ends the session twice, shuts the engine down itself, and fails. -/
def failingTask : Task Unit where
  acts := [.endSession, .endSession, .shutdown, .queue (.submit ())]
  ending := .failed ⟨"the device is lost"⟩

/-- The failing task runs in a frame while another thread submits. -/
def failingSchedule : List (Move Unit) :=
  [.enter (.surfaceCreated 0), .proceed, .proceed, .submit failingTask, .enter (.drawFrame 0),
    .proceed, .proceed, .proceed, .submit (Task.notify .lowMemory), .proceed, .proceed, .proceed,
    .proceed, .proceed, .proceed]

/-- The desktop's engine through that schedule. -/
def failingRun : LoopRun Desktop.Engine Unit :=
  (start {} {}).play (Desktop.program fun _ => Task.endActivity) failingSchedule

theorem failingRun_agrees :
    (∀ job, ((Desktop.program fun _ : Unit => Task.endActivity).task job).Calm) ∧
      (∀ task, .submit task ∈ failingSchedule → task.Calm) ∧
      failingRun.stage = .idle ∧ failingRun.loop.state = .terminated ∧
      failingRun.loop.queue.closed = true ∧ failingRun.loop.queue.tasks = [] ∧
      failingRun.loop.session.generation = 1 ∧ finishesOf failingRun.loop.journal = 1 := by
  have calmJobs : ∀ job, ((Desktop.program fun _ : Unit => Task.endActivity).task job).Calm :=
    fun _ => Task.calm_endActivity
  have calmMoves : ∀ task, .submit task ∈ failingSchedule → task.Calm := by
    rintro task member
    simp only [failingSchedule, List.mem_cons, reduceCtorEq, Move.submit.injEq, List.not_mem_nil,
      false_or, or_false] at member
    rcases member with rfl | rfl
    · exact fun text ending => nomatch ending
    · exact Task.calm_notify .lowMemory
  have idle : failingRun.stage = .idle := rfl
  have ended : failingRun.loop.state = .terminated := rfl
  obtain ⟨agree, -, -⟩ := loop_session_queue_agree calmJobs {} {} failingSchedule calmMoves
  obtain ⟨-, -, closed, empty, starts, -, finishes, -⟩ := agree idle
  refine ⟨calmJobs, calmMoves, idle, ended, closed.mpr ended, empty ended, ?_, ?_⟩
  · exact starts
  · exact finishes

end LoopRun

end EngineHost
