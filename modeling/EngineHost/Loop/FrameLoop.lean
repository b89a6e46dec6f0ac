/-
**The frame loop: the one place from which the engine is called.**

* `FrameLoop.enter`: the first thread to enter owns the loop, and no other may enter;
* `FrameLoop.surfaceCreated`, `FrameLoop.surfaceChanged`, `FrameLoop.drawFrame`: the hooks;
* `FrameLoop.startEngine`: configures the engine, starts it, and begins a session if it starts;
* `FrameLoop.deliver`: what happens before a frame; `FrameLoop.deliverRest` does it without a frame;
* `FrameLoop.close`: closes the queue, shuts the engine down, ends the session and asks the host to finish.
-/

import EngineHost.Config
import EngineHost.Engine.Room
import EngineHost.Loop.ThreadName

namespace EngineHost

/-- What names a thread. -/
abbrev ThreadId := Nat

/-- The states of a frame loop. -/
inductive LoopState
  | uninitialized
  | initializing
  | running
  | terminated
deriving DecidableEq, Repr

/-- The name of a state. -/
def LoopState.name : LoopState → String
  | .uninitialized => "Uninitialized"
  | .initializing => "Initializing"
  | .running => "Running"
  | .terminated => "Terminated"

/-- A frame loop: the engine room, and what only the loop sees. -/
structure FrameLoop (ε τ : Type) extends EngineRoom ε τ where
  config : Config
  state : LoopState := .uninitialized
  owner : Option ThreadId := none
  /-- How many frames were drawn. It fits a `UInt64` as long as these are fewer than `2 ^ 64`. -/
  frames : Nat := 0
  /-- How often the host was asked to finish. -/
  finishes : Nat := 0

namespace FrameLoop

variable {ε τ : Type}

/-- A loop around an engine that was not started. -/
def create (engine : ε) (config : Config) : FrameLoop ε τ := { engine, config }

/-- Changes the engine room. -/
def inRoom (change : EngineRoom ε τ → EngineRoom ε τ) (loop : FrameLoop ε τ) : FrameLoop ε τ :=
  { loop with toEngineRoom := change loop.toEngineRoom }

/-- Adds notices to the journal. -/
def report (notices : List Notice) (loop : FrameLoop ε τ) : FrameLoop ε τ :=
  loop.inRoom (·.report notices)

/-- Lets a thread enter: the first one becomes the owner, and every other panics and changes nothing. -/
def enter (thread : ThreadId) (loop : FrameLoop ε τ) : Except Panic (FrameLoop ε τ) :=
  match loop.owner with
  | none => .ok { loop with owner := some thread }
  | some owner => if owner = thread then .ok loop else .error .foreignThread

/-- The last part of the end of a loop: the session ends, and the host is asked to finish. -/
def conclude (loop : FrameLoop ε τ) : FrameLoop ε τ :=
  { (loop.inRoom (·.endSession)).inRoom (·.record [.finish]) with
    state := .terminated, finishes := loop.finishes + 1 }

/-- Ends the loop for good. The queue closes first, so that the engine cannot submit while it is shut down;
the last thing is to ask the host to finish. -/
def close (program : Program ε τ) (loop : FrameLoop ε τ) : FrameLoop ε τ :=
  let closed := loop.inRoom (·.closeQueue)
  (if closed.session.initialized then closed.inRoom (·.shutdown program) else closed).conclude

/-- Ends the loop for a reason. -/
def abort (program : Program ε τ) (reason : HostFailure) (loop : FrameLoop ε τ) : FrameLoop ε τ :=
  (loop.report [.terminating reason]).close program

/-- Names the render thread; a name that the system would refuse is reported. -/
def nameThread (loop : FrameLoop ε τ) : FrameLoop ε τ :=
  match ThreadName.shown? loop.config.renderThreadName with
  | some _ => loop
  | none => loop.report [.threadNameRefused loop.config.renderThreadName]

/-- Gets ready to start the engine. -/
def prepare (loop : FrameLoop ε τ) : FrameLoop ε τ := { loop with state := .initializing }.nameThread

/-- The engine started: a session begins. -/
def beginSession (loop : FrameLoop ε τ) : FrameLoop ε τ :=
  { loop with
    session := loop.session.begun, queue := loop.queue.reopen, state := .running }.report
      [.engineInitialized loop.session.generation]

/-- Configures the engine. -/
def configureEngine (program : Program ε τ) (loop : FrameLoop ε τ) : FrameLoop ε τ :=
  let config := loop.config
  loop.prepare.inRoom fun room =>
    room.take program (.configure config.dataPath config.archivePath)
      (program.configure room.engine config.dataPath config.archivePath)

/-- Starts the configured engine and, if it starts, a session. A panic leaves the loop initializing. -/
def initEngine (program : Program ε τ) (loop : FrameLoop ε τ) : Except Panic Unit × FrameLoop ε τ :=
  let args := loop.config.launchArgs
  let reaction := program.init loop.engine args
  let started := loop.inRoom (·.take program (.init args) reaction)
  match reaction.reply with
  | .ready => (.ok (), started.beginSession)
  | .failed failure => (.ok (), started.abort program (.engineFailed failure))
  | .panicked text => (.error (.raised text), started)

/-- Configures and starts the engine. -/
def startEngine (program : Program ε τ) (loop : FrameLoop ε τ) : Except Panic Unit × FrameLoop ε τ :=
  (loop.configureEngine program).initEngine program

/-- A surface was created: the first one starts the engine, a later one is passed on to it. -/
def surfaceCreated (program : Program ε τ) (thread : ThreadId) (loop : FrameLoop ε τ) :
    Except Panic Unit × FrameLoop ε τ :=
  match loop.enter thread with
  | .error panic => (.error panic, loop)
  | .ok loop =>
    match loop.state with
    | .uninitialized => loop.startEngine program
    | .running => (.ok (), loop.inRoom (·.notify program .surfaceCreated))
    | .initializing => (.ok (), loop.report [.surfaceWhileInitializing])
    | .terminated => (.ok (), loop.report [.surfaceAfterTermination])

/-- The surface changed its size. -/
def surfaceChanged (thread : ThreadId) (width height : UInt32) (loop : FrameLoop ε τ) :
    Except Panic Unit × FrameLoop ε τ :=
  match loop.enter thread with
  | .error panic => (.error panic, loop)
  | .ok loop => (.ok (), loop.report [.surfaceChanged width height])

/-- The session is over, and the next surface begins another one. -/
def awaitSurface (loop : FrameLoop ε τ) : FrameLoop ε τ :=
  { loop.report [.sessionEnded] with state := .uninitialized }

/-- Delivers what waits. The outcome is that of a frame which must not be drawn any more: the loop stops after
a failed task, and waits for the next surface after the end of the session. -/
def deliver (program : Program ε τ) (loop : FrameLoop ε τ) :
    Except Panic (Option FrameOutcome) × FrameLoop ε τ :=
  let (ending, room) := loop.toEngineRoom.pass program
  let delivered := { loop with toEngineRoom := room }
  match ending with
  | .panicked text => (.error (.raised text), delivered)
  | .failed failure => (.ok (some .stop), delivered.abort program (.engineFailed failure))
  | .done =>
    if delivered.session.initialized then (.ok none, delivered)
    else (.ok (some .proceed), delivered.awaitSurface)

/-- Counts a frame that was drawn. -/
def countFrame (loop : FrameLoop ε τ) : FrameLoop ε τ := { loop with frames := loop.frames + 1 }

/-- Draws one frame; an engine that wants to stop ends the loop. -/
def render (program : Program ε τ) (loop : FrameLoop ε τ) : FrameOutcome × FrameLoop ε τ :=
  let reaction := program.render loop.engine
  let counted := (loop.inRoom (·.take program .render reaction)).countFrame
  match reaction.reply with
  | .proceed => (.proceed, counted)
  | .stop => (.stop, (counted.report [.stopRequested counted.frames]).close program)

/-- A frame of a running loop: what waits is delivered first, and drawing follows unless that ended the
session or the loop. -/
def frame (program : Program ε τ) (loop : FrameLoop ε τ) : Except Panic FrameOutcome × FrameLoop ε τ :=
  match loop.deliver program with
  | (.error panic, loop) => (.error panic, loop)
  | (.ok (some outcome), loop) => (.ok outcome, loop)
  | (.ok none, loop) =>
    let (outcome, loop) := loop.render program
    (.ok outcome, loop)

/-- A frame is due. Without an engine there is nothing to draw. -/
def drawFrame (program : Program ε τ) (thread : ThreadId) (loop : FrameLoop ε τ) :
    Except Panic FrameOutcome × FrameLoop ε τ :=
  match loop.enter thread with
  | .error panic => (.error panic, loop)
  | .ok loop =>
    match loop.state with
    | .running => loop.frame program
    | .terminated => (.ok .stop, loop)
    | .uninitialized | .initializing => (.ok .proceed, loop)

/-- Delivers what waits, if the loop is running. -/
def deliverRest (program : Program ε τ) (loop : FrameLoop ε τ) : Except Panic Unit × FrameLoop ε τ :=
  match loop.state with
  | .running =>
    match loop.deliver program with
    | (.error panic, loop) => (.error panic, loop)
    | (.ok _, loop) => (.ok (), loop)
  | _ => (.ok (), loop)

/-! ### What a part of a hook leaves alone -/

@[simp] theorem inRoom_frame (change : EngineRoom ε τ → EngineRoom ε τ) (loop : FrameLoop ε τ) :
    (loop.inRoom change).toEngineRoom = change loop.toEngineRoom ∧
      (loop.inRoom change).state = loop.state ∧ (loop.inRoom change).config = loop.config ∧
      (loop.inRoom change).owner = loop.owner ∧
      (loop.inRoom change).frames = loop.frames ∧ (loop.inRoom change).finishes = loop.finishes :=
  ⟨rfl, rfl, rfl, rfl, rfl, rfl⟩

@[simp] theorem report_frame (notices : List Notice) (loop : FrameLoop ε τ) :
    (loop.report notices).toEngineRoom = loop.toEngineRoom.report notices ∧
      (loop.report notices).state = loop.state ∧ (loop.report notices).config = loop.config ∧
      (loop.report notices).owner = loop.owner ∧
      (loop.report notices).frames = loop.frames ∧ (loop.report notices).finishes = loop.finishes :=
  ⟨rfl, rfl, rfl, rfl, rfl, rfl⟩

theorem report_nil (loop : FrameLoop ε τ) : loop.report [] = loop := by
  simp [report, inRoom, EngineRoom.report, EngineRoom.record]

/-- Who enters is the owner from then on, and nothing else changes. -/
theorem eq_of_enter {thread : ThreadId} {loop entered : FrameLoop ε τ}
    (accepted : loop.enter thread = .ok entered) : entered = { loop with owner := some thread } := by
  unfold enter at accepted
  split at accepted
  · cases accepted
    rfl
  · rename_i owner known
    split at accepted
    · rename_i same
      cases accepted
      rw [← same, ← known]
    · cases accepted

/-- Whoever is inside may enter again. -/
theorem enter_again {thread : ThreadId} {loop entered : FrameLoop ε τ}
    (accepted : loop.enter thread = .ok entered) : entered.enter thread = .ok entered := by
  rw [eq_of_enter accepted]
  simp [enter]

@[simp] theorem prepare_frame (loop : FrameLoop ε τ) :
    loop.prepare.session = loop.session ∧ loop.prepare.queue = loop.queue ∧
      callsOf loop.prepare.journal = callsOf loop.journal ∧
      finishesOf loop.prepare.journal = finishesOf loop.journal ∧
      loop.prepare.state = .initializing ∧ loop.prepare.config = loop.config ∧
      loop.prepare.frames = loop.frames ∧ loop.prepare.finishes = loop.finishes := by
  unfold prepare nameThread
  split <;> simp

@[simp] theorem beginSession_frame (loop : FrameLoop ε τ) :
    loop.beginSession.session = loop.session.begun ∧ loop.beginSession.queue = loop.queue.reopen ∧
      callsOf loop.beginSession.journal = callsOf loop.journal ∧
      finishesOf loop.beginSession.journal = finishesOf loop.journal ∧
      loop.beginSession.state = .running ∧ loop.beginSession.config = loop.config ∧
      loop.beginSession.frames = loop.frames ∧ loop.beginSession.finishes = loop.finishes := by
  simp [beginSession]

@[simp] theorem awaitSurface_frame (loop : FrameLoop ε τ) :
    loop.awaitSurface.session = loop.session ∧ loop.awaitSurface.queue = loop.queue ∧
      callsOf loop.awaitSurface.journal = callsOf loop.journal ∧
      finishesOf loop.awaitSurface.journal = finishesOf loop.journal ∧
      loop.awaitSurface.state = .uninitialized ∧ loop.awaitSurface.config = loop.config ∧
      loop.awaitSurface.frames = loop.frames ∧ loop.awaitSurface.finishes = loop.finishes := by
  simp [awaitSurface]

@[simp] theorem conclude_frame (loop : FrameLoop ε τ) :
    loop.conclude.session = loop.session.reset ∧ loop.conclude.queue = loop.queue ∧
      callsOf loop.conclude.journal = callsOf loop.journal ∧
      finishesOf loop.conclude.journal = finishesOf loop.journal + 1 ∧
      loop.conclude.state = .terminated ∧ loop.conclude.config = loop.config ∧
      loop.conclude.frames = loop.frames ∧ loop.conclude.finishes = loop.finishes + 1 := by
  simp [conclude]

@[simp] theorem countFrame_frame (loop : FrameLoop ε τ) :
    loop.countFrame.toEngineRoom = loop.toEngineRoom ∧ loop.countFrame.state = loop.state ∧
      loop.countFrame.config = loop.config ∧
      loop.countFrame.frames = loop.frames + 1 ∧ loop.countFrame.finishes = loop.finishes :=
  ⟨rfl, rfl, rfl, rfl, rfl⟩

@[simp] theorem conclude_engine (loop : FrameLoop ε τ) : loop.conclude.engine = loop.engine :=
  EngineRoom.endSession_engine loop.toEngineRoom

/-- A loop as a developer sees it. -/
def describe (loop : FrameLoop ε τ) : String :=
  "RenderLoopDriver \x7b state: " ++ loop.state.name ++ ", session: " ++ loop.session.describe ++
    ", frames: " ++ toString loop.frames ++ ", .. \x7d"

end FrameLoop

end EngineHost
