/-
**A frame loop on a thread of its own, driven by signals.**

* `LoopThread.spawn`: starts the thread, under the name that the loop is configured with;
* `LoopThread.handle`: one signal, handled to its end;
* `LoopThread.send`: a signal sent from elsewhere; nobody receives it once the thread has ended;
* `LoopThread.hangUp`: the end of a thread that can get no more signals;
* `LoopThread.join`: asks for the end and waits for it.
-/

import EngineHost.Loop.FrameLoop

namespace EngineHost

/-- What a render thread can be told. -/
inductive Signal
  | surfaceCreated
  | surfaceChanged (width height : UInt32)
  | drawFrame
  | shutdown
deriving DecidableEq, Repr

/-- How a render thread ended. -/
inductive ThreadEnd
  | returned (state : LoopState)
  | panicked (panic : Panic)
deriving DecidableEq, Repr

/-- A frame loop that was moved to a thread, and the end of the thread once it is over. -/
structure LoopThread (ε τ : Type) where
  loop : FrameLoop ε τ
  thread : ThreadId
  ending : Option ThreadEnd := none

namespace LoopThread

variable {ε τ α : Type}

/-- Moves a loop to a thread of its own; a name with a NUL keeps the thread from starting. -/
def spawn (thread : ThreadId) (loop : FrameLoop ε τ) : Except Panic (LoopThread ε τ) :=
  (ThreadName.toStart loop.config.renderThreadName).map fun _ => { loop, thread }

/-- The thread returns the state of its loop. -/
def leave (loop : FrameLoop ε τ) (thread : LoopThread ε τ) : LoopThread ε τ :=
  { thread with loop, ending := some (.returned loop.state) }

/-- The thread goes on after a hook, unless the hook panicked. -/
def goOn (result : Except Panic α × FrameLoop ε τ) (thread : LoopThread ε τ) : LoopThread ε τ :=
  match result with
  | (.ok _, loop) => { thread with loop }
  | (.error panic, loop) => { thread with loop, ending := some (.panicked panic) }

/-- Handles one signal on a thread that has not ended. -/
def handle (program : Program ε τ) (thread : LoopThread ε τ) : Signal → LoopThread ε τ
  | .surfaceCreated => thread.goOn (thread.loop.surfaceCreated program thread.thread)
  | .surfaceChanged width height => thread.goOn (thread.loop.surfaceChanged thread.thread width height)
  | .drawFrame =>
    match thread.loop.drawFrame program thread.thread with
    | (.ok .stop, loop) => thread.leave (loop.report [.threadStopping loop.frames])
    | result => thread.goOn result
  | .shutdown =>
    match (thread.loop.report [.threadShutdown]).deliverRest program with
    | (.ok _, loop) => thread.leave loop
    | result => thread.goOn result

/-- Handles one signal if the thread has not ended; a signal after the end has no effect. -/
def receive (program : Program ε τ) (thread : LoopThread ε τ) (signal : Signal) :
    LoopThread ε τ :=
  match thread.ending with
  | some _ => thread
  | none => thread.handle program signal

/-- Handles the signals of a channel in their order. -/
def receiveAll (program : Program ε τ) (thread : LoopThread ε τ) (signals : List Signal) :
    LoopThread ε τ :=
  signals.foldl (receive program) thread

/-- Sends a signal and lets it be handled; says whether anybody was there to receive it. -/
def send (program : Program ε τ) (signal : Signal) (thread : LoopThread ε τ) :
    Bool × LoopThread ε τ :=
  (thread.ending.isNone, thread.receive program signal)

/-- Every sender is gone: the thread ends where it stands. -/
def hangUp (thread : LoopThread ε τ) : LoopThread ε τ :=
  match thread.ending with
  | some _ => thread
  | none => thread.leave thread.loop

/-- Asks the thread to shut down and waits for its end: the state of its loop, unless it panicked. -/
def join (program : Program ε τ) (thread : LoopThread ε τ) :
    Except HostFailure LoopState × LoopThread ε τ :=
  let ended := thread.receive program .shutdown
  match ended.ending with
  | some (.returned state) => (.ok state, ended)
  | some (.panicked _) => (.error .threadPanicked, ended)
  | none => (.ok ended.loop.state, ended)

end LoopThread

end EngineHost
