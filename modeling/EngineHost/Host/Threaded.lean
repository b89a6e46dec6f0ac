/-
**A host whose frame loop runs on a thread of its own.**

* `ThreadedHost.spawn`: moves the loop of a host to a thread, which may panic;
* `ThreadedHost.signal`: a signal to the thread, handled to its end;
* `ThreadedHost.join`: asks the thread to shut down and waits for it.
-/

import EngineHost.Host.Basic
import EngineHost.Loop.LoopThread

namespace EngineHost

/-- A host and its render thread, with the end of the thread once it is over. -/
structure ThreadedHost (ε δ τ : Type) extends Host ε δ τ where
  thread : ThreadId
  ending : Option ThreadEnd := none

namespace ThreadedHost

variable {ε δ τ α : Type}

/-- Moves the loop of a host to a thread. -/
def spawn (thread : ThreadId) (host : Host ε δ τ) : Except Panic (ThreadedHost ε δ τ) :=
  (LoopThread.spawn thread host.loop).map fun spawned =>
    { host with loop := spawned.loop, thread := spawned.thread, ending := spawned.ending }

/-- A host that was spawned is the host that was created. -/
theorem toHost_of_spawn {thread : ThreadId} {created : Host ε δ τ} {host : ThreadedHost ε δ τ}
    (spawned : spawn thread created = .ok host) : host.toHost = created := by
  unfold spawn LoopThread.spawn at spawned
  cases named : ThreadName.toStart created.loop.config.renderThreadName with
  | error panic =>
    rw [named] at spawned
    cases spawned
  | ok name =>
    rw [named] at spawned
    cases spawned
    rfl

/-- The render thread of a host. -/
def loopThread (host : ThreadedHost ε δ τ) : LoopThread ε τ where
  loop := host.loop
  thread := host.thread
  ending := host.ending

/-- Changes the render thread of a host. -/
def onThread (step : LoopThread ε τ → α × LoopThread ε τ) (host : ThreadedHost ε δ τ) :
    α × ThreadedHost ε δ τ :=
  let (answer, thread) := step host.loopThread
  (answer, { host with loop := thread.loop, ending := thread.ending })

/-- Sends a signal and lets it be handled; says whether anybody was there to receive it. -/
def signal (program : Program ε τ) (signal : Signal) (host : ThreadedHost ε δ τ) :
    Bool × ThreadedHost ε δ τ :=
  host.onThread (·.send program signal)

/-- Asks the render thread to shut down and waits for its end. -/
def join (program : Program ε τ) (host : ThreadedHost ε δ τ) :
    Except HostFailure LoopState × ThreadedHost ε δ τ :=
  host.onThread (·.join program)

end ThreadedHost

end EngineHost
