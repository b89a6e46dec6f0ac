/-
**A host: the system on one side, the frame loop on the other.**

* `Host.create`: a host around an engine that was not started;
* `Host.ask`: a question to the system;
* `Host.onLoop`: a hook of the frame loop;
* `Host.submit`, `Host.notify`: submissions to the queue of the frame loop.
-/

import EngineHost.Dialog.Slot
import EngineHost.Keyboard.Watch
import EngineHost.Loop.FrameLoop

namespace EngineHost

/-- What the host remembers between the hooks of the system. -/
structure Memory where
  profile : Device.Profile
  keyboardThreshold : Float32
  dialogs : Dialog.Slot := {}
  keyboard : Keyboard.Watch := {}
  lifecycle : Option Lifecycle := none
deriving DecidableEq, Repr

/-- A host with an engine in a state `ε`, a system in a state `δ`, and jobs `τ`. -/
structure Host (ε δ τ : Type) where
  loop : FrameLoop ε τ
  memory : Memory
  device : δ

namespace Host

variable {ε δ τ α : Type}

/-- A host for a device. -/
def create (engine : ε) (config : Config) (identity : Device.Identity) (device : δ) : Host ε δ τ where
  loop := (FrameLoop.create engine config).report [.starting, .profileResolved, .profileReady]
  memory := { profile := identity.profile, keyboardThreshold := config.keyboardThreshold }
  device := device

/-- Adds notices to the journal. -/
def report (notices : List Notice) (host : Host ε δ τ) : Host ε δ τ :=
  { host with loop := host.loop.report notices }

/-- Asks the system. -/
def ask (question : Ask δ α) (host : Host ε δ τ) : α × Host ε δ τ :=
  let reply := question host.device
  (reply.answer, { host with device := reply.device }.report reply.notices)

/-- Runs a hook of the frame loop. -/
def onLoop (hook : FrameLoop ε τ → α × FrameLoop ε τ) (host : Host ε δ τ) : α × Host ε δ τ :=
  let (answer, loop) := hook host.loop
  (answer, { host with loop })

/-- Submits a task; after the end of the last session there is nobody to run it. -/
def submit (task : Task τ) (host : Host ε δ τ) : Except HostFailure Unit × Host ε δ τ :=
  let (accepted, room) := host.loop.toEngineRoom.submit task
  (if accepted then .ok () else .error .noSession,
    { host with loop := { host.loop with toEngineRoom := room } })

/-- Submits the task that tells the engine one thing. -/
def notify (notification : Notification) (host : Host ε δ τ) : Except HostFailure Unit × Host ε δ τ :=
  host.submit (Task.notify notification)

end Host

end EngineHost
