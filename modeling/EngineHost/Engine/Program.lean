/-
**Hosted programs.**

* `Reaction`: how an engine answers a call;
* `Program`: an engine that reacts to calls, and the tasks behind the jobs it names.
-/

import EngineHost.Engine.Task
import EngineHost.Notice

namespace EngineHost

/-- How an engine answers a call: its state after it, its uses of the queue, what it says, and a reply. -/
structure Reaction (ε τ α : Type) where
  engine : ε
  uses : List (QueueUse τ) := []
  notices : List Notice := []
  reply : α

/-- How the start of an engine ends. -/
inductive InitReply
  | ready
  | failed (failure : EngineFailure)
  | panicked (text : String)
deriving DecidableEq, Repr

/-- A hosted program: an engine with states `ε`, and the tasks behind the jobs `τ`. -/
structure Program (ε τ : Type) where
  configure : ε → String → String → Reaction ε τ Unit
  init : ε → List String → Reaction ε τ InitReply
  render : ε → Reaction ε τ FrameOutcome
  shutdown : ε → Reaction ε τ Unit
  notify : ε → Notification → Reaction ε τ Unit
  task : τ → Task τ

/-- The task that a use of the queue submits, if it submits one. -/
def QueueUse.task? {ε τ : Type} (program : Program ε τ) : QueueUse τ → Option (Task τ)
  | .submit job => some (program.task job)
  | .look => none

end EngineHost
