/-
**Tasks: the work that waits for the engine.**

* `QueueUse`: how hosted code uses the queue;
* `Act`, `Task`: what a task does, and how it ends;
* `Task.notify`, `Task.endActivity`: the tasks that a host submits of its own.

A job `τ` names a task, so that a task may submit tasks, copies of itself among them.
-/

import EngineHost.Engine.Call
import EngineHost.Failure

namespace EngineHost

/-- One use of the queue by hosted code; a job stands for a task. -/
inductive QueueUse (τ : Type)
  | submit (job : τ)
  | look
deriving DecidableEq, Repr

/-- One thing that a task does. -/
inductive Act (τ : Type)
  | notify (notification : Notification)
  | shutdown
  | endSession
  | lookAtSession
  | queue (use : QueueUse τ)
deriving DecidableEq, Repr

/-- How a task ends: done, with a failure, or by stopping where it stands. -/
inductive TaskEnd
  | done
  | failed (failure : EngineFailure)
  | panicked (text : String)
deriving DecidableEq, Repr

/-- A task: what it does, in order, and how it ends. -/
structure Task (τ : Type) where
  acts : List (Act τ)
  ending : TaskEnd := .done
deriving DecidableEq, Repr

/-- The task that tells the engine one thing. -/
def Task.notify {τ : Type} (notification : Notification) : Task τ where
  acts := [.notify notification]

/-- The task that ends the session of an activity that is destroyed. -/
def Task.endActivity {τ : Type} : Task τ where
  acts := [.notify (.lifecycle .destroyed), .shutdown, .endSession]

end EngineHost
