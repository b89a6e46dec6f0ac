/-
**The queue between the threads of the system and the render thread.**

* `Queue.submit`: adds a task at the end, unless the queue is closed;
* `Queue.take`: hands out all tasks at once; `Queue.putBack` returns the rest of them in front of newer ones;
* `Queue.close` drops what is pending and refuses from then on; `Queue.reopen` accepts again;
* `tasks_submit`, `tasks_putBack`: what submission and return do to the tasks.
-/

namespace EngineHost

/-- The tasks that wait, oldest first, and whether the queue is closed. -/
structure Queue (α : Type) where
  tasks : List α := []
  closed : Bool := false
deriving Repr, Inhabited

namespace Queue

variable {α : Type}

/-- The number of tasks that wait. -/
def pending (queue : Queue α) : Nat := queue.tasks.length

/-- Adds a task at the end; a closed queue refuses it. -/
def submit (task : α) (queue : Queue α) : Option (Queue α) :=
  if queue.closed then none else some { queue with tasks := queue.tasks ++ [task] }

/-- Hands out every task that waits. -/
def take (queue : Queue α) : List α × Queue α := (queue.tasks, { queue with tasks := [] })

/-- Returns tasks in front of those that came in the meantime. -/
def putBack (rest : List α) (queue : Queue α) : Queue α := { queue with tasks := rest ++ queue.tasks }

/-- Drops what waits and refuses from now on. -/
def close (_queue : Queue α) : Queue α := { tasks := [], closed := true }

/-- Accepts again. -/
def reopen (queue : Queue α) : Queue α := { queue with closed := false }

theorem submit_eq_none_iff {task : α} {queue : Queue α} :
    queue.submit task = none ↔ queue.closed = true := by
  simp [submit]

theorem tasks_submit {task : α} {queue after : Queue α} (accepted : queue.submit task = some after) :
    after.tasks = queue.tasks ++ [task] := by
  unfold submit at accepted
  split at accepted
  · cases accepted
  · cases accepted; rfl

theorem tasks_putBack (rest : List α) (queue : Queue α) :
    (queue.putBack rest).tasks = rest ++ queue.tasks := rfl

/-- The sender's end as a developer sees it. -/
def describeSender (queue : Queue α) : String :=
  "Dispatcher \x7b pending: " ++ toString queue.pending ++ ", closed: " ++ toString queue.closed ++ " \x7d"

/-- The receiver's end as a developer sees it. -/
def describeReceiver (queue : Queue α) : String :=
  "EventDispatchQueue \x7b pending: " ++ toString queue.pending ++ " \x7d"

end Queue

end EngineHost
