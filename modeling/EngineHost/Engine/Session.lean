/-
**The session of the engine.**

* `Session.begun`: the session after a successful start of the engine;
* `Session.reset`: the session after its end; a session that was begun counts one generation;
* `Session.starts`: the number of starts that a session stands for.
-/

namespace EngineHost

/-- The session of the engine: begun or not, and how many were ended before. -/
structure Session where
  initialized : Bool := false
  running : Bool := false
  /-- How many sessions were ended before. It fits a `UInt64` as long as fewer than `2 ^ 64` were begun. -/
  generation : Nat := 0
deriving DecidableEq, Repr, Inhabited

namespace Session

/-- The session after the engine was started. -/
def begun (session : Session) : Session := { session with initialized := true, running := true }

/-- The session after its end. -/
def reset (session : Session) : Session where
  initialized := false
  running := false
  generation := session.generation + (if session.initialized then 1 else 0)

/-- The number of sessions that were begun so far. -/
def starts (session : Session) : Nat := session.generation + (if session.initialized then 1 else 0)

@[simp] theorem begun_flags (session : Session) :
    session.begun.initialized = true ∧ session.begun.running = true :=
  ⟨rfl, rfl⟩

@[simp] theorem reset_flags (session : Session) :
    session.reset.initialized = false ∧ session.reset.running = false :=
  ⟨rfl, rfl⟩

@[simp] theorem starts_reset (session : Session) : session.reset.starts = session.starts := by
  simp [starts, reset]

@[simp] theorem starts_begun (session : Session) (idle : session.initialized = false) :
    session.begun.starts = session.starts + 1 := by
  simp [starts, begun, idle]

/-- A session as a developer sees it. -/
def describe (session : Session) : String :=
  "EngineSession \x7b initialized: " ++ toString session.initialized ++ ", running: " ++
    toString session.running ++ ", generation: " ++ toString session.generation ++ " \x7d"

end Session

end EngineHost
