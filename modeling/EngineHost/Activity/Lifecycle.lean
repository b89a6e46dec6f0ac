/-
**The life of an activity, as the system reports it.**

* `Lifecycle`: the states an activity reports;
* `Lifecycle.mayFollow`: which state may be reported after which.
-/

namespace EngineHost

/-- The states an activity reports as it enters them. -/
inductive Lifecycle
  | created
  | started
  | resumed
  | paused
  | stopped
  | destroyed
  | restarted
deriving DecidableEq, Repr

/-- The states that may be reported directly after this one. -/
def Lifecycle.successors : Lifecycle → List Lifecycle
  | .created => [.started, .destroyed]
  | .started => [.resumed, .stopped]
  | .resumed => [.paused]
  | .paused => [.resumed, .stopped]
  | .stopped => [.restarted, .destroyed]
  | .restarted => [.started]
  | .destroyed => [.created]

/-- Whether a state may be reported after the previous one; the first must be `created`. -/
def Lifecycle.mayFollow (state : Lifecycle) : Option Lifecycle → Bool
  | none => state == .created
  | some previous => previous.successors.contains state

/-- The name of a state. -/
def Lifecycle.name : Lifecycle → String
  | .created => "Created"
  | .started => "Started"
  | .resumed => "Resumed"
  | .paused => "Paused"
  | .stopped => "Stopped"
  | .destroyed => "Destroyed"
  | .restarted => "Restarted"

end EngineHost
