/-
**The calls into an engine.**

* `Notification`: what an engine can be told;
* `EngineCall`: every call into an engine;
* `FrameOutcome`: whether an engine goes on after a frame.
-/

import EngineHost.Activity.Lifecycle
import EngineHost.Activity.UserInput
import EngineHost.Dialog.Basic
import EngineHost.Keyboard.Layout

namespace EngineHost

/-- Whether the engine wants to go on after a frame. -/
inductive FrameOutcome
  | proceed
  | stop
deriving DecidableEq, Repr

/-- The outcome of an engine that says whether it keeps going. -/
def FrameOutcome.ofKeepGoing (keepGoing : Bool) : FrameOutcome := if keepGoing then .proceed else .stop

/-- The name of an outcome. -/
def FrameOutcome.name : FrameOutcome → String
  | .proceed => "Continue"
  | .stop => "Stop"

/-- What an engine can be told. -/
inductive Notification
  | input (event : UserInput)
  | lifecycle (state : Lifecycle)
  | dialog (outcome : Dialog.Outcome)
  | windowFocus (focused : Bool)
  | keyboard (layout : Keyboard.Layout)
  | lowMemory
  | surfaceCreated
deriving DecidableEq, Repr

/-- A call into an engine. -/
inductive EngineCall
  | configure (dataPath archivePath : String)
  | init (args : List String)
  | render
  | shutdown
  | notify (notification : Notification)
deriving DecidableEq, Repr

end EngineHost
