/-
**An engine that reports what it is told, and stops once the user confirms to quit.**

* `Desktop.Engine`: the frames drawn so far, and whether to quit;
* `Desktop.program`: the hosted program of this engine.
-/

import EngineHost.Engine.Program

namespace EngineHost.Desktop

/-- The state of the engine. -/
structure Engine where
  frames : Nat := 0
  quit : Bool := false
deriving DecidableEq, Repr, Inhabited

/-- The engine says after every so many frames that it is still drawing. -/
def reportInterval : Nat := 300

/-- What the engine says about an entry of the activity into a state. -/
def lifecycleText : Lifecycle → Option String
  | .created => some "lifecycle: create"
  | .started => some "lifecycle: start"
  | .resumed => some "lifecycle: resume"
  | .paused => some "lifecycle: pause"
  | .stopped => some "lifecycle: stop"
  | .destroyed => some "lifecycle: destroy"
  | .restarted => none

/-- What the engine says about an input. -/
def inputText : UserInput → Option String
  | .keyDown .. => some "key down"
  | .keyUp _ => some "key up"
  | .touch .. => some "touch"
  | _ => none

/-- What the engine says about an answer to a dialog. -/
def outcomeText : Dialog.Outcome → Option String
  | .ok => none
  | .yes => some "quit confirmed"
  | .no => some "quit declined"
  | .cancel => some "quit dialog dismissed"

/-- Something that may be said on a level. -/
def spoken (level : Level) (text : Option String) : List Notice := (text.map (Notice.said level)).toList

/-- What the engine says about a notification. -/
def heard : Notification → List Notice
  | .input event => spoken .debug (inputText event)
  | .lifecycle state => spoken .info (lifecycleText state)
  | .dialog outcome => spoken .info (outcomeText outcome)
  | .windowFocus _ => spoken .info (some "focus changed")
  | .keyboard _ => spoken .info (some "soft keyboard changed")
  | .lowMemory => []
  | .surfaceCreated => spoken .info (some "surface recreated")

/-- The engine after a notification: a confirmed dialog makes it quit. -/
def Engine.told (engine : Engine) : Notification → Engine
  | .dialog .yes => { engine with quit := true }
  | _ => engine

/-- The engine draws one more frame. -/
def Engine.draw {τ : Type} (engine : Engine) : Reaction Engine τ FrameOutcome :=
  let frames := engine.frames + 1
  { engine := { engine with frames }
    notices := if frames % reportInterval = 0 then [.said .debug "still rendering"] else []
    reply := FrameOutcome.ofKeepGoing (!engine.quit) }

/-- The hosted program of this engine, with tasks for jobs. -/
def program {τ : Type} (task : τ → Task τ) : Program Engine τ where
  configure engine _ _ := { engine, notices := [.said .info "engine configured"], reply := () }
  init engine _ := { engine, notices := [.said .info "engine init"], reply := .ready }
  render engine := engine.draw
  shutdown engine := { engine, notices := [.said .info "engine shutdown"], reply := () }
  notify engine notification :=
    { engine := engine.told notification, notices := heard notification, reply := () }
  task := task

end EngineHost.Desktop
