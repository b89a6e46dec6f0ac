/-
**The hooks through which the system reaches a host.**

* `Host.lifecycle`, `Host.input`, `Host.windowFocus`, `Host.lowMemory`, `Host.keyboardLayout`: hooks that pass
  something on to the engine through the queue;
* `Host.requestKeyboard`, `Host.keyboardResult`, `Host.settingsChanged`, `Host.geometry`: hooks that ask the system;
* `Host.openDialog`, `Host.answerDialog`: dialogs from the request to the engine.
-/

import EngineHost.Host.Basic

namespace EngineHost.Host

variable {ε δ τ : Type}

/-! ### Hooks that pass something on -/

/-- The task that a lifecycle state stands for: the destruction of the activity ends the session. -/
def lifecycleTask (state : Lifecycle) : Task τ :=
  match state with
  | .destroyed => Task.endActivity
  | state => Task.notify (.lifecycle state)

/-- The activity entered a state. A state that must not follow the last one is reported and passed on all the
same. -/
def lifecycle (state : Lifecycle) (host : Host ε δ τ) : Except HostFailure Unit × Host ε δ τ :=
  let previous := host.memory.lifecycle
  let warning := if state.mayFollow previous then [] else [Notice.unexpectedLifecycle previous state]
  let entered := { host with memory := { host.memory with lifecycle := some state } }
  (entered.report (warning ++ [.lifecycle state])).submit (lifecycleTask state)

/-- The user did something. -/
def input (event : UserInput) (host : Host ε δ τ) : Except HostFailure Unit × Host ε δ τ :=
  host.notify (.input event)

/-- The window got the focus or lost it. -/
def windowFocus (focused : Bool) (host : Host ε δ τ) : Except HostFailure Unit × Host ε δ τ :=
  (host.report [.focusChanged focused]).notify (.windowFocus focused)

/-- The system is short of memory. -/
def lowMemory (host : Host ε δ τ) : Except HostFailure Unit × Host ε δ τ :=
  (host.report [.lowMemory]).notify .lowMemory

/-- The window was laid out; a root without height says nothing about the keyboard. -/
def keyboardLayout (visibleHeight rootHeight : Int32) (host : Host ε δ τ) :
    Except HostFailure Unit × Host ε δ τ :=
  match Keyboard.Layout.measure host.memory.keyboardThreshold visibleHeight rootHeight with
  | none => (.ok (), host)
  | some layout => host.notify (.keyboard layout)

/-! ### Hooks that ask the system -/

/-- Shows or hides the keyboard on request. -/
def requestKeyboard (services : Services δ) (visible : Bool) (host : Host ε δ τ) : Host ε δ τ :=
  let memory := { host.memory with
    keyboard := host.memory.keyboard.request host.memory.profile.cyclesKeyboard }
  ({ host with memory }.ask (if visible then services.showKeyboard else services.hideKeyboard)).2

/-- The input method reported a result. -/
def keyboardResult (services : Services δ) (code : Int32) (host : Host ε δ τ) :
    Keyboard.Remedy × Host ε δ τ :=
  match Keyboard.Report.ofCode code with
  | none => (.none, host.report [.unknownReport code])
  | some result =>
    let (remedy, keyboard) := host.memory.keyboard.settle result
    let settled := { host with memory := { host.memory with keyboard } }
    match remedy with
    | .none => (.none, settled)
    | .cycled => (.cycled, (settled.ask services.cycleKeyboard).2)

/-- A setting of the system changed. -/
def settingsChanged (services : Services δ) (host : Host ε δ τ) : Option Orientation × Host ε δ τ :=
  host.ask services.followAutoRotate

/-- The geometry of the display. -/
def geometry (services : Services δ) (host : Host ε δ τ) :
    Except Panic Display.Geometry × Host ε δ τ :=
  host.ask (services.geometry host.memory.profile)

/-! ### Dialogs -/

/-- Opens a dialog. -/
def openDialog (services : Services δ) (request : Dialog.Request) (host : Host ε δ τ) :
    Dialog.Handle × Host ε δ τ :=
  let ((handle, dialogs), host) := host.ask (host.memory.dialogs.openDialog services request)
  (handle, { host with memory := { host.memory with dialogs } })

/-- Passes an outcome on; one that is refused is reported. -/
def deliverOutcome (outcome : Dialog.Outcome) (host : Host ε δ τ) : Host ε δ τ :=
  match host.notify (.dialog outcome) with
  | (.ok (), host) => host
  | (.error _, host) => host.report [.outcomeUndelivered outcome]

/-- The user answered a dialog: what that decides, which the engine is told. -/
def answerDialog (handle : Dialog.Handle) (action : Dialog.Action) (host : Host ε δ τ) :
    Option Dialog.Outcome × Host ε δ τ :=
  let (decided, dialogs) := host.memory.dialogs.resolve handle action
  match decided with
  | none =>
    (none, if host.memory.dialogs.supersedes handle then host.report [.dialogSuperseded handle] else host)
  | some outcome => (some outcome, { host with memory := { host.memory with dialogs } }.deliverOutcome outcome)

/-! ### What an answer to a dialog decides -/

variable {handle : Dialog.Handle} {action : Dialog.Action} {host : Host ε δ τ}

theorem answerDialog_fst :
    (host.answerDialog handle action).1 = (host.memory.dialogs.resolve handle action).1 := by
  unfold answerDialog
  cases decided : (host.memory.dialogs.resolve handle action).1 <;> simp only [decided]

/-- An outcome changes the dialogs, and is passed on. -/
theorem answerDialog_of_some {outcome : Dialog.Outcome}
    (decided : (host.memory.dialogs.resolve handle action).1 = some outcome) :
    (host.answerDialog handle action).2 = deliverOutcome outcome
      { host with memory := { host.memory with
          dialogs := (host.memory.dialogs.resolve handle action).2 } } := by
  unfold answerDialog
  simp only [decided]

/-- Without an outcome at most a notice comes of an answer. -/
theorem answerDialog_of_none (decided : (host.memory.dialogs.resolve handle action).1 = none) :
    (host.answerDialog handle action).2 =
      if host.memory.dialogs.supersedes handle then host.report [.dialogSuperseded handle] else host := by
  unfold answerDialog
  simp only [decided]

end EngineHost.Host
