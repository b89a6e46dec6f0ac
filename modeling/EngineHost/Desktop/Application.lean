/-
**An application on a desktop around a host with a render thread.**

* `Desktop.Application`: the host, the dialog the application waits for, and whether it shows the keyboard;
* `Desktop.Application.resize`: gives the window a size;
* `Desktop.Application.flipKeyboard`: shows or hides the keyboard and reports the result and the layout that an
  input method would have given. The share of the keyboard is computed after the request was made;
* `Desktop.Application.close`: ends the render thread.
-/

import EngineHost.Desktop.Services
import EngineHost.Host.Hooks
import EngineHost.Host.Threaded

namespace EngineHost.Desktop

/-- The application. -/
structure Application (ε τ : Type) where
  host : ThreadedHost ε Window τ
  /-- Whether the application still holds its render thread. -/
  holdsThread : Bool := true
  dialog : Option Dialog.Handle := none
  showsKeyboard : Bool := false

namespace Application

variable {ε τ α : Type}

/-- Runs a hook of the host. -/
def onHost (hook : Host ε Window τ → α × Host ε Window τ) (app : Application ε τ) :
    α × Application ε τ :=
  let (answer, host) := hook app.host.toHost
  (answer, { app with host := { app.host with toHost := host } })

/-- Adds notices to the journal. -/
def report (notices : List Notice) (app : Application ε τ) : Application ε τ :=
  (app.onHost fun host => ((), host.report notices)).2

/-- Sends a signal to the render thread. -/
def signal (program : Program ε τ) (signal : Signal) (app : Application ε τ) : Bool × Application ε τ :=
  let (sent, app) :=
    if app.holdsThread then
      let (sent, host) := app.host.signal program signal
      (sent, { app with host })
    else (false, app)
  (sent, if sent then app else app.report [.said .debug "render thread gone"])

/-- Reports something that was not delivered. -/
def reportRefusal (what : String) (result : Except HostFailure Unit) (app : Application ε τ) :
    Application ε τ :=
  match result with
  | .ok () => app
  | .error error => app.report [.said .debug (what ++ " not delivered: " ++ error.message)]

/-- Passes states of the activity on, one by one. -/
def lifecycle (states : List Lifecycle) (app : Application ε τ) : Application ε τ :=
  states.foldl
    (fun app state =>
      let (result, app) := app.onHost (Host.lifecycle state)
      app.reportRefusal "lifecycle" result)
    app

/-- Passes an input on. -/
def input (event : UserInput) (app : Application ε τ) : Application ε τ :=
  let (result, app) := app.onHost (Host.input event)
  app.reportRefusal "input" result

/-- Passes a touch at the place of the cursor on. -/
def touch (kind : Touch) (x y : Float) (app : Application ε τ) : Application ε τ :=
  app.input (.touch kind x.toFloat32 y.toFloat32 0)

/-- Opens a dialog and waits for its answer. -/
def openDialog (request : Dialog.Request) (app : Application ε τ) : Dialog.Handle × Application ε τ :=
  let (handle, app) := app.onHost (Host.openDialog services request)
  (handle, { app with dialog := some handle })

/-- The user answered a dialog; the application waits for none any more. -/
def answer (handle : Dialog.Handle) (action : Dialog.Action) (app : Application ε τ) :
    Option Dialog.Outcome × Application ε τ :=
  let (outcome, app) := { app with dialog := none }.onHost (Host.answerDialog handle action)
  (outcome, app.report [.said .debug "dialog answered"])

/-- The window gets a size and a scale. -/
def resize (width height : UInt32) (scale : Float) (app : Application ε τ) : Application ε τ :=
  (app.onHost fun host => ((), { host with device := host.device.resize width height scale })).2

/-- The height that is left when the keyboard covers its share of the root. -/
def uncoveredHeight (root : Int32) : Except Panic Int32 :=
  (Checked.mul root 6).map (· / 10)

/-- Reports a result of the input method and a layout pass. -/
def reportKeyboard (code visibleHeight root : Int32) (app : Application ε τ) : Application ε τ :=
  let (_, app) := app.onHost (Host.keyboardResult services code)
  let (result, app) :=
    (app.report [.said .debug "keyboard result handled"]).onHost (Host.keyboardLayout visibleHeight root)
  app.reportRefusal "keyboard layout" result

/-- Shows the keyboard if it is hidden and hides it if it is shown. -/
def flipKeyboard (app : Application ε τ) : Except Panic Unit × Application ε τ :=
  match app.onHost (Host.geometry services) with
  | (.error panic, app) => (.error panic, app)
  | (.ok geometry, app) =>
    let root := geometry.height
    let shown := !app.showsKeyboard
    let toggled := { app with showsKeyboard := shown }
    let requested := (toggled.onHost fun host => ((), host.requestKeyboard services shown)).2
    if shown then
      match uncoveredHeight root with
      | .error panic => (.error panic, requested)
      | .ok visibleHeight => (.ok (), requested.reportKeyboard 2 visibleHeight root)
    else (.ok (), requested.reportKeyboard 3 root root)

/-- Flips the auto-rotate setting and tells the host: the new setting and the orientation requested for it. -/
def flipAutoRotate (app : Application ε τ) : (Bool × Option Orientation) × Application ε τ :=
  app.onHost fun host =>
    let flipped := { host with device := host.device.flipAutoRotate }
    let (written, host) := flipped.settingsChanged services
    ((flipped.device.autoRotate, written), host)

/-- Ends the render thread, if the application still holds it. -/
def close (program : Program ε τ) (app : Application ε τ) : Application ε τ :=
  if app.holdsThread then
    let (ending, host) := app.host.join program
    let left := { app with host, holdsThread := false }
    match ending with
    | .ok _ => left.report [.said .info "render thread stopped"]
    | .error error => left.report [.said .warn ("render thread failed: " ++ error.message)]
  else app

end Application

end EngineHost.Desktop
