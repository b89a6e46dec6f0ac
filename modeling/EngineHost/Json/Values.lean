/-
**The values that go in and out of a host, as JSON.**

* readers: `Lifecycle.ofJson?`, `Orientation.ofJson?`, `Dialog.Action.ofJson?`, `Dialog.Handle.ofJson?`,
  `Dialog.Request.ofFields?`, `UserInput.ofJson?`, `Display.Metrics.ofJson?`, `Display.Frame.ofJson?`,
  `Device.Identity.ofFields?`, `Level.ofJson?`, `Config.set?`;
* writers: `toJson` of orientations, handles, dialogs, geometry, metrics, frames, engine calls and panics;
* `Event.heard`, `Event.noticed`: what a journal shows of the engine and of the notices.

Numbers in single precision go by their bits.
-/

import EngineHost.Config
import EngineHost.Display
import EngineHost.Engine.Journal
import EngineHost.Json.Fields
import EngineHost.Activity.Orientation

namespace EngineHost

open Json

/-! ### States and input -/

/-- The states of an activity. -/
def Lifecycle.all : List Lifecycle :=
  [.created, .started, .resumed, .paused, .stopped, .destroyed, .restarted]

/-- The state of a name. -/
def Lifecycle.ofJson? : Json → Option Lifecycle := named? (Lifecycle.all.map fun state => (state.name, state))

/-- A state by its name. -/
def Lifecycle.toJson (state : Lifecycle) : Json := .text state.name

/-- An orientation by a code of the system, or any code as one without a name. -/
def Orientation.ofJson? (value : Json) : Option Orientation :=
  ((int32? value).map Orientation.ofCode).orElse fun _ => (at? int32? "other" value).map Orientation.other

/-- The name and the code of an orientation. -/
def Orientation.toJson (orientation : Orientation) : Json :=
  .list [.text orientation.name, ofInt32 orientation.code]

/-- An event by its name and its data. -/
def UserInput.ofJson? (value : Json) : Option UserInput := do
  match ← at? text? "event" value with
  | "key_down" => pure (.keyDown (← at? int32? "key" value) (← at? word? "char" value))
  | "key_up" => pure (.keyUp (← at? int32? "key" value))
  | "touch" =>
    let kind ← Touch.ofAction (← at? int32? "action" value)
    pure (.touch kind (← at? bits32? "x" value) (← at? bits32? "y" value) (← at? int32? "pointer" value))
  | "button_down" => pure (.buttonDown (← at? int32? "controller" value) (← at? int32? "button" value))
  | "button_up" => pure (.buttonUp (← at? int32? "controller" value) (← at? int32? "button" value))
  | "axis" =>
    pure (.axis (← at? int32? "controller" value) (← at? int32? "axis" value) (← at? bits32? "value" value))
  | _ => none

/-- The level of a name. -/
def Level.ofJson? : Json → Option Level :=
  named? [("error", .error), ("warn", .warn), ("info", .info), ("debug", .debug), ("trace", .trace)]

/-! ### Devices -/

/-- A device whose fields may be missing. -/
def Device.Identity.ofFields? (value : Json) : Option Device.Identity := do
  pure {
    manufacturer := ← atD? text? "manufacturer" "" value
    model := ← atD? text? "model" "" value
    board := ← atD? text? "board" "" value
    sdk := ← atD? word? "sdk" 0 value }

namespace Display

/-- Width, height, and dots per inch in both directions. -/
def Metrics.ofJson? : Json → Option Metrics
  | .list [width, height, xdpi, ydpi] => do
    pure ⟨← int32? width, ← int32? height, ← bits32? xdpi, ← bits32? ydpi⟩
  | _ => none

/-- Width, height, and dots per inch in both directions. -/
def Metrics.toJson (metrics : Metrics) : Json :=
  .list [ofInt32 metrics.width, ofInt32 metrics.height, ofBits32 metrics.xdpi, ofBits32 metrics.ydpi]

/-- Left, top, right and bottom. -/
def Frame.ofJson? : Json → Option Frame
  | .list [left, top, right, bottom] => do
    pure ⟨← int32? left, ← int32? top, ← int32? right, ← int32? bottom⟩
  | _ => none

/-- Left, top, right and bottom. -/
def Frame.toJson (frame : Frame) : Json :=
  .list [ofInt32 frame.left, ofInt32 frame.top, ofInt32 frame.right, ofInt32 frame.bottom]

/-- Width, height and dots per inch. -/
def Geometry.toJson (geometry : Geometry) : Json :=
  .record [("width", ofInt32 geometry.width), ("height", ofInt32 geometry.height),
    ("dpi", ofBits32 geometry.dpi)]

end Display

/-! ### Dialogs -/

namespace Dialog

/-- An action by its name, or by a button code of the system. -/
def Action.ofJson? (value : Json) : Option Action :=
  ((int32? value).map Action.ofCode).orElse fun _ =>
    named? [("Positive", .button .positive), ("Negative", .button .negative),
      ("Neutral", .button .neutral), ("Dismissed", .dismissed)] value

/-- A handle by its number. -/
def Handle.ofJson? (value : Json) : Option Handle := (nat? value).map Handle.mk

/-- A handle by its number. -/
def Handle.toJson (handle : Handle) : Json := Json.ofNat handle.id

/-- A request whose fields may be missing, with the code of its icon. -/
def Request.ofFields? (value : Json) : Option Request := do
  pure {
    title := ← optional? text? "title" value
    message := ← optional? text? "message" value
    ok := ← optional? text? "ok" value
    yes := ← optional? text? "yes" value
    no := ← optional? text? "no" value
    cancel := ← optional? text? "cancel" value
    icon := Icon.ofCode (← atD? int32? "icon" 0 value) }

/-- The outcomes. -/
def Outcome.all : List Outcome := [.ok, .yes, .no, .cancel]

/-- An outcome by its name. -/
def Outcome.toJson (outcome : Outcome) : Json := .text outcome.name

/-- Role, label and outcome of a button. -/
def Button.toJson (button : Button) : Json :=
  .list [.text button.role.name, .text button.label, button.outcome.toJson]

/-- A dialog with everything it shows. -/
def View.toJson (view : View) : Json :=
  .record [("title", .text view.title), ("message", .text view.message),
    ("buttons", ofList Button.toJson view.buttons), ("icon", .text view.icon.name),
    ("cancelable", .bool view.cancelable), ("cancel_on_touch_outside", .bool view.cancelOnTouchOutside)]

end Dialog

/-! ### Configuration -/

/-- Sets one part of a configuration. -/
def Config.set? (config : Config) : Json → Option Config
  | .list [.text "data_path", .text path] => some { config with dataPath := path }
  | .list [.text "archive_path", .text path] => some { config with archivePath := path }
  | .list [.text "package_path", .text path] => some { config with packagePath := path }
  | .list [.text "arg", .text arg] => some { config with extraArgs := config.extraArgs ++ [arg] }
  | .list [.text "threshold", bits] =>
    (bits32? bits).map fun keyboardThreshold => { config with keyboardThreshold }
  | .list [.text "thread_name", .text name] => some { config with renderThreadName := name }
  | .list [.text "demote", .bool demoted] => some { config with demoteRenderThread := demoted }
  | _ => none

/-- Every part of a configuration, and the arguments of the launch that come from it. -/
def Config.toJson (config : Config) : Json :=
  .record [("data_path", .text config.dataPath), ("archive_path", .text config.archivePath),
    ("package_path", .text config.packagePath), ("extra_args", ofList Json.text config.extraArgs),
    ("keyboard_visible_threshold", ofBits32 config.keyboardThreshold),
    ("render_thread_name", .text config.renderThreadName),
    ("demote_render_thread", .bool config.demoteRenderThread),
    ("launch_args", ofList Json.text config.launchArgs), ("is_default", .bool config.isDefault)]

/-! ### Engine calls -/

/-- A panic with its text. -/
def Panic.toJson (panic : Panic) : Json :=
  .record [("error", .text "panic"), ("message", .text panic.message)]

/-- A result, or the panic that kept it from coming. -/
def Json.ofResult {α : Type} (write : α → Json) : Except Panic α → Json
  | .ok value => write value
  | .error panic => panic.toJson

/-- The entry point for an event, with its data. -/
def UserInput.toJson : UserInput → Json
  | .keyDown key char => .list [.text "key_down", ofInt32 key, Json.ofNat char.toNat]
  | .keyUp key => .list [.text "key_up", ofInt32 key]
  | .touch kind x y pointer =>
    .list [.text "touch", .text kind.name, ofBits32 x, ofBits32 y, ofInt32 pointer]
  | .buttonDown controller button => .list [.text "button_down", ofInt32 controller, ofInt32 button]
  | .buttonUp controller button => .list [.text "button_up", ofInt32 controller, ofInt32 button]
  | .axis controller moved value =>
    .list [.text "axis_change", ofInt32 controller, ofInt32 moved, ofBits32 value]

/-- The entry point for a state. -/
def Lifecycle.callName : Lifecycle → String
  | .created => "create"
  | .started => "start"
  | .resumed => "resume"
  | .paused => "pause"
  | .stopped => "stop"
  | .destroyed => "destroy"
  | .restarted => "restart"

/-- The entry point for an outcome. -/
def Dialog.Outcome.callName : Dialog.Outcome → String
  | .ok => "dialog_ok"
  | .yes => "dialog_yes"
  | .no => "dialog_no"
  | .cancel => "dialog_cancel"

/-- The entry point for a notification, with its data. -/
def Notification.toJson : Notification → Json
  | .input event => event.toJson
  | .lifecycle state => .list [.text state.callName]
  | .dialog outcome => .list [.text outcome.callName]
  | .windowFocus focused => .list [.text "focus", .bool focused]
  | .keyboard layout => .list [.text "keyboard", .bool layout.visible, ofBits32 layout.coveredShare]
  | .lowMemory => .list [.text "low_memory"]
  | .surfaceCreated => .list [.text "surface_created"]

/-- A call with its data. -/
def EngineCall.toJson : EngineCall → Json
  | .configure dataPath archivePath => .list [.text "configure", .text dataPath, .text archivePath]
  | .init args => .list [.text "init", ofList Json.text args]
  | .render => .list [.text "render"]
  | .shutdown => .list [.text "shutdown"]
  | .notify notification => notification.toJson

/-- What an event shows of the engine and of its tasks, if the engine hears such calls. -/
def Event.heard (hears : EngineCall → Bool) : Event → Option Json
  | .call made => if hears made then some made.toJson else none
  | .submitted accepted => some (.list [.text "submitted", .bool accepted])
  | .sawQueue pending closed => some (.list [.text "pending", Json.ofNat pending, .bool closed])
  | .sawSession session =>
    some (.list [.text "session", .bool session.initialized, .bool session.running,
      Json.ofNat session.generation])
  | _ => none

/-- The level and the text of a notice that a reader sees. -/
def Event.noticed (reader : Level) : Event → Option Json
  | .notice said =>
    if reader.shows said.level then some (.list [.text said.level.name, .text said.text]) else none
  | _ => none

end EngineHost
