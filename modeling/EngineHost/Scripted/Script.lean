/-
**Scripts as JSON.**

* `Scripted.Device.ofFields?`, `Scripted.JavaSide.ofFields?`: a system or a Java machine, changed by the fields
  that are there; `Scripted.JavaSide.ofJson?`: a Java machine from the start;
* `Scripted.Job.ofJson?`: a job from the list of its actions;
* `Scripted.Engine.ofJson?`: an engine from how its starts and frames end and what it does at which moment;
* `Scripted.OsRequest.toJson`, `Scripted.requested`: what was asked of a system or of a Java machine.
-/

import EngineHost.Json.Values
import EngineHost.Scripted.Engine
import EngineHost.Scripted.Java
import EngineHost.Scripted.Device

namespace EngineHost.Scripted

open Json

/-! ### The system -/

/-- Why a presenter fails. -/
def presenterFailure? (value : Json) : Option PresenterFailure :=
  ((at? text? "unsupported" value).map PresenterFailure.unavailable).orElse fun _ =>
    (at? text? "failed" value).map PresenterFailure.failed

/-- A system, changed by the fields that are there. -/
def Device.ofFields? (value : Json) (device : Device) : Option Device := do
  let device ← update? Display.Metrics.ofJson? "metrics" value
    (fun metrics device => { device with metrics }) device
  let device ← update? bool? "chrome_hidden" value
    (fun barsHidden device => { device with barsHidden }) device
  let device ← update? Display.Frame.ofJson? "frame" value (fun frame device => { device with frame }) device
  let device ← update? (nullable? bool?) "auto_rotate" value
    (fun autoRotate device => { device with autoRotate }) device
  let device ← update? Orientation.ofJson? "orientation" value
    (fun orientation device => { device with orientation }) device
  let device ← update? (nullable? presenterFailure?) "modern" value
    (fun modern device => { device with modern }) device
  update? (nullable? presenterFailure?) "legacy" value (fun legacy device => { device with legacy }) device

/-- What a system was asked to do. -/
def OsRequest.toJson : OsRequest → Json
  | .showKeyboard => .list [.text "show"]
  | .hideKeyboard => .list [.text "hide"]
  | .orientation wanted => .list [.text "orientation", wanted.toJson]
  | .present handle view => .list [.text "present", handle.toJson, view.toJson]
  | .presentLegacy handle view => .list [.text "present_legacy", handle.toJson, view.toJson]

/-! ### The Java machine -/

/-- The faults by what fails. -/
def faults? : Json → Option (List (String × Fault))
  | .record fields => fields.mapM fun (name, how) =>
    (named? [("throw", .throws), ("missing", .missing), ("null", .null)] how).map fun fault => (name, fault)
  | .null => some []
  | _ => none

/-- The fields of the build, all of which may be missing. -/
def JavaSide.withBuild? (value : Json) (side : JavaSide) : Option JavaSide := do
  pure { side with
    manufacturer := ← optional? text? "MANUFACTURER" value
    model := ← optional? text? "MODEL" value
    board := ← optional? text? "BOARD" value
    sdk := ← atD? int32? "SDK_INT" 0 value }

/-- A Java machine whose display has the metrics. -/
def JavaSide.withMetrics (metrics : Display.Metrics) (side : JavaSide) : JavaSide :=
  { side with
    width := metrics.width
    height := metrics.height
    xdpi := metrics.xdpi
    ydpi := metrics.ydpi }

/-- A Java machine whose window has the visible frame. -/
def JavaSide.withFrame (frame : Display.Frame) (side : JavaSide) : JavaSide :=
  { side with
    left := frame.left
    top := frame.top
    right := frame.right
    bottom := frame.bottom }

/-- A Java machine, changed by the fields that are there. -/
def JavaSide.ofFields? (value : Json) (side : JavaSide) : Option JavaSide := do
  let side ← match value.field? "build" with
    | none => some side
    | some build => side.withBuild? build
  let side ← update? Display.Metrics.ofJson? "metrics" value JavaSide.withMetrics side
  let side ← update? int32? "flags" value (fun uiFlags side => { side with uiFlags }) side
  let side ← update? Display.Frame.ofJson? "rect" value JavaSide.withFrame side
  let side ← update? (nullable? int32?) "auto_rotate" value
    (fun autoRotate side => { side with autoRotate }) side
  let side ← update? int32? "orientation" value (fun orientation side => { side with orientation }) side
  let side ← update? bool? "supports_fragments" value
    (fun supportsFragments side => { side with supportsFragments }) side
  let side ← update? bool? "show" value (fun showsModern side => { side with showsModern }) side
  let side ← update? bool? "show_legacy" value (fun showsLegacy side => { side with showsLegacy }) side
  let side ← update? bool? "attached" value (fun attached side => { side with attached }) side
  let side ← update? int32? "attach" value (fun attachCode side => { side with attachCode }) side
  update? faults? "fail" value (fun faults side => { side with faults }) side

/-- A Java machine from the fields that are there. Whether there is a machine at all is settled here for good. -/
def JavaSide.ofJson? (value : Json) : Option JavaSide := do
  update? bool? "vm" value (fun vm side => { side with vm }) (← JavaSide.ofFields? value {})

/-- A Java value; objects go by their names. -/
def javaValue : Java.Value → Json
  | .null => .null
  | .object name => .text name
  | .text value => .text value
  | .int value => ofInt32 value
  | .long value => .whole value
  | .bool value => .bool value
  | .float value => ofBits32 value

/-- A request as it is listed; look-ups and the reading of characters are not. -/
def requested : Java.Request → Option Json
  | .findClass _ | .findMember _ | .readString _ => none
  | .call object method signature args =>
    some (.list [.text "call", javaValue object, .text method, .text signature, ofList javaValue args])
  | .callStatic owner method signature args =>
    some (.list [.text "static", javaValue owner, .text method, .text signature, ofList javaValue args])
  | .construct owner signature args =>
    some (.list [.text "new", javaValue owner, .text "<init>", .text signature, ofList javaValue args])
  | .field object name type => some (.list [.text "field", javaValue object, .text name, .text type])
  | .staticField owner name type =>
    some (.list [.text "static_field", javaValue owner, .text name, .text type])
  | .makeString string => some (.list [.text "string", .text string])
  | .attach => some (.list [.text "attach"])
  | .detach => some (.list [.text "detach"])
  | .describe => some (.list [.text "describe"])
  | .clear => some (.list [.text "clear"])

/-! ### Jobs and engines -/

/-- Puts an act in front of a job. -/
def Job.after (act : Act Job) : Job → Job
  | .mk acts ending => .mk (act :: acts) ending

/-- The act of an action other than a submission; an outcome of an unknown name is none. -/
def act? : Json → Option (Option (Act Job))
  | .list [.text "reset"] => some (some .endSession)
  | .list [.text "shutdown"] => some (some .shutdown)
  | .list [.text "session"] => some (some .lookAtSession)
  | .list [.text "pending"] => some (some (.queue .look))
  | .list [.text "key_up", key] => (int32? key).map fun key => some (.notify (.input (.keyUp key)))
  | .list [.text "lifecycle", state] =>
    (Lifecycle.ofJson? state).map fun state => some (.notify (.lifecycle state))
  | .list [.text "outcome", .text name] =>
    some ((Dialog.Outcome.all.find? fun outcome => outcome.name == name).map fun outcome =>
      .notify (.dialog outcome))
  | .list [.text "event", event] =>
    (UserInput.ofJson? event).map fun event => some (.notify (.input event))
  | _ => none

/-- The job of a list of actions. What stands behind its end is never looked at. -/
def Job.ofActions? : List Json → Option Job
  | [] => some (.mk [] .done)
  | .list [.text "fail", .text reason] :: _ => some (.mk [] (.failed ⟨reason⟩))
  | .list [.text "panic"] :: _ => some (.mk [] (.panicked ""))
  | .list [.text "submit", .list actions] :: rest => do
    pure ((← Job.ofActions? rest).after (.queue (.submit (← Job.ofActions? actions))))
  | action :: rest => do
    let job ← Job.ofActions? rest
    pure (match ← act? action with
      | some act => job.after act
      | none => job)

/-- A job from the list of its actions. -/
def Job.ofJson? : Json → Option Job
  | .list actions => Job.ofActions? actions
  | _ => none

/-- A use of the queue. -/
def queueUse? : Json → Option (QueueUse Job)
  | .list [.text "submit", job] => (Job.ofJson? job).map QueueUse.submit
  | .list [.text "pending"] => some .look
  | _ => none

/-- How a start ends: by null it succeeds, by a text it fails. -/
def start? : Json → Option InitReply
  | .null => some .ready
  | .text reason => some (.failed ⟨reason⟩)
  | _ => some (.panicked "init panicked")

/-- The values of a list that may be missing. -/
def listed? {α : Type} (read : Json → Option α) (key : String) (value : Json) : Option (List α) := do
  (← atD? list? key [] value).mapM read

/-- An engine from its script. -/
def Engine.ofJson? (value : Json) : Option Engine := do
  let hooks := (value.field? "hooks").getD .null
  let configure ← listed? queueUse? "configure" hooks
  let init ← listed? queueUse? "init" hooks
  let render ← listed? queueUse? "render" hooks
  let shutdown ← listed? queueUse? "shutdown" hooks
  let surfaceCreated ← listed? queueUse? "surface_created" hooks
  pure {
    renders := ← listed? bool? "renders" value
    starts := ← listed? start? "inits" value
    uses := fun
      | .configure => configure
      | .init => init
      | .render => render
      | .shutdown => shutdown
      | .surfaceCreated => surfaceCreated
    listens := (← atD? text? "type" "" value) != "bare" }

end EngineHost.Scripted
