/-
**Stored records: which JSON values stand for a configuration, a device or a dialog request.**

A record is an object, whose unknown keys are ignored, or a list of the fields in their order, which must not be
too long.

* `Config.ofJson?`: every field may be missing, and then has its default;
* `Device.Identity.ofJson?`: every field must be there;
* `Dialog.Request.ofJson?`: texts may be missing or null, the icon must be there.
-/

import EngineHost.Config
import EngineHost.Device.Identity
import EngineHost.Dialog.Basic
import EngineHost.Json
import EngineHost.Json.Double

namespace EngineHost

namespace Json

/-- A text. -/
def text? : Json → Option String
  | .text value => some value
  | _ => none

/-- A truth value. -/
def bool? : Json → Option Bool
  | .bool value => some value
  | _ => none

/-- A list of texts. -/
def texts? : Json → Option (List String)
  | .list items => items.mapM text?
  | _ => none

/-- A number in single precision: a whole number is rounded once, a decimal first to a double. -/
def single? : Json → Option Float32
  | .whole value => some (if 0 ≤ value then value.toNat.toUInt64.toFloat32 else value.toInt64.toFloat32)
  | .decimal negative digits exponent => some (double negative digits exponent).toFloat32
  | _ => none

/-- A whole number that fits into 32 bits without a sign. -/
def word? : Json → Option UInt32
  | .whole value => if 0 ≤ value ∧ value < UInt32.size then some value.toNat.toUInt32 else none
  | _ => none

/-- A text that may be null. -/
def textOrNull? : Json → Option (Option String)
  | .null => some none
  | .text value => some (some value)
  | _ => none

/-- The name of an icon, alone or as the only key of a record with the value null. -/
def icon? : Json → Option Dialog.Icon
  | .text "None" | .record [("None", .null)] => some .none
  | .text "Info" | .record [("Info", .null)] => some .info
  | .text "Alert" | .record [("Alert", .null)] => some .alert
  | _ => none

/-- The values of the fields of a stored record, in their order; none if it is no record or too long. -/
def fields? (keys : List String) : Json → Option (List (Option Json))
  | .record fields => some (keys.map fun key => lookUp key fields)
  | .list items =>
    if items.length ≤ keys.length then some ((List.range keys.length).map fun index => items[index]?)
    else none
  | _ => none

/-- Whether a stored record is a list that leaves fields out. -/
def isShort (size : Nat) : Json → Bool
  | .list items => items.length < size
  | _ => false

/-- A field that has a default. -/
def orDefault {α : Type} (standard : α) (read : Json → Option α) : Option Json → Option α
  | none => some standard
  | some value => read value

end Json

/-- The fields of a stored configuration. -/
def Config.keys : List String :=
  ["data_path", "archive_path", "package_path", "extra_args", "keyboard_visible_threshold",
    "render_thread_name", "demote_render_thread"]

/-- The configuration that a JSON value stands for. -/
def Config.ofJson? (value : Json) : Option Config := do
  let standard : Config := {}
  match ← value.fields? Config.keys with
  | [dataPath, archivePath, packagePath, extraArgs, threshold, threadName, demote] =>
    pure {
      dataPath := ← Json.orDefault standard.dataPath Json.text? dataPath
      archivePath := ← Json.orDefault standard.archivePath Json.text? archivePath
      packagePath := ← Json.orDefault standard.packagePath Json.text? packagePath
      extraArgs := ← Json.orDefault standard.extraArgs Json.texts? extraArgs
      keyboardThreshold := ← Json.orDefault standard.keyboardThreshold Json.single? threshold
      renderThreadName := ← Json.orDefault standard.renderThreadName Json.text? threadName
      demoteRenderThread := ← Json.orDefault standard.demoteRenderThread Json.bool? demote }
  | _ => none

namespace Device

/-- The fields of a stored device. -/
def Identity.keys : List String := ["manufacturer", "model", "board", "sdk_version"]

/-- The device that a JSON value stands for. -/
def Identity.ofJson? (value : Json) : Option Identity := do
  match ← value.fields? Identity.keys with
  | [some manufacturer, some model, some board, some sdk] =>
    pure {
      manufacturer := ← manufacturer.text?
      model := ← model.text?
      board := ← board.text?
      sdk := ← sdk.word? }
  | _ => none

/-- A device as it is stored. -/
def Identity.toJson (identity : Identity) : Json :=
  .record [("manufacturer", .text identity.manufacturer), ("model", .text identity.model),
    ("board", .text identity.board), ("sdk_version", .whole identity.sdk.toNat)]

end Device

namespace Dialog

/-- The fields of a stored request. -/
def Request.keys : List String :=
  ["title", "message", "ok_label", "yes_label", "no_label", "cancel_label", "icon"]

/-- The request that a JSON value stands for. A list must name every field, a record the icon only. -/
def Request.ofJson? (value : Json) : Option Request := do
  if value.isShort Request.keys.length then none
  match ← value.fields? Request.keys with
  | [title, message, ok, yes, no, cancel, some icon] =>
    pure {
      title := ← Json.orDefault none Json.textOrNull? title
      message := ← Json.orDefault none Json.textOrNull? message
      ok := ← Json.orDefault none Json.textOrNull? ok
      yes := ← Json.orDefault none Json.textOrNull? yes
      no := ← Json.orDefault none Json.textOrNull? no
      cancel := ← Json.orDefault none Json.textOrNull? cancel
      icon := ← icon.icon? }
  | _ => none

/-- A text that may be missing, as it is stored. -/
def storedText : Option String → Json
  | none => .null
  | some text => .text text

/-- A request as it is stored. -/
def Request.toJson (request : Request) : Json :=
  .record [("title", storedText request.title), ("message", storedText request.message),
    ("ok_label", storedText request.ok), ("yes_label", storedText request.yes),
    ("no_label", storedText request.no), ("cancel_label", storedText request.cancel),
    ("icon", .text request.icon.name)]

end Dialog

end EngineHost
