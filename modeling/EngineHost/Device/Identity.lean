/-
**The device the host runs on.**

* `Device.Identity`: what a device says of itself;
* `Device.Identity.boardKey`, `Device.Identity.deviceKey`: the keys under which a device is known. Blank ends and
  upper case make no difference.
-/

import EngineHost.Text.Blank
import EngineHost.Text.LowerCase

namespace EngineHost.Device

/-- What a device says of itself. -/
structure Identity where
  manufacturer : String := ""
  model : String := ""
  board : String := ""
  sdk : UInt32 := 0
deriving DecidableEq, Repr, Inhabited

/-- A name without blank ends, in lower case. -/
def normalized (name : String) : String :=
  String.ofList (Text.lowerCase (Text.trimBlank name.toList))

/-- The key of the board. -/
def Identity.boardKey (identity : Identity) : String :=
  "board:" ++ normalized identity.board

/-- The key of the manufacturer and the model. -/
def Identity.deviceKey (identity : Identity) : String :=
  "device:" ++ normalized identity.manufacturer ++ "/" ++ normalized identity.model

end EngineHost.Device
