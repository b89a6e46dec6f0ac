/-
**The orientation an activity requests, and what the auto-rotate setting makes of it.**

* `Orientation.ofCode`, `Orientation.code`: the codes of the system;
* `Orientation.target`: the orientation to request instead when the setting does not fit the current one.
-/

namespace EngineHost

/-- A requested orientation. `other` carries a code without a name, or any code that was put there. -/
inductive Orientation
  | unspecified
  | landscape
  | portrait
  | sensor
  | sensorLandscape
  | sensorPortrait
  | other (code : Int32)
deriving DecidableEq, Repr

namespace Orientation

/-- The orientation of a code. -/
def ofCode (code : Int32) : Orientation :=
  if code = -1 then .unspecified
  else if code = 0 then .landscape
  else if code = 1 then .portrait
  else if code = 4 then .sensor
  else if code = 6 then .sensorLandscape
  else if code = 7 then .sensorPortrait
  else .other code

/-- The code of an orientation. -/
def code : Orientation → Int32
  | .unspecified => -1
  | .landscape => 0
  | .portrait => 1
  | .sensor => 4
  | .sensorLandscape => 6
  | .sensorPortrait => 7
  | .other code => code

/-- The name of an orientation. -/
def name : Orientation → String
  | .unspecified => "Unspecified"
  | .landscape => "Landscape"
  | .portrait => "Portrait"
  | .sensor => "Sensor"
  | .sensorLandscape => "SensorLandscape"
  | .sensorPortrait => "SensorPortrait"
  | .other _ => "Other"

/-- The orientation that the auto-rotate setting calls for, if the current one does not fit it. An
orientation counts by its code. -/
def target (autoRotate : Bool) (current : Orientation) : Option Orientation :=
  match autoRotate, ofCode current.code with
  | true, .landscape => some .sensorLandscape
  | true, .portrait => some .sensorPortrait
  | false, .sensorLandscape => some .landscape
  | false, .sensorPortrait => some .portrait
  | _, _ => none

/-- Changes that the host makes itself are reported to it as well. -/
def seesOwnChanges : Bool := true

end Orientation

end EngineHost
