/-
**The workarounds that some devices need.**

* `Device.workarounds`: the known devices, by key and range of system versions;
* `Device.Identity.profile`: all that the matching workarounds ask for.
-/

import EngineHost.Device.Identity

namespace EngineHost.Device

/-- A range of system versions. -/
inductive VersionRange
  | any
  | below (limit : UInt32)
  | since (limit : UInt32)
deriving DecidableEq, Repr

/-- Whether a range holds a version. -/
def VersionRange.contains : VersionRange → UInt32 → Bool
  | .any, _ => true
  | .below limit, sdk => sdk < limit
  | .since limit, sdk => limit ≤ sdk

/-- What a workaround does. -/
inductive Effect
  | cycleKeyboard
  | overrideDpi (dpi : Float32)
  | correctHeight (pixels : Int32)
deriving DecidableEq, Repr

/-- A workaround for the devices of one key. -/
structure Workaround where
  key : String
  sdk : VersionRange
  effect : Effect
deriving DecidableEq, Repr

/-- The known workarounds: boards whose keyboard has to be shown twice, a display with a wrong density, and
a menu bar that covers the last twenty pixels. -/
def workarounds : List Workaround := [
  ⟨"board:mecha", .any, .cycleKeyboard⟩,
  ⟨"board:marvel", .any, .cycleKeyboard⟩,
  ⟨"board:marvelc", .any, .cycleKeyboard⟩,
  ⟨"board:shooteru", .below 10, .cycleKeyboard⟩,
  ⟨"board:supersonic", .any, .cycleKeyboard⟩,
  ⟨"board:inc", .since 10, .cycleKeyboard⟩,
  ⟨"device:htc/htc one x", .any, .overrideDpi 312.0⟩,
  ⟨"device:amazon/kindle fire", .any, .correctHeight (-20)⟩]

/-- Whether a workaround is meant for a device. -/
def Workaround.applies (workaround : Workaround) (identity : Identity) : Bool :=
  (identity.boardKey == workaround.key || identity.deviceKey == workaround.key) &&
  workaround.sdk.contains identity.sdk

/-- All that the workarounds for a device ask for. -/
structure Profile where
  cyclesKeyboard : Bool := false
  dpi : Option Float32 := none
  heightCorrection : Option Int32 := none
deriving DecidableEq, Repr, Inhabited

/-- A profile with one more effect. -/
def Profile.add (profile : Profile) : Effect → Profile
  | .cycleKeyboard => { profile with cyclesKeyboard := true }
  | .overrideDpi dpi => { profile with dpi := some dpi }
  | .correctHeight pixels => { profile with heightCorrection := some pixels }

/-- The profile of a device. -/
def Identity.profile (identity : Identity) : Profile :=
  ((workarounds.filter (·.applies identity)).map Workaround.effect).foldl Profile.add {}

end EngineHost.Device
