/-
**The display: what the system reports, and the geometry the engine is given.**

* `Display.Frame.height`: the height of a frame, which may not fit;
* `Display.Geometry.ofSize`: a size turned to landscape and corrected for the device;
* `Display.density`: the density of the display, from its two axes or as the device overrides it.
-/

import EngineHost.Checked
import EngineHost.Device.Workaround

namespace EngineHost.Display

/-- The whole display in pixels and its densities along the axes. -/
structure Metrics where
  width : Int32 := 0
  height : Int32 := 0
  xdpi : Float32 := 0.0
  ydpi : Float32 := 0.0
deriving DecidableEq, Repr, Inhabited

/-- A rectangle on the display. -/
structure Frame where
  left : Int32 := 0
  top : Int32 := 0
  right : Int32 := 0
  bottom : Int32 := 0
deriving DecidableEq, Repr, Inhabited

/-- The height of a frame. -/
def Frame.height (frame : Frame) : Except Panic Int32 := Checked.sub frame.bottom frame.top

/-- The geometry given to the engine. -/
structure Geometry where
  width : Int32
  height : Int32
  dpi : Float32
deriving DecidableEq, Repr

/-- The root of the mean square of the two densities. -/
def meanDensity (x y : Float32) : Float32 := ((x * x + y * y) / 2.0).sqrt

/-- The density of the display. -/
def density (profile : Device.Profile) (metrics : Metrics) : Float32 :=
  profile.dpi.getD (meanDensity metrics.xdpi metrics.ydpi)

/-- A height with the remedy of the device, if it has one. -/
def correctedHeight (profile : Device.Profile) (height : Int32) : Except Panic Int32 :=
  match profile.heightCorrection with
  | none => .ok height
  | some pixels => Checked.add height pixels

/-- A size turned so that the longer side lies flat, with the height corrected for the device. -/
def Geometry.ofSize (profile : Device.Profile) (metrics : Metrics) (width height : Int32) :
    Except Panic Geometry :=
  let (width, height) := if width < height then (height, width) else (width, height)
  match correctedHeight profile height with
  | .ok height => .ok ⟨width, height, density profile metrics⟩
  | .error panic => .error panic

end EngineHost.Display
