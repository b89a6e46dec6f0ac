/-
**A window on a desktop in place of a mobile system.**

* `Desktop.Window`: the size of the window, and the simulated settings;
* `Desktop.services`: its services. Nothing is ever hidden, and every dialog is shown.
-/

import EngineHost.Services

namespace EngineHost.Desktop

/-- The window and the simulated settings. -/
structure Window where
  metrics : Display.Metrics := {}
  autoRotate : Bool := false
  orientation : Orientation := .landscape
deriving DecidableEq, Repr, Inhabited

/-- The largest length that the window can report. -/
def longest : Int32 := Int32.maxValue

/-- A length of the window, cut to what fits. -/
def clampedLength (pixels : UInt32) : Int32 :=
  if pixels.toNat ≤ longest.toNatClampNeg then Int32.ofNat pixels.toNat else longest

/-- The density of a window of a scale: 96 dots at scale one. -/
def densityOfScale (scale : Float) : Float32 := (96.0 * scale).toFloat32

/-- The window gets a size and a scale. -/
def Window.resize (width height : UInt32) (scale : Float) (window : Window) : Window :=
  let dpi := densityOfScale scale
  { window with metrics := ⟨clampedLength width, clampedLength height, dpi, dpi⟩ }

/-- Flips the simulated auto-rotate setting. -/
def Window.flipAutoRotate (window : Window) : Window :=
  { window with autoRotate := !window.autoRotate }

/-- Shows a dialog in the window. -/
def shownInWindow : Ask Window (Except PresenterFailure Unit) := do
  Ask.report (.said .info "dialog shown, press Y / N to answer or Escape to dismiss")
  pure (.ok ())

/-- The services of the window. -/
def services : Services Window where
  present _ _ := shownInWindow
  presentLegacy _ _ := shownInWindow
  showKeyboard := Ask.report (.said .info "soft keyboard requested")
  hideKeyboard := Ask.report (.said .info "soft keyboard dismissed")
  autoRotate := Ask.look fun window => some window.autoRotate
  requestedOrientation := Ask.look Window.orientation
  requestOrientation wanted := do
    Ask.report (.said .info "requested orientation changed")
    Ask.change fun window => { window with orientation := wanted }
  metrics := Ask.look Window.metrics
  barsHidden := pure false
  visibleFrame := Ask.look fun window => ⟨0, 0, window.metrics.width, window.metrics.height⟩

end EngineHost.Desktop
