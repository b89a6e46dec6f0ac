/-
**The services of the system around the host.**

* `Services`: what a system offers to a host: presenters, the input method, the auto-rotate setting, the
  requested orientation, and the display;
* `Services.geometry`, `Services.followAutoRotate`, `Services.showDialog`: what the host asks for in one go.
-/

import EngineHost.Activity.Orientation
import EngineHost.Ask
import EngineHost.Display

namespace EngineHost

/-- The services of a system with states `δ`. -/
structure Services (δ : Type) where
  present : Dialog.Handle → Dialog.View → Ask δ (Except PresenterFailure Unit)
  presentLegacy : Dialog.Handle → Dialog.View → Ask δ (Except PresenterFailure Unit)
  showKeyboard : Ask δ Unit
  hideKeyboard : Ask δ Unit
  /-- Whether the auto-rotate setting is on; none if it is not set. -/
  autoRotate : Ask δ (Option Bool)
  requestedOrientation : Ask δ Orientation
  requestOrientation : Orientation → Ask δ Unit
  metrics : Ask δ Display.Metrics
  /-- Whether the bars of the system are hidden. -/
  barsHidden : Ask δ Bool
  visibleFrame : Ask δ Display.Frame

namespace Services

variable {δ : Type} (services : Services δ)

/-- The geometry of the display: the visible frame while the bars are hidden, the whole display otherwise. -/
def geometry (profile : Device.Profile) : Ask δ (Except Panic Display.Geometry) := do
  let metrics ← services.metrics
  if ← services.barsHidden then
    let frame ← services.visibleFrame
    pure (Display.Geometry.ofSize profile metrics frame.right frame.bottom)
  else
    pure (Display.Geometry.ofSize profile metrics metrics.width metrics.height)

/-- Requests the orientation that the auto-rotate setting calls for, if the current one does not fit it. A
setting that is not set counts as off. -/
def followAutoRotate : Ask δ (Option Orientation) := do
  let setting ← services.autoRotate
  let current ← services.requestedOrientation
  match Orientation.target (setting.getD false) current with
  | none => pure none
  | some wanted =>
    Ask.report .autoRotateChanged
    services.requestOrientation wanted
    pure (some wanted)

/-- Hides the keyboard and shows it again. -/
def cycleKeyboard : Ask δ Unit := do
  Ask.report .keyboardCycled
  services.hideKeyboard
  services.showKeyboard

/-- Shows a dialog: with the modern presenter, and where that fails with the legacy one. -/
def showDialog (handle : Dialog.Handle) (view : Dialog.View) : Ask δ (Except PresenterFailure Unit) := do
  match ← services.present handle view with
  | .ok () => pure (.ok ())
  | .error failure =>
    Ask.report (.presentationFallback failure)
    services.presentLegacy handle view

end Services

end EngineHost
