/-
**A system that answers as it is told and remembers what it was asked to do.**

* `Scripted.Device`: the answers of the system, and the requests it got;
* `Scripted.services`: its services.
-/

import EngineHost.Services

namespace EngineHost.Scripted

/-- A request that changes something on the system. -/
inductive OsRequest
  | showKeyboard
  | hideKeyboard
  | orientation (wanted : Orientation)
  | present (handle : Dialog.Handle) (view : Dialog.View)
  | presentLegacy (handle : Dialog.Handle) (view : Dialog.View)
deriving DecidableEq, Repr

/-- A scripted system: its answers, and the requests so far. -/
structure Device where
  metrics : Display.Metrics := ⟨1080, 1920, 400.0, 400.0⟩
  barsHidden : Bool := false
  frame : Display.Frame := {}
  autoRotate : Option Bool := none
  orientation : Orientation := .landscape
  /-- Why the modern presenter fails, if it does. -/
  modern : Option PresenterFailure := none
  /-- Why the legacy presenter fails, if it does. -/
  legacy : Option PresenterFailure := none
  requests : List OsRequest := []
deriving DecidableEq, Repr

/-- Remembers a request. -/
def Device.asked (request : OsRequest) : Ask Device Unit :=
  Ask.change fun device => { device with requests := device.requests ++ [request] }

/-- The answer of a presenter that may fail. -/
def Device.presented (failure : Option PresenterFailure) : Except PresenterFailure Unit :=
  match failure with
  | none => .ok ()
  | some error => .error error

/-- The services of a scripted system. -/
def services : Services Device where
  present handle view := do
    Device.asked (.present handle view)
    Ask.look fun device => Device.presented device.modern
  presentLegacy handle view := do
    Device.asked (.presentLegacy handle view)
    Ask.look fun device => Device.presented device.legacy
  showKeyboard := Device.asked .showKeyboard
  hideKeyboard := Device.asked .hideKeyboard
  autoRotate := Ask.look Device.autoRotate
  requestedOrientation := Ask.look Device.orientation
  requestOrientation wanted := do
    Device.asked (.orientation wanted)
    Ask.change fun device => { device with orientation := wanted }
  metrics := Ask.look Device.metrics
  barsHidden := Ask.look Device.barsHidden
  visibleFrame := Ask.look Device.frame

end EngineHost.Scripted
