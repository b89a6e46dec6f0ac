/-
**The services of an Android system, reached through Java.**

* `Android.identity`: what the system says of the device;
* `Android.services`: the services. A failure is reported and answered with a value that says nothing: metrics
  and frames of zeros, bars that are shown, a setting that is not set, an unspecified orientation;
* `Android.finishActivity`: the end of the activity.
-/

import EngineHost.Java.Action
import EngineHost.Services

namespace EngineHost.Android

open Java (Action Machine Value World)

variable {σ α : Type} (machine : Machine σ)

/-! ### Small actions -/

/-- The system version as a number of its own; there is none below zero. -/
def sdkVersion (code : Int32) : UInt32 := code.toInt.toNat.toUInt32

/-- What the system says of the device. -/
def identity : Action σ Device.Identity :=
  Action.onActivity machine fun _ => do
    let sdk ← Action.staticField machine "android/os/Build$VERSION" "SDK_INT" "I"
    let manufacturer ← Action.staticText machine "android/os/Build" "MANUFACTURER"
    let model ← Action.staticText machine "android/os/Build" "MODEL"
    let board ← Action.staticText machine "android/os/Build" "BOARD"
    pure { manufacturer, model, board, sdk := sdkVersion sdk.toInt }

/-- The view that holds all others. -/
def decorView (activity : Value) : Action σ Value := do
  let window ← Action.callForObject machine activity "getWindow" "()Landroid/view/Window;" []
  Action.callForObject machine window "getDecorView" "()Landroid/view/View;" []

/-- The service that shows and hides the keyboard. -/
def inputMethodManager (activity : Value) : Action σ Value := do
  let service ← Action.staticField machine "android/content/Context" "INPUT_METHOD_SERVICE"
    "Ljava/lang/String;"
  Action.callForObject machine activity "getSystemService" "(Ljava/lang/String;)Ljava/lang/Object;" [service]

/-- An integer field. -/
def fieldAsInt (object : Value) (name : String) : Action σ Int32 := do
  let value ← Action.field machine object name "I"
  pure value.toInt

/-- A field with a number. -/
def fieldAsFloat (object : Value) (name : String) : Action σ Float32 := do
  let value ← Action.field machine object name "F"
  pure value.toFloat

/-- A class loaded by the activity. -/
def classOfApp (activity : Value) (name : String) : Action σ Value := do
  let loader ← Action.callForObject machine activity "getClassLoader" "()Ljava/lang/ClassLoader;" []
  let name ← Action.makeString machine name
  Action.callForObject machine loader "loadClass" "(Ljava/lang/String;)Ljava/lang/Class;" [name]

/-- Makes a Java string of each text. -/
def makeStrings : List String → Action σ (List Value)
  | [] => pure []
  | text :: rest => do
    let string ← Action.makeString machine text
    let strings ← makeStrings rest
    pure (string :: strings)

/-! ### The keyboard -/

/-- Shows the keyboard. -/
def raiseKeyboard : Action σ Bool :=
  Action.onActivity machine fun activity => do
    let manager ← inputMethodManager machine activity
    let view ← decorView machine activity
    let shown ← Action.call machine manager "showSoftInput" "(Landroid/view/View;I)Z" [view, .int 0]
    pure shown.toBool

/-- Hides the keyboard. -/
def lowerKeyboard : Action σ Bool :=
  Action.onActivity machine fun activity => do
    let manager ← inputMethodManager machine activity
    let view ← decorView machine activity
    let token ← Action.callForObject machine view "getWindowToken" "()Landroid/os/IBinder;" []
    let hidden ← Action.call machine manager "hideSoftInputFromWindow" "(Landroid/os/IBinder;I)Z"
      [token, .int 0]
    pure hidden.toBool

/-! ### The display -/

/-- The whole display. -/
def readMetrics : Action σ Display.Metrics :=
  Action.onActivity machine fun activity => do
    let resources ← Action.callForObject machine activity "getResources"
      "()Landroid/content/res/Resources;" []
    let metrics ← Action.callForObject machine resources "getDisplayMetrics"
      "()Landroid/util/DisplayMetrics;" []
    let width ← fieldAsInt machine metrics "widthPixels"
    let height ← fieldAsInt machine metrics "heightPixels"
    let xdpi ← fieldAsFloat machine metrics "xdpi"
    let ydpi ← fieldAsFloat machine metrics "ydpi"
    pure { width, height, xdpi, ydpi }

/-- The flag of hidden navigation bars. -/
def hideNavigation : Int32 := 2

/-- The flags of the bars. -/
def readUiVisibility : Action σ Int32 :=
  Action.onActivity machine fun activity => do
    let view ← decorView machine activity
    let flags ← Action.call machine view "getSystemUiVisibility" "()I" []
    pure flags.toInt

/-- The visible part of the display. -/
def readVisibleFrame : Action σ Display.Frame :=
  Action.onActivity machine fun activity => do
    let view ← decorView machine activity
    let rect ← Action.construct machine "android/graphics/Rect" "()V" []
    let _ ← Action.call machine view "getWindowVisibleDisplayFrame" "(Landroid/graphics/Rect;)V" [rect]
    let left ← fieldAsInt machine rect "left"
    let top ← fieldAsInt machine rect "top"
    let right ← fieldAsInt machine rect "right"
    let bottom ← fieldAsInt machine rect "bottom"
    pure { left, top, right, bottom }

/-! ### The orientation -/

/-- The value that stands for a setting that is not set. -/
def unset : Int32 := -1

/-- The stored auto-rotate setting. -/
def readAutoRotate : Action σ Int32 :=
  Action.onActivity machine fun activity => do
    let resolver ← Action.callForObject machine activity "getContentResolver"
      "()Landroid/content/ContentResolver;" []
    let key ← Action.makeString machine "accelerometer_rotation"
    let settings ← Action.classNamed machine "android/provider/Settings$System"
    let value ← Action.callStatic machine settings "getInt"
      "(Landroid/content/ContentResolver;Ljava/lang/String;I)I" [resolver, key, .int unset]
    pure value.toInt

/-- What a stored auto-rotate setting says. -/
def autoRotateSetting (stored : Int32) : Option Bool :=
  if stored = unset then none else some (stored != 0)

/-- The requested orientation. -/
def readOrientation : Action σ Orientation :=
  Action.onActivity machine fun activity => do
    let code ← Action.call machine activity "getRequestedOrientation" "()I" []
    pure (Orientation.ofCode code.toInt)

/-- Requests an orientation. -/
def writeOrientation (wanted : Orientation) : Action σ Unit :=
  Action.onActivity machine fun activity => do
    let _ ← Action.call machine activity "setRequestedOrientation" "(I)V" [.int wanted.code]
    pure ()

/-! ### Dialogs -/

/-- The class that shows dialogs. -/
def dialogClass : String := "com.april.bridge.DialogHost"

/-- The largest number that Java can hold. -/
def longestId : Nat := Int64.maxValue.toNatClampNeg

/-- The number of a dialog as Java gets it. -/
def javaId (handle : Dialog.Handle) : Int := (min handle.id longestId : Nat)

/-- The code of an icon. -/
def iconCode : Dialog.Icon → Int32
  | .none => 0
  | .info => 1
  | .alert => 2

/-- The label of a button; a button that is not there has the empty one. -/
def label (view : Dialog.View) (role : Dialog.Role) : String :=
  ((view.button? role).map Dialog.Button.label).getD ""

/-- The texts of a dialog, in the order in which Java gets them. -/
def texts (view : Dialog.View) : List String :=
  [view.title, view.message, label view .positive, label view .negative, label view .neutral]

/-- The signature of the method that shows a dialog. -/
def showSignature : String :=
  "(Landroid/app/Activity;JLjava/lang/String;Ljava/lang/String;Ljava/lang/String;" ++
    "Ljava/lang/String;Ljava/lang/String;IZ)Z"

/-- Whether the modern presenter is there; the legacy one always is. -/
def supports (owner : Value) (legacy : Bool) : Action σ Bool :=
  if legacy then pure true
  else do
    let supported ← Action.callStatic machine owner "supportsFragments" "()Z" []
    pure supported.toBool

/-- Shows a dialog with one of the presenters; false if the presenter is missing or refuses. -/
def showDialog (handle : Dialog.Handle) (view : Dialog.View) (legacy : Bool) : Action σ Bool :=
  Action.onActivity machine fun activity => do
    let owner ← classOfApp machine activity dialogClass
    if ← supports machine owner legacy then
      let strings ← makeStrings machine (texts view)
      let shown ← Action.callStatic machine owner "show" showSignature
        ([activity, .long (javaId handle)] ++ strings ++ [.int (iconCode view.icon), .bool legacy])
      pure shown.toBool
    else pure false

/-- The answer of a presenter, given what it says when it refuses. -/
def presented (handle : Dialog.Handle) (view : Dialog.View) (legacy : Bool) (refusal : PresenterFailure) :
    Ask (World σ) (Except PresenterFailure Unit) := fun world =>
  match showDialog machine handle view legacy world with
  | (.ok true, world) => ⟨.ok (), world, []⟩
  | (.ok false, world) => ⟨.error refusal, world, []⟩
  | (.error error, world) => ⟨.error (.failed error.message), world, []⟩

/-! ### The services -/

/-- An action as a question: a failure is reported and answered with a value in its place. -/
def orElse (action : Action σ α) (level : Level) (complaint : String) (fallback : α) : Ask (World σ) α :=
  fun world =>
    match action world with
    | (.ok value, world) => ⟨value, world, []⟩
    | (.error error, world) => ⟨fallback, world, [.said level (complaint ++ ": " ++ error.message)]⟩

/-- The services of the system. -/
def services : Services (World σ) where
  present handle view := presented machine handle view false (.unavailable "DialogFragment")
  presentLegacy handle view := presented machine handle view true (.failed "legacy dialog rejected")
  showKeyboard := do
    let _ ← orElse (raiseKeyboard machine) .debug "showSoftInput failed" false
    pure ()
  hideKeyboard := do
    let _ ← orElse (lowerKeyboard machine) .debug "hideSoftInputFromWindow failed" false
    pure ()
  autoRotate := do
    let stored ← orElse (readAutoRotate machine) .debug "failed to read the auto-rotate setting" unset
    pure (autoRotateSetting stored)
  requestedOrientation :=
    orElse (readOrientation machine) .debug "failed to read the requested orientation" .unspecified
  requestOrientation wanted :=
    orElse (writeOrientation machine wanted) .warn "failed to set the requested orientation" ()
  metrics := orElse (readMetrics machine) .warn "failed to read display metrics" {}
  barsHidden := do
    let flags ← orElse (readUiVisibility machine) .debug "failed to read system UI visibility" 0
    pure (flags &&& hideNavigation != 0)
  visibleFrame := orElse (readVisibleFrame machine) .warn "failed to read the visible display frame" {}

/-- Ends the activity. -/
def finishActivity : Ask (World σ) Unit :=
  orElse
    (Action.onActivity machine fun activity => do
      let _ ← Action.call machine activity "finish" "()V" []
      pure ())
    .warn "failed to finish the activity" ()

end EngineHost.Android
