/-
**A Java machine that answers as it is told.**

* `Scripted.JavaSide`: the values behind the services of the system, and what fails in which way;
* `Scripted.javaMachine`: the machine.
-/

import EngineHost.Java.Machine

namespace EngineHost.Scripted

open Java (Answer Machine Request Value)

/-- How something fails: a call throws, a look-up throws, or null comes back. -/
inductive Fault
  | throws
  | missing
  | null
deriving DecidableEq, Repr

/-- What stands behind the answers of a machine. -/
structure JavaSide where
  manufacturer : Option String := none
  model : Option String := none
  board : Option String := none
  sdk : Int32 := 0
  width : Int32 := 0
  height : Int32 := 0
  xdpi : Float32 := 0.0
  ydpi : Float32 := 0.0
  uiFlags : Int32 := 0
  left : Int32 := 0
  top : Int32 := 0
  right : Int32 := 0
  bottom : Int32 := 0
  autoRotate : Option Int32 := none
  orientation : Int32 := 0
  supportsFragments : Bool := true
  showsModern : Bool := true
  showsLegacy : Bool := true
  vm : Bool := true
  attached : Bool := true
  attachCode : Int32 := 0
  faults : List (String × Fault) := []
deriving DecidableEq, Repr

namespace JavaSide

/-- How something of a name fails, if it does. -/
def fault? (side : JavaSide) (name : String) : Option Fault :=
  (side.faults.find? fun fault => fault.1 == name).map Prod.snd

/-- The answer to a look-up. -/
def found (side : JavaSide) (name : String) : Answer :=
  if side.fault? name = some .missing then .thrown else .returned .null

/-- The answer of something that may throw or give null. -/
def called (side : JavaSide) (name : String) (value : Value) : Answer :=
  match side.fault? name with
  | some .throws => .thrown
  | some .null => .returned .null
  | _ => .returned value

/-- The answer of a field, which gives null but never throws. -/
def held (side : JavaSide) (name : String) (value : Value) : Answer :=
  if side.fault? name = some .null then .returned .null else .returned value

/-- The answer of the characters of a string, which may throw but are never null. -/
def readable (side : JavaSide) (string : Value) : Answer :=
  if side.fault? "GetStringUTFChars" = some .throws then .thrown else .returned string

/-- A text that may be missing. -/
def textOrNull : Option String → Value
  | none => .null
  | some text => .text text

/-- The value of a field. -/
def fieldValue (side : JavaSide) : String → Value
  | "widthPixels" => .int side.width
  | "heightPixels" => .int side.height
  | "xdpi" => .float side.xdpi
  | "ydpi" => .float side.ydpi
  | "left" => .int side.left
  | "top" => .int side.top
  | "right" => .int side.right
  | "bottom" => .int side.bottom
  | "SDK_INT" => .int side.sdk
  | "MANUFACTURER" => textOrNull side.manufacturer
  | "MODEL" => textOrNull side.model
  | "BOARD" => textOrNull side.board
  | "INPUT_METHOD_SERVICE" => .text "input_method"
  | _ => .null

/-- The value that a method gives. -/
def methodValue (side : JavaSide) : String → List Value → Value
  | "getWindow", _ => .object "window"
  | "getDecorView", _ => .object "decorView"
  | "getWindowToken", _ => .object "windowToken"
  | "getSystemService", _ => .object "inputMethodManager"
  | "getResources", _ => .object "resources"
  | "getDisplayMetrics", _ => .object "displayMetrics"
  | "getContentResolver", _ => .object "contentResolver"
  | "getClassLoader", _ => .object "classLoader"
  | "loadClass", [name] => .object name.toText
  | "showSoftInput", _ | "hideSoftInputFromWindow", _ => .bool true
  | "getSystemUiVisibility", _ => .int side.uiFlags
  | "getRequestedOrientation", _ => .int side.orientation
  | "supportsFragments", _ => .bool side.supportsFragments
  | "show", args => .bool (if args.getLast? = some (.bool true) then side.showsLegacy else side.showsModern)
  | "getInt", args => .int (side.autoRotate.getD (args.getLastD .null).toInt)
  | _, _ => .null

/-- The machine after a method that did its work. -/
def afterMethod (side : JavaSide) : String → List Value → JavaSide
  | "setRequestedOrientation", [code] =>
    if (side.fault? "setRequestedOrientation").isNone then { side with orientation := code.toInt } else side
  | _, _ => side

/-- The answer to a request. -/
def answer (request : Request) (side : JavaSide) : Answer × JavaSide :=
  match request with
  | .findClass name | .findMember name => (side.found name, side)
  | .call _ method _ args | .callStatic _ method _ args =>
    (side.called method (side.methodValue method args), side.afterMethod method args)
  | .construct .. => (side.called "<init>" (.object "rect"), side)
  | .field _ name _ | .staticField _ name _ => (side.held name (side.fieldValue name), side)
  | .makeString text => (side.called "NewStringUTF" (.text text), side)
  | .readString string => (side.readable string, side)
  | .attach => (.returned (.int side.attachCode), side)
  | .detach | .describe | .clear => (.returned .null, side)

end JavaSide

/-- The machine that answers from a script. -/
def javaMachine : Machine JavaSide where
  reachable := JavaSide.vm
  attached := JavaSide.attached
  answer := JavaSide.answer

end EngineHost.Scripted
