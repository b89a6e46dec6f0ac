/-
**Actions on a Java machine that stop at the first failure.**

* `Java.Error`: why an action failed, with `Java.Error.message`;
* `Java.Action`: an action, which ends with a value or with a failure;
* `Java.Action.onActivity`: an action on the activity, on an attached thread;
* `Java.Action.request`: one request; an exception is printed and taken back before the action stops.
-/

import EngineHost.Java.Machine

namespace EngineHost.Java

/-- Why an action failed. -/
inductive Error
  | exception
  | callFailed
  /-- The machine gave no pointer for this. -/
  | nullPointer (place : String)
  /-- A method gave null in place of an object. -/
  | nullFrom (method : String)
deriving DecidableEq, Repr

/-- The text of a failure. -/
def Error.message : Error → String
  | .exception => "JNI error: Java exception was thrown"
  | .callFailed => "JNI error: JNI call failed"
  | .nullPointer place => "JNI error: Null pointer in " ++ place
  | .nullFrom method => "Java returned null for " ++ method

/-- An action on a machine with states `σ`. -/
def Action (σ α : Type) : Type := World σ → Except Error α × World σ

namespace Action

variable {σ α β : Type}

/-- The action that does nothing. -/
def done (value : α) : Action σ α := fun world => (.ok value, world)

/-- The action that fails. -/
def fail (error : Error) : Action σ α := fun world => (.error error, world)

/-- An action, and another one if the first succeeds. -/
def andThen (first : Action σ α) (next : α → Action σ β) : Action σ β := fun world =>
  match first world with
  | (.ok value, world) => next value world
  | (.error error, world) => (.error error, world)

instance : Monad (Action σ) where
  pure := done
  bind := andThen

@[simp] theorem pure_apply (value : α) (world : World σ) :
    (pure value : Action σ α) world = (.ok value, world) := rfl

@[simp] theorem bind_apply (first : Action σ α) (next : α → Action σ β) (world : World σ) :
    (first >>= next) world =
      match first world with
      | (.ok value, world) => next value world
      | (.error error, world) => (.error error, world) := rfl

variable (machine : Machine σ)

/-- Makes one request; an exception ends the action after it was printed and taken back. -/
def request (request : Request) : Action σ Value := fun world =>
  match world.make machine request with
  | (.returned value, world) => (.ok value, world)
  | (.thrown, world) => (.error .exception, world.recover machine)

/-- Refuses null. -/
def notNull (error : Error) (value : Value) : Action σ Value :=
  if value = .null then fail error else pure value

/-- Calls a method. -/
def call (object : Value) (method signature : String) (args : List Value) : Action σ Value := do
  let _ ← request machine (.findMember method)
  request machine (.call object method signature args)

/-- Calls a method that gives an object. -/
def callForObject (object : Value) (method signature : String) (args : List Value) : Action σ Value := do
  let value ← call machine object method signature args
  notNull (.nullFrom method) value

/-- Calls a method of a class. -/
def callStatic (owner : Value) (method signature : String) (args : List Value) : Action σ Value := do
  let _ ← request machine (.findMember method)
  request machine (.callStatic owner method signature args)

/-- A class by its name. -/
def classNamed (name : String) : Action σ Value := do
  let _ ← request machine (.findClass name)
  pure (.object name)

/-- Reads a field of an object. -/
def field (object : Value) (name type : String) : Action σ Value := do
  let _ ← request machine (.findMember name)
  request machine (.field object name type)

/-- Reads a field of a class that is given by name. -/
def staticField (className name type : String) : Action σ Value := do
  let owner ← classNamed machine className
  let _ ← request machine (.findMember name)
  request machine (.staticField owner name type)

/-- Makes an object of a class that is given by name. -/
def construct (className signature : String) (args : List Value) : Action σ Value := do
  let owner ← classNamed machine className
  let _ ← request machine (.findMember "<init>")
  let value ← request machine (.construct owner signature args)
  notNull (.nullPointer "NewObjectA result") value

/-- Makes a Java string. -/
def makeString (text : String) : Action σ Value := do
  let value ← request machine (.makeString text)
  notNull (.nullPointer "NewStringUTF result") value

/-- Reads the text of a Java string. -/
def readString (string : Value) : Action σ String := do
  let _ ← classNamed machine "java/lang/String"
  let value ← request machine (.readString string)
  let text ← notNull (.nullPointer "GetStringUTFChars result") value
  pure text.toText

/-- Reads the text of a field of a class; null is the empty text. -/
def staticText (className name : String) : Action σ String := do
  let value ← staticField machine className name "Ljava/lang/String;"
  if value = .null then pure "" else readString machine value

/-- Runs an action on a thread that is attached for its time. -/
def attached (action : Action σ α) : Action σ α := fun world =>
  match world.make machine .attach with
  | (.returned (.int 0), world) =>
    let (result, world) := action world
    (result, (world.make machine .detach).2)
  | (_, world) => (.error .callFailed, (world.make machine .detach).2)

/-- The activity of the application. -/
def activity : Value := .object "activity"

/-- Runs an action on the activity. A thread that is not attached is attached for the time of the action. -/
def onActivity (action : Value → Action σ α) : Action σ α := fun world =>
  if machine.reachable world.side then
    if machine.attached world.side then action activity world
    else attached machine (action activity) world
  else (.error (.nullPointer "from_raw ptr argument"), world)

end Action

end EngineHost.Java
