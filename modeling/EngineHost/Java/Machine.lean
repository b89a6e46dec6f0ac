/-
**A Java machine as its caller sees it.**

* `Java.Value`: a value that goes in or comes out; every kind of value has a zero, which null stands for;
* `Java.Request`: one request to the machine, the look-ups included;
* `Java.Machine`: a machine that may answer every request with any value, or throw;
* `Java.World`: the machine, the requests made so far, and whether a thrown exception is pending.
-/

namespace EngineHost.Java

/-- A value of Java. Objects and classes are known by name, and a string is its text. -/
inductive Value
  | null
  | object (name : String)
  | text (value : String)
  | int (value : Int32)
  | long (value : Int)
  | bool (value : Bool)
  | float (value : Float32)
deriving DecidableEq, Repr

namespace Value

/-- The value as an integer. -/
def toInt : Value → Int32
  | .int value => value
  | _ => 0

/-- The value as a truth value. -/
def toBool : Value → Bool
  | .bool value => value
  | _ => false

/-- The value as a number. -/
def toFloat : Value → Float32
  | .float value => value
  | _ => 0.0

/-- The text of a string. -/
def toText : Value → String
  | .text value => value
  | _ => ""

end Value

/-- A request to a Java machine. -/
inductive Request
  | findClass (name : String)
  /-- The look-up of a method or a field. -/
  | findMember (name : String)
  | call (object : Value) (method signature : String) (args : List Value)
  | callStatic (owner : Value) (method signature : String) (args : List Value)
  | construct (owner : Value) (signature : String) (args : List Value)
  | field (object : Value) (name type : String)
  | staticField (owner : Value) (name type : String)
  | makeString (text : String)
  | readString (string : Value)
  | attach
  | detach
  /-- Prints the pending exception. -/
  | describe
  /-- Takes the pending exception back. -/
  | clear
deriving DecidableEq, Repr

/-- How a machine answers a request. -/
inductive Answer
  | returned (value : Value)
  | thrown
deriving DecidableEq, Repr

/-- A Java machine with states `σ`. -/
structure Machine (σ : Type) where
  /-- Whether there is a machine at all. -/
  reachable : σ → Bool
  /-- Whether the calling thread is attached to the machine. -/
  attached : σ → Bool
  answer : Request → σ → Answer × σ

/-- A machine in use. -/
structure World (σ : Type) where
  side : σ
  requests : List Request := []
  pending : Bool := false

namespace World

variable {σ : Type}

/-- Makes a request. A thrown exception is pending from then on. -/
def make (machine : Machine σ) (request : Request) (world : World σ) : Answer × World σ :=
  let (answer, side) := machine.answer request world.side
  (answer, {
    side
    requests := world.requests ++ [request]
    pending := world.pending || answer == .thrown })

/-- Prints the pending exception and takes it back. -/
def recover (machine : Machine σ) (world : World σ) : World σ :=
  let described := (world.make machine .describe).2
  { (described.make machine .clear).2 with pending := false }

end World

end EngineHost.Java
