/-
**Input of the user: keys, touches, controllers.**

* `Touch.ofAction`: what a touch action code of the system stands for;
* `UserInput`: one event with its data.
-/

namespace EngineHost

/-- What a finger did. -/
inductive Touch
  | down
  | up
  | move
  | cancel
deriving DecidableEq, Repr

/-- The kind of a touch action code: the second finger has codes of its own, and other codes have none. -/
def Touch.ofAction (code : Int32) : Option Touch :=
  if code = 0 ∨ code = 5 then some .down
  else if code = 1 ∨ code = 6 then some .up
  else if code = 2 then some .move
  else if code = 3 then some .cancel
  else none

/-- The name of a kind of touch. -/
def Touch.name : Touch → String
  | .down => "Down"
  | .up => "Up"
  | .move => "Move"
  | .cancel => "Cancel"

/-- One event of input. -/
inductive UserInput
  | keyDown (key : Int32) (char : UInt32)
  | keyUp (key : Int32)
  | touch (kind : Touch) (x y : Float32) (pointer : Int32)
  | buttonDown (controller button : Int32)
  | buttonUp (controller button : Int32)
  | axis (controller axis : Int32) (value : Float32)
deriving DecidableEq, Repr

end EngineHost
