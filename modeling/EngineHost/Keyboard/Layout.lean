/-
**The soft keyboard as a layout pass shows it.**

* `Keyboard.Layout.measure`: how much of the root is covered, and whether that counts as a keyboard. The share
  is not cut to the range from zero to one: a visible part taller than the root gives a negative one.
-/

namespace EngineHost.Keyboard

/-- The keyboard as a layout pass shows it. -/
structure Layout where
  visible : Bool
  coveredShare : Float32
deriving DecidableEq, Repr

/-- The share of the root that is covered, and whether it exceeds the threshold. A root without height says
nothing. -/
def Layout.measure (threshold : Float32) (visibleHeight rootHeight : Int32) : Option Layout :=
  if rootHeight ≤ 0 then none
  else
    let coveredShare := 1.0 - visibleHeight.toFloat32 / rootHeight.toFloat32
    some ⟨decide (threshold < coveredShare), coveredShare⟩

end EngineHost.Keyboard
