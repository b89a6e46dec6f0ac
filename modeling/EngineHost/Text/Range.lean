/-
**Sets of characters as closed ranges of code points.**

* `covers`: whether one of the ranges holds a code point.
-/

namespace EngineHost.Text

/-- Whether a code point lies in one of the closed ranges. -/
def covers (ranges : List (Nat × Nat)) (code : Nat) : Bool :=
  ranges.any fun range => range.1 ≤ code && code ≤ range.2

end EngineHost.Text
