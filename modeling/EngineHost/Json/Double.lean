/-
**Doubles from decimal digits.**

* `fit`: the leading digits of a number that 64 bits hold;
* `double`: the double that a decimal number is read as.

A number is rounded twice, once as its leading digits become a double and once as a power of ten scales them. Up to
53 bits of digits and 22 places the first step or the power is exact, and the double is the nearest one.
-/

namespace EngineHost.Json

/-- The greatest exponent of a power of ten that is a double. -/
def greatestExponent : Nat := 308

/-- The double nearest to a power of ten. -/
def powerOfTen (exponent : Nat) : Float := Float.ofScientific 1 false exponent

/-- The leading digits of a number that 64 bits hold; each digit left out raises the power of ten. -/
def fit (digits : Nat) (exponent : Int) : Nat × Int :=
  if digits < UInt64.size then (digits, exponent) else fit (digits / 10) (exponent + 1)
termination_by digits
decreasing_by simp only [UInt64.size] at *; omega

/-- A double divided by a power of ten, in steps of the greatest one that there is. -/
def divided (size : Float) (exponent : Nat) : Float :=
  if exponent ≤ greatestExponent then size / powerOfTen exponent
  else divided (size / powerOfTen greatestExponent) (exponent - greatestExponent)
termination_by exponent
decreasing_by simp only [greatestExponent] at *; omega

/-- A double times a power of ten; zero stays zero. -/
def scaled (size : Float) (exponent : Int) : Float :=
  if size == 0 then size
  else if exponent < 0 then divided size exponent.natAbs
  else size * powerOfTen exponent.natAbs

/-- The double that a decimal number is read as. -/
def double (negative : Bool) (digits : Nat) (exponent : Int) : Float :=
  let (digits, exponent) := fit digits exponent
  let size := scaled digits.toUInt64.toFloat exponent
  if negative then -size else size

end EngineHost.Json
