/-
**Arithmetic on 32-bit integers that panics where the result does not fit.**

* `Checked.ofInt`: the integer as a 32-bit one, if it fits;
* `Checked.add`, `Checked.sub`, `Checked.mul`: the exact result, or a panic that names the operation;
* `Checked.ofInt_of_fits`, `Checked.ofInt_of_beyond`: an exact result is kept if it fits, and refused otherwise.
-/

import EngineHost.Failure

namespace EngineHost.Checked

/-- Whether an integer fits into 32 bits with a sign. -/
def Fits (n : Int) : Prop := Int32.minValue.toInt ≤ n ∧ n ≤ Int32.maxValue.toInt

instance (n : Int) : Decidable (Fits n) := inferInstanceAs (Decidable (_ ∧ _))

/-- An exact result as a 32-bit integer, or the overflow of the operation that gave it. -/
def ofInt (operation : Arithmetic) (n : Int) : Except Panic Int32 :=
  if Fits n then .ok (Int32.ofInt n) else .error (.overflow operation)

def add (a b : Int32) : Except Panic Int32 := ofInt .addition (a.toInt + b.toInt)

def sub (a b : Int32) : Except Panic Int32 := ofInt .subtraction (a.toInt - b.toInt)

def mul (a b : Int32) : Except Panic Int32 := ofInt .multiplication (a.toInt * b.toInt)

theorem fits_toInt (n : Int32) : Fits n.toInt := ⟨n.minValue_le_toInt, n.toInt_le⟩

/-- An integer that fits is kept. -/
theorem ofInt_of_fits (operation : Arithmetic) {n : Int} (fits : Fits n) :
    ∃ result, ofInt operation n = .ok result ∧ result.toInt = n := by
  have small : n < 2 ^ 31 := Int.lt_of_le_of_lt fits.2 (by decide)
  exact ⟨Int32.ofInt n, if_pos fits, Int32.toInt_ofInt_of_le fits.1 small⟩

/-- An integer that does not fit is refused. -/
theorem ofInt_of_beyond (operation : Arithmetic) {n : Int} (beyond : ¬ Fits n) :
    ofInt operation n = .error (.overflow operation) := if_neg beyond

end EngineHost.Checked
