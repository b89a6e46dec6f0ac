/-
**The size of the display is its longer side and its shorter one.**

* `Display.Reading`, `Services.reading`: what a system says of its display as the geometry is asked for, and the two
  sides of it that count;
* `Display.Geometry.ofSize_eq`: the longer side is the width, and the shorter one is corrected for the device;
* `Display.correctedHeight_of_fits`, `Display.correctedHeight_of_beyond`: a corrected height, or an overflow;
* `Display.Geometry.ofSize_of_within`, `Display.Geometry.ofSize_of_beyond`: the size for two sides, or an overflow;
* `size_of_sides`: the size that a host gives to the engine, and what it depends on.

Only one model corrects its height, and downwards, so that a height overflows at the lower end alone.
-/

import EngineHost.Proofs.DeviceKeys
import EngineHost.Scripted.Device

namespace EngineHost

variable {δ : Type}

namespace Display

/-! ### What a system says of its display -/

/-- What a system says of its display. -/
structure Reading where
  metrics : Metrics
  barsHidden : Bool
  frame : Frame
deriving DecidableEq, Repr

/-- The two sides that count: of the visible frame while the bars are hidden, of the whole display otherwise. -/
def Reading.sides (reading : Reading) : Int32 × Int32 :=
  if reading.barsHidden then (reading.frame.right, reading.frame.bottom)
  else (reading.metrics.width, reading.metrics.height)

theorem Reading.sides_of_hidden {reading : Reading} (hidden : reading.barsHidden = true) :
    reading.sides = (reading.frame.right, reading.frame.bottom) :=
  if_pos hidden

theorem Reading.sides_of_shown {reading : Reading} (shown : reading.barsHidden = false) :
    reading.sides = (reading.metrics.width, reading.metrics.height) :=
  if_neg (Bool.eq_false_iff.mp shown)

/-- The width and the height of a geometry. -/
def Geometry.size (geometry : Geometry) : Int32 × Int32 := (geometry.width, geometry.height)

end Display

/-- What a system says of its display as the geometry is asked for. -/
def Services.reading (services : Services δ) (device : δ) : Display.Reading :=
  let metrics := services.metrics device
  let bars := services.barsHidden metrics.device
  ⟨metrics.answer, bars.answer, (services.visibleFrame bars.device).answer⟩

/-- The geometry is made of the sides that count. -/
theorem geometry_answer (services : Services δ) (profile : Device.Profile) (device : δ) :
    let reading := services.reading device
    (services.geometry profile device).answer =
      Display.Geometry.ofSize profile reading.metrics reading.sides.1 reading.sides.2 := by
  intro reading
  unfold Services.geometry
  rw [Ask.bind_apply, Ask.bind_apply]
  cases hidden : (services.barsHidden (services.metrics device).device).answer with
  | true =>
    rw [if_pos rfl, Display.Reading.sides_of_hidden hidden]
    rfl
  | false =>
    rw [if_neg Bool.false_ne_true, Display.Reading.sides_of_shown hidden]
    rfl

namespace Display

/-! ### Sizes -/

theorem toInt_max (a b : Int32) : (max a b).toInt = max a.toInt b.toInt := by
  simp only [max, Int32.le_iff_toInt_le]
  split <;> rfl

theorem toInt_min (a b : Int32) : (min a b).toInt = min a.toInt b.toInt := by
  simp only [min, Int32.le_iff_toInt_le]
  split <;> rfl

theorem max_comm (a b : Int32) : max a b = max b a :=
  Int32.toInt_inj.mp (by rw [toInt_max, toInt_max, Int.max_comm])

theorem min_comm (a b : Int32) : min a b = min b a :=
  Int32.toInt_inj.mp (by rw [toInt_min, toInt_min, Int.min_comm])

/-- The longer side is the width, and the shorter one is corrected for the device. -/
theorem Geometry.ofSize_eq (profile : Device.Profile) (metrics : Metrics) (a b : Int32) :
    Geometry.ofSize profile metrics a b = (correctedHeight profile (min a b)).map fun height =>
      ⟨max a b, height, density profile metrics⟩ := by
  have turned : (if a < b then (b, a) else (a, b)) = (max a b, min a b) := by
    refine Prod.ext (Int32.toInt_inj.mp ?_) (Int32.toInt_inj.mp ?_)
    · rw [toInt_max]
      split <;> simp only [Int32.lt_iff_toInt_lt] at * <;> omega
    · rw [toInt_min]
      split <;> simp only [Int32.lt_iff_toInt_lt] at * <;> omega
  unfold Geometry.ofSize
  simp only [turned]
  cases correctedHeight profile (min a b) <;> rfl

/-- What a device adds to its height. -/
def addedHeight (profile : Device.Profile) : Int := (profile.heightCorrection.map Int32.toInt).getD 0

/-- A corrected height that fits is what the device makes of the height. -/
theorem correctedHeight_of_fits {profile : Device.Profile} {height : Int32}
    (fits : Checked.Fits (height.toInt + addedHeight profile)) :
    ∃ corrected, correctedHeight profile height = .ok corrected ∧
      corrected.toInt = height.toInt + addedHeight profile := by
  unfold correctedHeight addedHeight at *
  cases correction : profile.heightCorrection with
  | none => exact ⟨height, rfl, (Int.add_zero _).symm⟩
  | some pixels =>
    rw [correction] at fits
    exact Checked.ofInt_of_fits .addition fits

/-- A corrected height that does not fit is an overflow. -/
theorem correctedHeight_of_beyond {profile : Device.Profile} {height : Int32}
    (beyond : ¬ Checked.Fits (height.toInt + addedHeight profile)) :
    correctedHeight profile height = .error (.overflow .addition) := by
  unfold correctedHeight addedHeight at *
  cases correction : profile.heightCorrection with
  | none =>
    rw [correction] at beyond
    exact absurd (Checked.fits_toInt height) ((Int.add_zero height.toInt).symm ▸ beyond)
  | some pixels =>
    rw [correction] at beyond
    exact Checked.ofInt_of_beyond .addition beyond

/-- One model loses twenty pixels, and the others nothing. -/
theorem addedHeight_eq (identity : Device.Identity) :
    addedHeight identity.profile = if identity.IsModel "amazon" "kindle fire" then -20 else 0 := by
  unfold addedHeight
  rw [Device.heightCorrection_eq]
  split <;> rfl

/-- The size of a geometry depends on the two sides alone, and not on which of them lies flat. -/
theorem map_size_ofSize (profile : Device.Profile) (metrics : Metrics) (a b : Int32) :
    (Geometry.ofSize profile metrics a b).map Geometry.size =
      (correctedHeight profile (min a b)).map fun height => (max a b, height) := by
  rw [Geometry.ofSize_eq]
  cases correctedHeight profile (min a b) <;> rfl

/-- The height leaves the range exactly if it is a shorter side close to the lower end that the one model
corrects. -/
theorem fits_corrected_iff (identity : Device.Identity) (height : Int32) :
    Checked.Fits (height.toInt + addedHeight identity.profile) ↔
      ¬ (identity.IsModel "amazon" "kindle fire" ∧ height.toInt < Int32.minValue.toInt + 20) := by
  obtain ⟨low, high⟩ := Checked.fits_toInt height
  rw [addedHeight_eq, Checked.Fits]
  by_cases meant : identity.IsModel "amazon" "kindle fire"
  · rw [if_pos meant]
    simp only [meant, true_and]
    omega
  · rw [if_neg meant]
    simp only [meant, false_and, not_false_eq_true, iff_true]
    omega

/-- On the one model a shorter side close to the lower end is an overflow. -/
theorem Geometry.ofSize_of_beyond {identity : Device.Identity} (metrics : Metrics) {a b : Int32}
    (beyond : identity.IsModel "amazon" "kindle fire" ∧
      min a.toInt b.toInt < Int32.minValue.toInt + 20) :
    Geometry.ofSize identity.profile metrics a b = .error (.overflow .addition) := by
  have leaves : ¬ Checked.Fits ((min a b).toInt + addedHeight identity.profile) := by
    rw [fits_corrected_iff, not_not, toInt_min]
    exact beyond
  rw [Geometry.ofSize_eq, correctedHeight_of_beyond leaves]
  rfl

/-- Every other geometry has the longer side for its width and the shorter one, corrected on the one model, for its
height. -/
theorem Geometry.ofSize_of_within {identity : Device.Identity} (metrics : Metrics) {a b : Int32}
    (within : ¬ (identity.IsModel "amazon" "kindle fire" ∧
      min a.toInt b.toInt < Int32.minValue.toInt + 20)) :
    ∃ geometry, Geometry.ofSize identity.profile metrics a b = .ok geometry ∧
      geometry.width.toInt = max a.toInt b.toInt ∧
      geometry.height.toInt =
        min a.toInt b.toInt + (if identity.IsModel "amazon" "kindle fire" then -20 else 0) ∧
      geometry.height ≤ geometry.width := by
  have stays : Checked.Fits ((min a b).toInt + addedHeight identity.profile) := by
    rw [fits_corrected_iff, toInt_min]
    exact within
  obtain ⟨height, corrected, its⟩ := correctedHeight_of_fits stays
  rw [toInt_min, addedHeight_eq] at its
  rw [Geometry.ofSize_eq, corrected]
  refine ⟨_, rfl, toInt_max a b, its, ?_⟩
  rw [Int32.le_iff_toInt_le, its, toInt_max]
  have ordered : min a.toInt b.toInt ≤ max a.toInt b.toInt := by omega
  split <;> omega

end Display

/-- The size that a host gives to the engine is the same for the same two sides, whichever lies flat. -/
theorem size_of_same_sides {δ' : Type} (services : Services δ) (others : Services δ')
    (profile : Device.Profile) {device : δ} {other : δ'}
    (same : (others.reading other).sides = (services.reading device).sides ∨
      (others.reading other).sides = (services.reading device).sides.swap) :
    (others.geometry profile other).answer.map Display.Geometry.size =
      (services.geometry profile device).answer.map Display.Geometry.size := by
  rw [geometry_answer, geometry_answer, Display.map_size_ofSize, Display.map_size_ofSize]
  rcases same with same | turned
  · rw [same]
  · rw [turned, Prod.fst_swap, Prod.snd_swap, Display.max_comm, Display.min_comm]

/-- **The size of the display is its longer side and its shorter one**, of the visible frame while the bars are
hidden and of the whole display otherwise, on any device and any system:

* one model alone corrects the height, by twenty pixels, and the size overflows exactly if its shorter side is
  within twenty of the lowest number;
* otherwise the width is the longer side, the height is the shorter one, corrected on that model, and the width is
  not less than the height;
* the size is the same on any other system whose two sides are exchanged, that shows its bars and has a display of
  the same size, or that hides its bars and has a visible frame with the same right and lower end. -/
theorem size_of_sides (services : Services δ) (identity : Device.Identity) (device : δ) :
    let reading := services.reading device
    let longer := max reading.sides.1.toInt reading.sides.2.toInt
    let shorter := min reading.sides.1.toInt reading.sides.2.toInt
    let answer := (services.geometry identity.profile device).answer
    (identity.IsModel "amazon" "kindle fire" ∧ shorter < Int32.minValue.toInt + 20 →
      answer = .error (.overflow .addition)) ∧
    (¬ (identity.IsModel "amazon" "kindle fire" ∧ shorter < Int32.minValue.toInt + 20) →
      ∃ geometry, answer = .ok geometry ∧ geometry.width.toInt = longer ∧
        geometry.height.toInt = shorter + (if identity.IsModel "amazon" "kindle fire" then -20 else 0) ∧
        geometry.height ≤ geometry.width) ∧
    ∀ (δ' : Type) (others : Services δ') (other : δ'),
      let seen := others.reading other
      let otherAnswer := (others.geometry identity.profile other).answer
      (seen.sides = reading.sides.swap ∨
          (reading.barsHidden = false ∧ seen.barsHidden = false ∧
            seen.metrics.width = reading.metrics.width ∧ seen.metrics.height = reading.metrics.height) ∨
          (reading.barsHidden = true ∧ seen.barsHidden = true ∧
            seen.frame.right = reading.frame.right ∧ seen.frame.bottom = reading.frame.bottom)) →
        otherAnswer.map Display.Geometry.size = answer.map Display.Geometry.size := by
  intro reading longer shorter answer
  have made : answer = Display.Geometry.ofSize identity.profile reading.metrics reading.sides.1
      reading.sides.2 := geometry_answer services identity.profile device
  refine ⟨fun beyond => ?_, fun within => ?_, ?_⟩
  · rw [made]
    exact Display.Geometry.ofSize_of_beyond reading.metrics beyond
  · rw [made]
    exact Display.Geometry.ofSize_of_within reading.metrics within
  · intro δ' others other seen otherAnswer same
    refine size_of_same_sides services others identity.profile ?_
    rcases same with turned | ⟨shown, alsoShown, width, height⟩ | ⟨hidden, alsoHidden, right, bottom⟩
    · exact Or.inr turned
    · rw [Display.Reading.sides_of_shown shown, ← width, ← height]
      exact Or.inl (Display.Reading.sides_of_shown alsoShown)
    · rw [Display.Reading.sides_of_hidden hidden, ← right, ← bottom]
      exact Or.inl (Display.Reading.sides_of_hidden alsoHidden)

/-- A tablet whose height is corrected. -/
def tablet : Device.Identity := { manufacturer := "Amazon", model := "Kindle Fire" }

/-- A system that holds the tablet upright. -/
def uprightDevice : Scripted.Device := { metrics := ⟨600, 1024, 169.0, 169.0⟩ }

/-- A system with a visible frame of the lowest height that cannot be corrected. -/
def lowestDevice : Scripted.Device :=
  { barsHidden := true, frame := ⟨0, 0, 7, Int32.minValue + 19⟩ }

theorem tablet_sizes :
    tablet.IsModel "amazon" "kindle fire" ∧
      (∃ geometry, (Scripted.services.geometry tablet.profile uprightDevice).answer = .ok geometry ∧
        geometry.width.toInt = 1024 ∧ geometry.height.toInt = 580) ∧
      (Scripted.services.geometry tablet.profile lowestDevice).answer = .error (.overflow .addition) ∧
      (Scripted.services.geometry tablet.profile { metrics := ⟨1024, 600, 169.0, 169.0⟩ }).answer.map
          Display.Geometry.size =
        (Scripted.services.geometry tablet.profile uprightDevice).answer.map Display.Geometry.size := by
  have meant : tablet.IsModel "amazon" "kindle fire" := by decide +kernel
  obtain ⟨-, measured, sameSize⟩ := size_of_sides Scripted.services tablet uprightDevice
  obtain ⟨overflows, -⟩ := size_of_sides Scripted.services tablet lowestDevice
  refine ⟨meant, ?_, overflows ⟨meant, by decide⟩, sameSize _ Scripted.services _ (Or.inl rfl)⟩
  obtain ⟨geometry, made, width, height, -⟩ := measured fun beyond => absurd beyond.2 (by decide)
  rw [if_pos meant] at height
  exact ⟨geometry, made, width, height⟩

end EngineHost
