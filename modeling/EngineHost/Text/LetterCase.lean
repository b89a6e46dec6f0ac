/-
**The letters of ASCII have one lower case, however they are written.**

* `apply_toLower`: what is the same for each capital letter of ASCII and its small one does not depend on the case
  of a letter of ASCII;
* `lowerCase_map_toLower`: letters of ASCII may be written small before the lower case of a text is taken. They
  are cased and not ignored for case in either form, so that a sigma beside them stays what it is.
-/

import EngineHost.Text.Blank
import EngineHost.Text.LowerCase

namespace EngineHost.Text

/-- The capital letters of ASCII. -/
def asciiCapitals : List Char := "ABCDEFGHIJKLMNOPQRSTUVWXYZ".toList

/-- A character that has another form in small letters is a capital letter of ASCII. -/
theorem toLower_eq_or (c : Char) : c.toLower = c ∨ c ∈ asciiCapitals := by
  by_cases capital : c.val ≥ 'A'.val ∧ c.val ≤ 'Z'.val
  · have within : ∀ code, code ≤ 90 → 65 ≤ code → Char.ofNat code ∈ asciiCapitals := by decide
    have its := within c.toNat capital.2 capital.1
    rw [Char.ofNat_toNat] at its
    exact Or.inr its
  · exact Or.inl (dif_neg capital)

/-- What is the same for each capital letter of ASCII and its small one is the same for every character and its
small form. -/
theorem apply_toLower {α : Type} (view : Char → α)
    (capitals : (asciiCapitals.map fun c => view c.toLower) = asciiCapitals.map view) (c : Char) :
    view c.toLower = view c := by
  rcases toLower_eq_or c with same | capital
  · rw [same]
  · exact List.map_inj_left.mp capitals c capital

theorem isBlank_toLower (c : Char) : isBlank c.toLower = isBlank c := apply_toLower isBlank (by decide) c

theorem isCased_toLower (c : Char) : isCased c.toLower = isCased c := apply_toLower isCased (by decide) c

theorem isCaseIgnorable_toLower (c : Char) : isCaseIgnorable c.toLower = isCaseIgnorable c :=
  apply_toLower isCaseIgnorable (by decide +kernel) c

theorem lowerChar_toLower (c : Char) : lowerChar c.toLower = lowerChar c :=
  apply_toLower lowerChar (by decide +kernel) c

/-- Neither of two characters beyond ASCII is the small form of another one. -/
theorem toLower_eq_iff {special : Char} (beyond : special = 'Σ' ∨ special = 'İ') (c : Char) :
    c.toLower = special ↔ c = special := by
  have same : decide (c.toLower = special) = decide (c = special) := by
    rcases beyond with rfl | rfl
    · exact apply_toLower (fun c => decide (c = 'Σ')) (by decide) c
    · exact apply_toLower (fun c => decide (c = 'İ')) (by decide) c
  exact decide_eq_decide.mp same

/-- The next letter is cased in either form. -/
theorem meetsCased_map_toLower (text : List Char) :
    meetsCased (text.map Char.toLower) = meetsCased text := by
  have same : isCaseIgnorable ∘ Char.toLower = isCaseIgnorable := funext isCaseIgnorable_toLower
  unfold meetsCased
  rw [List.dropWhile_map, same]
  cases text.dropWhile isCaseIgnorable with
  | nil => rfl
  | cons c after => exact isCased_toLower c

theorem lowerAt_map_toLower (before : List Char) (c : Char) (after : List Char) :
    lowerAt (before.map Char.toLower) c.toLower (after.map Char.toLower) = lowerAt before c after := by
  unfold lowerAt lowerSigma
  simp only [meetsCased_map_toLower, lowerChar_toLower, toLower_eq_iff (Or.inl rfl),
    toLower_eq_iff (Or.inr rfl)]

theorem lowerFrom_map_toLower (before text : List Char) :
    lowerFrom (before.map Char.toLower) (text.map Char.toLower) = lowerFrom before text := by
  induction text generalizing before with
  | nil => rfl
  | cons c after ih =>
    rw [List.map_cons, lowerFrom, lowerFrom, lowerAt_map_toLower, ← List.map_cons, ih]

/-- Letters of ASCII may be written small before the lower case of a text is taken. -/
theorem lowerCase_map_toLower (text : List Char) :
    lowerCase (text.map Char.toLower) = lowerCase text :=
  lowerFrom_map_toLower [] text

end EngineHost.Text
