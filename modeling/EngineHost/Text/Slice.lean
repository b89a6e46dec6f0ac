/-
**Cutting a text at offsets in bytes.**

* `splitAtByte`: the parts of a text before and behind an offset in UTF-8 bytes, unless the offset lies inside a
  character;
* `slice`: the part of a text between two offsets, which panics where one of them lies inside a character;
* `splitAtByte_append`: the two parts make up the text;
* `splitAtByte_utf8Length`: behind a beginning of the text nothing panics.
-/

import EngineHost.Failure

namespace EngineHost.Text

/-- A character that an offset lies in, and the offset of its first byte. -/
structure Inside where
  character : Char
  first : Nat
deriving DecidableEq, Repr

/-- Cuts the rest of a text, which begins at `first`, so many bytes further on. -/
def splitAtByte (first : Nat) : Nat → List Char → Except Inside (List Char × List Char)
  | _, [] => .ok ([], [])
  | offset, c :: rest =>
    if offset = 0 then .ok ([], c :: rest)
    else if c.utf8Size ≤ offset then
      (splitAtByte (first + c.utf8Size) (offset - c.utf8Size) rest).map fun (front, back) =>
        (c :: front, back)
    else .error ⟨c, first⟩

theorem splitAtByte_append {first offset : Nat} {text front back : List Char}
    (cut : splitAtByte first offset text = .ok (front, back)) : front ++ back = text := by
  induction text generalizing first offset front with
  | nil =>
    obtain ⟨rfl, rfl⟩ : front = [] ∧ back = [] := by simpa [splitAtByte, eq_comm] using cut
    rfl
  | cons c rest ih =>
    rw [splitAtByte] at cut
    split at cut
    · obtain ⟨rfl, rfl⟩ : front = [] ∧ back = c :: rest := by simpa [eq_comm] using cut
      rfl
    · split at cut
      · cases tail : splitAtByte (first + c.utf8Size) (offset - c.utf8Size) rest with
        | error inside => rw [tail] at cut; cases cut
        | ok parts =>
          rw [tail] at cut
          cases cut
          exact congrArg (c :: ·) (ih tail)
      · cases cut

/-- A text is cut behind a beginning of it into that beginning and the rest. -/
theorem splitAtByte_utf8Length (first : Nat) (front back : List Char) :
    splitAtByte first (utf8Length front) (front ++ back) = .ok (front, back) := by
  induction front generalizing first with
  | nil => cases back <;> rfl
  | cons c rest ih =>
    have positive := c.utf8Size_pos
    have behind : utf8Length (c :: rest) - c.utf8Size = utf8Length rest := Nat.add_sub_cancel_left _ _
    rw [List.cons_append, splitAtByte, if_neg (by rw [utf8Length_cons]; omega),
      if_pos (by rw [utf8Length_cons]; omega), behind, ih]
    rfl

/-- The part of a text from one offset to another. -/
def slice (text : List Char) (start stop : Nat) : Except Panic (List Char) :=
  match splitAtByte 0 start text with
  | .error inside => .error (.insideCharacter .start start inside.character inside.first)
  | .ok (_, rest) =>
    match splitAtByte start (stop - start) rest with
    | .error inside => .error (.insideCharacter .stop stop inside.character inside.first)
    | .ok (part, _) => .ok part

end EngineHost.Text
