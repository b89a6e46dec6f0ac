/-
**Cutting a text in front of a limit, from the limit backwards.**

* `isBoundary`: whether an offset in UTF-8 bytes lies between two characters, or at an end of the text;
* `backToBoundary`: the nearest such offset at or before another one, found by going back byte by byte;
* `before`: the part of a text in front of an offset, which panics beyond the text and inside a character;
* `cutToFit`: a text that is too long, cut at the nearest boundary in front of its limit;
* `isBoundary_iff`, `before_utf8Length`: boundaries are the lengths of the beginnings of a text, and none of them
  panics.
-/

import EngineHost.Text.Slice

namespace EngineHost.Text

/-- Whether an offset lies at an end of a text or between two of its characters. -/
def isBoundary (offset : Nat) : List Char → Bool
  | [] => offset == 0
  | c :: rest => offset == 0 || (c.utf8Size ≤ offset && isBoundary (offset - c.utf8Size) rest)

/-- The nearest boundary at or before an offset. One byte before the beginning is an overflow. -/
def backToBoundary (text : List Char) : Nat → Except Panic Nat
  | 0 => if isBoundary 0 text then .ok 0 else .error (.overflow .subtraction)
  | offset + 1 =>
    if isBoundary (offset + 1) text then .ok (offset + 1) else backToBoundary text offset

/-- The part of a text in front of an offset. -/
def before (text : List Char) (stop : Nat) : Except Panic (List Char) :=
  if utf8Length text < stop then .error (.beyondText stop (utf8Length text)) else slice text 0 stop

/-- A text that takes at most `limit` bytes as it is, and a longer one up to the nearest boundary. -/
def cutToFit (limit : Nat) (text : List Char) : Except Panic (List Char) :=
  if utf8Length text ≤ limit then .ok text
  else
    match backToBoundary text limit with
    | .error panic => .error panic
    | .ok stop => before text stop

/-- The boundaries of a text are the lengths of its beginnings. -/
theorem isBoundary_iff {offset : Nat} {text : List Char} :
    isBoundary offset text = true ↔ ∃ front, front <+: text ∧ utf8Length front = offset := by
  induction text generalizing offset with
  | nil =>
    simp only [isBoundary, beq_iff_eq, List.prefix_nil, exists_eq_left, utf8Length_nil]
    exact eq_comm
  | cons c rest ih =>
    simp only [isBoundary, Bool.or_eq_true, Bool.and_eq_true, beq_iff_eq, decide_eq_true_eq, ih]
    constructor
    · rintro (rfl | ⟨fits, front, begins, length⟩)
      · exact ⟨[], List.nil_prefix, rfl⟩
      · refine ⟨c :: front, List.cons_prefix_cons.mpr ⟨rfl, begins⟩, ?_⟩
        rw [utf8Length_cons]
        omega
    · rintro ⟨front, begins, rfl⟩
      cases front with
      | nil => exact Or.inl rfl
      | cons d front =>
        obtain ⟨rfl, tail⟩ := List.cons_prefix_cons.mp begins
        exact Or.inr ⟨Nat.le_add_right _ _, front, tail, (Nat.add_sub_cancel_left _ _).symm⟩

/-- A beginning of a text is the part in front of its own length. -/
theorem before_utf8Length {front text : List Char} (begins : front <+: text) :
    before text (utf8Length front) = .ok front := by
  obtain ⟨back, rfl⟩ := begins
  have inside : ¬ utf8Length (front ++ back) < utf8Length front := by
    rw [utf8Length_append]
    omega
  have whole : splitAtByte 0 0 (front ++ back) = .ok ([], front ++ back) :=
    splitAtByte_utf8Length 0 [] (front ++ back)
  rw [before, if_neg inside, slice, whole]
  simp only [Nat.sub_zero, splitAtByte_utf8Length]

end EngineHost.Text
