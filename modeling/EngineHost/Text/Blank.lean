/-
**Blank characters at the ends of a text.**

* `isBlank`: the Unicode property White_Space;
* `trimBlank`: the text without the blank characters at both ends;
* `trimBlank_append_blank`, `trimBlank_blank_append`: blank characters added at an end are removed again;
* `trimBlank_map`: the ends may be cut off before or after a change that makes no character blank and none
  visible.
-/

import EngineHost.Text.Range

namespace EngineHost.Text

/-- The ranges of the Unicode property White_Space. -/
def blankRanges : List (Nat × Nat) := [
  (0x9, 0xD), (0x20, 0x20), (0x85, 0x85), (0xA0, 0xA0), (0x1680, 0x1680), (0x2000, 0x200A),
  (0x2028, 0x2029), (0x202F, 0x202F), (0x205F, 0x205F), (0x3000, 0x3000)]

/-- Whether a character has the Unicode property White_Space. -/
def isBlank (c : Char) : Bool := covers blankRanges c.toNat

/-- The text without the blank characters it ends with. -/
def trimBlankEnd (text : List Char) : List Char := (text.reverse.dropWhile isBlank).reverse

/-- The text without the blank characters at both of its ends. -/
def trimBlank (text : List Char) : List Char := trimBlankEnd (text.dropWhile isBlank)

theorem dropWhile_append_all {p : Char → Bool} {head : List Char} (all : ∀ c ∈ head, p c = true)
    (rest : List Char) : (head ++ rest).dropWhile p = rest.dropWhile p := by
  induction head with
  | nil => rfl
  | cons c head ih =>
    rw [List.cons_append, List.dropWhile_cons_of_pos (all c List.mem_cons_self)]
    exact ih fun d member => all d (List.mem_cons_of_mem c member)

/-- Blank characters in front of a text do not change what is left of it. -/
theorem trimBlank_blank_append {blanks : List Char} (blank : ∀ c ∈ blanks, isBlank c = true)
    (text : List Char) : trimBlank (blanks ++ text) = trimBlank text := by
  simp only [trimBlank, dropWhile_append_all blank]

theorem trimBlankEnd_append_blank {blanks : List Char} (blank : ∀ c ∈ blanks, isBlank c = true)
    (text : List Char) : trimBlankEnd (text ++ blanks) = trimBlankEnd text := by
  have reversed : ∀ c ∈ blanks.reverse, isBlank c = true := fun c member =>
    blank c (List.mem_reverse.mp member)
  simp only [trimBlankEnd, List.reverse_append, dropWhile_append_all reversed]

/-- Blank characters behind a text do not change what is left of it. -/
theorem trimBlank_append_blank {blanks : List Char} (blank : ∀ c ∈ blanks, isBlank c = true)
    (text : List Char) : trimBlank (text ++ blanks) = trimBlank text := by
  rw [trimBlank, trimBlank, List.dropWhile_append]
  split
  · rename_i empty
    have gone : blanks.dropWhile isBlank = [] := by
      have := dropWhile_append_all blank []
      simpa using this
    rw [gone, List.isEmpty_iff.mp empty]
  · exact trimBlankEnd_append_blank blank _

/-- A change that makes no character blank and none visible leaves the ends where they are. -/
theorem trimBlank_map {change : Char → Char} (keeps : ∀ c, isBlank (change c) = isBlank c)
    (text : List Char) : trimBlank (text.map change) = (trimBlank text).map change := by
  have same : isBlank ∘ change = isBlank := funext keeps
  simp only [trimBlank, trimBlankEnd, List.dropWhile_map, ← List.map_reverse, same]

end EngineHost.Text
