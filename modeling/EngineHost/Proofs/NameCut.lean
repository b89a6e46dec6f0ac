/-
**A name that is too long keeps as much as fits.**

* `Text.LongestFitting`: a beginning of whole characters that fits, and that no other one exceeds;
* `Text.cutToFit_eq`: the cut from the limit backwards never panics, and gives the longest beginning that fits;
* `Text.LongestFitting.nearly_full`: what is kept of a longer text is at most three bytes short of the limit;
* `longest_name_is_kept`: the cut of any text at any limit, and the names that the system refuses.

The way back ends at the last boundary in front of the limit: there is one at the beginning of the text at the
latest, and no character is longer than four bytes.
-/

import EngineHost.Loop.ThreadName
import Mathlib.Data.List.Infix

namespace EngineHost

namespace Text

/-! ### The bytes of a string -/

/-- A text takes as many bytes as its string. -/
theorem utf8Length_toList (text : String) : utf8Length text.toList = text.utf8ByteSize := by
  have encoded (chars : List Char) : utf8Length chars = (String.ofList chars).utf8ByteSize := by
    induction chars with
    | nil => rfl
    | cons c rest ih =>
      rw [utf8Length_cons, ih, String.ofList_cons, String.utf8ByteSize_append,
        String.utf8ByteSize_singleton]
  rw [encoded, String.ofList_toList]

/-- The boundaries of a text are the valid positions of its string. -/
theorem isBoundary_toList_iff {offset : Nat} {text : String} :
    isBoundary offset text.toList = true ↔ String.Pos.Raw.IsValid text ⟨offset⟩ := by
  rw [isBoundary_iff, String.Pos.Raw.isValid_iff_exists_append]
  constructor
  · rintro ⟨front, ⟨back, whole⟩, rfl⟩
    refine ⟨String.ofList front, String.ofList back, ?_, ?_⟩
    · rw [← String.ofList_append, whole, String.ofList_toList]
    · rw [← String.toList_ofList (l := front), utf8Length_toList, String.ofList_toList]
      rfl
  · rintro ⟨front, back, rfl, its⟩
    refine ⟨front.toList, ⟨back.toList, String.toList_append.symm⟩, ?_⟩
    rw [utf8Length_toList]
    exact (congrArg String.Pos.Raw.byteIdx its).symm

/-! ### The longest beginning that fits -/

/-- A beginning of a text that takes at most `limit` bytes, and that holds every other such beginning. -/
structure LongestFitting (limit : Nat) (text kept : List Char) : Prop where
  begins : kept <+: text
  fits : utf8Length kept ≤ limit
  longest : ∀ front, front <+: text → utf8Length front ≤ limit → front <+: kept

theorem prefix_utf8Prefix {limit : Nat} {front text : List Char} (begins : front <+: text)
    (fits : utf8Length front ≤ limit) : front <+: utf8Prefix limit text := by
  induction text generalizing limit front with
  | nil => exact begins
  | cons c rest ih =>
    cases front with
    | nil => exact List.nil_prefix
    | cons d front =>
      obtain ⟨rfl, tail⟩ := List.cons_prefix_cons.mp begins
      rw [utf8Length_cons] at fits
      rw [utf8Prefix, if_pos (by omega)]
      exact List.cons_prefix_cons.mpr ⟨rfl, ih tail (by omega)⟩

theorem longestFitting_utf8Prefix (limit : Nat) (text : List Char) :
    LongestFitting limit text (utf8Prefix limit text) where
  begins := utf8Prefix_isPrefix limit text
  fits := utf8Length_utf8Prefix_le limit text
  longest _ := prefix_utf8Prefix

namespace LongestFitting

variable {limit : Nat} {text kept : List Char}

/-- A text is kept whole exactly if it fits. -/
theorem eq_text_iff (longest : LongestFitting limit text kept) : kept = text ↔ utf8Length text ≤ limit := by
  constructor
  · rintro rfl
    exact longest.fits
  · intro fits
    have whole := longest.longest text List.prefix_rfl fits
    exact longest.begins.eq_of_length_le whole.length_le

/-- If one byte more would end inside a character, it keeps nothing more. -/
theorem of_succ (longest : LongestFitting (limit + 1) text kept)
    (inside : isBoundary (limit + 1) text = false) : LongestFitting limit text kept where
  begins := longest.begins
  fits := by
    have other : utf8Length kept ≠ limit + 1 := fun full =>
      Bool.eq_false_iff.mp inside (isBoundary_iff.mpr ⟨kept, longest.begins, full⟩)
    have fits := longest.fits
    omega
  longest front begins fits := longest.longest front begins (Nat.le_succ_of_le fits)

/-- No boundary up to the limit lies behind it. -/
theorem le_of_isBoundary (longest : LongestFitting limit text kept) {offset : Nat} (within : offset ≤ limit)
    (boundary : isBoundary offset text = true) : offset ≤ utf8Length kept := by
  obtain ⟨front, begins, rfl⟩ := isBoundary_iff.mp boundary
  exact utf8Length_le_of_isPrefix (longest.longest front begins within)

/-- At a boundary the limit is used up. -/
theorem length_of_isBoundary (longest : LongestFitting limit text kept)
    (boundary : isBoundary limit text = true) : utf8Length kept = limit :=
  Nat.le_antisymm longest.fits (longest.le_of_isBoundary (Nat.le_refl limit) boundary)

/-- What is kept is kept whole by the same limit. -/
theorem again (longest : LongestFitting limit text kept) : LongestFitting limit kept kept where
  begins := List.prefix_rfl
  fits := longest.fits
  longest _ begins _ := begins

/-- What is kept of a text that does not fit is at most three bytes short of the limit: the next character has at
most four. -/
theorem nearly_full (longest : LongestFitting limit text kept) (tooLong : limit < utf8Length text) :
    limit ≤ utf8Length kept + 3 := by
  obtain ⟨rest, rfl⟩ := longest.begins
  cases rest with
  | nil =>
    have fits := longest.fits
    rw [List.append_nil] at tooLong
    omega
  | cons c rest =>
    by_contra short
    have small := c.utf8Size_le_four
    have positive := c.utf8Size_pos
    have next : utf8Length (kept ++ [c]) = utf8Length kept + c.utf8Size := utf8Length_append kept [c]
    have begins : kept ++ [c] <+: kept ++ c :: rest :=
      (List.prefix_append_right_inj kept).mpr (List.prefix_append [c] rest)
    have within := utf8Length_le_of_isPrefix (longest.longest (kept ++ [c]) begins (by omega))
    omega

end LongestFitting

/-! ### The way back from the limit -/

/-- The way back ends behind the longest beginning that fits, at the beginning of the text at the latest. -/
theorem backToBoundary_eq {limit : Nat} {text kept : List Char} (longest : LongestFitting limit text kept) :
    backToBoundary text limit = .ok (utf8Length kept) := by
  -- Along the limit: a byte inside a character may be given up, since nothing that fits ends there.
  induction limit with
  | zero =>
    have boundary : isBoundary 0 text = true := isBoundary_iff.mpr ⟨[], List.nil_prefix, rfl⟩
    rw [backToBoundary, if_pos boundary, longest.length_of_isBoundary boundary]
  | succ limit ih =>
    rw [backToBoundary]
    by_cases boundary : isBoundary (limit + 1) text = true
    · rw [if_pos boundary, longest.length_of_isBoundary boundary]
    · rw [if_neg boundary]
      exact ih (longest.of_succ (Bool.eq_false_iff.mpr boundary))

/-- The cut never panics, and keeps the longest beginning that fits. -/
theorem cutToFit_eq {limit : Nat} {text kept : List Char} (longest : LongestFitting limit text kept) :
    cutToFit limit text = .ok kept := by
  unfold cutToFit
  by_cases fits : utf8Length text ≤ limit
  · rw [if_pos fits, longest.eq_text_iff.mpr fits]
  · rw [if_neg fits, backToBoundary_eq longest]
    exact before_utf8Length longest.begins

end Text

/-! ### Names of threads -/

namespace ThreadName

variable {most : Nat} {name kept : String}

theorem cut_eq (longest : Text.LongestFitting most name.toList kept.toList) : cut most name = .ok kept := by
  rw [cut, Text.cutToFit_eq longest, Except.map, String.ofList_toList]

/-- A name is refused if what is kept of it holds a NUL. -/
theorem shown?_eq (longest : Text.LongestFitting limit name.toList kept.toList) :
    shown? name = if '\x00' ∈ kept.toList then none else some kept := by
  rw [shown?, cut_eq longest, Except.toOption]
  by_cases holdsNul : '\x00' ∈ kept.toList
  · rw [if_pos holdsNul, Option.filter_some_neg (by simp [holdsNul])]
  · rw [if_neg holdsNul, Option.filter_some_pos (by simp [holdsNul])]

/-- What is kept of a name. -/
theorem exists_longestFitting (most : Nat) (name : String) :
    ∃ kept : String, Text.LongestFitting most name.toList kept.toList := by
  refine ⟨String.ofList (Text.utf8Prefix most name.toList), ?_⟩
  rw [String.toList_ofList]
  exact Text.longestFitting_utf8Prefix most name.toList

/-- **Of a name as much is kept as fits.** At any limit and for any name:

* the cut does not panic, and keeps the longest beginning of whole characters that takes at most so many bytes;
  it ends at the last valid position of the name up to the limit;
* the name is kept whole exactly if it fits, and otherwise the cut is at most three bytes short of the limit;
* what was cut is not cut again.

The system refuses a name exactly if there is a NUL in what it would keep of it, wherever else there is one. A
thread keeps the name that it had then, and otherwise has what is kept of the new one. -/
theorem longest_name_is_kept (most : Nat) (name old : String) :
    (∃ kept, cut most name = .ok kept ∧ Text.LongestFitting most name.toList kept.toList ∧
      String.Pos.Raw.IsValid name ⟨kept.utf8ByteSize⟩ ∧
      (∀ offset ≤ most, String.Pos.Raw.IsValid name ⟨offset⟩ → offset ≤ kept.utf8ByteSize) ∧
      (kept = name ↔ name.utf8ByteSize ≤ most) ∧
      (most < name.utf8ByteSize → most ≤ kept.utf8ByteSize + 3) ∧
      cut most kept = .ok kept) ∧
    ∃ kept, cut limit name = .ok kept ∧ (shown? name = none ↔ '\x00' ∈ kept.toList) ∧
      renamed old name = if '\x00' ∈ kept.toList then old else kept := by
  refine ⟨?_, ?_⟩
  · obtain ⟨kept, longest⟩ := exists_longestFitting most name
    refine ⟨kept, cut_eq longest, longest, ?_, ?_, ?_, ?_, cut_eq longest.again⟩
    · rw [← Text.isBoundary_toList_iff, ← Text.utf8Length_toList]
      exact Text.isBoundary_iff.mpr ⟨kept.toList, longest.begins, rfl⟩
    · intro offset within valid
      rw [← Text.utf8Length_toList]
      exact longest.le_of_isBoundary within (Text.isBoundary_toList_iff.mpr valid)
    · rw [← String.toList_inj, ← Text.utf8Length_toList]
      exact longest.eq_text_iff
    · rw [← Text.utf8Length_toList, ← Text.utf8Length_toList]
      exact longest.nearly_full
  · obtain ⟨kept, longest⟩ := exists_longestFitting limit name
    refine ⟨kept, cut_eq longest, ?_, ?_⟩
    · rw [shown?_eq longest]
      split <;> simp [*]
    · rw [renamed, shown?_eq longest]
      split <;> rfl

/-- Nine letters of two bytes each, of which seven fit; a NUL right behind the limit, and one in front of it. -/
theorem accents_keep_fourteen_bytes :
    limit < "ééééééééé".utf8ByteSize ∧ cut limit "ééééééééé" = .ok "ééééééé" ∧
      limit ≤ "ééééééé".utf8ByteSize + 3 ∧ cut limit "ééééééé" = .ok "ééééééé" ∧
      renamed "old" "render-thread-1\x00" = "render-thread-1" ∧ renamed "old" "render\x00thread" = "old" := by
  have tooLong : limit < "ééééééééé".utf8ByteSize := by decide
  obtain ⟨⟨kept, made, -, -, -, -, short, again⟩, -⟩ := longest_name_is_kept limit "ééééééééé" "old"
  have its : cut limit "ééééééééé" = .ok "ééééééé" := by decide
  obtain rfl : kept = "ééééééé" := Except.ok.inj (made.symm.trans its)
  obtain ⟨-, shown, madeShown, -, harmless⟩ := longest_name_is_kept limit "render-thread-1\x00" "old"
  obtain rfl : shown = "render-thread-1" := Except.ok.inj (madeShown.symm.trans (by decide))
  obtain ⟨-, refused, madeRefused, -, stays⟩ := longest_name_is_kept limit "render\x00thread" "old"
  obtain rfl : refused = "render\x00thread" := Except.ok.inj (madeRefused.symm.trans (by decide))
  refine ⟨tooLong, its, short tooLong, again, ?_, ?_⟩
  · rw [harmless, if_neg (by decide)]
  · rw [stays, if_pos (by decide)]

end ThreadName

end EngineHost
