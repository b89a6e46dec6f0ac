/-
**Cutting a text at a number of UTF-8 bytes.**

* `utf8Length`: the number of bytes a text takes;
* `utf8Prefix`: the longest beginning of whole characters that fits;
* `utf8Prefix_isPrefix`, `utf8Length_utf8Prefix_le`: it is a beginning of the text, and it fits.
-/

namespace EngineHost.Text

/-- The number of bytes of a text in UTF-8. -/
def utf8Length (text : List Char) : Nat := text.foldr (fun c bytes => c.utf8Size + bytes) 0

/-- The longest beginning of a text that takes at most `limit` bytes in UTF-8. -/
def utf8Prefix (limit : Nat) : List Char → List Char
  | [] => []
  | c :: rest => if c.utf8Size ≤ limit then c :: utf8Prefix (limit - c.utf8Size) rest else []

@[simp] theorem utf8Length_nil : utf8Length [] = 0 := rfl

@[simp] theorem utf8Length_cons (c : Char) (rest : List Char) :
    utf8Length (c :: rest) = c.utf8Size + utf8Length rest := rfl

@[simp] theorem utf8Length_append (first second : List Char) :
    utf8Length (first ++ second) = utf8Length first + utf8Length second := by
  induction first with
  | nil => exact (Nat.zero_add _).symm
  | cons c rest ih => rw [List.cons_append, utf8Length_cons, utf8Length_cons, ih, Nat.add_assoc]

/-- A beginning takes no more bytes than the text. -/
theorem utf8Length_le_of_isPrefix {front text : List Char} (begins : front <+: text) :
    utf8Length front ≤ utf8Length text := by
  obtain ⟨rest, rfl⟩ := begins
  rw [utf8Length_append]
  exact Nat.le_add_right _ _

theorem utf8Prefix_isPrefix (limit : Nat) (text : List Char) : utf8Prefix limit text <+: text := by
  induction text generalizing limit with
  | nil => exact List.nil_prefix
  | cons c rest ih =>
    rw [utf8Prefix]
    split
    · exact List.cons_prefix_cons.mpr ⟨rfl, ih _⟩
    · exact List.nil_prefix

theorem utf8Length_utf8Prefix_le (limit : Nat) (text : List Char) :
    utf8Length (utf8Prefix limit text) ≤ limit := by
  induction text generalizing limit with
  | nil => exact Nat.zero_le limit
  | cons c rest ih =>
    rw [utf8Prefix]
    split
    · have := ih (limit - c.utf8Size)
      rw [utf8Length_cons]
      omega
    · exact Nat.zero_le limit

end EngineHost.Text
