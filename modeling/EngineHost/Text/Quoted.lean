/-
**Texts and characters in quotes, with escapes for what cannot be seen.**

* `quoted`: a text between double quotes; `quotedChar`: a character between single quotes.

NUL, tab, line feed, carriage return, backslash and the quote have escapes of two characters. What shows nothing
of its own is shown by its code point: unprintable characters, the fillers of Hangul, and attaching marks.
-/

import EngineHost.Text.PrintTable
import EngineHost.Text.Range

namespace EngineHost.Text

/-- The escape by code point: lower-case hexadecimal digits in braces. -/
def codePointEscape (c : Char) : List Char :=
  ['\\', 'u', '\x7b'] ++ Nat.toDigits 16 c.toNat ++ ['\x7d']

/-- The fillers of Hangul: letters that show nothing. -/
def fillers : List (Nat × Nat) := [(0x115F, 0x1160), (0x3164, 0x3164), (0xFFA0, 0xFFA0)]

/-- The halfwidth voicing marks of Katakana, which extend the character before them in a cell of their own. -/
def voicingMarks : List (Nat × Nat) := [(0xFF9E, 0xFF9F)]

/-- Whether a character attaches to the one before it and has no room of its own. -/
def attaches (c : Char) : Bool :=
  covers PrintTable.extending c.toNat && !covers voicingMarks c.toNat

/-- Whether a character shows nothing of its own. -/
def isHidden (c : Char) : Bool :=
  attaches c || covers PrintTable.unprintable c.toNat || covers fillers c.toNat

/-- How one character is shown between quotes of a kind. -/
def escaped (quote c : Char) : List Char :=
  if c = '\x00' then ['\\', '0']
  else if c = '\t' then ['\\', 't']
  else if c = '\n' then ['\\', 'n']
  else if c = '\r' then ['\\', 'r']
  else if c = '\\' then ['\\', '\\']
  else if c = quote then ['\\', quote]
  else if isHidden c then codePointEscape c
  else [c]

/-- A text between double quotes. -/
def quoted (text : String) : String :=
  String.ofList (['"'] ++ text.toList.flatMap (escaped '"') ++ ['"'])

/-- A character between single quotes. -/
def quotedChar (c : Char) : String := String.ofList (['\''] ++ escaped '\'' c ++ ['\''])

end EngineHost.Text
