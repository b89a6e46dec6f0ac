/-
**The modes of a pattern, and the depth of its parts.**

* `Modes.set`: what a flag changes;
* `Modes.skip`: the blanks and comments that a spaced pattern may hold;
* `Modes.allowsLiteral`, `Modes.allowsByte`: which characters may stand for themselves;
* `depthTogether`: how deep lies what stands side by side.

A pattern is case-sensitive and speaks of Unicode characters, unless flags say otherwise. Without Unicode it may
still match nothing but whole characters, so that what reaches beyond ASCII byte by byte is refused.
-/

import EngineHost.Text.Blank

namespace EngineHost.Logging.Pattern

/-- What flags may change: whether case is ignored, whether characters are those of Unicode, and whether blanks and
comments may stand between the parts. -/
structure Modes where
  ignoresCase : Bool := false
  unicode : Bool := true
  spaced : Bool := false
deriving DecidableEq, Repr

/-- Sets a flag; the other ones change only what is matched. -/
def Modes.set (modes : Modes) (letter : Char) (on : Bool) : Modes :=
  if letter = 'i' then { modes with ignoresCase := on }
  else if letter = 'u' then { modes with unicode := on }
  else if letter = 'x' then { modes with spaced := on }
  else modes

/-! ### Blanks and comments -/

/-- Passes over blanks and comments. A comment runs from a number sign through the end of its line. -/
def skipBlanks (inComment : Bool) : List Char → List Char
  | [] => []
  | c :: rest =>
    if inComment then skipBlanks (c != '\n') rest
    else if c == '#' then skipBlanks true rest
    else if Text.isBlank c then skipBlanks false rest
    else c :: rest

/-- Passes over what a pattern may hold between its parts. -/
def Modes.skip (modes : Modes) (text : List Char) : List Char :=
  if modes.spaced then skipBlanks false text else text

/-- The character behind a dash within a class. Blanks are passed over, but of a comment only its sign. -/
def Modes.next? (modes : Modes) (text : List Char) : Option Char :=
  if modes.spaced then
    match text.dropWhile Text.isBlank with
    | '#' :: rest => (rest.dropWhile Text.isBlank).head?
    | rest => rest.head?
  else text.head?

/-! ### Characters -/

/-- Whether a character may stand for itself: to ignore its case would need a table of Unicode. -/
def Modes.allowsLiteral (modes : Modes) : Bool := !(modes.ignoresCase && modes.unicode)

/-- Whether a character may stand where without Unicode a single byte is meant. -/
def Modes.allowsByte (modes : Modes) (c : Char) : Bool :=
  modes.allowsLiteral && (modes.unicode || c.toNat < 128)

/-! ### Depth -/

/-- How deep lies what stands side by side: one part lies as deep as it does alone, several one level more. -/
def depthTogether : List Nat → Nat
  | [] => 0
  | [depth] => depth
  | depths => depths.foldl max 0 + 1

/-- How deep the parts of a pattern may lie. -/
def depthLimit : Nat := 250

end EngineHost.Logging.Pattern
