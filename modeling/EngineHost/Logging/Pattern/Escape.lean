/-
**Escapes: what a backslash and the characters behind it stand for.**

* `Escape.read?`: a character, a class of characters, or a place in the text;
* `Modes.allows`: whether an escape may be used.

Nothing that needs a table of Unicode is known: neither classes of digits, blanks and words, nor the edges of words.
Without Unicode there are such classes, their complements left out, and such edges.
-/

import EngineHost.Logging.Pattern.Modes
import EngineHost.Text.Hex

namespace EngineHost.Logging.Pattern

/-- What an escape stands for: a character, one by a code of two digits, a class of characters or its complement,
or a place in the text. -/
inductive Escape
  | literal (c : Char)
  | byte (c : Char)
  | charClass (complement : Bool)
  | place (atWordEdge : Bool)
deriving DecidableEq, Repr

/-- Whether an escape may be used. -/
def Modes.allows (modes : Modes) : Escape → Bool
  | .literal _ => modes.allowsLiteral
  | .byte c => modes.allowsByte c
  | .charClass complement => !modes.unicode && !complement
  | .place atWordEdge => !(atWordEdge && modes.unicode)

/-- The character of a code; half a code point is none. -/
def charOfCode? (code : Nat) : Option Char :=
  if code.isValidChar then some (Char.ofNat code) else none

/-- Reads so many hexadecimal digits, behind the number that those before stand for. -/
def readDigits (modes : Modes) (number : Nat) : Nat → List Char → Option (Nat × List Char)
  | 0, text => some (number, text)
  | count + 1, text =>
    match modes.skip text with
    | [] => none
    | c :: rest => do readDigits modes (number * 16 + (← Text.hexDigit? c)) count rest

/-- Reads the code of a character, in so many digits. -/
def readCode (modes : Modes) (count : Nat) (text : List Char) : Option (Char × List Char) := do
  let (code, rest) ← readDigits modes 0 count text
  pure (← charOfCode? code, rest)

/-- Whether a character of ASCII is neither a letter nor a digit. -/
def isMark (c : Char) : Bool := c.toNat < 128 && !c.isAlphanum

/-- What an escape of one character stands for: a class, a place, a control character by its letter, or a mark. -/
def Escape.ofChar? (c : Char) : Option Escape :=
  match c with
  | 'd' | 's' | 'w' => some (.charClass false)
  | 'D' | 'S' | 'W' => some (.charClass true)
  | 'A' | 'z' => some (.place false)
  | 'b' | 'B' | '<' | '>' => some (.place true)
  | 'a' => some (.literal '\x07')
  | 't' => some (.literal '\t')
  | 'n' => some (.literal '\n')
  | 'v' => some (.literal '\x0b')
  | 'f' => some (.literal '\x0c')
  | 'r' => some (.literal '\r')
  | c => if isMark c then some (.literal c) else none

/-- Reads what stands behind a backslash. -/
def Escape.read? (modes : Modes) : List Char → Option (Escape × List Char)
  | [] => none
  | 'x' :: rest => do
    let (c, rest) ← readCode modes 2 rest
    pure (.byte c, rest)
  | 'u' :: rest => do
    let (c, rest) ← readCode modes 4 rest
    pure (.literal c, rest)
  | 'U' :: rest => do
    let (c, rest) ← readCode modes 8 rest
    pure (.literal c, rest)
  | c :: rest => do pure (← Escape.ofChar? c, rest)

end EngineHost.Logging.Pattern
