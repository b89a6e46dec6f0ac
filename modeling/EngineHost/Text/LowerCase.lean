/-
**The full lower case of a text.**

* `lowerChar`: the lower case of a character that has one of a single character;
* `lowerCase`: the lower case of a text. A capital sigma becomes the final form where a word ends with it, the
  dotted capital I becomes an i with a combining dot, and every other character is mapped alone.
-/

import EngineHost.Text.CaseTable
import EngineHost.Text.Range

namespace EngineHost.Text

/-- The property Cased. -/
def isCased (c : Char) : Bool := covers CaseTable.cased c.toNat

/-- The property Case_Ignorable. -/
def isCaseIgnorable (c : Char) : Bool := covers CaseTable.ignorable c.toNat

/-- The lower case of a character that is mapped to one character, and the character itself otherwise. -/
def lowerChar (c : Char) : Char :=
  match CaseTable.lowering.find? (·.contains c.toNat) with
  | some run => Char.ofNat (c.toNat + run.offset).toNat
  | none => c

/-- Whether the next character that is not ignored for case is cased. -/
def meetsCased (text : List Char) : Bool :=
  match text.dropWhile isCaseIgnorable with
  | [] => false
  | c :: _ => isCased c

/-- The lower case of a capital sigma: final after a letter with no letter behind. `before` is read from
the sigma outward. -/
def lowerSigma (before after : List Char) : Char :=
  if meetsCased before && !meetsCased after then 'ς' else 'σ'

/-- The lower case of one character between what stands before it, read outward, and behind it. -/
def lowerAt (before : List Char) (c : Char) (after : List Char) : List Char :=
  if c = 'Σ' then [lowerSigma before after]
  else if c = 'İ' then ['i', '\u0307']
  else [lowerChar c]

/-- The lower case of the rest of a text, given what stands before it, read outward. -/
def lowerFrom (before : List Char) : List Char → List Char
  | [] => []
  | c :: after => lowerAt before c after ++ lowerFrom (c :: before) after

/-- The full lower case of a text. -/
def lowerCase (text : List Char) : List Char := lowerFrom [] text

end EngineHost.Text
