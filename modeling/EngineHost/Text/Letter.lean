/-
**Letters and numbers.**

* `isLetter`: the Unicode property Alphabetic;
* `isWordChar`: letters, and the characters of a category of numbers.
-/

import EngineHost.Text.LetterTable
import EngineHost.Text.Range

namespace EngineHost.Text

/-- Whether a character has the Unicode property Alphabetic. -/
def isLetter (c : Char) : Bool := covers LetterTable.alphabetic c.toNat

/-- Whether a character is a letter or of a category of numbers. -/
def isWordChar (c : Char) : Bool := isLetter c || covers LetterTable.numeric c.toNat

end EngineHost.Text
