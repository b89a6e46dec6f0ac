/-
**Patterns: which texts are regular expressions.**

* `Pattern.readPieces`: reads a text to its end;
* `Pattern.isValid`: whether a text is a pattern.

A text is a pattern if its groups are closed, its repetitions have something to repeat, its modes allow what stands
in it, and no part of it lies too deep. Counts in braces are not known.

The reader counts down the fuel it is given; each of its steps reads a character, so that the length of the text is
enough.
-/

import EngineHost.Logging.Pattern.Class
import EngineHost.Logging.Pattern.Group

namespace EngineHost.Logging.Pattern

/-- A text without the question mark it begins with. -/
def dropQuestionMark : List Char → List Char
  | '?' :: rest => rest
  | text => text

/-- Reads what a character stands for that is neither a mark for groups nor for repetitions. -/
def readPiece (modes : Modes) (c : Char) (rest : List Char) : Option (Nat × List Char) :=
  match c with
  | '[' => readClass modes rest
  | '\\' => do
    let (escape, rest) ← Escape.read? modes rest
    if modes.allows escape then some (0, rest) else none
  | '.' => if modes.unicode then some (0, rest) else none
  | '^' | '$' => some (0, rest)
  | '\x7b' => none
  | _ => if modes.allowsLiteral then some (0, rest) else none

/-- Reads one part of a pattern, or a mark between parts. -/
def readPart (place : Place) (c : Char) (rest : List Char) : Option (Place × List Char) :=
  match c with
  | '(' => place.readGroup rest
  | ')' => place.leave.map (·, rest)
  | '|' => some ({ place with group := place.group.divide }, rest)
  | '?' | '*' | '+' =>
    place.group.repeatLast.map fun group => ({ place with group }, dropQuestionMark rest)
  | _ => (readPiece place.group.modes c rest).map fun (depth, rest) => (place.add (.piece depth), rest)

/-- Reads the parts of a pattern up to the end of the text. -/
def readPieces : Nat → Place → List Char → Option Place
  | 0, _, _ => none
  | fuel + 1, place, text =>
    match place.group.modes.skip text with
    | [] => some place
    | c :: rest => do
      let (place, rest) ← readPart place c rest
      readPieces fuel place rest

/-- Whether a text is a pattern. -/
def isValid (text : List Char) : Bool :=
  match readPieces (text.length + 1) {} text with
  | some place => place.around.isEmpty && place.group.depth ≤ depthLimit
  | none => false

end EngineHost.Logging.Pattern
