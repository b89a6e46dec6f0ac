/-
**Classes of characters between brackets.**

* `OpenClass`: what has been read of a class;
* `readClass`: reads a class, classes within it among them, and tells how deep it is.

Members stand side by side; the marks for an intersection, a difference and a symmetric difference have all that
stands before them as their one side and the members up to the next mark or the end as the other. Either side may
be empty. Without Unicode each side is a class of ASCII.

The reader counts down the fuel it is given; each of its steps reads a character, so that the length of the text is
enough.
-/

import EngineHost.Logging.Pattern.Escape

namespace EngineHost.Logging.Pattern

/-! ### Classes with a name -/

/-- The names of the classes of ASCII. -/
def asciiClasses : List String :=
  ["alnum", "alpha", "ascii", "blank", "cntrl", "digit", "graph", "lower", "print", "punct", "space", "upper",
    "word", "xdigit"]

/-- Reads a caret, which asks for the complement, if there is one. -/
def readCaret : List Char → Bool × List Char
  | '^' :: rest => (true, rest)
  | text => (false, text)

/-- Reads the name of a class of ASCII between colons, behind its opening bracket, and whether its complement is
meant. -/
def readAsciiClass? : List Char → Option (Bool × List Char)
  | ':' :: rest =>
    let (complement, rest) := readCaret rest
    match rest.dropWhile (· != ':') with
    | ':' :: ']' :: behind =>
      if asciiClasses.contains (String.ofList (rest.takeWhile (· != ':'))) then some (complement, behind) else none
    | _ => none
  | _ => none

/-- Whether a class may be a complement: without Unicode it would reach beyond ASCII. -/
def Modes.allowsComplement (modes : Modes) (complement : Bool) : Bool := modes.unicode || !complement

/-! ### Members -/

/-- Reads a member of a class: a character, or none for a class of its own. -/
def readMember (modes : Modes) : List Char → Option (Option Char × List Char)
  | [] => none
  | '\\' :: rest => do
    let (escape, rest) ← Escape.read? modes rest
    match escape with
    | .literal c | .byte c => if modes.allowsByte c then some (some c, rest) else none
    | .charClass _ => if modes.allows escape then some (none, rest) else none
    | .place _ => none
  | c :: rest => if modes.allowsByte c then some (some c, rest) else none

/-- Reads a member of a class, or a range between two characters in their order. A dash in front of another one or
of the closing bracket makes no range. -/
def readRange (modes : Modes) (text : List Char) : Option (List Char) := do
  let (first, rest) ← readMember modes text
  match modes.skip rest with
  | '-' :: rest =>
    if modes.next? rest = some ']' ∨ modes.next? rest = some '-' then some ('-' :: rest)
    else
      let (last, rest) ← readMember modes (modes.skip rest)
      match first, last with
      | some first, some last => if first ≤ last then some rest else none
      | _, _ => none
  | rest => some rest

/-! ### Classes -/

/-- What has been read of a class: how deep the side before the last mark is, if there was one, the members behind
it, the last one first, and whether nothing but dashes has been read. -/
structure OpenClass where
  side : Option Nat := none
  members : List Nat := []
  atStart : Bool := true
deriving DecidableEq, Repr

/-- How deep lies what has been read. -/
def OpenClass.depth (part : OpenClass) : Nat :=
  match part.side with
  | none => depthTogether part.members
  | some side => max side (depthTogether part.members) + 1

/-- A class with another member. -/
def OpenClass.add (part : OpenClass) (depth : Nat) : OpenClass :=
  { part with members := depth :: part.members, atStart := false }

/-- A class with all that has been read as the one side of a mark. -/
def OpenClass.divide (part : OpenClass) : OpenClass := { side := some part.depth, atStart := false }

/-- Whether a character stands for itself as it does at the start of a class only: dashes, and a closing bracket
without a dash in front. -/
def OpenClass.startsWith (part : OpenClass) (c : Char) : Bool :=
  part.atStart && (c == '-' || (c == ']' && part.members.isEmpty))

/-- Reads the members of a class up to its end, and those of the classes around it; tells how deep the outermost
one is. -/
def readMembers (modes : Modes) : Nat → OpenClass → List OpenClass → List Char → Option (Nat × List Char)
  | 0, _, _, _ => none
  | fuel + 1, part, around, text =>
    match modes.skip text with
    | [] => none
    | c :: rest =>
      if part.startsWith c then
        if modes.allowsByte c then
          readMembers modes fuel { part.add 0 with atStart := c == '-' } around rest
        else none
      else
        match c, rest with
        | '[', rest =>
          match readAsciiClass? rest with
          | some (complement, rest) =>
            if modes.allowsLiteral && modes.allowsComplement complement then
              readMembers modes fuel (part.add 0) around rest
            else none
          | none =>
            let (complement, rest) := readCaret (modes.skip rest)
            if modes.allowsComplement complement then readMembers modes fuel {} (part :: around) rest else none
        | ']', rest =>
          match around with
          | [] => some (part.depth + 1, rest)
          | outer :: around => readMembers modes fuel (outer.add (part.depth + 1)) around rest
        | '&', '&' :: rest | '-', '-' :: rest | '~', '~' :: rest =>
          readMembers modes fuel part.divide around rest
        | c, rest => do readMembers modes fuel (part.add 0) around (← readRange modes (c :: rest))

/-- Reads a class behind its opening bracket, and tells how deep it is. -/
def readClass (modes : Modes) (text : List Char) : Option (Nat × List Char) :=
  let (complement, rest) := readCaret (modes.skip text)
  if modes.allowsComplement complement then readMembers modes (text.length + 1) {} [] rest else none

end EngineHost.Logging.Pattern
