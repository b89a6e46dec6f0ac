/-
**Groups: what has been read between parentheses.**

* `Group`: the branches and parts that have been read of a group, or of a whole pattern;
* `Place.readGroup`: reads the beginning of a group, or flags for the rest of the group around them.

Flags hold up to the end of the group that they stand in, through all of its branches behind them.
-/

import EngineHost.Logging.Pattern.Modes
import EngineHost.Text.Letter

namespace EngineHost.Logging.Pattern

/-! ### Groups -/

/-- A part of a pattern: flags, or a piece that may be repeated and lies so deep. -/
inductive Part
  | flags
  | piece (depth : Nat)
deriving DecidableEq, Repr

/-- How deep a part is. -/
def Part.depth : Part → Nat
  | .flags => 0
  | .piece depth => depth

/-- What has been read of a group or of a whole pattern: the modes that hold, how deep the branches before are,
and the parts of this branch. What came last stands first. -/
structure Group where
  modes : Modes := {}
  branches : List Nat := []
  parts : List Part := []
deriving DecidableEq, Repr

/-- How deep the branch is that is being read. -/
def Group.branchDepth (group : Group) : Nat := depthTogether (group.parts.map Part.depth)

/-- How deep the branches of a group are together. -/
def Group.depth (group : Group) : Nat := depthTogether (group.branchDepth :: group.branches)

/-- A group with another part. -/
def Group.add (group : Group) (part : Part) : Group := { group with parts := part :: group.parts }

/-- A group with another branch, which is empty. -/
def Group.divide (group : Group) : Group :=
  { group with branches := group.branchDepth :: group.branches, parts := [] }

/-- Repeats the last part, if it is a piece. -/
def Group.repeatLast (group : Group) : Option Group :=
  match group.parts with
  | .piece depth :: parts => some { group with parts := .piece (depth + 1) :: parts }
  | _ => none

/-- Where a reader stands: the group here, the groups around it, and the names of groups so far. -/
structure Place where
  group : Group := {}
  around : List Group := []
  names : List (List Char) := []
deriving DecidableEq, Repr

/-- The place behind another part. -/
def Place.add (place : Place) (part : Part) : Place := { place with group := place.group.add part }

/-- The place behind the beginning of a group. -/
def Place.enter (place : Place) (modes : Modes) : Place :=
  { place with group := { modes }, around := place.group :: place.around }

/-- The place behind the end of the group, which is a piece of the group around it. -/
def Place.leave (place : Place) : Option Place :=
  match place.around with
  | [] => none
  | outer :: around => some { place with group := outer.add (.piece (place.group.depth + 1)), around }

/-! ### The beginning of a group -/

/-- The flags, by their letters. -/
def flagLetters : List Char := ['-', 'i', 'm', 's', 'U', 'u', 'R', 'x']

/-- Reads flags, each at most once, up to a colon or a closing parenthesis. Those behind a dash are switched off,
and there is at least one behind it. `seen` holds the letters so far, the last one first. -/
def readFlags (modes : Modes) (seen : List Char) : List Char → Option (Modes × List Char × List Char)
  | [] => none
  | c :: rest =>
    if c == ':' || c == ')' then
      if seen.head? = some '-' then none else some (modes, seen, c :: rest)
    else if !flagLetters.contains c || seen.contains c then none
    else readFlags (modes.set c (!seen.contains '-')) (c :: seen) rest

/-- Whether a character may stand in a name behind its first one. -/
def isNameChar (c : Char) : Bool :=
  Text.isWordChar c || c == '_' || c == '.' || c == '[' || c == ']'

/-- Reads the name of a group up to its closing bracket. -/
def readName (text : List Char) : Option (List Char × List Char) :=
  match text.takeWhile (· != '>'), text.dropWhile (· != '>') with
  | first :: name, _ :: rest =>
    if (Text.isLetter first || first == '_') && name.all isNameChar then some (first :: name, rest) else none
  | _, _ => none

/-- Reads the beginning of a group with a name, which no other group has. -/
def Place.readNamed (place : Place) (text : List Char) : Option (Place × List Char) := do
  let (name, rest) ← readName text
  if place.names.contains name then none
  else some ({ place.enter place.group.modes with names := name :: place.names }, rest)

/-- Reads the beginning of a group behind its opening parenthesis, or flags up to the closing one. -/
def Place.readGroup (place : Place) (text : List Char) : Option (Place × List Char) :=
  match place.group.modes.skip text with
  | '?' :: 'P' :: '<' :: rest => place.readNamed rest
  | '?' :: '<' :: rest => place.readNamed rest
  | '?' :: rest => do
    let (modes, seen, rest) ← readFlags place.group.modes [] rest
    match rest with
    | ':' :: rest => some (place.enter modes, rest)
    | ')' :: rest =>
      if seen.isEmpty then none else some ({ place with group := { place.group.add .flags with modes } }, rest)
    | _ => none
  | rest => some (place.enter place.group.modes, rest)

end EngineHost.Logging.Pattern
