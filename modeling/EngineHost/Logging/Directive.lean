/-
**The directives of a filter.**

* `Logging.Directive`: a level for a target, or for every target, and what it asks of spans and fields;
* `Logging.level?`: the level that a text stands for;
* `Logging.Directive.read`: the directive that a text describes.

Blanks at the ends of a directive are left out where its parts are looked for, but not where they are cut out:
the cuts count bytes from the very beginning. So a level with a blank at an end is none, a target keeps its blanks,
and behind leading blanks every part is cut out too early.
-/

import EngineHost.Logging.Pattern
import EngineHost.Notice.Level
import EngineHost.Text.Blank
import EngineHost.Text.Decimal
import EngineHost.Text.Slice

namespace EngineHost.Logging

/-- A field: its name, and the pattern of its value if there is one. -/
structure Field where
  name : String
  value : Option String
deriving DecidableEq, Repr

/-- A directive: the least important level to see, none for no level at all, from the targets that begin with
a text, within spans of a name, and with a field. -/
structure Directive where
  target : Option String := none
  span : Option String := none
  field : Option Field := none
  level : Option Level
deriving DecidableEq, Repr

/-- Why a text describes no directive. -/
inductive Unreadable
  | malformed
  /-- The text was cut inside a character. -/
  | panicked (panic : Panic)
deriving DecidableEq, Repr

/-! ### Levels and fields -/

/-- A letter in lower case; the names of levels are ASCII. -/
def lowerAscii (text : List Char) : String := String.ofList (text.map Char.toLower)

/-- The level of a number, and none at all for zero. -/
def levelOfNumber? : Nat → Option (Option Level)
  | 0 => some none
  | number + 1 => (Level.all[number]?).map some

/-- The level of a name, in any case. -/
def levelOfName? (text : List Char) : Option (Option Level) :=
  match lowerAscii text with
  | "off" => some none
  | "error" => some (some .error)
  | "warn" => some (some .warn)
  | "info" => some (some .info)
  | "debug" => some (some .debug)
  | "trace" => some (some .trace)
  | _ => none

/-- The level that a text stands for, by its name or by its number. -/
def level? (text : List Char) : Option (Option Level) :=
  match Text.number? text with
  | some number => levelOfNumber? number
  | none => levelOfName? text

/-- Whether a text is the value of a number behind a plus. Other numbers are patterns as well. -/
def isPlusNumber : List Char → Bool
  | '+' :: rest => Text.isDecimal rest || ["inf", "infinity", "nan"].contains (lowerAscii rest)
  | _ => false

/-- The field that a text describes: a name, and the pattern or the number behind the first equals sign. -/
def Field.read? (text : List Char) : Option Field :=
  let name := String.ofList (text.takeWhile (· != '='))
  match text.dropWhile (· != '=') with
  | [] => some ⟨name, none⟩
  | _ :: rest =>
    let value := rest.takeWhile (· != '=')
    if isPlusNumber value || Pattern.isValid value then some ⟨name, some (String.ofList value)⟩ else none

namespace Directive

/-! ### Reading -/

/-- Whether a directive may begin with a character, other than with the bracket of a scope. -/
def mayBegin (c : Char) : Bool := Text.isWordChar c || c == '-' || c == ':' || c == '_'

/-- A part of the text of a directive. -/
def cut (text : List Char) (start stop : Nat) : Except Unreadable (List Char) :=
  (Text.slice text start stop).mapError .panicked

/-- What a reader found, or a malformed text. -/
def orMalformed {α : Type} (found : Option α) : Except Unreadable α :=
  match found with
  | some value => .ok value
  | none => .error .malformed

/-- A directive without marks: a level for every target, or a target of which all is seen. -/
def plain (text : List Char) : Directive :=
  match level? text with
  | some level => { level }
  | none => { target := some (String.ofList text), level := some .trace }

/-- The level from an offset on; an empty one shows all. -/
def readLevel (text : List Char) (start : Nat) : Except Unreadable (Option Level) := do
  let level ← cut text start (Text.utf8Length text)
  if level.isEmpty then pure (some .trace) else orMalformed (level? level)

/-- What a scope asks for, where the text goes on behind it, and what stands there. -/
structure Scope where
  span : Option String := none
  field : Option Field := none
  stop : Nat
  rest : List Char

/-- Reads a field up to its closing brace and the bracket that closes the scope behind it. -/
def readField (text : List Char) (span : Option String) (start : Nat) (rest : List Char) :
    Except Unreadable Scope := do
  let stop := start + Text.utf8Length (rest.takeWhile (· != '\x7d'))
  match rest.dropWhile (· != '\x7d') with
  | [] => .error .malformed
  | _ :: rest =>
    let described ← cut text start stop
    if described.isEmpty then .error .malformed
    else
      let field ← orMalformed (Field.read? described)
      match rest with
      | ']' :: rest => pure { span, field := some field, stop := stop + 2, rest }
      | _ => .error .malformed

/-- Whether a character ends the name of a span. -/
def endsSpan (c : Char) : Bool := c == ']' || c == '\x7b'

/-- Reads a scope behind its opening bracket: the name of a span, then a field or none. In front of a field an
empty name is none. -/
def readScope (text : List Char) (start : Nat) (rest : List Char) : Except Unreadable Scope := do
  let stop := start + Text.utf8Length (rest.takeWhile (!endsSpan ·))
  match rest.dropWhile (!endsSpan ·) with
  | [] => .error .malformed
  | mark :: rest =>
    let name ← cut text start stop
    let span := some (String.ofList name)
    if mark = ']' then pure { span, stop := stop + 1, rest }
    else readField text (if name.isEmpty then none else span) (stop + 1) rest

/-- The level behind a scope: all if nothing stands there. -/
def Scope.readLevel (text : List Char) (scope : Scope) : Except Unreadable (Option Level) :=
  match scope.rest with
  | [] => pure (some .trace)
  | '=' :: _ => Directive.readLevel text (scope.stop + 1)
  | _ => .error .malformed

/-- Whether a character ends a target. -/
def endsTarget (c : Char) : Bool := c == '=' || c == '['

/-- The directive that a text describes: a level, a target, a target with a level, or one with a scope. -/
def read (text : List Char) : Except Unreadable Directive := do
  let marked := Text.trimBlank text
  let stop := Text.utf8Length (marked.takeWhile (!endsTarget ·))
  if !marked.head?.any fun first => mayBegin first || first == '[' then .error .malformed
  else
    match marked.dropWhile (!endsTarget ·) with
    | [] => pure (plain text)
    | mark :: rest =>
      let name ← cut text 0 stop
      let target := if stop = 0 then none else some (String.ofList name)
      if mark = '=' then
        pure { target, level := ← readLevel text (stop + 1) }
      else
        let scope ← readScope text (stop + 1) rest
        pure { target, span := scope.span, field := scope.field, level := ← scope.readLevel text }

end Directive

end EngineHost.Logging
