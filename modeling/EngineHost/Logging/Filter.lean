/-
**Which notices a reader sees.**

* `Logging.Filter.read`: the filter that a text describes;
* `Logging.Filter.installed`: the filter that is in force for a value of the environment;
* `Logging.Filter.enables`: whether a level of a target is enabled, before any notice with its fields is at hand.
-/

import EngineHost.Logging.Directive

namespace EngineHost.Logging

namespace Directive

/-- Whether a directive speaks of spans only: of those of a name, or of those where a field has a value. -/
def isForSpans (directive : Directive) : Bool :=
  directive.span.isSome || directive.field.any (·.value.isSome)

/-- Whether a directive speaks about a target outside of spans. A field without a value asks for nothing here. -/
def covers (target : String) (directive : Directive) : Bool :=
  !directive.isForSpans &&
  match directive.target with
  | none => true
  | some begin => begin.toList.isPrefixOf target.toList

/-- How closely a directive speaks about the targets it covers. -/
def closeness (directive : Directive) : Nat :=
  match directive.target with
  | none => 0
  | some begin => begin.utf8ByteSize + 1

/-- Whether a field counts at least as much as another: any field more than none, and a later name more than an
earlier one. -/
def fieldAtLeast (field other : Option Field) : Bool :=
  match other, field with
  | none, _ => true
  | some _, none => false
  | some other, some field => other.name ≤ field.name

/-- Whether a directive comes before another that covers the same target: the closer one, of two that are equally
close the one whose field counts more. -/
def precedes (directive other : Directive) : Bool :=
  other.closeness < directive.closeness ||
  (other.closeness == directive.closeness && fieldAtLeast directive.field other.field)

end Directive

/-- The directives of a filter. -/
abbrev Filter := List Directive

namespace Filter

/-- The parts of a text between separators. -/
def splitOn (separator : Char) : List Char → List (List Char)
  | [] => [[]]
  | c :: rest =>
    match splitOn separator rest with
    | [] => [[c]]
    | part :: parts => if c = separator then [] :: part :: parts else (c :: part) :: parts

/-- The filter of a text: directives between commas, up to the first that cannot be read. -/
def read (text : String) : Except Unreadable Filter :=
  ((splitOn ',' text.toList).filter fun part => !part.isEmpty).mapM Directive.read

/-- The filter of a host that is told nothing: errors, and what the host itself reports to the level info. -/
def standard : Filter := [{ level := some .error }, { target := some "april_bridge", level := some .info }]

/-- The filter in force for a value of the environment: the standard one if there is none or it is malformed. -/
def installed : Option String → Except Panic Filter
  | none => .ok standard
  | some text =>
    match read text with
    | .ok filter => .ok filter
    | .error .malformed => .ok standard
    | .error (.panicked panic) => .error panic

/-- The first of the directives in their order of precedence, the later one of two that are equal in it. -/
def first? (directives : List Directive) : Option Directive :=
  directives.foldl
    (fun best directive =>
      match best with
      | none => some directive
      | some other => if directive.precedes other then some directive else some other)
    none

/-- Whether a level of a target is enabled. -/
def enables (filter : Filter) (target : String) (level : Level) : Bool :=
  match (first? (filter.filter (Directive.covers target))).bind Directive.level with
  | some reader => reader.shows level
  | none => false

end Filter

end EngineHost.Logging
