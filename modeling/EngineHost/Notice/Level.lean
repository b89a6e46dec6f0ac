/-
**How important notices are.**

* `Level`: the levels, from the most important to the least;
* `Level.shows`: which notices a reader of a level sees.
-/

namespace EngineHost

/-- How important a notice is, from the most to the least. -/
inductive Level
  | error
  | warn
  | info
  | debug
  | trace
deriving DecidableEq, Repr

/-- The levels, most important first. -/
def Level.all : List Level := [.error, .warn, .info, .debug, .trace]

/-- The place of a level among the levels. -/
def Level.rank : Level → Nat
  | .error => 1
  | .warn => 2
  | .info => 3
  | .debug => 4
  | .trace => 5

/-- Whether a reader of this level sees notices of the other. -/
def Level.shows (reader level : Level) : Bool := level.rank ≤ reader.rank

/-- The name of a level. -/
def Level.name : Level → String
  | .error => "ERROR"
  | .warn => "WARN"
  | .info => "INFO"
  | .debug => "DEBUG"
  | .trace => "TRACE"

end EngineHost
