/-
**JSON values.**

* `Json`: a value. A number is whole, or a decimal that keeps its digits and its power of ten as they are
  written;
* `Json.field?`: the value under a key of a record, the last one if the key stands twice.
-/

namespace EngineHost

/-- A JSON value. -/
inductive Json
  | null
  | bool (value : Bool)
  | whole (value : Int)
  /-- A number with a sign, the number of its digits, and a power of ten. -/
  | decimal (negative : Bool) (digits : Nat) (exponent : Int)
  | text (value : String)
  | list (items : List Json)
  | record (fields : List (String × Json))

namespace Json

/-- The value under a key of a list of fields, the last one if the key stands twice. -/
def lookUp (key : String) (fields : List (String × Json)) : Option Json :=
  (fields.reverse.find? fun field => field.1 == key).map Prod.snd

/-- The value under a key, if there is one. -/
def field? (key : String) : Json → Option Json
  | .record fields => lookUp key fields
  | _ => none

end Json

end EngineHost
